import SecretVault.Proofs.World.Calls

/-!
The books on clients that a log keeps. A client is built once, may then be used, and is closed at
most once, after which nothing goes to it. `Books` says that a log keeps to this and that certain
clients are open; `Complete` says that no others are.
-/

namespace SecretVault

namespace Logged

variable {T : Type}

def builds (e : Logged T) : Option Nat :=
  match e.call with
  | .client _ id _ _ => if e.succeeded then some id else none
  | _ => none

def closes (e : Logged T) : Option Nat :=
  e.call.closing

structure Quiet (e : Logged T) : Prop where
  builds_eq : e.builds = none
  closes_eq : e.closes = none
  user_eq : e.call.user = none

theorem quiet_of_isQuiet {e : Logged T} (h : e.call.isQuiet = true) : e.Quiet := by
  obtain ⟨c, m, b⟩ := e
  cases c <;> simp_all [Call.isQuiet, Call.user] <;> exact ⟨rfl, rfl, rfl⟩

theorem quiet_of_failed {e : Logged T} {session id : Nat} {endpoint : Option Value}
    {limits : Limits T} (h : e.call = .client session id endpoint limits)
    (hfail : e.succeeded = false) : e.Quiet := by
  obtain ⟨c, m, b⟩ := e
  obtain rfl : c = _ := h
  exact ⟨by simp_all [builds], rfl, rfl⟩

theorem not_builds_of_user {e : Logged T} {id : Nat} (h : e.call.user = some id) :
    e.builds = none ∧ e.closes = none := by
  obtain ⟨c, m, b⟩ := e
  cases c <;> simp_all [Call.user, Call.closing, builds, closes]

theorem not_user_of_builds {e : Logged T} {id : Nat} (h : e.builds = some id) :
    e.closes = none ∧ e.call.user = none := by
  obtain ⟨c, m, b⟩ := e
  cases c <;> simp_all [Call.user, Call.closing, builds, closes]

theorem not_user_of_closes {e : Logged T} {id : Nat} (h : e.closes = some id) :
    e.builds = none ∧ e.call.user = none := by
  obtain ⟨c, m, b⟩ := e
  cases c <;> simp_all [Call.user, Call.closing, builds, closes]

end Logged

namespace Log

variable {T : Type} {calls more : List (Logged T)} {e : Logged T} {id : Nat}

def built (calls : List (Logged T)) : List Nat :=
  calls.filterMap Logged.builds

def closed (calls : List (Logged T)) : List Nat :=
  calls.filterMap Logged.closes

def IsOpen (calls : List (Logged T)) (id : Nat) : Prop :=
  id ∈ built calls ∧ id ∉ closed calls

@[simp] theorem built_append : built (calls ++ more) = built calls ++ built more :=
  List.filterMap_append

@[simp] theorem closed_append : closed (calls ++ more) = closed calls ++ closed more :=
  List.filterMap_append

theorem built_snoc (he : e.builds = some id) : built (calls ++ [e]) = built calls ++ [id] := by
  simp [built, he]

theorem built_snoc_none (he : e.builds = none) : built (calls ++ [e]) = built calls := by
  simp [built, he]

theorem closed_snoc (he : e.closes = some id) : closed (calls ++ [e]) = closed calls ++ [id] := by
  simp [closed, he]

theorem closed_snoc_none (he : e.closes = none) : closed (calls ++ [e]) = closed calls := by
  simp [closed, he]

theorem built_quiet (h : ∀ e ∈ more, e.Quiet) : built more = [] :=
  List.filterMap_eq_nil_iff.mpr fun e he => (h e he).builds_eq

theorem closed_quiet (h : ∀ e ∈ more, e.Quiet) : closed more = [] :=
  List.filterMap_eq_nil_iff.mpr fun e he => (h e he).closes_eq

theorem closed_of_map {ids : List Nat} (h : more.map Logged.closes = ids.map some) :
    closed more = ids := by
  calc closed more = (more.map Logged.closes).filterMap id := by
        rw [List.filterMap_map]
        rfl
    _ = (ids.map some).filterMap id := by rw [h]
    _ = ids := by
        rw [List.filterMap_map]
        exact List.filterMap_some

theorem built_of_map {ids : List Nat} (h : more.map Logged.closes = ids.map some) :
    built more = [] := by
  refine List.filterMap_eq_nil_iff.mpr fun e he => ?_
  obtain ⟨id, _, hid⟩ := List.mem_map.mp (h ▸ List.mem_map_of_mem he)
  exact (Logged.not_user_of_closes hid.symm).1

theorem built_of_user {id : Nat} (h : ∀ e ∈ more, e.call.user = some id) : built more = [] :=
  List.filterMap_eq_nil_iff.mpr fun e he => (Logged.not_builds_of_user (h e he)).1

/-! ## Logs that keep to the order -/

/-- Each client is built at most once, and closed or used only while it is open. -/
inductive Proper : List (Logged T) → Prop where
  | nil : Proper []
  | snoc {calls : List (Logged T)} {e : Logged T} (before : Proper calls)
      (builds : ∀ id, e.builds = some id → id ∉ built calls)
      (closes : ∀ id, e.closes = some id → IsOpen calls id)
      (uses : ∀ id, e.call.user = some id → IsOpen calls id) : Proper (calls ++ [e])

theorem nodup_snoc {ids : List Nat} (h : ids.Nodup) (hid : id ∉ ids) : (ids ++ [id]).Nodup := by
  rw [List.nodup_append]
  refine ⟨h, by simp, ?_⟩
  intro a ha b hb hab
  obtain rfl := List.mem_singleton.mp hb
  exact hid (hab ▸ ha)

theorem Proper.built_nodup (h : Proper calls) : (built calls).Nodup := by
  induction h with
  | nil => exact List.nodup_nil
  | @snoc calls e _ builds _ _ ih =>
      cases he : e.builds with
      | none =>
          rw [built_snoc_none he]
          exact ih
      | some id =>
          rw [built_snoc he]
          exact nodup_snoc ih (builds id he)

theorem Proper.closed_nodup (h : Proper calls) : (closed calls).Nodup := by
  induction h with
  | nil => exact List.nodup_nil
  | @snoc calls e _ _ closes _ ih =>
      cases he : e.closes with
      | none =>
          rw [closed_snoc_none he]
          exact ih
      | some id =>
          rw [closed_snoc he]
          exact nodup_snoc ih (closes id he).2

theorem Proper.built_of_closed (h : Proper calls) (hid : id ∈ closed calls) : id ∈ built calls := by
  induction h with
  | nil => cases hid
  | @snoc calls e _ _ closes _ ih =>
      rw [built_append]
      cases he : e.closes with
      | none =>
          rw [closed_snoc_none he] at hid
          exact List.mem_append_left _ (ih hid)
      | some other =>
          rw [closed_snoc he] at hid
          rcases List.mem_append.mp hid with hid | hid
          · exact List.mem_append_left _ (ih hid)
          · obtain rfl := List.mem_singleton.mp hid
            exact List.mem_append_left _ (closes id he).1

/-- Whatever is used has been built before, and has not been closed before. -/
theorem Proper.open_of_user (h : Proper (calls ++ e :: more)) (he : e.call.user = some id) :
    IsOpen calls id := by
  generalize hall : calls ++ e :: more = all at h
  induction h generalizing more with
  | nil => simp at hall
  | @snoc before last _ _ _ uses ih =>
      rcases List.eq_nil_or_concat more with rfl | ⟨rest, final, rfl⟩
      · obtain ⟨rfl, hlast⟩ := List.append_inj' hall rfl
        obtain rfl : e = last := by simpa using hlast
        exact uses id he
      · have hsplit : (calls ++ e :: rest) ++ [final] = before ++ [last] := by
          simpa [List.concat_eq_append] using hall
        exact ih (List.append_inj' hsplit rfl).1

/-! ## Books -/

/-- The log keeps to the order, the clients in the list are open, each of them once, and no client
has a number above the last one given. -/
structure Books (calls : List (Logged T)) (owned : List Nat) (last : Nat) : Prop where
  proper : Proper calls
  owned_open : ∀ id ∈ owned, IsOpen calls id
  owned_nodup : owned.Nodup
  built_le : ∀ id ∈ built calls, id ≤ last

/-- No client is open but those in the list. -/
def Complete (calls : List (Logged T)) (owned : List Nat) : Prop :=
  ∀ id, IsOpen calls id → id ∈ owned

variable {owned rest : List Nat} {last : Nat}

theorem isOpen_quiet (h : ∀ e ∈ more, e.Quiet) : IsOpen (calls ++ more) id ↔ IsOpen calls id := by
  simp [IsOpen, built_quiet h, closed_quiet h]

theorem Proper.quiet (proper : Proper calls) (h : ∀ e ∈ more, e.Quiet) :
    Proper (calls ++ more) := by
  induction more generalizing calls with
  | nil => simpa using proper
  | cons e more ih =>
      obtain ⟨hbuilds, hcloses, huser⟩ := h e List.mem_cons_self
      rw [List.append_cons]
      refine ih (proper.snoc ?_ ?_ ?_) fun e' he' => h e' (List.mem_cons_of_mem e he')
      · simp [hbuilds]
      · simp [hcloses]
      · simp [huser]

namespace Books

theorem quiet (books : Books calls owned last) (h : ∀ e ∈ more, e.Quiet) :
    Books (calls ++ more) owned last where
  proper := books.proper.quiet h
  owned_open id hid := (isOpen_quiet h).mpr (books.owned_open id hid)
  owned_nodup := books.owned_nodup
  built_le id hid := books.built_le id (by simpa [built_quiet h] using hid)

theorem sublist (books : Books calls owned last) (h : rest.Sublist owned) :
    Books calls rest last where
  proper := books.proper
  owned_open id hid := books.owned_open id (h.subset hid)
  owned_nodup := books.owned_nodup.sublist h
  built_le := books.built_le

theorem use (books : Books calls owned last) (hid : id ∈ owned) (he : e.call.user = some id) :
    Books (calls ++ [e]) owned last := by
  obtain ⟨hbuilds, hcloses⟩ := Logged.not_builds_of_user he
  refine ⟨books.proper.snoc ?_ ?_ ?_, ?_, books.owned_nodup, ?_⟩
  · simp [hbuilds]
  · simp [hcloses]
  · intro other hother
    obtain rfl : id = other := by simpa [he] using hother
    exact books.owned_open id hid
  · intro other hother
    rw [IsOpen, built_snoc_none hbuilds, closed_snoc_none hcloses]
    exact books.owned_open other hother
  · rw [built_snoc_none hbuilds]
    exact books.built_le

theorem build (books : Books calls owned last) (he : e.builds = some (last + 1)) :
    Books (calls ++ [e]) (owned ++ [last + 1]) (last + 1) := by
  obtain ⟨hcloses, huser⟩ := Logged.not_user_of_builds he
  -- numbers are given out in ascending order
  have fresh : last + 1 ∉ built calls := by
    intro h
    have := books.built_le _ h
    omega
  refine ⟨books.proper.snoc ?_ ?_ ?_, ?_, ?_, ?_⟩
  · intro id hid
    obtain rfl : last + 1 = id := by simpa [he] using hid
    exact fresh
  · simp [hcloses]
  · simp [huser]
  · intro id hid
    rw [IsOpen, built_snoc he, closed_snoc_none hcloses]
    rcases List.mem_append.mp hid with hid | hid
    · obtain ⟨hb, hc⟩ := books.owned_open id hid
      exact ⟨List.mem_append_left _ hb, hc⟩
    · obtain rfl := List.mem_singleton.mp hid
      exact ⟨by simp, fun h => fresh (books.proper.built_of_closed h)⟩
  · exact nodup_snoc books.owned_nodup fun h => fresh (books.owned_open _ h).1
  · intro id hid
    rw [built_snoc he] at hid
    rcases List.mem_append.mp hid with hid | hid
    · exact Nat.le_succ_of_le (books.built_le id hid)
    · obtain rfl := List.mem_singleton.mp hid
      exact Nat.le_refl _

theorem close (books : Books calls (id :: rest) last) (he : e.closes = some id) :
    Books (calls ++ [e]) rest last := by
  obtain ⟨hbuilds, huser⟩ := Logged.not_user_of_closes he
  obtain ⟨hid, hrest⟩ := List.nodup_cons.mp books.owned_nodup
  refine ⟨books.proper.snoc ?_ ?_ ?_, ?_, hrest, ?_⟩
  · simp [hbuilds]
  · intro other hother
    obtain rfl : id = other := by simpa [he] using hother
    exact books.owned_open id List.mem_cons_self
  · simp [huser]
  · -- no client stands on the list twice, so the others are still open
    intro other hother
    obtain ⟨hb, hc⟩ := books.owned_open other (List.mem_cons_of_mem id hother)
    rw [IsOpen, built_snoc_none hbuilds, closed_snoc he]
    refine ⟨hb, ?_⟩
    intro h
    rcases List.mem_append.mp h with h | h
    · exact hc h
    · obtain rfl := List.mem_singleton.mp h
      exact hid hother
  · rw [built_snoc_none hbuilds]
    exact books.built_le

theorem closeMany {ids : List Nat} (books : Books calls (ids ++ rest) last)
    (h : more.map Logged.closes = ids.map some) : Books (calls ++ more) rest last := by
  induction ids generalizing calls more with
  | nil =>
      obtain rfl : more = [] := by simpa using h
      simpa using books
  | cons id ids ih =>
      cases more with
      | nil => cases h
      | cons e more =>
          obtain ⟨he, hmore⟩ := List.cons.inj h
          rw [List.append_cons]
          exact ih (books.close he) hmore

theorem useMany (books : Books calls owned last) (hid : id ∈ owned)
    (h : ∀ e ∈ more, e.call.user = some id) : Books (calls ++ more) owned last := by
  induction more generalizing calls with
  | nil => simpa using books
  | cons e more ih =>
      rw [List.append_cons]
      exact ih (books.use hid (h e List.mem_cons_self)) fun e' he' =>
        h e' (List.mem_cons_of_mem e he')

end Books

namespace Complete

theorem mono (complete : Complete calls owned) (h : built more = []) :
    Complete (calls ++ more) owned := by
  rintro id ⟨hb, hc⟩
  rw [built_append, h, List.append_nil] at hb
  rw [closed_append] at hc
  exact complete id ⟨hb, fun hid => hc (List.mem_append_left _ hid)⟩

theorem build (complete : Complete calls owned) (he : e.builds = some id) :
    Complete (calls ++ [e]) (owned ++ [id]) := by
  obtain ⟨hcloses, _⟩ := Logged.not_user_of_builds he
  rintro other ⟨hb, hc⟩
  rw [built_snoc he] at hb
  rw [closed_snoc_none hcloses] at hc
  rcases List.mem_append.mp hb with hb | hb
  · exact List.mem_append_left _ (complete other ⟨hb, hc⟩)
  · exact List.mem_append_right _ hb

/-- Once closed, clients may leave the list. -/
theorem closeMany {ids : List Nat} (complete : Complete calls (ids ++ rest))
    (hbuilt : built more = []) (hclosed : closed more = ids) : Complete (calls ++ more) rest := by
  rintro id ⟨hb, hc⟩
  rw [built_append, hbuilt, List.append_nil] at hb
  rw [closed_append, hclosed] at hc
  rcases List.mem_append.mp (complete id ⟨hb, fun h => hc (List.mem_append_left _ h)⟩) with h | h
  · exact absurd (List.mem_append_right _ h) hc
  · exact h

end Complete

end Log

end SecretVault
