import SecretVault.Proofs.Action.Outcome
import SecretVault.Proofs.Settings.Loading
import SecretVault.Readers

/-!
Handles on the settings over whole runs. The history of a run notes, the latest note first, which
object each construction and each successful load handed out, and what was loaded. It determines
which handles are one object and what each of them reads: objects change with resets alone, and what
the current one reads changes with successful loads alone.
-/

namespace SecretVault.Settings

open SecretVault.Action

variable {T σ : Type}

/-! ## The cell -/

namespace Cell

variable {c c' : Cell} {id other : Nat} {data : Entries}

/-- Objects are numbered in turn, and the one in the cell is among them. -/
structure Tidy (c : Cell) : Prop where
  numbered : ∀ o ∈ c.objects, o.id < c.objects.length
  present : ∀ id, c.inUse = some id → ∃ o ∈ c.objects, o.id = id

theorem tidy_empty : empty.Tidy :=
  ⟨nofun, nofun⟩

theorem Tidy.lt (tidy : c.Tidy) (h : c.inUse = some id) : id < c.objects.length := by
  obtain ⟨o, ho, rfl⟩ := tidy.present id h
  exact tidy.numbered o ho

theorem obtain_inUse (h : c.inUse = some id) : c.obtain = (id, c) := by
  rw [obtain, h]

theorem obtain_fresh (h : c.inUse = none) :
    c.obtain = (c.objects.length,
      ⟨⟨c.objects.length, []⟩ :: c.objects, some c.objects.length⟩) := by
  rw [obtain, h]

@[simp] theorem inUse_obtain (c : Cell) : c.obtain.2.inUse = some c.obtain.1 := by
  cases h : c.inUse with
  | some id =>
      rw [obtain_inUse h]
      exact h
  | none => rw [obtain_fresh h]

theorem tidy_obtain (tidy : c.Tidy) : c.obtain.2.Tidy := by
  cases h : c.inUse with
  | some id =>
      rw [obtain_inUse h]
      exact tidy
  | none =>
      rw [obtain_fresh h]
      refine ⟨?_, ?_⟩
      · intro o ho
        rcases List.mem_cons.mp ho with rfl | ho
        · exact Nat.lt_succ_self _
        · exact Nat.lt_succ_of_lt (tidy.numbered o ho)
      · rintro id ⟨⟩
        exact ⟨_, List.mem_cons_self, rfl⟩

theorem data_fresh (tidy : c.Tidy) (h : c.objects.length ≤ id) : c.data id = [] := by
  have absent : c.objects.find? (·.id == id) = none := by
    rw [List.find?_eq_none]
    intro o ho
    have := tidy.numbered o ho
    simp only [beq_iff_eq]
    omega
  rw [data, absent]
  rfl

theorem data_obtain (tidy : c.Tidy) (other : Nat) : c.obtain.2.data other = c.data other := by
  cases h : c.inUse with
  | some id => rw [obtain_inUse h]
  | none =>
      by_cases same : c.objects.length = other
      · rw [data_fresh tidy (Nat.le_of_eq same), obtain_fresh h]
        simp [data, same]
      · rw [obtain_fresh h]
        simp [data, same]

theorem tidy_store (tidy : c.Tidy) (id : Nat) (data : Entries) : (c.store id data).Tidy := by
  have same_id (o : Object) : (if o.id == id then { o with data := data } else o).id = o.id := by
    split <;> rfl
  refine ⟨?_, ?_⟩
  · intro o ho
    obtain ⟨old, hold, rfl⟩ := List.mem_map.mp ho
    rw [same_id, store, List.length_map]
    exact tidy.numbered old hold
  · intro used hused
    obtain ⟨old, hold, rfl⟩ := tidy.present used hused
    exact ⟨_, List.mem_map_of_mem hold, same_id old⟩

theorem data_store (present : ∃ o ∈ c.objects, o.id = id) (data : Entries) (other : Nat) :
    (c.store id data).data other = if id = other then data else c.data other := by
  have same_id : ((·.id == other) ∘ fun o : Object =>
      if o.id == id then { o with data := data } else o) = (·.id == other) := by
    funext o
    simp only [Function.comp_apply]
    split <;> rfl
  rw [Cell.data, store, List.find?_map, same_id, Cell.data]
  cases hfound : c.objects.find? (·.id == other) with
  | none =>
      have absent : ¬ id = other := by
        rintro rfl
        obtain ⟨o, ho, hid⟩ := present
        exact List.find?_eq_none.mp hfound o ho (by simp [hid])
      simp [absent]
  | some o =>
      obtain rfl : o.id = other := by simpa using List.find?_some hfound
      by_cases same : id = o.id
      · simp [same]
      · simp [same, Ne.symm same]

end Cell

/-! ## What a load does -/

/-- What can become of a load. It can fail before it asks for the object in the cell, and after. -/
inductive Loading (c : Cell) (w : World T σ) (found : Except Failure Entries) :
    Except Raised Nat → Cell × World T σ → Prop where
  | unread {e} (fails : found = .error e) (w') : Loading c w found (.error (.plain e)) (c, w')
  | unresolved {e} (fails : found = .error e) (w') :
      Loading c w found (.error (.plain e)) (c.obtain.2, w')
  | loaded {data} (finds : found = .ok data) (w') :
      Loading c w found (.ok c.obtain.1) (c.obtain.2.store c.obtain.1 data, w')

theorem outcome_fill (data : Raw) (c : Cell) (w : World T σ) :
    (fill data).outcome (c, w) =
      match data.resolve w.host.environment with
      | .error e => (.error (.plain e), c.obtain.2, w)
      | .ok entries => (.ok c.obtain.1, c.obtain.2.store c.obtain.1 entries, w) := by
  have keeps : (set (c.obtain.2, w) : Action (Cell × World T σ) PUnit).outcome (c, w) =
      (.ok (), c.obtain.2, w) := rfl
  simp only [fill, outcome_bind, outcome_get, keeps, outcome_ofExcept]
  cases data.resolve w.host.environment <;> rfl

theorem loading_load (path : CodePoints) (env : Option CodePoints) (c : Cell) (w : World T σ) :
    Loading c w (settled w path env) ((load path env).outcome (c, w)).1
      ((load path env).outcome (c, w)).2 := by
  cases hraw : raw w.host path env with
  | error e =>
      have fails : settled w path env = .error e := by rw [settled, hraw]; rfl
      have stops : (load path env).outcome (c, w) = (.error (.plain e), c, w) := by
        simp only [load, outcome_bind, outcome_get, outcome_ofExcept, hraw, mapError_error]
      rw [stops]
      exact .unread fails w
  | ok data =>
      cases hdotenv : (w.host.loadDotenv w.host.dotenvPath).2 with
      | error e =>
          have fails : settled w path env = .error e := by rw [settled, hraw, hdotenv]; rfl
          have stops : (load path env).outcome (c, w) = (.error (.plain e), c, withDotenv w) := by
            simp only [load, outcome_bind, outcome_get, outcome_ofExcept, hraw, mapError_ok,
              outcome_onSecond, World.loadDotenv, outcome_ofOutcome, hdotenv, mapError_error]
            rfl
          rw [stops]
          exact .unread fails _
      | ok u =>
          have found : settled w path env = data.resolve (withDotenv w).host.environment := by
            rw [settled, hraw, hdotenv]
            rfl
          have goes_on : (load path env).outcome (c, w) =
              (fill data).outcome (c, withDotenv w) := by
            simp only [load, outcome_bind, outcome_get, outcome_ofExcept, hraw, mapError_ok,
              outcome_onSecond, World.loadDotenv, outcome_ofOutcome, hdotenv]
            rfl
          rw [goes_on, found, outcome_fill]
          cases hresolve : data.resolve (withDotenv w).host.environment with
          | error e => exact .unresolved rfl _
          | ok entries => exact .loaded rfl _

theorem load_ok {path : CodePoints} {env : Option CodePoints} {c : Cell} {w : World T σ}
    {data : Entries} (finds : settled w path env = .ok data) :
    ∃ w', (load path env).outcome (c, w) =
      (.ok c.obtain.1, c.obtain.2.store c.obtain.1 data, w') := by
  have loading := loading_load path env c w
  rw [finds] at loading
  generalize (load path env).outcome (c, w) = outcome at loading ⊢
  obtain ⟨result, st⟩ := outcome
  cases loading with
  | unread fails => cases fails
  | unresolved fails => cases fails
  | loaded finds w' =>
      cases finds
      exact ⟨w', rfl⟩

theorem load_error {path : CodePoints} {env : Option CodePoints} {c : Cell} {w : World T σ}
    {e : Failure} (tidy : c.Tidy) (fails : settled w path env = .error e) :
    ((load path env).outcome (c, w)).1 = .error (.plain e) ∧
      ∀ id, ((load path env).outcome (c, w)).2.1.data id = c.data id := by
  have loading := loading_load path env c w
  rw [fails] at loading
  generalize (load path env).outcome (c, w) = outcome at loading ⊢
  obtain ⟨result, st⟩ := outcome
  cases loading with
  | unread fails =>
      cases fails
      exact ⟨rfl, fun _ => rfl⟩
  | unresolved fails =>
      cases fails
      exact ⟨rfl, Cell.data_obtain tidy⟩
  | loaded finds => cases finds

/-! ## Histories -/

/-- What may be done with the settings. Meanwhile files and variables change, and everything else
around the library. -/
inductive Use (T σ : Type) where
  | load (path : CodePoints) (env : Option CodePoints)
  | construct
  | reset
  | meanwhile (world : World T σ)

/-- A note on a use: the object that was handed out, and what was loaded into it. -/
inductive Note where
  | constructed (id : Nat)
  | loaded (id : Nat) (data : Entries)
  | failed
  | reset

namespace Note

def handle? : Note → Option Nat
  | .constructed id => some id
  | .loaded id _ => some id
  | .failed => none
  | .reset => none

def ofLoad : Except Raised Nat → Except Failure Entries → Note
  | .ok id, .ok data => .loaded id data
  | _, _ => .failed

end Note

def handles (history : List Note) : List Nat :=
  history.filterMap Note.handle?

/-- What was loaded last, unless there was a reset since. -/
def lastLoaded : List Note → Entries
  | [] => []
  | .loaded _ data :: _ => data
  | .reset :: _ => []
  | .constructed _ :: earlier => lastLoaded earlier
  | .failed :: earlier => lastLoaded earlier

def after (past : List Note × Cell × World T σ) : Use T σ → List Note × Cell × World T σ
  | .load path env =>
    let (result, st) := (load path env).outcome past.2
    (.ofLoad result (settled past.2.2 path env) :: past.1, st)
  | .construct => (.constructed past.2.1.obtain.1 :: past.1, past.2.1.obtain.2, past.2.2)
  | .reset => (.reset :: past.1, past.2.1.reset, past.2.2)
  | .meanwhile world => (past.1, past.2.1, world)

/-! ## What a history determines -/

/-- The cell after a history: what every object that was handed out reads, and which of them are
one. -/
structure Tracks (history : List Note) (c : Cell) : Prop where
  tidy : c.Tidy
  /-- The object in the cell reads what was loaded last. -/
  reads : ∀ id, c.inUse = some id → c.data id = lastLoaded history
  idle : c.inUse = none → lastLoaded history = []
  numbered : ∀ id ∈ handles history, id < c.objects.length
  latest : ∀ during earlier id, history = during ++ earlier → .reset ∉ during →
    id ∈ handles during → c.inUse = some id
  /-- What was handed out before a reset is not the object in the cell. -/
  past : ∀ later earlier id, history = later ++ .reset :: earlier → id ∈ handles earlier →
    c.inUse ≠ some id
  one : ∀ later during earlier i j, history = later ++ during ++ earlier → .reset ∉ during →
    i ∈ handles during → j ∈ handles during → i = j
  apart : ∀ later earlier i j, history = later ++ .reset :: earlier → i ∈ handles later →
    j ∈ handles earlier → i ≠ j
  keeps : ∀ later during earlier id, history = later ++ .reset :: (during ++ earlier) →
    .reset ∉ during → id ∈ handles during → c.data id = lastLoaded (during ++ earlier)

theorem tracks_empty : Tracks [] .empty where
  tidy := Cell.tidy_empty
  reads := nofun
  idle _ := rfl
  numbered := nofun
  latest during earlier id h _ hid := by
    obtain ⟨rfl, rfl⟩ := List.nil_eq_append_iff.mp h
    cases hid
  past later earlier id h := by simp at h
  one later during earlier i j h _ hi := by
    obtain ⟨hdur, rfl⟩ := List.nil_eq_append_iff.mp h
    obtain ⟨rfl, rfl⟩ := List.append_eq_nil_iff.mp hdur
    cases hi
  apart later earlier i j h := by simp at h
  keeps later during earlier id h := by simp at h

/-- The cell went on without a reset: the object in it stays, or is a new one, and nothing changes
what the others read. -/
structure Extends (c c' : Cell) : Prop where
  longer : c.objects.length ≤ c'.objects.length
  stays : ∀ id, c.inUse = some id → c'.inUse = some id
  comes : ∀ id, c'.inUse = some id → c.inUse = some id ∨ c.objects.length ≤ id
  others : ∀ id, c'.inUse ≠ some id → c'.data id = c.data id

variable {history : List Note} {c c' : Cell} {note : Note}

theorem Extends.refl (c : Cell) : Extends c c :=
  ⟨Nat.le_refl _, fun _ h => h, fun _ h => .inl h, fun _ _ => rfl⟩

theorem extends_obtain (tidy : c.Tidy) : Extends c c.obtain.2 := by
  cases h : c.inUse with
  | some id =>
      rw [Cell.obtain_inUse h]
      exact .refl c
  | none =>
      refine ⟨?_, ?_, ?_, fun id _ => Cell.data_obtain tidy id⟩
      · rw [Cell.obtain_fresh h]
        exact Nat.le_succ _
      · intro id hid
        rw [h] at hid
        cases hid
      · intro id hid
        rw [Cell.obtain_fresh h] at hid
        obtain rfl : c.objects.length = id := Option.some.inj hid
        exact .inr (Nat.le_refl _)

theorem Extends.store (ext : Extends c c') (tidy : c'.Tidy) {id : Nat} (inUse : c'.inUse = some id)
    (data : Entries) : Extends c (c'.store id data) := by
  refine ⟨?_, ext.stays, ext.comes, ?_⟩
  · rw [Cell.store, List.length_map]
    exact ext.longer
  · intro other hother
    have apart : id ≠ other := by
      rintro rfl
      exact hother inUse
    rw [Cell.data_store (tidy.present id inUse), if_neg apart]
    exact ext.others other hother

theorem cons_eq_append {later rest : List Note} (h : note :: history = later ++ rest) :
    later = [] ∧ rest = note :: history ∨
      ∃ later', later = note :: later' ∧ history = later' ++ rest := by
  rcases List.cons_eq_append_iff.mp h with ⟨rfl, rfl⟩ | ⟨later', rfl, rfl⟩
  · exact .inl ⟨rfl, rfl⟩
  · exact .inr ⟨later', rfl, rfl⟩

theorem mem_handles_cons {id : Nat} :
    id ∈ handles (note :: history) ↔ note.handle? = some id ∨ id ∈ handles history := by
  cases h : note.handle? <;> simp [handles, h, eq_comm]

@[simp] theorem handles_append (later earlier : List Note) :
    handles (later ++ earlier) = handles later ++ handles earlier :=
  List.filterMap_append

namespace Tracks

theorem extend (tracks : Tracks history c) (ext : Extends c c') (tidy : c'.Tidy)
    (going : note ≠ .reset) (handed : ∀ id, note.handle? = some id → c'.inUse = some id)
    (reads : ∀ id, c'.inUse = some id → c'.data id = lastLoaded (note :: history))
    (idle : c'.inUse = none → lastLoaded (note :: history) = []) :
    Tracks (note :: history) c' := by
  have latest : ∀ during earlier id, note :: history = during ++ earlier → .reset ∉ during →
      id ∈ handles during → c'.inUse = some id := by
    intro during earlier id h unset hid
    rcases cons_eq_append h with ⟨rfl, -⟩ | ⟨during', rfl, h'⟩
    · cases hid
    · rcases mem_handles_cons.mp hid with hnote | hid'
      · exact handed id hnote
      · exact ext.stays id
          (tracks.latest during' earlier id h' (List.not_mem_of_not_mem_cons unset) hid')
  have past : ∀ later earlier id, note :: history = later ++ .reset :: earlier →
      id ∈ handles earlier → c'.inUse ≠ some id := by
    intro later earlier id h hid inUse
    rcases cons_eq_append h with ⟨-, hreset⟩ | ⟨later', -, h'⟩
    · exact going (List.cons.inj hreset).1.symm
    · have old : id < c.objects.length := by
        refine tracks.numbered id ?_
        rw [h', handles_append]
        exact List.mem_append_right _ (mem_handles_cons.mpr (.inr hid))
      rcases ext.comes id inUse with still | new
      · exact tracks.past later' earlier id h' hid still
      · exact absurd old (Nat.not_lt.mpr new)
  refine ⟨tidy, reads, idle, ?_, latest, past, ?_, ?_, ?_⟩
  · intro id hid
    rcases mem_handles_cons.mp hid with hnote | hid'
    · exact tidy.lt (handed id hnote)
    · exact Nat.lt_of_lt_of_le (tracks.numbered id hid') ext.longer
  · intro later during earlier i j h unset hi hj
    rw [List.append_assoc] at h
    rcases cons_eq_append h with ⟨-, h'⟩ | ⟨later', -, h'⟩
    · have hi' := latest during earlier i h'.symm unset hi
      have hj' := latest during earlier j h'.symm unset hj
      exact Option.some.inj (hi'.symm.trans hj')
    · rw [← List.append_assoc] at h'
      exact tracks.one later' during earlier i j h' unset hi hj
  · intro later earlier i j h hi hj same
    rcases cons_eq_append h with ⟨rfl, -⟩ | ⟨later', rfl, h'⟩
    · cases hi
    · rcases mem_handles_cons.mp hi with hnote | hi'
      · exact past _ earlier j h hj (same ▸ handed i hnote)
      · exact tracks.apart later' earlier i j h' hi' hj same
  · intro later during earlier id h unset hid
    have old : id ∈ handles (during ++ earlier) := by
      rw [handles_append]
      exact List.mem_append_left _ hid
    rcases cons_eq_append h with ⟨-, hreset⟩ | ⟨later', -, h'⟩
    · exact absurd (List.cons.inj hreset).1.symm going
    · rw [ext.others id (past later _ id h old)]
      exact tracks.keeps later' during earlier id h' unset hid

theorem reset (tracks : Tracks history c) : Tracks (.reset :: history) c.reset := by
  have latest : ∀ during earlier id, .reset :: history = during ++ earlier → .reset ∉ during →
      id ∉ handles during := by
    intro during earlier id h unset hid
    rcases cons_eq_append h with ⟨rfl, -⟩ | ⟨during', rfl, -⟩
    · cases hid
    · exact unset List.mem_cons_self
  refine ⟨⟨tracks.tidy.numbered, nofun⟩, nofun, fun _ => rfl, tracks.numbered, ?_, nofun, ?_, ?_,
    ?_⟩
  · intro during earlier id h unset hid
    exact absurd hid (latest during earlier id h unset)
  · intro later during earlier i j h unset hi hj
    rw [List.append_assoc] at h
    rcases cons_eq_append h with ⟨-, h'⟩ | ⟨later', -, h'⟩
    · exact absurd hi (latest during earlier i h'.symm unset)
    · rw [← List.append_assoc] at h'
      exact tracks.one later' during earlier i j h' unset hi hj
  · intro later earlier i j h hi hj
    rcases cons_eq_append h with ⟨rfl, -⟩ | ⟨later', rfl, h'⟩
    · cases hi
    · exact tracks.apart later' earlier i j h' hi hj
  · intro later during earlier id h unset hid
    rcases cons_eq_append h with ⟨-, hreset⟩ | ⟨later', -, h'⟩
    · obtain rfl := (List.cons.inj hreset).2
      exact tracks.reads id (tracks.latest during earlier id rfl unset hid)
    · exact tracks.keeps later' during earlier id h' unset hid

theorem data_obtained (tracks : Tracks history c) :
    c.obtain.2.data c.obtain.1 = lastLoaded history := by
  rw [Cell.data_obtain tracks.tidy]
  cases h : c.inUse with
  | some id =>
      rw [Cell.obtain_inUse h]
      exact tracks.reads id h
  | none =>
      rw [Cell.obtain_fresh h, tracks.idle h]
      exact Cell.data_fresh tracks.tidy (Nat.le_refl _)

theorem obtain (tracks : Tracks history c) (going : note ≠ .reset)
    (handed : ∀ id, note.handle? = some id → id = c.obtain.1)
    (unloaded : lastLoaded (note :: history) = lastLoaded history) :
    Tracks (note :: history) c.obtain.2 := by
  refine tracks.extend (extends_obtain tracks.tidy) (Cell.tidy_obtain tracks.tidy) going ?_ ?_ ?_
  · intro id hid
    rw [handed id hid, Cell.inUse_obtain]
  · intro id hid
    obtain rfl : c.obtain.1 = id := Option.some.inj ((Cell.inUse_obtain c).symm.trans hid)
    rw [unloaded]
    exact tracks.data_obtained
  · intro idle
    rw [Cell.inUse_obtain] at idle
    cases idle

theorem failed (tracks : Tracks history c) : Tracks (.failed :: history) c :=
  tracks.extend (.refl c) tracks.tidy nofun nofun tracks.reads tracks.idle

theorem loaded (tracks : Tracks history c) (data : Entries) :
    Tracks (.loaded c.obtain.1 data :: history) (c.obtain.2.store c.obtain.1 data) := by
  have tidy := Cell.tidy_obtain tracks.tidy
  have inUse := Cell.inUse_obtain c
  refine tracks.extend ((extends_obtain tracks.tidy).store tidy inUse data)
    (Cell.tidy_store tidy _ _) nofun ?_ ?_ ?_
  · rintro id ⟨⟩
    exact inUse
  · intro id hid
    obtain rfl : c.obtain.1 = id := Option.some.inj (inUse.symm.trans hid)
    rw [Cell.data_store (tidy.present _ inUse), if_pos rfl]
    rfl
  · intro idle
    cases inUse.symm.trans idle

end Tracks

theorem tracks_after {past : List Note × Cell × World T σ} (tracks : Tracks past.1 past.2.1)
    (use : Use T σ) : Tracks (after past use).1 (after past use).2.1 := by
  obtain ⟨history, c, w⟩ := past
  cases use with
  | load path env =>
      have loading := loading_load path env c w
      rw [after]
      generalize (load path env).outcome (c, w) = outcome at loading
      obtain ⟨result, st⟩ := outcome
      cases loading with
      | unread => exact tracks.failed
      | unresolved => exact tracks.obtain nofun nofun rfl
      | @loaded data finds =>
          simp only [finds]
          exact tracks.loaded data
  | construct =>
      refine tracks.obtain nofun ?_ rfl
      rintro id ⟨⟩
      rfl
  | reset => exact tracks.reset
  | meanwhile world => exact tracks

theorem tracks_of_uses {past : List Note × Cell × World T σ} (tracks : Tracks past.1 past.2.1)
    (uses : List (Use T σ)) : Tracks (uses.foldl after past).1 (uses.foldl after past).2.1 := by
  induction uses generalizing past with
  | nil => exact tracks
  | cons use uses ih => exact ih (tracks_after tracks use)

/-! ## Runs -/

/-- What holds after any uses of the settings, of the history that they leave. -/
structure Consistent (past : List Note × Cell × World T σ) : Prop where
  /-- Handles obtained with no reset between them are one object. -/
  one : ∀ later during earlier i j, past.1 = later ++ during ++ earlier → .reset ∉ during →
    i ∈ handles during → j ∈ handles during → i = j
  /-- Handles with a reset between them are different objects. -/
  apart : ∀ later earlier i j, past.1 = later ++ .reset :: earlier → i ∈ handles later →
    j ∈ handles earlier → i ≠ j
  /-- A handle obtained since the last reset reads what was loaded last, nothing if nothing was. -/
  reads : ∀ during earlier id, past.1 = during ++ earlier → .reset ∉ during →
    id ∈ handles during → past.2.1.data id = lastLoaded past.1
  /-- A handle obtained before a reset reads what was loaded last before the reset, whatever has
  been loaded since. -/
  keeps : ∀ later during earlier id, past.1 = later ++ .reset :: (during ++ earlier) →
    .reset ∉ during → id ∈ handles during → past.2.1.data id = lastLoaded (during ++ earlier)
  /-- What a load finds is settled by the rules of loading. -/
  settles : ∀ path env, ∃! found, Settles past.2.2 path env found
  /-- A load that finds settings hands out the object in the cell, and is noted with these
  settings. -/
  loads : ∀ path env data, Settles past.2.2 path env (.ok data) →
    ((load path env).outcome past.2).1 = .ok past.2.1.obtain.1 ∧
      (after past (.load path env)).1 = .loaded past.2.1.obtain.1 data :: past.1
  /-- A load that finds none fails with the reason, and changes what no object reads. -/
  fails : ∀ path env e, Settles past.2.2 path env (.error e) →
    ((load path env).outcome past.2).1 = .error (.plain e) ∧
      (after past (.load path env)).1 = .failed :: past.1 ∧
        ∀ id, (after past (.load path env)).2.1.data id = past.2.1.data id

/-- Starting from nothing, whatever is loaded, constructed and reset in whatever order and with
whatever failures, the handles are consistent. -/
theorem consistent_of_uses (w : World T σ) (uses : List (Use T σ)) :
    Consistent (uses.foldl after ([], .empty, w)) := by
  have tracks := @tracks_of_uses T σ ([], .empty, w) tracks_empty uses
  generalize uses.foldl after ([], .empty, w) = past at tracks
  obtain ⟨history, c, w'⟩ := past
  refine ⟨tracks.one, tracks.apart, ?_, tracks.keeps, ?_, ?_, ?_⟩
  · intro during earlier id h unset hid
    exact tracks.reads id (tracks.latest during earlier id h unset hid)
  · intro path env
    exact ⟨_, settled_iff.mp rfl, fun found settles => (settled_iff.mpr settles).symm⟩
  · intro path env data settles
    have finds := settled_iff.mpr settles
    obtain ⟨last, hload⟩ := load_ok (c := c) finds
    refine ⟨by rw [hload], ?_⟩
    simp only [after, hload, finds]
    rfl
  · intro path env e settles
    have fails := settled_iff.mpr settles
    have failing := load_error tracks.tidy fails
    simp only [after, fails]
    exact ⟨failing.1, by cases ((load path env).outcome (c, w')).1 <;> rfl, failing.2⟩

/-- A world with settings in one folder and staging's in another, and a `.env` file and a list of
names in the working folder. -/
def staged : World Nat Unit where
  moment := ⟨0, []⟩
  began := 0
  date := 0
  host := {
    values := []
    files := ⟨[
      (["etc", "keystore.yaml"], Utf8.ofString "addr: eu.example\nlogin: $\x7benv:LOGIN\x7d\n"),
      (["etc", "environments", "staging.yaml"], Utf8.ofString "addr: localhost\n"),
      (["work", ".env"], Utf8.ofString "LOGIN=guest\n"),
      (["work", "names.yaml"], Utf8.ofString "- addr\n")],
      [["etc"], ["etc", "environments"], ["work"]], ["work"]⟩
    accounts := []
    home := none
    readers := .rehearsal }
  sessions := 0
  clients := 0
  log := []
  outside := ()

def stagedUses : List (Use Nat Unit) :=
  [.load "/etc/keystore.yaml" (some "staging" : Option String), .load "names.yaml" none, .reset,
    .load "../etc/keystore.yaml" none]

/-- The settings of staging stay with the first handle, though a load fails and another one loads
the main file alone after a reset. -/
theorem staged_uses_consistent :
    let past := stagedUses.foldl after ([], .empty, staged)
    Consistent past ∧ past.1.map Note.handle? = [some 1, none, none, some 0] ∧
      (Value.map (past.2.1.data 0)).quoted = "\x7b'addr': 'localhost', 'login': 'guest'\x7d" ∧
      (Value.map (past.2.1.data 1)).quoted = "\x7b'addr': 'eu.example', 'login': 'guest'\x7d" ∧
      (match ((load "names.yaml" none).outcome past.2).1 with
        | .error e => e.failure.message?
        | .ok _ => none) =
          some (.ofString "Config file names.yaml must contain a mapping, got list") :=
  ⟨consistent_of_uses staged stagedUses, by decide +kernel⟩

end SecretVault.Settings
