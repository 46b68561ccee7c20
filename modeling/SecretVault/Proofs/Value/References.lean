import SecretVault.Proofs.Placeholder
import SecretVault.Proofs.Value.Resolution

/-!
What resolving a value reads. It looks up the names that the placeholders of its strings give, in
the order of the document, and nothing else. The first name whose variable is not set is the error.
If there is none, the result has the shape of the value, with every string resolved by itself.
-/

namespace SecretVault

/-! ## Names in the order of the document -/

namespace Placeholder

/-- The names of the placeholders that a text is parted at, from left to right. -/
def Names (s : CodePoints) (names : List CodePoints) : Prop :=
  ∃ parts last, Parted s parts last ∧ names = parts.map (·.2)

def Segment.name? : Segment → Option CodePoints
  | .point _ => none
  | .reference name => some name

def names (s : CodePoints) : List CodePoints :=
  (segments s).filterMap Segment.name?

theorem Parted.names_eq {s last : CodePoints} {parts : List (CodePoints × CodePoints)}
    (h : Parted s parts last) : names s = parts.map (·.2) := by
  have no_names (front : CodePoints) : (front.map Segment.point).filterMap Segment.name? = [] := by
    simp [List.filterMap_eq_nil_iff, Segment.name?]
  rw [names]
  induction h with
  | last plain => rw [plain.segments_eq, no_names, List.map_nil]
  | next first later ih =>
      simp [first.segments_eq, List.filterMap_append, no_names, Segment.name?, ih]

theorem names_iff {s : CodePoints} {found : List CodePoints} : Names s found ↔ names s = found := by
  constructor
  · rintro ⟨parts, last, parted, rfl⟩
    exact parted.names_eq
  · rintro rfl
    obtain ⟨parts, last, parted⟩ := exists_parted s
    exact ⟨parts, last, parted, parted.names_eq⟩

end Placeholder

mutual

/-- The strings of a value in which placeholders are looked for, in the order of the document. -/
def Value.strings : Value → List CodePoints
  | .str s => [s]
  | .scalar _ => []
  | .list items => stringsOfItems items
  | .map entries => stringsOfEntries entries
  | .set _ => []
  | .pair _ _ => []

def stringsOfItems : List Value → List CodePoints
  | [] => []
  | v :: rest => v.strings ++ stringsOfItems rest

def stringsOfEntries : List (Scalar × Value) → List CodePoints
  | [] => []
  | entry :: rest => stringsOfEntry entry ++ stringsOfEntries rest

def stringsOfEntry : Scalar × Value → List CodePoints
  | (_, v) => v.strings

end

/-- The names of all placeholders in a value, in the order of the document. -/
def Value.Refers (v : Value) (names : List CodePoints) : Prop :=
  ∃ each, List.Forall₂ Placeholder.Names v.strings each ∧ names = each.flatten

def Value.references (v : Value) : List CodePoints :=
  v.strings.flatMap Placeholder.names

theorem Value.refers_iff {v : Value} {names : List CodePoints} :
    v.Refers names ↔ v.references = names := by
  simp only [Refers, references, List.flatMap_def]
  have each_iff (each : List (List CodePoints)) : List.Forall₂ Placeholder.Names v.strings each ↔
      v.strings.map Placeholder.names = each := by
    have same : Placeholder.Names = fun s found => Placeholder.names s = found :=
      funext₂ fun _ _ => propext Placeholder.names_iff
    rw [same, ← List.forall₂_map_left_iff, List.forall₂_eq_eq_eq]
  simp [each_iff, eq_comm]

theorem references_list (items : List Value) :
    (Value.list items).references = items.flatMap Value.references := by
  rw [Value.references, Value.strings]
  induction items with
  | nil => rfl
  | cons v rest ih =>
      rw [stringsOfItems, List.flatMap_append, ih, List.flatMap_cons]
      rfl

theorem references_map (entries : Entries) :
    (Value.map entries).references = entries.flatMap fun entry => entry.2.references := by
  rw [Value.references, Value.strings]
  induction entries with
  | nil => rfl
  | cons entry rest ih =>
      obtain ⟨key, v⟩ := entry
      rw [stringsOfEntries, List.flatMap_append, ih, List.flatMap_cons, stringsOfEntry]
      rfl

/-! ## The first name that cannot be had -/

section

variable {ε α β γ : Type} {x : Except ε α} {y : Except ε β}

def error? : Except ε α → Option ε
  | .ok _ => none
  | .error e => some e

theorem error?_eq_some {e : ε} : error? x = some e ↔ x = .error e := by
  cases x <;> simp [error?]

@[simp] theorem error?_map (f : α → β) : error? (x.map f) = error? x := by
  cases x <;> rfl

theorem error?_both (f : α → β → γ) :
    error? (do let a ← x; let b ← y; return f a b) = (error? x).or (error? y) := by
  cases x <;> cases y <;> rfl

end

variable {env other : Environment} {start : CodePoints}

open Placeholder (Segment names lookup Refuses)

def refused? (env : Environment) (start : CodePoints) (names : List CodePoints) : Option Failure :=
  names.findSome? fun name => error? (lookup env start name)

theorem refused?_append (names more : List CodePoints) :
    refused? env start (names ++ more) = (refused? env start names).or (refused? env start more) :=
  List.findSome?_append

theorem error?_lookup_eq_none {name : CodePoints} :
    error? (lookup env start name) = none ↔ ∃ value, Placeholder.Holds env start name value := by
  simp only [← Placeholder.lookup_eq_ok_iff]
  cases lookup env start name <;> simp [error?]

theorem error?_lookup_eq_some {name : CodePoints} {e : Failure} :
    error? (lookup env start name) = some e ↔ Refuses env start name e := by
  rw [error?_eq_some, Placeholder.lookup_eq_error_iff]

theorem refused?_eq_some {names : List CodePoints} {e : Failure} :
    refused? env start names = some e ↔ ∃ before name after, names = before ++ name :: after ∧
      Refuses env start name e ∧
        ∀ earlier ∈ before, ∃ value, Placeholder.Holds env start earlier value := by
  simp only [refused?, List.findSome?_eq_some_iff, error?_lookup_eq_some, error?_lookup_eq_none]

theorem error?_resolveAll (pieces : List Segment) :
    error? (Placeholder.resolveAll env start pieces) =
      refused? env start (pieces.filterMap Segment.name?) := by
  induction pieces with
  | nil => rfl
  | cons piece rest ih =>
      rw [Placeholder.resolveAll, error?_both, ih]
      cases piece with
      | point p => rfl
      | reference name =>
          have split : (Segment.reference name :: rest).filterMap Segment.name? =
              [name] ++ rest.filterMap Segment.name? := rfl
          rw [split, refused?_append, Segment.resolve]
          cases h : lookup env start name <;> simp [refused?, error?, h]

theorem Value.error?_resolve (v : Value) :
    error? (v.resolve env start) = refused? env start v.references := by
  induction v using Value.byParts with
  | scalar c =>
      rw [Value.resolve, error?_map]
      cases c with
      | str s =>
          rw [Scalar.resolve, error?_map, Placeholder.resolve, error?_resolveAll]
          simp [Value.references, Value.strings, names]
      | _ => rfl
  | list items each =>
      rw [Value.resolve, error?_map, references_list]
      induction items with
      | nil => rfl
      | cons v rest ih =>
          rw [resolveItems, error?_both, List.flatMap_cons, refused?_append,
            each v List.mem_cons_self, ih fun v h => each v (List.mem_cons_of_mem _ h)]
  | map entries each =>
      rw [Value.resolve, error?_map, references_map]
      induction entries with
      | nil => rfl
      | cons entry rest ih =>
          rw [resolveEntries, error?_both, resolveEntry, error?_map, List.flatMap_cons,
            refused?_append, each entry List.mem_cons_self,
            ih fun entry h => each entry (List.mem_cons_of_mem _ h)]
  | set members => rfl
  | pair first second => rfl

theorem Value.resolve_eq_error {v : Value} {names : List CodePoints} (refers : v.Refers names)
    {e : Failure} : v.resolve env start = .error e ↔
      ∃ before name after, names = before ++ name :: after ∧ Refuses env start name e ∧
        ∀ earlier ∈ before, ∃ value, Placeholder.Holds env start earlier value := by
  obtain rfl := Value.refers_iff.mp refers
  rw [← error?_eq_some, v.error?_resolve, refused?_eq_some]

/-! ## The shape of the result -/

/-- A value and what it becomes: each string of a list or mapping is resolved, and nothing else is
changed. -/
inductive Value.Resolved (env : Environment) (start : CodePoints) : Value → Value → Prop where
  | str {s s' : CodePoints} (h : Placeholder.resolve env start s = .ok s') :
      Resolved env start (.str s) (.str s')
  | scalar {c : Scalar} (other : ∀ s, c ≠ .str s) : Resolved env start (.scalar c) (.scalar c)
  | list {items items' : List Value} (length_eq : items'.length = items.length)
      (each : ∀ pair ∈ items.zip items', Resolved env start pair.1 pair.2) :
      Resolved env start (.list items) (.list items')
  | map {entries entries' : Entries} (keys_eq : entries'.map (·.1) = entries.map (·.1))
      (each : ∀ pair ∈ entries.zip entries', Resolved env start pair.1.2 pair.2.2) :
      Resolved env start (.map entries) (.map entries')
  | set (members : List Scalar) : Resolved env start (.set members) (.set members)
  | pair (first second : Value) : Resolved env start (.pair first second) (.pair first second)

theorem Value.resolve_scalar_eq_ok {c : Scalar} {v : Value} :
    (Value.scalar c).resolve env start = .ok v ↔ Resolved env start (.scalar c) v := by
  rw [Value.resolve, map_eq_ok]
  constructor
  · rintro ⟨c', h, rfl⟩
    cases c with
    | str s =>
        rw [Scalar.resolve, map_eq_ok] at h
        obtain ⟨s', h, rfl⟩ := h
        exact .str h
    | _ =>
        cases h
        exact .scalar fun s same => Scalar.noConfusion same
  · intro h
    cases h with
    | str h => exact ⟨_, by rw [Scalar.resolve, h]; rfl, rfl⟩
    | scalar other =>
        cases c with
        | str s => exact absurd rfl (other s)
        | _ => exact ⟨_, rfl, rfl⟩

theorem resolveItems_eq_ok {items items' : List Value}
    (each : ∀ v ∈ items, ∀ v', v.resolve env start = .ok v' ↔ v.Resolved env start v') :
    resolveItems env start items = .ok items' ↔ items'.length = items.length ∧
      ∀ pair ∈ items.zip items', pair.1.Resolved env start pair.2 := by
  induction items generalizing items' with
  | nil => cases items' <;> simp [resolveItems]
  | cons v rest ih =>
      have later {rest'} := @ih rest' fun v h => each v (List.mem_cons_of_mem _ h)
      rw [resolveItems, both_eq_ok]
      simp only [each v List.mem_cons_self, later]
      cases items' with
      | nil => simp
      | cons v' rest' => simp [and_left_comm, and_assoc]

theorem resolveEntries_eq_ok {entries entries' : Entries}
    (each : ∀ entry ∈ entries, ∀ v', entry.2.resolve env start = .ok v' ↔
      entry.2.Resolved env start v') :
    resolveEntries env start entries = .ok entries' ↔ entries'.map (·.1) = entries.map (·.1) ∧
      ∀ pair ∈ entries.zip entries', pair.1.2.Resolved env start pair.2.2 := by
  induction entries generalizing entries' with
  | nil => cases entries' <;> simp [resolveEntries]
  | cons entry rest ih =>
      have later {rest'} := @ih rest' fun entry h => each entry (List.mem_cons_of_mem _ h)
      have here := each entry List.mem_cons_self
      obtain ⟨key, v⟩ := entry
      rw [resolveEntries_cons_eq_ok]
      simp only [here, later]
      cases entries' with
      | nil => simp
      | cons entry' rest' =>
          obtain ⟨key', v'⟩ := entry'
          simp [and_left_comm, and_assoc, eq_comm]

theorem Value.resolve_eq_ok (v v' : Value) :
    v.resolve env start = .ok v' ↔ v.Resolved env start v' := by
  induction v using Value.byParts generalizing v' with
  | scalar c => exact resolve_scalar_eq_ok
  | list items each =>
      rw [Value.resolve, map_eq_ok]
      constructor
      · rintro ⟨items', h, rfl⟩
        obtain ⟨length_eq, resolved⟩ := (resolveItems_eq_ok each).mp h
        exact .list length_eq resolved
      · intro h
        cases h with
        | list length_eq resolved =>
            exact ⟨_, (resolveItems_eq_ok each).mpr ⟨length_eq, resolved⟩, rfl⟩
  | map entries each =>
      rw [Value.resolve, map_eq_ok]
      constructor
      · rintro ⟨entries', h, rfl⟩
        obtain ⟨keys_eq, resolved⟩ := (resolveEntries_eq_ok each).mp h
        exact .map keys_eq resolved
      · intro h
        cases h with
        | map keys_eq resolved =>
            exact ⟨_, (resolveEntries_eq_ok each).mpr ⟨keys_eq, resolved⟩, rfl⟩
  | set members =>
      rw [Value.resolve]
      constructor
      · intro h
        cases h
        exact .set members
      · intro h
        cases h
        rfl
  | pair first second =>
      rw [Value.resolve]
      constructor
      · intro h
        cases h
        exact .pair first second
      · intro h
        cases h
        rfl

/-! ## Environments that agree on the names -/

theorem resolveAll_congr {pieces : List Segment}
    (agree : ∀ name ∈ pieces.filterMap Segment.name?, other (start ++ name) = env (start ++ name)) :
    Placeholder.resolveAll other start pieces = Placeholder.resolveAll env start pieces := by
  induction pieces with
  | nil => rfl
  | cons piece rest ih =>
      cases piece with
      | point p =>
          have later := ih fun name h => agree name (by simpa [Segment.name?] using h)
          simp only [Placeholder.resolveAll, later, Segment.resolve]
      | reference name =>
          have later := ih fun name h => agree name (by simp [Segment.name?, h])
          have here := agree name (by simp [Segment.name?])
          have looked : lookup other start name = lookup env start name := by
            simp only [lookup, Environment.read, here]
          simp only [Placeholder.resolveAll, later, Segment.resolve, looked]

theorem Value.resolve_congr (v : Value)
    (agree : ∀ name ∈ v.references, other (start ++ name) = env (start ++ name)) :
    v.resolve other start = v.resolve env start := by
  induction v using Value.byParts with
  | scalar c =>
      cases c with
      | str s =>
          have names_eq : (Value.str s).references = names s := by
            simp [Value.references, Value.strings]
          rw [names_eq] at agree
          simp only [Value.resolve, Scalar.resolve, Placeholder.resolve, resolveAll_congr agree]
      | _ => rfl
  | list items each =>
      rw [references_list] at agree
      rw [Value.resolve, Value.resolve]
      congr 1
      induction items with
      | nil => rfl
      | cons v rest ih =>
          simp only [List.flatMap_cons, List.mem_append, or_imp, forall_and] at agree
          have here := each v List.mem_cons_self agree.1
          have later := ih (fun v h => each v (List.mem_cons_of_mem _ h)) agree.2
          simp only [resolveItems, here, later]
  | map entries each =>
      rw [references_map] at agree
      rw [Value.resolve, Value.resolve]
      congr 1
      induction entries with
      | nil => rfl
      | cons entry rest ih =>
          simp only [List.flatMap_cons, List.mem_append, or_imp, forall_and] at agree
          have here := each entry List.mem_cons_self agree.1
          have later := ih (fun entry h => each entry (List.mem_cons_of_mem _ h)) agree.2
          obtain ⟨key, v⟩ := entry
          simp only [resolveEntries, resolveEntry, here, later]
  | set members => rfl
  | pair first second => rfl

/-! ## Reading by reference -/

/-- Resolving a value reads the variables that its placeholders name, and keeps its shape. -/
structure ReadsReferences (env : Environment) (start : CodePoints) (v : Value) : Prop where
  /-- A result has the keys and the lengths of the value, its other leaves, and its strings resolved
  by themselves; and such a value is the result. -/
  result_iff : ∀ v', v.resolve env start = .ok v' ↔ v.Resolved env start v'
  names : ∃! names, v.Refers names
  /-- Resolving fails exactly if some placeholder names a variable that cannot be had. -/
  fails_iff : ∀ names, v.Refers names →
    (Fails (v.resolve env start) ↔ ∃ name ∈ names, ∃ e, Refuses env start name e)
  /-- The error is that of the first such placeholder in the order of the document. -/
  error_iff : ∀ names, v.Refers names → ∀ e, v.resolve env start = .error e ↔
    ∃ before name after, names = before ++ name :: after ∧ Refuses env start name e ∧
      ∀ earlier ∈ before, ∃ value, Placeholder.Holds env start earlier value
  /-- Whatever else an environment holds makes no difference. -/
  indifferent : ∀ names, v.Refers names → ∀ other : Environment,
    (∀ name ∈ names, other (start ++ name) = env (start ++ name)) →
      v.resolve other start = v.resolve env start

/-- Resolving reads by reference, whatever the environment and the value. -/
theorem readsReferences (env : Environment) (start : CodePoints) (v : Value) :
    ReadsReferences env start v where
  result_iff := v.resolve_eq_ok
  names := ⟨v.references, Value.refers_iff.mpr rfl, fun _ h => (Value.refers_iff.mp h).symm⟩
  fails_iff names refers := by
    obtain rfl := Value.refers_iff.mp refers
    have first : Fails (v.resolve env start) ↔ ∃ e, refused? env start v.references = some e := by
      simp only [← v.error?_resolve, error?_eq_some, Fails]
    simp [first, refused?, ← Option.isSome_iff_exists, ← error?_lookup_eq_some]
  error_iff names refers e := Value.resolve_eq_error refers
  indifferent names refers other agree := by
    obtain rfl := Value.refers_iff.mp refers
    exact v.resolve_congr agree

/-- A name deep in a value whose variable is not set, though the error does not say so: the host has
no bytes for the name. -/
theorem nested_surrogate_not_unresolved :
    let name : CodePoints := [0xd800]
    let v : Value := .map [(.str "aws", .list [.str (Placeholder.written name)])]
    v.Refers [name] ∧ Host.empty.environment name = none ∧
      v.resolve Host.empty.environment "" = .error (.fault .unencodable) ∧
      v.resolve Host.empty.environment "" ≠ .error (.settings (.unresolved name name)) := by
  intro name v
  have isName : Placeholder.IsName name := ⟨by decide, by decide⟩
  have refers : v.Refers [name] :=
    ⟨[[name]], .cons ⟨_, _, Placeholder.parted_written isName, rfl⟩ .nil, rfl⟩
  have refuses : Refuses Host.empty.environment "" name (.fault .unencodable) :=
    .unencodable fun bytes => absurd (bytes 0xd800 List.mem_cons_self rfl) (by decide)
  have resolves : v.resolve Host.empty.environment "" = .error (.fault .unencodable) := by
    have leaf := (Placeholder.partsAt_written isName).resolve_of_refuses refuses
    simp only [v, Value.resolve, Scalar.resolve, resolveEntries, resolveEntry, resolveItems, leaf]
    rfl
  refine ⟨refers, rfl, resolves, ?_⟩
  rw [resolves]
  rintro ⟨⟩

end SecretVault
