import Mathlib.Data.Finmap
import SecretVault.Proofs.Listing
import SecretVault.Proofs.Lookup
import SecretVault.Proofs.Store.Operation
import SecretVault.Proofs.World.Calls

/-!
What a key store holds, as a finite map, and the data operations on it: the specification that
stores of either kind meet. What a run leaves in the map can be read off its history: under each
name the value of the last successful creation, unless a deletion succeeded since. The store in
memory is such a map.
-/

namespace SecretVault

abbrev Contents := Finmap fun _ : String => Bytes

def Contents.find? (m : Contents) (name : String) : Option Bytes :=
  m.lookup name

/-- Operations, each with what it brought. -/
abbrev History := List (Operation × Except Failure Answer)

namespace Contents

@[simp] theorem find?_empty (name : String) : find? ∅ name = none :=
  Finmap.lookup_empty name

theorem find?_insert (m : Contents) (other name : String) (value : Bytes) :
    find? (m.insert other value) name = if other = name then some value else m.find? name := by
  by_cases hn : other = name
  · subst hn
    rw [if_pos rfl, find?, Finmap.lookup_insert]
  · rw [if_neg hn, find?, Finmap.lookup_insert_of_ne m (Ne.symm hn), find?]

theorem find?_erase (m : Contents) (other name : String) :
    find? (m.erase other) name = if other = name then none else m.find? name := by
  by_cases hn : other = name
  · subst hn
    rw [if_pos rfl, find?, Finmap.lookup_erase]
  · rw [if_neg hn, find?, Finmap.lookup_erase_ne (Ne.symm hn), find?]

theorem mem_keys_iff {m : Contents} {name : String} :
    name ∈ m.keys ↔ (m.find? name).isSome = true := by
  rw [Finmap.mem_keys, find?, Finmap.lookup_isSome]

end Contents

namespace Operation

/-! ## The map -/

/-- The operation on a map: what it brings, and the map afterwards. -/
def onMap (m : Contents) : Operation → Except Failure Answer × Contents
  | .create name value | .put name value =>
    match m.find? name with
    | some _ => (.error (.store .keyExists), m)
    | none => (.ok .done, m.insert name value)
  | .read name =>
    match m.find? name with
    | some value => (.ok (.value value), m)
    | none => (.error (.store .keyNotFound), m)
  | .delete name =>
    match m.find? name with
    | some _ => (.ok .done, m.erase name)
    | none => (.error (.store .keyNotFound), m)
  | .list start limit cursor => (.ok (.page (Listing.portion m.keys start limit cursor)), m)

/-- What operations bring, one after the other from the empty map on, and the map they leave. -/
def traced (ops : List Operation) : History × Contents :=
  ops.foldl (fun (history, m) op => (history ++ [(op, (op.onMap m).1)], (op.onMap m).2)) ([], ∅)

theorem traced_concat (ops : List Operation) (op : Operation) :
    traced (ops ++ [op]) =
      ((traced ops).1 ++ [(op, (op.onMap (traced ops).2).1)], (op.onMap (traced ops).2).2) := by
  simp only [traced, List.foldl_append, List.foldl_cons, List.foldl_nil]

def IsNamed : Operation → Prop
  | .create name _ | .put name _ => name ≠ ""
  | _ => True

theorem map_traced (ops : List Operation) : (traced ops).1.map (·.1) = ops := by
  induction ops using List.reverseRecOn with
  | nil => rfl
  | append_singleton ops op ih =>
      rw [traced_concat, List.map_append, ih]
      rfl

theorem onMap_error {m : Contents} {op : Operation} {e : Failure} (h : (op.onMap m).1 = .error e) :
    (op.onMap m).2 = m := by
  have adding (name : String) (value : Bytes)
      (failed : ((create name value).onMap m).1 = .error e) :
      ((create name value).onMap m).2 = m := by
    cases hfound : m.find? name with
    | some taken => simp only [onMap, hfound]
    | none =>
        simp only [onMap, hfound] at failed
        cases failed
  cases op with
  | create name value => exact adding name value h
  | put name value => exact adding name value h
  | read name => cases hfound : m.find? name <;> simp only [onMap, hfound]
  | delete name =>
      cases hfound : m.find? name with
      | none => simp only [onMap, hfound]
      | some there =>
          simp only [onMap, hfound] at h
          cases h
  | list start limit cursor => rfl

/-! ## What a history tells -/

/-- What is noted of a name once the operation has succeeded. -/
def noted (name : String) (known : Option Bytes) : Operation → Option Bytes
  | .create other value | .put other value => if other = name then some value else known
  | .delete other => if other = name then none else known
  | _ => known

/-- An operation changes the map as is noted of it: not at all if it fails. -/
theorem find?_onMap (m : Contents) (op : Operation) (name : String) :
    (op.onMap m).2.find? name =
      if (op.onMap m).1.isOk then op.noted name (m.find? name) else m.find? name := by
  have adding (other : String) (value : Bytes) :
      ((create other value).onMap m).2.find? name =
        if ((create other value).onMap m).1.isOk then
          (create other value).noted name (m.find? name)
        else m.find? name := by
    cases hfound : m.find? other with
    | some taken =>
        simp only [onMap, hfound]
        rfl
    | none =>
        simp only [onMap, hfound]
        exact Contents.find?_insert m other name value
  cases op with
  | create other value => exact adding other value
  | put other value => exact adding other value
  | read other =>
      cases hfound : m.find? other with
      | some value => simp only [onMap, hfound, noted, ite_self]
      | none => simp only [onMap, hfound, noted, ite_self]
  | delete other =>
      cases hfound : m.find? other with
      | none =>
          simp only [onMap, hfound]
          rfl
      | some there =>
          simp only [onMap, hfound]
          exact Contents.find?_erase m other name
  | list start limit cursor => rfl

end Operation

/-- What a history tells of a name: the value of the last successful creation, unless a deletion
succeeded since. Operations that failed tell nothing. -/
def History.stored (name : String) (history : History) : Option Bytes :=
  history.foldl (fun known (op, brought) => if brought.isOk then op.noted name known else known)
    none

theorem History.stored_concat (name : String) (history : History) (op : Operation)
    (brought : Except Failure Answer) :
    stored name (history ++ [(op, brought)]) =
      if brought.isOk then op.noted name (stored name history) else stored name history := by
  rw [stored, List.foldl_append]
  rfl

/-- What an operation may bring after a history. Nothing stored is ever overwritten, and what is
read is what was stored. -/
def Operation.Follows (before : History) (brought : Except Failure Answer) : Operation → Prop
  | .create name _ | .put name _ =>
    brought = if (before.stored name).isSome then .error (.store .keyExists) else .ok .done
  | .read name =>
    brought = match before.stored name with
      | some value => .ok (.value value)
      | none => .error (.store .keyNotFound)
  | .delete name =>
    brought = if (before.stored name).isSome then .ok .done else .error (.store .keyNotFound)
  | .list start limit cursor => ∃ names : Finset String,
    (∀ name, name ∈ names ↔ (before.stored name).isSome = true) ∧
      brought = .ok (.page (Listing.portion names start limit cursor))

namespace Operation

theorem find?_traced (ops : List Operation) (name : String) :
    (traced ops).2.find? name = (traced ops).1.stored name := by
  induction ops using List.reverseRecOn with
  | nil => exact Contents.find?_empty name
  | append_singleton ops op ih =>
      rw [traced_concat, find?_onMap, ih]
      exact (History.stored_concat name _ op _).symm

theorem follows_onMap {m : Contents} {before : History}
    (h : ∀ name, m.find? name = before.stored name) (op : Operation) :
    op.Follows before (op.onMap m).1 := by
  cases op with
  | create name value =>
      simp only [Follows, onMap, ← h]
      cases m.find? name <;> rfl
  | put name value =>
      simp only [Follows, onMap, ← h]
      cases m.find? name <;> rfl
  | read name =>
      simp only [Follows, onMap, ← h]
      cases m.find? name <;> rfl
  | delete name =>
      simp only [Follows, onMap, ← h]
      cases m.find? name <;> rfl
  | list start limit cursor =>
      refine ⟨m.keys, fun name => ?_, rfl⟩
      rw [Contents.mem_keys_iff, h]

/-- Within a run, an operation acts on the map that the operations before it have left. -/
theorem traced_split {ops : List Operation} {before rest : History} {op : Operation}
    {brought : Except Failure Answer} (h : (traced ops).1 = before ++ (op, brought) :: rest) :
    (traced (before.map (·.1))).1 = before ∧
      brought = (op.onMap (traced (before.map (·.1))).2).1 := by
  induction ops using List.reverseRecOn generalizing rest with
  | nil => simp [traced] at h
  | append_singleton ops last ih =>
      have listed : (traced ops).1.map (·.1) = ops := map_traced ops
      rw [traced_concat] at h
      rcases List.eq_nil_or_concat rest with rfl | ⟨rest, final, rfl⟩
      · obtain ⟨rfl, hlast⟩ := List.append_inj' h rfl
        cases hlast
        rw [listed]
        exact ⟨rfl, rfl⟩
      · rw [List.concat_eq_append, ← List.cons_append, ← List.append_assoc] at h
        exact ih (List.append_inj' h rfl).1

theorem follows_traced {ops : List Operation} {before rest : History} {op : Operation}
    {brought : Except Failure Answer} (h : (traced ops).1 = before ++ (op, brought) :: rest) :
    op.Follows before brought := by
  obtain ⟨hbefore, rfl⟩ := traced_split h
  apply follows_onMap
  intro name
  rw [find?_traced, hbefore]

theorem traced_error {ops : List Operation} {before rest : History} {op : Operation} {e : Failure}
    (h : (traced ops).1 = before ++ (op, .error e) :: rest) :
    (traced (before.map (·.1) ++ [op])).2 = (traced (before.map (·.1))).2 := by
  obtain ⟨_, failed⟩ := traced_split h
  rw [traced_concat]
  exact onMap_error failed.symm

end Operation

/-! ## The store in memory -/

namespace MemoryStore

variable {T σ : Type} [Seconds T]

open SecretVault.Action

theorem find?_insert {s : MemoryStore} {name : String} (value : Bytes) (h : s.find? name = none)
    (other : String) :
    (s.insert name value).find? other = if name = other then some value else s.find? other :=
  valueUnder?_append s.entries name other value h

theorem find?_erase (s : MemoryStore) (name other : String) :
    (s.erase name).find? other = if name = other then none else s.find? other :=
  valueUnder?_filter s.entries name other

def Represents (s : MemoryStore) (m : Contents) : Prop :=
  ∀ name, s.find? name = m.find? name

theorem represents_empty : empty.Represents ∅ :=
  fun name => (Contents.find?_empty name).symm

theorem names_toFinset {s : MemoryStore} {m : Contents} (h : s.Represents m) :
    s.names.toFinset = m.keys := by
  ext name
  rw [List.mem_toFinset, Contents.mem_keys_iff, ← h name]
  exact (isSome_valueUnder? s.entries name).symm

/-- An operation whose context is not done brings what it brings on the map, and leaves the entries
that it leaves there. -/
theorem outcome_onMemory {s : MemoryStore} {m : Contents} (h : s.Represents m) {ctx : Context T}
    {w : World T σ} (alive : ctx.err w.moment = none) (op : Operation) :
    ∃ s', (op.onMemory ctx).outcome (s, w) = ((op.onMap m).1.mapError .plain, s', w) ∧
      s'.Represents (op.onMap m).2 := by
  have checked : (check ctx : Op T σ Unit).outcome (s, w) = (.ok (), s, w) := by
    rw [check, outcome_onSecond, World.outcome_check, alive]
  have adding (name : String) (value : Bytes) :
      ∃ s', ((Operation.create name value).onMemory ctx).outcome (s, w) =
        (((Operation.create name value).onMap m).1.mapError .plain, s', w) ∧
        s'.Represents ((Operation.create name value).onMap m).2 := by
    simp only [Operation.onMemory, create, outcome_bind, checked, outcome_get, Operation.onMap,
      ← h name]
    cases hfound : s.find? name with
    | some taken => exact ⟨s, rfl, h⟩
    | none =>
        refine ⟨s.insert name value, rfl, fun other => ?_⟩
        rw [find?_insert value hfound, Contents.find?_insert, h other]
  cases op with
  | create name value => exact adding name value
  | put name value => exact adding name value
  | read name =>
      simp only [Operation.onMemory, read, outcome_bind, checked, outcome_get, Operation.onMap,
        ← h name]
      cases s.find? name with
      | some value => exact ⟨s, rfl, h⟩
      | none => exact ⟨s, rfl, h⟩
  | delete name =>
      simp only [Operation.onMemory, delete, outcome_bind, checked, outcome_get, Operation.onMap,
        ← h name]
      cases s.find? name with
      | none => exact ⟨s, rfl, h⟩
      | some there =>
          refine ⟨s.erase name, rfl, fun other => ?_⟩
          rw [find?_erase, Contents.find?_erase, h other]
  | list start limit cursor =>
      simp only [Operation.onMemory, list, outcome_bind, checked, outcome_get, Operation.onMap,
        outcome_pure, Listing.page_eq_portion, names_toFinset h]
      exact ⟨s, rfl, h⟩

end MemoryStore

end SecretVault
