import SecretVault.Value.Overlay

/-!
The overlay of two mappings, written out: the lower entries in their order, each with its value
overlaid by the upper one, and after them the upper entries with new keys. A mapping has each of its
keys once. Values that the upper mapping replaces have no part in the overlay.
-/

namespace SecretVault

namespace Entries

variable {entries lower upper : Entries} {key : Scalar} {value : Value}

/-! ## Keys -/

@[simp] theorem keys_nil : keys [] = [] := rfl

@[simp] theorem keys_cons (key : Scalar) (value : Value) (rest : Entries) :
    keys ((key, value) :: rest) = key.key :: keys rest := rfl

theorem nodup_keys_cons {rest : Entries} :
    (keys ((key, value) :: rest)).Nodup ↔ key.key ∉ keys rest ∧ (keys rest).Nodup :=
  List.nodup_cons

theorem key_mem_keys (h : (key, value) ∈ entries) : key.key ∈ keys entries :=
  List.mem_map_of_mem h

theorem find?_eq_none_iff : find? key entries = none ↔ key.key ∉ keys entries := by
  induction entries with
  | nil => simp [find?]
  | cons entry rest ih =>
      obtain ⟨k, v⟩ := entry
      by_cases h : k.key = key.key
      · simp [find?, h]
      · simp [find?, h, ih, Ne.symm h]

theorem mem_of_find? (h : find? key entries = some value) :
    ∃ k, (k, value) ∈ entries ∧ k.key = key.key := by
  induction entries with
  | nil => cases h
  | cons entry rest ih =>
      obtain ⟨k, v⟩ := entry
      by_cases hk : k.key = key.key
      · obtain rfl : v = value := by simpa [find?, hk] using h
        exact ⟨k, List.mem_cons_self, hk⟩
      · obtain ⟨k', hmem, hk'⟩ := ih (by simpa [find?, hk] using h)
        exact ⟨k', List.mem_cons_of_mem _ hmem, hk'⟩

theorem find?_congr {other : Scalar} (h : key.key = other.key) (entries : Entries) :
    find? key entries = find? other entries := by
  induction entries with
  | nil => rfl
  | cons entry rest ih => rw [find?, find?, Scalar.sameKey, Scalar.sameKey, h, ih]

theorem find?_of_mem (distinct : (keys entries).Nodup) (h : (key, value) ∈ entries) :
    find? key entries = some value := by
  induction entries with
  | nil => cases h
  | cons entry rest ih =>
      obtain ⟨k, v⟩ := entry
      obtain ⟨absent, distinct⟩ := nodup_keys_cons.mp distinct
      rcases List.mem_cons.mp h with first | later
      · cases first
        simp [find?]
      · have apart : k.key ≠ key.key := by
          intro same
          rw [same] at absent
          exact absent (key_mem_keys later)
        simpa [find?, apart] using ih distinct later

/-! ## One entry written -/

/-- The entries after a write under a key that stands among them. -/
def rewritten (key : Scalar) (f : Value → Value) (entries : Entries) : Entries :=
  entries.map fun (k, v) => if k.key = key.key then (k, f v) else (k, v)

theorem rewritten_of_absent (absent : key.key ∉ keys entries) (f : Value → Value) :
    rewritten key f entries = entries := by
  refine (List.map_congr_left ?_).trans (List.map_id entries)
  rintro ⟨k, v⟩ hmem
  have apart : k.key ≠ key.key := by
    intro same
    exact absent (same ▸ key_mem_keys hmem)
  simp [apart]

/-- Writing under a key changes the value there, or adds an entry at the end. -/
theorem alter_eq (distinct : (keys entries).Nodup) (f : Option Value → Value) :
    alter key f entries =
      rewritten key (fun v => f (some v)) entries ++
        if key.key ∈ keys entries then [] else [(key, f none)] := by
  induction entries with
  | nil => rfl
  | cons entry rest ih =>
      obtain ⟨k, v⟩ := entry
      obtain ⟨absent, distinct⟩ := nodup_keys_cons.mp distinct
      by_cases hk : k.key = key.key
      · rw [hk] at absent
        have kept := rewritten_of_absent absent fun v => f (some v)
        unfold rewritten at kept ⊢
        simp [alter, hk, kept]
      · have later := ih distinct
        unfold rewritten at later ⊢
        simp [alter, hk, later, Ne.symm hk]

theorem keys_alter (key : Scalar) (f : Option Value → Value) (entries : Entries) :
    keys (alter key f entries) =
      if key.key ∈ keys entries then keys entries else keys entries ++ [key.key] := by
  induction entries with
  | nil => rfl
  | cons entry rest ih =>
      obtain ⟨k, v⟩ := entry
      by_cases hk : k.key = key.key
      · simp [alter, hk]
      · by_cases hmem : key.key ∈ keys rest
        · simp [alter, hk, ih, hmem]
        · simp [alter, hk, ih, hmem, Ne.symm hk]

theorem nodup_keys_alter (distinct : (keys entries).Nodup) (f : Option Value → Value) :
    (keys (alter key f entries)).Nodup := by
  rw [keys_alter]
  split
  · exact distinct
  · rename_i absent
    rw [List.nodup_append]
    refine ⟨distinct, by simp, ?_⟩
    intro k hk k' hk' same
    rw [List.mem_singleton.mp hk'] at same
    exact absent (same ▸ hk)

end Entries

/-! ## The overlay written out -/

namespace Value

@[simp] theorem overlay_null (value : Value) : Value.overlay .null value = value := by
  cases value <;> rfl

@[simp] theorem overlay_map (lower upper : Entries) :
    Value.overlay (.map lower) (.map upper) = .map (Entries.overlay lower upper) := rfl

/-- Whether both values are mappings, so that one over the other keeps something of both. -/
def AreMaps (lower upper : Value) : Prop :=
  (∃ old, lower = .map old) ∧ ∃ new, upper = .map new

/-- Everywhere but in two mappings the upper value replaces the lower one. -/
theorem overlay_of_not_maps {lower upper : Value} (h : ¬ AreMaps lower upper) :
    Value.overlay lower upper = upper := by
  cases upper with
  | map new =>
      cases lower with
      | map old => exact absurd ⟨⟨old, rfl⟩, new, rfl⟩ h
      | _ => rfl
  | _ => rfl

end Value

namespace Entries

variable {entries lower upper : Entries} {key : Scalar} {value : Value}

def covered (upper : Entries) (entry : Scalar × Value) : Scalar × Value :=
  (entry.1, (find? entry.1 upper).elim entry.2 (Value.overlay entry.2))

def added (lower upper : Entries) : Entries :=
  upper.filter fun entry => (find? entry.1 lower).isNone

theorem added_cons (lower rest : Entries) (key : Scalar) (value : Value) :
    added lower ((key, value) :: rest) =
      (if key.key ∈ keys lower then [] else [(key, value)]) ++ added lower rest := by
  by_cases h : key.key ∈ keys lower
  · have found : (find? key lower).isNone = false := by
      rw [Bool.eq_false_iff, ne_eq, Option.isNone_iff_eq_none, find?_eq_none_iff]
      exact fun absent => absent h
    simp [added, h, found]
  · have absent : (find? key lower).isNone = true := by
      rw [Option.isNone_iff_eq_none, find?_eq_none_iff]
      exact h
    simp [added, h, absent]

/-- The lower entries come first and in their order, each with its value overlaid; the upper entries
with new keys follow in theirs. -/
theorem overlay_eq (distinct : (keys lower).Nodup) (distinct' : (keys upper).Nodup) :
    overlay lower upper = lower.map (covered upper) ++ added lower upper := by
  induction upper generalizing lower with
  | nil =>
      have kept : lower.map (covered []) = lower := List.map_id lower
      rw [kept]
      exact (List.append_nil lower).symm
  | cons entry rest ih =>
      obtain ⟨key, value⟩ := entry
      obtain ⟨absent, distinct'⟩ := nodup_keys_cons.mp distinct'
      let write (old : Option Value) : Value := Value.overlay (old.getD .null) value
      -- the first upper entry is written, and no later one changes its place again
      have not_again := find?_eq_none_iff.mpr absent
      have old_entries : (rewritten key (fun v => write (some v)) lower).map (covered rest) =
          lower.map (covered ((key, value) :: rest)) := by
        rw [rewritten, List.map_map]
        refine List.map_congr_left ?_
        rintro ⟨k, v⟩ -
        by_cases hk : k.key = key.key
        · simp [covered, find?, hk, find?_congr hk, not_again, write]
        · simp [covered, find?, hk, Ne.symm hk]
      have new_entry : (if key.key ∈ keys lower then [] else [(key, write none)]).map
          (covered rest) = if key.key ∈ keys lower then [] else [(key, value)] := by
        split
        · rfl
        · simp [covered, not_again, write]
      have new_entries : added (alter key write lower) rest = added lower rest := by
        refine List.filter_congr ?_
        rintro ⟨k, v⟩ hmem
        have apart : key.key ≠ k.key := by
          intro same
          rw [same] at absent
          exact absent (key_mem_keys hmem)
        simp [find?_alter, apart]
      calc overlay lower ((key, value) :: rest)
          = (alter key write lower).map (covered rest) ++ added (alter key write lower) rest :=
            ih (nodup_keys_alter distinct write) distinct'
        _ = lower.map (covered ((key, value) :: rest)) ++
              ((if key.key ∈ keys lower then [] else [(key, value)]) ++ added lower rest) := by
            rw [new_entries, alter_eq distinct, List.map_append, old_entries, new_entry,
              List.append_assoc]
        _ = lower.map (covered ((key, value) :: rest)) ++ added lower ((key, value) :: rest) := by
            rw [added_cons]

end Entries

/-! ## Values that are replaced -/

/-- A property of all values, from the parts of a value to the value. -/
theorem Value.byParts {motive : Value → Prop} (scalar : ∀ s, motive (.scalar s))
    (list : ∀ items : List Value, (∀ v ∈ items, motive v) → motive (.list items))
    (map : ∀ entries : Entries, (∀ entry ∈ entries, motive entry.2) → motive (.map entries))
    (set : ∀ members, motive (.set members))
    (pair : ∀ first second, motive (.pair first second)) : ∀ v, motive v
  | .scalar s => scalar s
  | .list items => list items fun v _ => byParts scalar list map set pair v
  | .map entries => map entries fun entry h =>
      have : sizeOf entry.2 < sizeOf entries := by
        have := List.sizeOf_lt_of_mem h
        cases entry
        simp_all
        omega
      byParts scalar list map set pair entry.2
  | .set members => set members
  | .pair first second => pair first second

/-- Every mapping in the value has each of its keys once. -/
inductive Value.Keyed : Value → Prop where
  | scalar (s : Scalar) : Keyed (.scalar s)
  | list {items : List Value} (each : ∀ v ∈ items, Keyed v) : Keyed (.list items)
  | map {entries : Entries} (distinct : (Entries.keys entries).Nodup)
      (each : ∀ entry ∈ entries, Keyed entry.2) : Keyed (.map entries)
  | set (members : List Scalar) : Keyed (.set members)
  | pair {first second : Value} (left : Keyed first) (right : Keyed second) :
      Keyed (.pair first second)

@[simp] theorem Value.keyed_scalar (s : Scalar) : Keyed (.scalar s) :=
  .scalar s

@[simp] theorem Value.keyed_list_iff {items : List Value} :
    Keyed (.list items) ↔ ∀ v ∈ items, Keyed v := by
  constructor
  · intro keyed
    cases keyed with
    | list each => exact each
  · exact .list

@[simp] theorem Value.keyed_map_iff {entries : Entries} :
    Keyed (.map entries) ↔ (Entries.keys entries).Nodup ∧ ∀ entry ∈ entries, Keyed entry.2 := by
  constructor
  · intro keyed
    cases keyed with
    | map distinct each => exact ⟨distinct, each⟩
  · rintro ⟨distinct, each⟩
    exact .map distinct each

namespace Entries

open Value (Keyed AreMaps)

variable {lower upper : Entries} {key : Scalar} {value : Value}

theorem distinct_of_keyed (keyed : Keyed (.map lower)) : (keys lower).Nodup :=
  (Value.keyed_map_iff.mp keyed).1

theorem keyed_of_mem (keyed : Keyed (.map lower)) (h : (key, value) ∈ lower) : Keyed value :=
  (Value.keyed_map_iff.mp keyed).2 _ h

theorem keyed_of_find? (keyed : Keyed (.map lower)) (h : find? key lower = some value) :
    Keyed value := by
  obtain ⟨k, hmem, _⟩ := mem_of_find? h
  exact keyed_of_mem keyed hmem

/-- Two lower mappings that have the same keys, and the same values but where the upper mapping
replaces the one and the other. -/
inductive AlikeUnder : Entries → Entries → Entries → Prop where
  | nil (upper : Entries) : AlikeUnder upper [] []
  | same {upper lower other : Entries} (key : Scalar) (value : Value)
      (rest : AlikeUnder upper lower other) :
      AlikeUnder upper ((key, value) :: lower) ((key, value) :: other)
  | replaced {upper lower other : Entries} {key : Scalar} {old old' new : Value}
      (found : find? key upper = some new)
      (whole : ¬ AreMaps old new) (whole' : ¬ AreMaps old' new)
      (rest : AlikeUnder upper lower other) :
      AlikeUnder upper ((key, old) :: lower) ((key, old') :: other)
  | within {upper lower other old old' new : Entries} {key : Scalar}
      (found : find? key upper = some (.map new))
      (inner : AlikeUnder new old old') (rest : AlikeUnder upper lower other) :
      AlikeUnder upper ((key, .map old) :: lower) ((key, .map old') :: other)

variable {other : Entries}

theorem AlikeUnder.keys_eq (alike : AlikeUnder upper lower other) : keys other = keys lower := by
  induction alike with
  | nil => rfl
  | same key value _ ih => simp [ih]
  | replaced _ _ _ _ ih => simp [ih]
  | within _ _ _ _ ih => simp [ih]

theorem overlay_congr (distinct : (keys lower).Nodup) (distinct' : (keys upper).Nodup)
    (same_keys : keys other = keys lower)
    (same_covered : other.map (covered upper) = lower.map (covered upper)) :
    overlay other upper = overlay lower upper := by
  have same_added : added other upper = added lower upper := by
    refine List.filter_congr ?_
    rintro ⟨k, v⟩ -
    rw [Bool.eq_iff_iff, Option.isNone_iff_eq_none, Option.isNone_iff_eq_none, find?_eq_none_iff,
      find?_eq_none_iff, same_keys]
  rw [overlay_eq distinct distinct', overlay_eq (same_keys ▸ distinct) distinct', same_added,
    same_covered]

theorem AlikeUnder.covered_eq (alike : AlikeUnder upper lower other) (keyed : Keyed (.map lower))
    (keyed' : Keyed (.map upper)) : other.map (covered upper) = lower.map (covered upper) := by
  have tail {key : Scalar} {value : Value} {rest : Entries}
      (keyed : Keyed (.map ((key, value) :: rest))) : Keyed (.map rest) :=
    .map (nodup_keys_cons.mp (distinct_of_keyed keyed)).2 fun _ hmem =>
      keyed_of_mem keyed (List.mem_cons_of_mem _ hmem)
  induction alike with
  | nil => rfl
  | same key value rest ih => rw [List.map_cons, List.map_cons, ih (tail keyed) keyed']
  | @replaced _ _ _ key old old' new found whole whole' rest ih =>
      rw [List.map_cons, List.map_cons, ih (tail keyed) keyed']
      simp [covered, found, Value.overlay_of_not_maps whole, Value.overlay_of_not_maps whole']
  | @within _ _ _ old old' new key found inner rest ihInner ih =>
      have old_keyed := keyed_of_mem keyed List.mem_cons_self
      have new_keyed := keyed_of_find? keyed' found
      have same_inner : overlay old' new = overlay old new :=
        overlay_congr (distinct_of_keyed old_keyed) (distinct_of_keyed new_keyed) inner.keys_eq
          (ihInner old_keyed new_keyed)
      rw [List.map_cons, List.map_cons, ih (tail keyed) keyed']
      simp [covered, found, same_inner]

/-- Values that are replaced have no part in the overlay. -/
theorem AlikeUnder.overlay_eq (alike : AlikeUnder upper lower other) (keyed : Keyed (.map lower))
    (keyed' : Keyed (.map upper)) : overlay other upper = overlay lower upper :=
  overlay_congr (distinct_of_keyed keyed) (distinct_of_keyed keyed') alike.keys_eq
    (alike.covered_eq keyed keyed')

end Entries

end SecretVault
