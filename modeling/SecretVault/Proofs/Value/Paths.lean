import Mathlib.Data.List.Infix
import SecretVault.Proofs.Value.Overlay

/-!
The overlay of two mappings, path by path. What the upper mapping has at a path counts. Where it has
nothing, the lower one counts, unless on the way there the upper mapping has something that is no
mapping and hides all that would lie below. Laying a mapping over itself, or twice over another,
adds nothing.
-/

namespace SecretVault

namespace Value

def IsMap (v : Value) : Prop :=
  ∃ entries, v = .map entries

/-- Whether a proper beginning of the path leads to something that is no mapping. -/
def Hides (v : Value) (path : List Scalar) : Prop :=
  ∃ front inner, front <+: path ∧ front ≠ path ∧ v.at? front = some inner ∧ ¬ inner.IsMap

variable {v : Value} {key : Scalar} {path : List Scalar}

@[simp] theorem isMap_map (entries : Entries) : (Value.map entries).IsMap :=
  ⟨entries, rfl⟩

/-! ## Steps along a path -/

@[simp] theorem at?_nil (v : Value) : v.at? [] = some v := by
  cases v <;> rfl

@[simp] theorem at?_map_one (entries : Entries) (key : Scalar) :
    (Value.map entries).at? [key] = Entries.find? key entries := by
  rw [Value.at?]
  cases Entries.find? key entries with
  | none => rfl
  | some v => exact at?_nil v

theorem at?_one_of_not_map (other : ¬ v.IsMap) (key : Scalar) : v.at? [key] = none := by
  cases v with
  | map entries => exact absurd ⟨entries, rfl⟩ other
  | _ => rfl

theorem at?_cons (v : Value) (key : Scalar) (path : List Scalar) :
    v.at? (key :: path) = (v.at? [key]).bind (·.at? path) := by
  cases v with
  | map entries =>
      rw [at?_map_one, Value.at?]
      cases Entries.find? key entries <;> rfl
  | _ => rfl

theorem not_hides_nil (v : Value) : ¬ v.Hides [] := by
  rintro ⟨front, _, beginning, proper, -⟩
  exact proper (List.prefix_nil.mp beginning)

/-- What is hidden is hidden at once, or behind the first key. -/
theorem hides_cons_iff : v.Hides (key :: path) ↔
    ¬ v.IsMap ∨ ∃ inner, v.at? [key] = some inner ∧ inner.Hides path := by
  constructor
  · rintro ⟨front, inner, beginning, proper, found, other⟩
    cases front with
    | nil =>
        rw [at?_nil] at found
        obtain rfl := Option.some.inj found
        exact .inl other
    | cons first front =>
        obtain ⟨rfl, shorter⟩ := List.cons_prefix_cons.mp beginning
        rw [at?_cons, Option.bind_eq_some_iff] at found
        obtain ⟨next, step, found⟩ := found
        exact .inr ⟨next, step, front, inner, shorter, fun same => proper (same ▸ rfl), found,
          other⟩
  · rintro (other | ⟨next, step, front, inner, beginning, proper, found, other⟩)
    · exact ⟨[], v, List.nil_prefix, by simp, at?_nil v, other⟩
    · refine ⟨key :: front, inner, List.cons_prefix_cons.mpr ⟨rfl, beginning⟩, ?_, ?_, other⟩
      · simpa using proper
      · rw [at?_cons, step]
        exact found

end Value

/-! ## One key of an overlay -/

namespace Entries

variable {lower upper : Entries} {key : Scalar}

/-- Under each key lies what the upper mapping has there, laid over what the lower one has. -/
theorem find?_overlay (distinct : (keys upper).Nodup) (key : Scalar) (lower : Entries) :
    find? key (overlay lower upper) = (find? key upper).elim (find? key lower) fun new =>
      some (Value.overlay ((find? key lower).getD .null) new) := by
  induction upper generalizing lower with
  | nil => rfl
  | cons entry rest ih =>
      obtain ⟨k, new⟩ := entry
      obtain ⟨absent, distinct⟩ := nodup_keys_cons.mp distinct
      have written : find? key (overlayOne lower (k, new)) = if k.key = key.key
          then some (Value.overlay ((find? k lower).getD .null) new) else find? key lower :=
        find?_alter k key _ lower
      have later : find? key (overlay lower ((k, new) :: rest)) =
          (find? key rest).elim (find? key (overlayOne lower (k, new))) fun new' =>
            some (Value.overlay ((find? key (overlayOne lower (k, new))).getD .null) new') :=
        ih distinct _
      by_cases same : k.key = key.key
      · -- the key is not written again
        have not_again : find? key rest = none := find?_eq_none_iff.mpr (same ▸ absent)
        rw [later, not_again, written, if_pos same, find?_congr same]
        simp [find?, same]
      · rw [later, written, if_neg same]
        simp [find?, same]

end Entries

/-! ## Paths of an overlay -/

namespace Value

variable {lower upper new : Value} {key : Scalar} {path : List Scalar}

theorem keyed_of_at? (keyed : Keyed upper) (found : upper.at? path = some new) : Keyed new := by
  induction path generalizing upper with
  | nil =>
      rw [at?_nil] at found
      exact Option.some.inj found ▸ keyed
  | cons key path ih =>
      rw [at?_cons, Option.bind_eq_some_iff] at found
      obtain ⟨inner, step, found⟩ := found
      cases upper with
      | map entries =>
          rw [at?_map_one] at step
          exact ih (Entries.keyed_of_find? keyed step) found
      | _ => cases step

theorem at?_one_overlay (keyed : Keyed upper) (mapped : upper.IsMap) (lower : Value)
    (key : Scalar) :
    (Value.overlay lower upper).at? [key] = (upper.at? [key]).elim (lower.at? [key]) fun new =>
      some (Value.overlay ((lower.at? [key]).getD .null) new) := by
  obtain ⟨entries, rfl⟩ := mapped
  by_cases below : lower.IsMap
  · obtain ⟨old, rfl⟩ := below
    rw [overlay_map, at?_map_one, at?_map_one, at?_map_one,
      Entries.find?_overlay (Entries.distinct_of_keyed keyed)]
  · rw [overlay_of_not_maps fun maps => below maps.1, at?_one_of_not_map below]
    cases (Value.map entries).at? [key] with
    | none => rfl
    | some new => simp

open scoped Classical in
/-- At each path lies what the upper value has there, laid over what the lower one has; or what the
lower one has there, unless the upper one hides it. -/
theorem at?_overlay (keyed : Keyed upper) (lower : Value) (path : List Scalar) :
    (Value.overlay lower upper).at? path =
      (upper.at? path).elim (if upper.Hides path then none else lower.at? path) fun new =>
        some (Value.overlay ((lower.at? path).getD .null) new) := by
  induction path generalizing lower upper with
  | nil => simp
  | cons key path ih =>
      by_cases mapped : upper.IsMap
      · rw [at?_cons, at?_one_overlay keyed mapped, at?_cons upper key path,
          at?_cons lower key path]
        cases step : upper.at? [key] with
        | none =>
            have open_ : ¬ upper.Hides (key :: path) := by
              simp [hides_cons_iff, mapped, step]
            simp [open_]
        | some next =>
            have same : upper.Hides (key :: path) ↔ next.Hides path := by
              simp [hides_cons_iff, mapped, step]
            have along := ih (keyed_of_at? keyed step) ((lower.at? [key]).getD .null)
            simp only [Option.elim_some, Option.bind_some, along, same]
            cases below : lower.at? [key] with
            | some old => rfl
            | none =>
                -- below nothing there is nothing, and over nothing the upper value is kept
                cases path with
                | nil => simp
                | cons key' path => rfl
      · have hidden : upper.Hides (key :: path) := hides_cons_iff.mpr (.inl mapped)
        rw [overlay_of_not_maps fun maps => mapped maps.2, at?_cons, at?_one_of_not_map mapped,
          if_pos hidden]
        rfl

theorem isMap_overlay (lower upper : Value) : (Value.overlay lower upper).IsMap ↔ upper.IsMap := by
  by_cases maps : AreMaps lower upper
  · obtain ⟨⟨old, rfl⟩, new, rfl⟩ := maps
    rw [overlay_map]
    exact iff_of_true ⟨_, rfl⟩ ⟨_, rfl⟩
  · rw [overlay_of_not_maps maps]

theorem overlay_eq_iff_of_not_map {v : Value} (other : ¬ v.IsMap) :
    Value.overlay lower upper = v ↔ upper = v := by
  by_cases maps : AreMaps lower upper
  · have mapped : upper.IsMap := maps.2
    have mapped' := (isMap_overlay lower upper).mpr mapped
    exact iff_of_false (fun same => other (same ▸ mapped')) fun same => other (same ▸ mapped)
  · rw [overlay_of_not_maps maps]

end Value

/-! ## Laying over what is there already -/

namespace Entries

open Value (Keyed AreMaps)

variable {lower upper entries : Entries} {key : Scalar} {value : Value}

theorem alter_eq_self {f : Option Value → Value} (found : find? key entries = some value)
    (same : f (some value) = value) : alter key f entries = entries := by
  induction entries with
  | nil => cases found
  | cons entry rest ih =>
      obtain ⟨k, v⟩ := entry
      by_cases hk : k.sameKey key = true
      · rw [find?, if_pos hk] at found
        obtain rfl := Option.some.inj found
        rw [alter, if_pos hk, same]
      · rw [find?, if_neg hk] at found
        rw [alter, if_neg hk, ih found]

/-- Upper entries that add nothing to what lies under their keys leave a mapping as it is. -/
theorem overlay_eq_self (idle : ∀ key new, (key, new) ∈ upper →
    ∃ old, find? key lower = some old ∧ Value.overlay old new = old) :
    overlay lower upper = lower := by
  induction upper with
  | nil => rfl
  | cons entry rest ih =>
      obtain ⟨key, new⟩ := entry
      obtain ⟨old, found, same⟩ := idle key new List.mem_cons_self
      have unwritten : overlayOne lower (key, new) = lower := alter_eq_self found same
      calc overlay lower ((key, new) :: rest)
          = overlay (overlayOne lower (key, new)) rest := rfl
        _ = overlay lower rest := by rw [unwritten]
        _ = lower := ih fun key' new' later => idle key' new' (List.mem_cons_of_mem _ later)

end Entries

namespace Value

theorem overlay_self (v : Value) (keyed : Keyed v) : Value.overlay v v = v := by
  induction v using Value.byParts with
  | map entries each =>
      have same : Entries.overlay entries entries = entries := by
        refine Entries.overlay_eq_self fun key new stands => ?_
        have found := Entries.find?_of_mem (Entries.distinct_of_keyed keyed) stands
        exact ⟨new, found, each _ stands (Entries.keyed_of_mem keyed stands)⟩
      rw [overlay_map, same]
  | _ => rfl

/-- What was laid over once changes nothing when it is laid over again. -/
theorem overlay_overlay (lower upper : Value) (keyed : Keyed upper) :
    Value.overlay (Value.overlay lower upper) upper = Value.overlay lower upper := by
  induction upper using Value.byParts generalizing lower with
  | map entries each =>
      by_cases below : lower.IsMap
      · obtain ⟨old, rfl⟩ := below
        have distinct := Entries.distinct_of_keyed keyed
        have same : Entries.overlay (Entries.overlay old entries) entries =
            Entries.overlay old entries := by
          refine Entries.overlay_eq_self fun key new stands => ?_
          rw [Entries.find?_overlay distinct, Entries.find?_of_mem distinct stands]
          exact ⟨_, rfl, each _ stands _ (Entries.keyed_of_mem keyed stands)⟩
        rw [overlay_map, overlay_map, same]
      · rw [overlay_of_not_maps fun maps => below maps.1]
        exact overlay_self _ keyed
  | _ => rfl

end Value

/-! ## Overlays by path -/

namespace Entries

open Value (Keyed AreMaps)

variable {lower upper : Entries}

theorem map_fst_overlay (distinct : (keys lower).Nodup) (distinct' : (keys upper).Nodup) :
    (overlay lower upper).map (·.1) =
      lower.map (·.1) ++ (upper.map (·.1)).filter (fun key => key.key ∉ keys lower) := by
  have kept : (lower.map (covered upper)).map (·.1) = lower.map (·.1) := by
    rw [List.map_map]
    rfl
  have new_keys : (added lower upper).map (·.1) =
      (upper.map (·.1)).filter (fun key => key.key ∉ keys lower) := by
    rw [List.filter_map, added]
    refine congrArg (List.map _) (List.filter_congr fun entry _ => ?_)
    rw [Bool.eq_iff_iff, Option.isNone_iff_eq_none, find?_eq_none_iff]
    simp
  rw [overlay_eq distinct distinct', List.map_append, kept, new_keys]

/-- A mapping is one laid over another, path by path. -/
structure OverlaidByPath (lower upper merged : Entries) : Prop where
  /-- A value that is no mapping stands where the upper mapping has it, or where the lower one has
  it and the upper one has nothing and hides nothing. -/
  value_iff : ∀ (path : List Scalar) (v : Value), ¬ v.IsMap →
    ((Value.map merged).at? path = some v ↔
      (Value.map upper).at? path = some v ∨
        (Value.map upper).at? path = none ∧ ¬ (Value.map upper).Hides path ∧
          (Value.map lower).at? path = some v)
  /-- So it is for mappings, whatever is in them. -/
  map_iff : ∀ path : List Scalar,
    ((∃ v, (Value.map merged).at? path = some v ∧ v.IsMap) ↔
      (∃ v, (Value.map upper).at? path = some v ∧ v.IsMap) ∨
        (Value.map upper).at? path = none ∧ ¬ (Value.map upper).Hides path ∧
          ∃ v, (Value.map lower).at? path = some v ∧ v.IsMap)
  /-- Where both have a mapping, the keys of the lower one come first and in their order, and the
  new keys of the upper one follow in theirs. -/
  order : ∀ (path : List Scalar) (old new : Entries), (Value.map lower).at? path = some (.map old) →
    (Value.map upper).at? path = some (.map new) →
      ∃ entries, (Value.map merged).at? path = some (.map entries) ∧
        entries.map (·.1) = old.map (·.1) ++ (new.map (·.1)).filter (fun key => key.key ∉ keys old)

theorem overlaidByPath (keyed : Keyed (.map lower)) (keyed' : Keyed (.map upper)) :
    OverlaidByPath lower upper (overlay lower upper) := by
  have merged (path : List Scalar) := Value.at?_overlay keyed' (.map lower) path
  simp only [Value.overlay_map] at merged
  refine ⟨?_, ?_, ?_⟩
  · intro path v other
    rw [merged]
    cases (Value.map upper).at? path with
    | some new => simp [Value.overlay_eq_iff_of_not_map other]
    | none => by_cases hidden : (Value.map upper).Hides path <;> simp [hidden]
  · intro path
    rw [merged]
    cases (Value.map upper).at? path with
    | some new => simp [Value.isMap_overlay]
    | none => by_cases hidden : (Value.map upper).Hides path <;> simp [hidden]
  · intro path old new below above
    have old_keyed := Value.keyed_of_at? keyed below
    have new_keyed := Value.keyed_of_at? keyed' above
    refine ⟨overlay old new, ?_, ?_⟩
    · rw [merged, above, below]
      rfl
    · exact map_fst_overlay (distinct_of_keyed old_keyed) (distinct_of_keyed new_keyed)

theorem nil_overlay (distinct : (keys upper).Nodup) : overlay [] upper = upper := by
  have none_below : (keys []).Nodup := List.nodup_nil
  rw [overlay_eq none_below distinct]
  exact List.filter_true upper

/-- The overlay of two mappings whose keys are distinct is the one by path. An empty mapping adds
nothing, neither below nor above, and neither does a mapping that is laid over itself or over what
it was laid over before. -/
theorem overlay_laws (keyed : Keyed (.map lower)) (keyed' : Keyed (.map upper)) :
    OverlaidByPath lower upper (overlay lower upper) ∧
      overlay lower [] = lower ∧ overlay [] upper = upper ∧ overlay lower lower = lower ∧
      overlay (overlay lower upper) upper = overlay lower upper := by
  refine ⟨overlaidByPath keyed keyed', rfl, nil_overlay (distinct_of_keyed keyed'), ?_, ?_⟩
  · exact Value.map.inj (Value.overlay_self (.map lower) keyed)
  · exact Value.map.inj (Value.overlay_overlay (.map lower) (.map upper) keyed')

/-- A section that is laid over another: its mapping goes together with the lower one, and its text
hides another mapping of it. -/
theorem stagingSection_overlaid :
    let main : Entries := [(.str "region", .str "eu-central-1"),
      (.str "aws", .map [(.str "addr", .str "main"), (.str "login", .str "root")]),
      (.str "local", .map [(.str "path", .str "/tmp")])]
    let staging : Entries := [(.str "local", .str "none"),
      (.str "aws", .map [(.str "kms", .null), (.str "addr", .str "staging")])]
    Keyed (.map main) ∧ Keyed (.map staging) ∧
      (Value.map (overlay main staging)).at? [.str "aws", .str "login"] = some (.str "root") ∧
      (Value.map (overlay main staging)).at? [.str "local", .str "path"] ≠ some (.str "/tmp") ∧
      overlay (overlay main staging) staging = overlay main staging := by
  intro main staging
  have main_keyed : Keyed (.map main) := by simp [main, Scalar.key]
  have staging_keyed : Keyed (.map staging) := by simp [staging, Scalar.key]
  have text (s : String) : ¬ (Value.str s).IsMap := by rintro ⟨_, ⟨⟩⟩
  obtain ⟨by_path, -, -, -, again⟩ := overlay_laws main_keyed staging_keyed
  refine ⟨main_keyed, staging_keyed, ?_, ?_, again⟩
  · refine (by_path.value_iff _ _ (text _)).mpr (.inr ⟨rfl, ?_, rfl⟩)
    simp [Value.hides_cons_iff, Value.not_hides_nil, staging, find?, Scalar.key]
  · intro found
    rcases (by_path.value_iff _ _ (text _)).mp found with above | ⟨-, shown, -⟩
    · cases above
    · exact shown ⟨[.str "local"], .str "none", by simp, by simp, rfl, text _⟩

end Entries

end SecretVault
