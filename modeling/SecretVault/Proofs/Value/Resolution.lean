import SecretVault.Proofs.Action.Outcome
import SecretVault.Proofs.Placeholder
import SecretVault.Proofs.Value.Overlay
import SecretVault.Settings.Cell

/-!
Resolving and overlaying commute. Resolving leaves keys alone and makes a mapping of a mapping and
nothing else, so an overlay takes the same ways before and after. It fails exactly at the strings
that survive an overlay; a string that the upper mapping replaces is never looked at.
-/

namespace SecretVault

/-! ## Two steps in turn -/

section

variable {ε α β γ : Type} {x : Except ε α} {y : Except ε β}

def Fails (x : Except ε α) : Prop :=
  ∃ e, x = .error e

@[simp] theorem fails_error (e : ε) : Fails (.error e : Except ε α) :=
  ⟨e, rfl⟩

@[simp] theorem not_fails_ok (a : α) : ¬ Fails (.ok a : Except ε α) := by
  rintro ⟨_, h⟩
  cases h

@[simp] theorem fails_map (f : α → β) : Fails (x.map f) ↔ Fails x := by
  cases x <;> simp [Except.map]

theorem fails_both (f : α → β → γ) :
    Fails (do let a ← x; let b ← y; return f a b) ↔ Fails x ∨ Fails y := by
  cases x <;> cases y <;> simp [bind, Except.bind, pure, Except.pure]

theorem both_eq_ok {f : α → β → γ} {c : γ} :
    (do let a ← x; let b ← y; return f a b) = Except.ok c ↔
      ∃ a b, x = .ok a ∧ y = .ok b ∧ f a b = c := by
  cases x <;> cases y <;> simp [bind, Except.bind, pure, Except.pure]

theorem map_eq_ok {f : α → β} {b : β} : x.map f = .ok b ↔ ∃ a, x = .ok a ∧ f a = b := by
  cases x <;> simp [Except.map]

theorem map_eq_error {f : α → β} {e : ε} : x.map f = .error e ↔ x = .error e := by
  cases x <;> simp [Except.map]

end

/-! ## Where resolving fails -/

/-- Whether a placeholder that the text is parted at names a variable that cannot be had. -/
def Placeholder.IsUnset (env : Environment) (start s : CodePoints) : Prop :=
  ∃ parts last, Parted s parts last ∧ ∃ part ∈ parts, ∃ e, Refuses env start part.2 e

/-- Whether a text stands in a value where placeholders are looked for. -/
inductive Value.Holds (s : CodePoints) : Value → Prop where
  | here : Holds s (.str s)
  | item {v : Value} {items : List Value} (mem : v ∈ items) (holds : Holds s v) :
      Holds s (.list items)
  | entry {key : Scalar} {v : Value} {entries : Entries} (mem : (key, v) ∈ entries)
      (holds : Holds s v) : Holds s (.map entries)

variable {env : Environment} {start : CodePoints}

open Placeholder (IsUnset)

theorem Placeholder.Parted.fails_resolve {s last : CodePoints}
    {parts : List (CodePoints × CodePoints)} (h : Parted s parts last) :
    Fails (resolve env start s) ↔ ∃ part ∈ parts, ∃ e, Refuses env start part.2 e := by
  induction h with
  | last plain => simp [plain.resolve_eq]
  | @next _ _ name _ _ _ first later ih =>
      rcases holds_or_refuses env start name with ⟨value, holds⟩ | ⟨e, refuses⟩
      · rw [first.resolve_of_holds holds, fails_map, ih]
        simp [holds.not_refuses]
      · rw [first.resolve_of_refuses refuses]
        simp only [fails_error, List.mem_cons, exists_eq_or_imp, true_iff]
        exact .inl ⟨e, refuses⟩

theorem Placeholder.fails_resolve {s : CodePoints} :
    Fails (resolve env start s) ↔ IsUnset env start s := by
  constructor
  · intro fails
    obtain ⟨parts, last, parted⟩ := exists_parted s
    exact ⟨parts, last, parted, parted.fails_resolve.mp fails⟩
  · rintro ⟨parts, last, parted, unset⟩
    exact parted.fails_resolve.mpr unset

theorem fails_resolveItems {items : List Value} :
    Fails (resolveItems env start items) ↔ ∃ v ∈ items, Fails (v.resolve env start) := by
  induction items with
  | nil => simp [resolveItems]
  | cons v rest ih =>
      rw [resolveItems, fails_both, ih]
      simp

theorem fails_resolveEntries {entries : Entries} :
    Fails (resolveEntries env start entries) ↔
      ∃ entry ∈ entries, Fails (entry.2.resolve env start) := by
  induction entries with
  | nil => simp [resolveEntries]
  | cons entry rest ih =>
      rw [resolveEntries, fails_both, ih, resolveEntry, fails_map]
      simp only [List.mem_cons, exists_eq_or_imp]

theorem Value.fails_resolve (v : Value) :
    Fails (v.resolve env start) ↔ ∃ s, v.Holds s ∧ IsUnset env start s := by
  induction v using Value.byParts with
  | scalar c =>
      rw [Value.resolve, fails_map]
      cases c with
      | str s =>
          rw [Scalar.resolve, fails_map, Placeholder.fails_resolve]
          constructor
          · intro unset
            exact ⟨s, .here, unset⟩
          · rintro ⟨s', holds, unset⟩
            cases holds
            exact unset
      | _ =>
          simp only [Scalar.resolve, not_fails_ok, false_iff]
          rintro ⟨s', holds, -⟩
          cases holds
  | list items each =>
      rw [Value.resolve, fails_map, fails_resolveItems]
      constructor
      · rintro ⟨v, hmem, hfails⟩
        obtain ⟨s, holds, unset⟩ := (each v hmem).mp hfails
        exact ⟨s, .item hmem holds, unset⟩
      · rintro ⟨s, holds, unset⟩
        cases holds with
        | item hmem inner => exact ⟨_, hmem, (each _ hmem).mpr ⟨s, inner, unset⟩⟩
  | map entries each =>
      rw [Value.resolve, fails_map, fails_resolveEntries]
      constructor
      · rintro ⟨⟨key, v⟩, hmem, hfails⟩
        obtain ⟨s, holds, unset⟩ := (each _ hmem).mp hfails
        exact ⟨s, .entry hmem holds, unset⟩
      · rintro ⟨s, holds, unset⟩
        cases holds with
        | entry hmem inner => exact ⟨_, hmem, (each _ hmem).mpr ⟨s, inner, unset⟩⟩
  | set members =>
      rw [Value.resolve]
      simp only [not_fails_ok, false_iff]
      rintro ⟨s', holds, -⟩
      cases holds
  | pair first second =>
      rw [Value.resolve]
      simp only [not_fails_ok, false_iff]
      rintro ⟨s', holds, -⟩
      cases holds

/-! ## Resolving before and after -/

@[simp] theorem resolve_map_eq_ok {entries : Entries} {v : Value} :
    (Value.map entries).resolve env start = .ok v ↔
      ∃ entries', resolveEntries env start entries = .ok entries' ∧ .map entries' = v := by
  rw [Value.resolve, map_eq_ok]

theorem resolveEntries_cons_eq_ok {key : Scalar} {v : Value} {rest resolved : Entries} :
    resolveEntries env start ((key, v) :: rest) = .ok resolved ↔
      ∃ v' rest', v.resolve env start = .ok v' ∧ resolveEntries env start rest = .ok rest' ∧
        (key, v') :: rest' = resolved := by
  rw [resolveEntries, both_eq_ok, resolveEntry]
  simp only [map_eq_ok]
  constructor
  · rintro ⟨_, rest', ⟨v', hv, rfl⟩, hrest, hresolved⟩
    exact ⟨v', rest', hv, hrest, hresolved⟩
  · rintro ⟨v', rest', hv, hrest, hresolved⟩
    exact ⟨_, rest', ⟨v', hv, rfl⟩, hrest, hresolved⟩

theorem isMap_of_resolve {v v' : Value} (h : v.resolve env start = .ok v') :
    (∃ entries, v' = .map entries) ↔ ∃ entries, v = .map entries := by
  cases v with
  | map entries =>
      obtain ⟨entries', -, rfl⟩ := resolve_map_eq_ok.mp h
      simp
  | scalar c =>
      obtain ⟨c', -, rfl⟩ := map_eq_ok.mp h
      simp
  | list items =>
      obtain ⟨items', -, rfl⟩ := map_eq_ok.mp h
      simp
  | set members =>
      cases h
      simp
  | pair first second =>
      cases h
      simp

/-- A write changes the resolved entries as it changes the entries. -/
theorem resolveEntries_alter {key : Scalar} {f f' : Option Value → Value}
    {entries entries' : Entries} (h : resolveEntries env start entries = .ok entries')
    (fresh : (f none).resolve env start = .ok (f' none))
    (again : ∀ old old', old.resolve env start = .ok old' →
      (f (some old)).resolve env start = .ok (f' (some old'))) :
    resolveEntries env start (Entries.alter key f entries) =
      .ok (Entries.alter key f' entries') := by
  induction entries generalizing entries' with
  | nil =>
      cases h
      exact resolveEntries_cons_eq_ok.mpr ⟨_, _, fresh, rfl, rfl⟩
  | cons entry rest ih =>
      obtain ⟨k, v⟩ := entry
      obtain ⟨v', rest', hv, hrest, rfl⟩ := resolveEntries_cons_eq_ok.mp h
      by_cases hk : k.sameKey key = true
      · rw [Entries.alter, Entries.alter, if_pos hk, if_pos hk]
        exact resolveEntries_cons_eq_ok.mpr ⟨_, _, again v v' hv, hrest, rfl⟩
      · rw [Entries.alter, Entries.alter, if_neg hk, if_neg hk]
        exact resolveEntries_cons_eq_ok.mpr ⟨_, _, hv, ih hrest, rfl⟩

/-- What is laid over a value may be resolved before or after. -/
def Commutes (env : Environment) (start : CodePoints) (upper : Value) : Prop :=
  ∀ lower lower' upper', lower.resolve env start = .ok lower' →
    upper.resolve env start = .ok upper' →
      (Value.overlay lower upper).resolve env start = .ok (Value.overlay lower' upper')

theorem resolveEntries_overlay {lower lower' upper upper' : Entries}
    (each : ∀ entry ∈ upper, Commutes env start entry.2)
    (h : resolveEntries env start lower = .ok lower')
    (h' : resolveEntries env start upper = .ok upper') :
    resolveEntries env start (Entries.overlay lower upper) =
      .ok (Entries.overlay lower' upper') := by
  induction upper generalizing lower lower' upper' with
  | nil =>
      cases h'
      exact h
  | cons entry rest ih =>
      obtain ⟨key, v⟩ := entry
      obtain ⟨v', rest', hv, hrest, rfl⟩ := resolveEntries_cons_eq_ok.mp h'
      have commutes : Commutes env start v := each _ List.mem_cons_self
      have written : resolveEntries env start (overlayOne lower (key, v)) =
          .ok (overlayOne lower' (key, v')) :=
        resolveEntries_alter h (commutes .null .null v' rfl hv)
          fun old old' hold => commutes old old' v' hold hv
      have later := ih (fun entry hmem => each entry (List.mem_cons_of_mem _ hmem)) written hrest
      exact later

theorem commutes (upper : Value) : Commutes env start upper := by
  induction upper using Value.byParts with
  | map upper each =>
      intro lower lower' resolved h h'
      obtain ⟨upper', hupper, rfl⟩ := resolve_map_eq_ok.mp h'
      by_cases hmap : ∃ entries, lower = .map entries
      · obtain ⟨entries, rfl⟩ := hmap
        obtain ⟨entries', hentries, rfl⟩ := resolve_map_eq_ok.mp h
        have within := resolveEntries_overlay each hentries hupper
        exact resolve_map_eq_ok.mpr ⟨_, within, rfl⟩
      · have unmapped : ¬ ∃ entries, lower' = .map entries :=
          (not_congr (isMap_of_resolve h)).mpr hmap
        rw [Value.overlay_of_not_maps fun maps => hmap maps.1,
          Value.overlay_of_not_maps fun maps => unmapped maps.1]
        exact h'
  | _ =>
      -- no mapping on top, before and after
      intro lower lower' resolved h h'
      have unmapped : ¬ ∃ entries, resolved = .map entries :=
        (not_congr (isMap_of_resolve h')).mpr (by simp)
      rw [Value.overlay_of_not_maps fun maps => unmapped maps.2]
      exact h'

/-! ## Strings that survive -/

namespace Entries

open Value (Keyed AreMaps Holds)

/-- Whether a string of two mappings is still there when the upper one lies over the lower one. -/
inductive Survives (s : CodePoints) : Entries → Entries → Prop where
  /-- It stands in the lower mapping under a key that the upper one does not have. -/
  | kept {lower upper : Entries} {key : Scalar} {old : Value} (below : find? key lower = some old)
      (free : find? key upper = none) (holds : old.Holds s) : Survives s lower upper
  /-- It stands in the upper mapping, which does not go on together with the lower one there. -/
  | written {lower upper : Entries} {key : Scalar} {new : Value}
      (above : find? key upper = some new)
      (whole : ∀ old, find? key lower = some old → ¬ AreMaps old new) (holds : new.Holds s) :
      Survives s lower upper
  /-- Both have a mapping under a key, and it survives there. -/
  | within {lower upper old new : Entries} {key : Scalar}
      (below : find? key lower = some (.map old)) (above : find? key upper = some (.map new))
      (inner : Survives s old new) : Survives s lower upper

variable {s : CodePoints} {lower upper : Entries}

theorem survives_of_holds {lower upper : Entries} (keyed : Keyed (.map lower))
    (keyed' : Keyed (.map upper)) (holds : Holds s (.map (overlay lower upper))) :
    Survives s lower upper := by
  have distinct := distinct_of_keyed keyed
  have distinct' := distinct_of_keyed keyed'
  rw [overlay_eq distinct distinct'] at holds
  cases holds with
  | @entry key v _ hmem inner =>
      rcases List.mem_append.mp hmem with hcovered | hadded
      · obtain ⟨⟨k, old⟩, hlower, hcover⟩ := List.mem_map.mp hcovered
        have below := find?_of_mem distinct hlower
        cases above : find? k upper with
        | none =>
            obtain ⟨rfl, rfl⟩ : k = key ∧ old = v := by simpa [covered, above] using hcover
            exact .kept below above inner
        | some new =>
            obtain ⟨rfl, rfl⟩ : k = key ∧ Value.overlay old new = v := by
              simpa [covered, above] using hcover
            by_cases maps : AreMaps old new
            · obtain ⟨⟨old, rfl⟩, new, rfl⟩ := maps
              have smaller : sizeOf old < sizeOf lower := by
                have := List.sizeOf_lt_of_mem hlower
                simp_all
                omega
              exact .within below above (survives_of_holds (keyed_of_mem keyed hlower)
                (keyed_of_find? keyed' above) inner)
            · rw [Value.overlay_of_not_maps maps] at inner
              refine .written above (fun old' below' => ?_) inner
              obtain rfl : old = old' := Option.some.inj (below.symm.trans below')
              exact maps
      · obtain ⟨hupper, free⟩ := List.mem_filter.mp hadded
        refine .written (find?_of_mem distinct' hupper) (fun old below => ?_) inner
        simp [below] at free
termination_by sizeOf lower

theorem holds_of_covered {key : Scalar} {old : Value} (distinct : (keys lower).Nodup)
    (distinct' : (keys upper).Nodup) (below : find? key lower = some old)
    (holds : ((find? key upper).elim old (Value.overlay old)).Holds s) :
    Holds s (.map (overlay lower upper)) := by
  obtain ⟨k, hmem, hk⟩ := mem_of_find? below
  rw [overlay_eq distinct distinct']
  refine .entry (List.mem_append_left _ (List.mem_map_of_mem hmem)) ?_
  rw [find?_congr hk]
  exact holds

theorem holds_of_survives (survives : Survives s lower upper) (keyed : Keyed (.map lower))
    (keyed' : Keyed (.map upper)) : Holds s (.map (overlay lower upper)) := by
  induction survives with
  | kept below free holds =>
      refine holds_of_covered (distinct_of_keyed keyed) (distinct_of_keyed keyed') below ?_
      rwa [free]
  | @written lower upper key new above whole holds =>
      have distinct := distinct_of_keyed keyed
      have distinct' := distinct_of_keyed keyed'
      cases below : find? key lower with
      | some old =>
          refine holds_of_covered distinct distinct' below ?_
          rw [above, Option.elim_some, Value.overlay_of_not_maps (whole old below)]
          exact holds
      | none =>
          obtain ⟨k, hmem, hk⟩ := mem_of_find? above
          have free : (find? k lower).isNone = true := by rw [find?_congr hk, below]; rfl
          rw [overlay_eq distinct distinct']
          exact .entry (List.mem_append_right _ (List.mem_filter.mpr ⟨hmem, free⟩)) holds
  | within below above _ ih =>
      have inner := ih (keyed_of_find? keyed below) (keyed_of_find? keyed' above)
      refine holds_of_covered (distinct_of_keyed keyed) (distinct_of_keyed keyed') below ?_
      rwa [above]

theorem holds_iff_survives (keyed : Keyed (.map lower)) (keyed' : Keyed (.map upper)) :
    Holds s (.map (overlay lower upper)) ↔ Survives s lower upper :=
  ⟨survives_of_holds keyed keyed', fun survives => holds_of_survives survives keyed keyed'⟩

theorem fails_resolveEntries_overlay (keyed : Keyed (.map lower)) (keyed' : Keyed (.map upper)) :
    Fails (resolveEntries env start (overlay lower upper)) ↔
      ∃ s, Survives s lower upper ∧ IsUnset env start s := by
  have whole := @Value.fails_resolve env start (.map (overlay lower upper))
  rw [Value.resolve, fails_map] at whole
  simp only [whole, holds_iff_survives keyed keyed']

structure Agrees (env : Environment) (start : CodePoints) (lower upper : Entries) : Prop where
  /-- Two mappings that can be resolved can be overlaid before or after, with the same result. -/
  commutes : ∀ lower' upper', resolveEntries env start lower = .ok lower' →
    resolveEntries env start upper = .ok upper' →
      resolveEntries env start (overlay lower upper) = .ok (overlay lower' upper')
  /-- The overlay cannot be resolved if and only if a string that survives it has an unset
  placeholder. -/
  fails_iff : Fails (resolveEntries env start (overlay lower upper)) ↔
    ∃ s, Survives s lower upper ∧ IsUnset env start s
  /-- Loading resolves with nothing in front of the names. -/
  load_fails_iff : Fails ((Settings.Raw.entries (overlay lower upper)).resolve env) ↔
    ∃ s, Survives s lower upper ∧ IsUnset env "" s
  /-- What stands in the places that the upper mapping replaces makes no difference. -/
  indifferent : ∀ other, AlikeUnder upper lower other →
    resolveEntries env start (overlay other upper) = resolveEntries env start (overlay lower upper)

/-- Placeholders may be resolved before or after an overlay, and only those that survive it have to
be set. -/
theorem agrees_of_keyed (env : Environment) (start : CodePoints) {lower upper : Entries}
    (keyed : Keyed (.map lower)) (keyed' : Keyed (.map upper)) : Agrees env start lower upper where
  commutes _ _ h h' := resolveEntries_overlay (fun entry _ => commutes entry.2) h h'
  fails_iff := fails_resolveEntries_overlay keyed keyed'
  load_fails_iff := fails_resolveEntries_overlay keyed keyed'
  indifferent other alike := by rw [alike.overlay_eq keyed keyed']

/-- A main file whose address an environment replaces while the rest of the section stays. -/
theorem stagingAddress_agrees :
    let key (name : String) : Value := .str (Placeholder.written name)
    let env : Environment := fun name =>
      if name = "LOGIN" then some "guest" else if name = "ADDR" then some "eu.example" else none
    let main : Entries := [(.str "region", .str "eu-central-1"),
      (.str "aws", .map [(.str "addr", key "ADDR"), (.str "login", .list [key "LOGIN"])])]
    let main' : Entries := [(.str "region", .str "eu-central-1"),
      (.str "aws", .map [(.str "addr", .str "eu.example"), (.str "login", .list [.str "guest"])])]
    let staging : Entries := [(.str "aws", .map [(.str "addr", .str "localhost")])]
    Keyed (.map main) ∧ Keyed (.map staging) ∧ resolveEntries env "" main = .ok main' ∧
      resolveEntries env "" staging = .ok staging ∧ Agrees env "" main staging := by
  intro key env main main' staging
  have main_keyed : Keyed (.map main) := by simp [main, key, Scalar.key]
  have staging_keyed : Keyed (.map staging) := by simp [staging]
  have whole (name value : String) (isName : Placeholder.IsName name)
      (h : env name = some value) : (key name).resolve env "" = .ok (.str value) := by
    have holds : Placeholder.Holds env "" name value :=
      ⟨CodePoints.isEncodable_iff.mp (CodePoints.isEncodable_ofString name), h⟩
    rw [Value.resolve, Scalar.resolve, Placeholder.resolve_written isName holds]
    rfl
  have plain (s : String) (h : ¬ Placeholder.opening <:+: s) :
      (Scalar.str s).resolve env "" = .ok (.str s) := by
    rw [Scalar.resolve, (Placeholder.plain_of_unopened h).resolve_eq]
    rfl
  have region := plain "eu-central-1" (by decide)
  have localhost := plain "localhost" (by decide)
  have address := whole "ADDR" "eu.example" ⟨by decide, by decide⟩ rfl
  have login := whole "LOGIN" "guest" ⟨by decide, by decide⟩ rfl
  have resolves : resolveEntries env "" main = .ok main' := by
    simp only [main, resolveEntries, resolveEntry, resolveItems, Value.resolve, region, address,
      login]
    rfl
  have resolves' : resolveEntries env "" staging = .ok staging := by
    simp only [staging, resolveEntries, resolveEntry, Value.resolve, localhost]
    rfl
  exact ⟨main_keyed, staging_keyed, resolves, resolves',
    agrees_of_keyed _ _ main_keyed staging_keyed⟩

end Entries

end SecretVault
