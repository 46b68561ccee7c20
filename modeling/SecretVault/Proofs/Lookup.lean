import Mathlib.Data.List.Forall2

/-!
Lists of named values as finite maps: what is found under a name when an entry has been added or
taken away. The store in memory and the vault of a rehearsal both keep such a list. Two lists with
the same names are side by side if the values under each name are related.
-/

namespace SecretVault

/-- The value under a name in a list of named values. -/
def valueUnder? {α : Type} (entries : List (String × α)) (name : String) : Option α :=
  (entries.find? (·.1 == name)).map (·.2)

section

variable {α : Type} (entries : List (String × α)) (name other : String)

theorem valueUnder?_append (value : α) (free : valueUnder? entries name = none) :
    valueUnder? (entries ++ [(name, value)]) other =
      if name = other then some value else valueUnder? entries other := by
  unfold valueUnder? at free ⊢
  rw [List.find?_append]
  by_cases hn : name = other
  · subst hn
    have hnone : entries.find? (·.1 == name) = none := by simpa using free
    simp [hnone]
  · cases entries.find? (·.1 == other) <;> simp [hn]

theorem valueUnder?_filter :
    valueUnder? (entries.filter (·.1 != name)) other =
      if name = other then none else valueUnder? entries other := by
  unfold valueUnder?
  rw [List.find?_filter]
  by_cases hn : name = other
  · subst hn
    simp
  · simp only [hn, if_false]
    refine congrArg (Option.map _) (congrArg (fun test => List.find? test entries) ?_)
    funext entry
    by_cases he : entry.1 = other
    · simp [he, Ne.symm hn]
    · simp [he]

theorem isSome_valueUnder? :
    (valueUnder? entries name).isSome = true ↔ name ∈ entries.map (·.1) := by
  simp [valueUnder?]

end

section

variable {α β : Type} {R S : α → β → Prop} {x : Option α} {y : Option β}

/-- What is found on both sides, or on neither, wherever the two look-ups stand. -/
@[elab_as_elim]
theorem optionRel_cases {motive : Option α → Option β → Prop} (h : Option.Rel R x y)
    (none : motive none none) (some : ∀ a b, R a b → motive (some a) (some b)) : motive x y := by
  cases h with
  | none => exact none
  | some related => exact some _ _ related

theorem optionRel_mono (h : Option.Rel R x y) (hRS : ∀ a b, R a b → S a b) : Option.Rel S x y :=
  optionRel_cases h .none fun a b related => .some (hRS a b related)

end

/-- Two lists with the same names in the same order, whose values are related name by name. -/
def NamedBeside {α : Type} (V : String → α → α → Prop) :
    List (String × α) → List (String × α) → Prop :=
  List.Forall₂ fun entry entry' => entry'.1 = entry.1 ∧ V entry.1 entry.2 entry'.2

namespace NamedBeside

variable {α : Type} {V W : String → α → α → Prop} {entries entries' : List (String × α)}

theorem refl (hV : ∀ name value, V name value value) (entries : List (String × α)) :
    NamedBeside V entries entries :=
  List.forall₂_same.mpr fun entry _ => ⟨rfl, hV entry.1 entry.2⟩

theorem mono (h : NamedBeside V entries entries')
    (hVW : ∀ name value value', V name value value' → W name value value') :
    NamedBeside W entries entries' :=
  h.imp fun _ _ related => ⟨related.1, hVW _ _ _ related.2⟩

theorem names_eq (h : NamedBeside V entries entries') :
    entries'.map (·.1) = entries.map (·.1) := by
  induction h with
  | nil => rfl
  | cons related _ ih => rw [List.map_cons, List.map_cons, related.1, ih]

theorem valueUnder? (h : NamedBeside V entries entries') (name : String) :
    Option.Rel (V name) (valueUnder? entries name) (valueUnder? entries' name) := by
  unfold SecretVault.valueUnder?
  induction h with
  | nil => exact .none
  | @cons entry entry' _ _ related _ ih =>
      obtain ⟨same, values⟩ := related
      by_cases hn : entry.1 = name
      · subst hn
        simp only [List.find?_cons, same, beq_self_eq_true, Option.map_some]
        exact .some values
      · simpa [List.find?_cons, same, hn] using ih

theorem append (h : NamedBeside V entries entries') {name : String} {value value' : α}
    (values : V name value value') :
    NamedBeside V (entries ++ [(name, value)]) (entries' ++ [(name, value')]) :=
  List.rel_append h (.cons ⟨rfl, values⟩ .nil)

theorem filter (h : NamedBeside V entries entries') (name : String) :
    NamedBeside V (entries.filter (·.1 != name)) (entries'.filter (·.1 != name)) := by
  induction h with
  | nil => exact .nil
  | @cons entry entry' _ _ related _ ih =>
      obtain ⟨same, values⟩ := related
      by_cases hn : entry.1 = name
      · simpa [List.filter_cons, same, hn] using ih
      · simp only [List.filter_cons, same, bne_iff_ne, ne_eq, hn, not_false_eq_true, if_true]
        exact .cons ⟨same, values⟩ ih

end NamedBeside

end SecretVault
