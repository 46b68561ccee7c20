import Mathlib.Data.List.Infix
import Mathlib.Data.List.Forall2
import SecretVault.Host.Basic

/-!
Resolving as substitution. A text is parted in one way only into the placeholders that are met from
left to right and the texts between them. What it resolves to is these texts with the variables'
values between them, each value as it is; the first placeholder whose variable cannot be had is the
error.
-/

namespace SecretVault.Placeholder

variable {s front name back rest value : CodePoints}

/-! ## Placeholders in a text -/

/-- A name that a placeholder can have. Anything but a closing brace may stand in it, also what
opens a placeholder. -/
def IsName (name : CodePoints) : Prop :=
  name ≠ [] ∧ closing ∉ name

def written (name : CodePoints) : CodePoints :=
  opening ++ name ++ [closing]

def Plain (s : CodePoints) : Prop :=
  ∀ front name back, IsName name → s ≠ front ++ written name ++ back

/-- The text is parted at the first placeholder that stands in it. -/
structure PartsAt (s front name back : CodePoints) : Prop where
  eq : s = front ++ written name ++ back
  isName : IsName name
  first : ∀ front' name' back', IsName name' → s = front' ++ written name' ++ back' →
    front.length ≤ front'.length

/-- A text is parted into pairs of a text and the name of the placeholder behind it, and a last
text. Each placeholder is the first one in what the placeholders before it leave. -/
inductive Parted : CodePoints → List (CodePoints × CodePoints) → CodePoints → Prop where
  | last {s : CodePoints} (plain : Plain s) : Parted s [] s
  | next {s front name back last : CodePoints} {parts : List (CodePoints × CodePoints)}
      (first : PartsAt s front name back) (later : Parted back parts last) :
      Parted s ((front, name) :: parts) last

/-! ## Reading a placeholder -/

theorem upToBrace?_eq_some_iff {t : CodePoints} :
    upToBrace? t = some (name, rest) ↔ closing ∉ name ∧ t = name ++ closing :: rest := by
  induction t generalizing name with
  | nil => simp [upToBrace?]
  | cons p t ih =>
      by_cases hp : p = closing
      · subst hp
        rw [upToBrace?, if_pos rfl]
        constructor
        · rintro ⟨⟩
          simp
        · rintro ⟨absent, h⟩
          cases name with
          | nil =>
              obtain ⟨-, rfl⟩ := List.cons.inj h
              rfl
          | cons q name =>
              obtain ⟨rfl, -⟩ := List.cons.inj h
              exact absurd List.mem_cons_self absent
      · rw [upToBrace?, if_neg hp, Option.map_eq_some_iff]
        constructor
        · rintro ⟨⟨name', rest'⟩, found, pair⟩
          obtain ⟨rfl, rfl⟩ := Prod.mk.inj pair
          obtain ⟨absent, rfl⟩ := ih.mp found
          exact ⟨by simp [absent, Ne.symm hp], rfl⟩
        · rintro ⟨absent, h⟩
          cases name with
          | nil => exact absurd (List.cons.inj h).1 hp
          | cons q name =>
              obtain ⟨rfl, later⟩ := List.cons.inj h
              have absent' : closing ∉ name := fun h => absent (List.mem_cons_of_mem _ h)
              exact ⟨(name, rest), ih.mpr ⟨absent', later⟩, rfl⟩

theorem afterOpening?_eq_some_iff {marks t : CodePoints} :
    afterOpening? marks t = some rest ↔ t = marks ++ rest := by
  induction marks generalizing t with
  | nil => simp [afterOpening?]
  | cons m marks ih =>
      cases t with
      | nil => simp [afterOpening?]
      | cons p t =>
          by_cases hm : m = p
          · simp [afterOpening?, hm, ih]
          · simp [afterOpening?, hm, Ne.symm hm]

theorem leading?_eq_some_iff {t : CodePoints} :
    leading? t = some (name, rest) ↔ IsName name ∧ t = written name ++ rest := by
  have inside (t : CodePoints) :
      t = written name ++ rest ↔ t = opening ++ (name ++ closing :: rest) := by
    simp [written]
  rw [inside, leading?]
  cases hopen : afterOpening? opening t with
  | none =>
      have closed : ∀ after, t ≠ opening ++ after := by
        intro after h
        rw [afterOpening?_eq_some_iff.mpr h] at hopen
        cases hopen
      simp [closed]
  | some after =>
      obtain rfl := afterOpening?_eq_some_iff.mp hopen
      rw [List.append_cancel_left_eq]
      constructor
      · intro h
        dsimp only at h
        split at h
        · rename_i p name' rest' found
          obtain ⟨absent, rfl⟩ := upToBrace?_eq_some_iff.mp found
          obtain ⟨rfl, rfl⟩ := Prod.mk.inj (Option.some.inj h)
          exact ⟨⟨by simp, absent⟩, rfl⟩
        · cases h
      · rintro ⟨⟨nonempty, absent⟩, rfl⟩
        obtain ⟨p, name', rfl⟩ := List.exists_cons_of_ne_nil nonempty
        dsimp only
        rw [upToBrace?_eq_some_iff.mpr ⟨absent, rfl⟩]

/-! ## Parting a text -/

theorem PartsAt.unique {front' name' back' : CodePoints} (h : PartsAt s front name back)
    (h' : PartsAt s front' name' back') : front' = front ∧ name' = name ∧ back' = back := by
  have same_length : front'.length = front.length :=
    Nat.le_antisymm (h'.first _ _ _ h.isName h.eq) (h.first _ _ _ h'.isName h'.eq)
  have same := h'.eq.symm.trans h.eq
  rw [List.append_assoc, List.append_assoc] at same
  obtain ⟨rfl, same_rest⟩ := List.append_inj same same_length
  have read : leading? (written name ++ back) = some (name, back) :=
    leading?_eq_some_iff.mpr ⟨h.isName, rfl⟩
  have read' : leading? (written name ++ back) = some (name', back') :=
    leading?_eq_some_iff.mpr ⟨h'.isName, same_rest.symm⟩
  obtain ⟨rfl, rfl⟩ := Prod.mk.inj (Option.some.inj (read'.symm.trans read))
  exact ⟨rfl, rfl, rfl⟩

theorem Plain.not_partsAt (plain : Plain s) : ¬ PartsAt s front name back :=
  fun h => plain front name back h.isName h.eq

theorem partsAt_of_leading? (h : leading? s = some (name, back)) : PartsAt s [] name back := by
  obtain ⟨isName, rfl⟩ := leading?_eq_some_iff.mp h
  exact ⟨rfl, isName, fun _ _ _ _ _ => Nat.zero_le _⟩

theorem exists_cons_of_leading? {p : CodePoint} (none_here : leading? (p :: s) = none)
    (isName : IsName name) (h : p :: s = front ++ written name ++ back) :
    ∃ front', front = p :: front' ∧ s = front' ++ written name ++ back := by
  cases front with
  | nil =>
      rw [leading?_eq_some_iff.mpr ⟨isName, h⟩] at none_here
      cases none_here
  | cons q front' =>
      obtain ⟨rfl, rfl⟩ := List.cons.inj h
      exact ⟨front', rfl, rfl⟩

theorem Plain.cons {p : CodePoint} (plain : Plain s) (none_here : leading? (p :: s) = none) :
    Plain (p :: s) := by
  intro front name back isName h
  obtain ⟨front', -, later⟩ := exists_cons_of_leading? none_here isName h
  exact plain front' name back isName later

theorem PartsAt.cons {p : CodePoint} (h : PartsAt s front name back)
    (none_here : leading? (p :: s) = none) : PartsAt (p :: s) (p :: front) name back := by
  refine ⟨by rw [h.eq]; rfl, h.isName, ?_⟩
  intro front' name' back' isName' h'
  obtain ⟨later, rfl, split⟩ := exists_cons_of_leading? none_here isName' h'
  exact Nat.succ_le_succ (h.first later name' back' isName' split)

theorem plain_or_partsAt (s : CodePoints) :
    Plain s ∨ ∃ front name back, PartsAt s front name back := by
  induction s with
  | nil =>
      left
      intro front name back _ h
      simp [written, opening] at h
  | cons p s ih =>
      cases here : leading? (p :: s) with
      | some found =>
          obtain ⟨name, back⟩ := found
          exact .inr ⟨[], name, back, partsAt_of_leading? here⟩
      | none =>
          rcases ih with plain | ⟨front, name, back, parts⟩
          · exact .inl (plain.cons here)
          · exact .inr ⟨p :: front, name, back, parts.cons here⟩

theorem PartsAt.length_lt (h : PartsAt s front name back) : back.length < s.length := by
  have split := congrArg List.length h.eq
  simp only [written, List.length_append, List.length_singleton] at split
  omega

theorem exists_parted (s : CodePoints) : ∃ parts last, Parted s parts last := by
  rcases plain_or_partsAt s with plain | ⟨front, name, back, first⟩
  · exact ⟨[], s, .last plain⟩
  · have shorter := first.length_lt
    obtain ⟨parts, last, later⟩ := exists_parted back
    exact ⟨(front, name) :: parts, last, .next first later⟩
termination_by s.length

theorem Parted.unique {parts parts' : List (CodePoints × CodePoints)} {last last' : CodePoints}
    (h : Parted s parts last) (h' : Parted s parts' last') : parts' = parts ∧ last' = last := by
  induction h generalizing parts' last' with
  | last plain =>
      cases h' with
      | last => exact ⟨rfl, rfl⟩
      | next first => exact absurd first plain.not_partsAt
  | next first later ih =>
      cases h' with
      | last plain => exact absurd first plain.not_partsAt
      | next first' later' =>
          obtain ⟨rfl, rfl, rfl⟩ := first.unique first'
          obtain ⟨rfl, rfl⟩ := ih later'
          exact ⟨rfl, rfl⟩

/-! ## Segments of a parted text -/

theorem segments_nil : segments [] = [] := by
  rw [segments]

theorem segments_of_leading? (h : leading? s = some (name, rest)) :
    segments s = .reference name :: segments rest := by
  cases s with
  | nil => cases h
  | cons p s =>
      rw [segments]
      split
      · rename_i name' rest' found
        obtain ⟨rfl, rfl⟩ := Prod.mk.inj (Option.some.inj (found.symm.trans h))
        rfl
      · rename_i none_here
        rw [none_here] at h
        cases h

theorem segments_cons_of_none {p : CodePoint} (h : leading? (p :: s) = none) :
    segments (p :: s) = .point p :: segments s := by
  rw [segments]
  split
  · rename_i name' rest' found
    rw [found] at h
    cases h
  · rfl

theorem segments_append (none_within : ∀ before behind, front = before ++ behind → behind ≠ [] →
    leading? (behind ++ rest) = none) :
    segments (front ++ rest) = front.map .point ++ segments rest := by
  induction front with
  | nil => rfl
  | cons p front ih =>
      have here : leading? (p :: (front ++ rest)) = none :=
        none_within [] (p :: front) rfl (by simp)
      have later := ih fun before behind h => none_within (p :: before) behind (h ▸ rfl)
      rw [List.cons_append, segments_cons_of_none here, later]
      rfl

theorem Plain.segments_eq (plain : Plain s) : segments s = s.map .point := by
  have none_within : ∀ before behind, s = before ++ behind → behind ≠ [] →
      leading? (behind ++ []) = none := by
    intro before behind h _
    cases found : leading? (behind ++ []) with
    | none => rfl
    | some read =>
        obtain ⟨name, back⟩ := read
        obtain ⟨isName, split⟩ := leading?_eq_some_iff.mp found
        rw [List.append_nil] at split
        refine absurd ?_ (plain before name back isName)
        rw [h, split, List.append_assoc]
  have whole := segments_append none_within
  rwa [List.append_nil, segments_nil, List.append_nil] at whole

theorem PartsAt.segments_eq (h : PartsAt s front name back) :
    segments s = front.map .point ++ .reference name :: segments back := by
  have read : leading? (written name ++ back) = some (name, back) :=
    leading?_eq_some_iff.mpr ⟨h.isName, rfl⟩
  rw [h.eq, List.append_assoc, segments_append, segments_of_leading? read]
  -- a placeholder that began earlier would be the first one
  intro before behind split nonempty
  cases found : leading? (behind ++ (written name ++ back)) with
  | none => rfl
  | some read' =>
      obtain ⟨name', back'⟩ := read'
      obtain ⟨isName', split'⟩ := leading?_eq_some_iff.mp found
      have earlier : s = before ++ written name' ++ back' := by
        rw [List.append_assoc, ← split', h.eq, split]
        simp only [List.append_assoc]
      have no_later := h.first before name' back' isName' earlier
      have longer := List.length_pos_of_ne_nil nonempty
      rw [split, List.length_append] at no_later
      omega

/-! ## What a name stands for -/

variable {env : Environment} {start : CodePoints} {e : Failure}

/-- The host has bytes for the name: every surrogate in it stands for one. -/
def HasBytes (name : CodePoints) : Prop :=
  ∀ p ∈ name, p.isSurrogate = true → 0xdc80 ≤ p.val ∧ p.val ≤ 0xdcff

def Holds (env : Environment) (start name value : CodePoints) : Prop :=
  HasBytes (start ++ name) ∧ env (start ++ name) = some value

/-- The variable of a placeholder cannot be had, for the reason given. -/
inductive Refuses (env : Environment) (start name : CodePoints) : Failure → Prop where
  | unset (bytes : HasBytes (start ++ name)) (absent : env (start ++ name) = none) :
      Refuses env start name (.settings (.unresolved name (start ++ name)))
  | unencodable (none_ : ¬ HasBytes (start ++ name)) :
      Refuses env start name (.fault .unencodable)

theorem lookup_of_hasBytes (bytes : HasBytes (start ++ name)) : lookup env start name =
    (env (start ++ name)).elim (.error (.settings (.unresolved name (start ++ name)))) .ok := by
  have read : env.read (start ++ name) = .ok (env (start ++ name)) :=
    if_pos (CodePoints.isEncodable_iff.mpr bytes)
  rw [lookup, read]
  cases env (start ++ name) <;> rfl

theorem lookup_of_not_hasBytes (none_ : ¬ HasBytes (start ++ name)) :
    lookup env start name = .error (.fault .unencodable) := by
  have read : env.read (start ++ name) = .error .unencodable :=
    if_neg fun encodable => none_ (CodePoints.isEncodable_iff.mp encodable)
  rw [lookup, read]
  rfl

theorem lookup_eq_ok_iff : lookup env start name = .ok value ↔ Holds env start name value := by
  by_cases bytes : HasBytes (start ++ name)
  · rw [lookup_of_hasBytes bytes]
    cases h : env (start ++ name) <;> simp [Holds, bytes, h]
  · rw [lookup_of_not_hasBytes bytes]
    simp [Holds, bytes]

theorem lookup_eq_error_iff : lookup env start name = .error e ↔ Refuses env start name e := by
  constructor
  · intro h
    by_cases bytes : HasBytes (start ++ name)
    · rw [lookup_of_hasBytes bytes] at h
      cases absent : env (start ++ name) with
      | none =>
          rw [absent] at h
          cases h
          exact .unset bytes absent
      | some value =>
          rw [absent] at h
          cases h
    · rw [lookup_of_not_hasBytes bytes] at h
      cases h
      exact .unencodable bytes
  · rintro (⟨bytes, absent⟩ | none_)
    · rw [lookup_of_hasBytes bytes, absent]
      rfl
    · exact lookup_of_not_hasBytes none_

theorem holds_or_refuses (env : Environment) (start name : CodePoints) :
    (∃ value, Holds env start name value) ∨ ∃ e, Refuses env start name e := by
  simp only [← lookup_eq_ok_iff, ← lookup_eq_error_iff]
  cases lookup env start name <;> simp

theorem Holds.not_refuses (holds : Holds env start name value) : ¬ Refuses env start name e := by
  rw [← lookup_eq_error_iff, lookup_eq_ok_iff.mpr holds]
  rintro ⟨⟩

/-! ## Resolving a parted text -/

theorem resolveAll_map_point (front : CodePoints) (pieces : List Segment) :
    resolveAll env start (front.map .point ++ pieces) =
      (resolveAll env start pieces).map (front ++ ·) := by
  induction front with
  | nil => cases h : resolveAll env start pieces <;> simp [h, Except.map]
  | cons p front ih =>
      simp only [List.map_cons, List.cons_append, resolveAll, Segment.resolve, ih]
      cases resolveAll env start pieces <;> rfl

theorem Plain.resolve_eq (plain : Plain s) : resolve env start s = .ok s := by
  have whole : resolveAll env start (s.map .point ++ []) = _ := resolveAll_map_point s []
  rw [List.append_nil, ← plain.segments_eq] at whole
  simpa [resolve, resolveAll, Except.map] using whole

theorem PartsAt.resolve_of_holds (h : PartsAt s front name back)
    (holds : Holds env start name value) :
    resolve env start s = (resolve env start back).map fun later => front ++ value ++ later := by
  rw [resolve, h.segments_eq, resolveAll_map_point, resolveAll, Segment.resolve,
    lookup_eq_ok_iff.mpr holds, resolve]
  cases resolveAll env start (segments back) with
  | error e => rfl
  | ok later => simp [Except.map, bind, Except.bind, pure, Except.pure]

theorem PartsAt.resolve_of_refuses (h : PartsAt s front name back)
    (refuses : Refuses env start name e) : resolve env start s = .error e := by
  rw [resolve, h.segments_eq, resolveAll_map_point, resolveAll, Segment.resolve,
    lookup_eq_error_iff.mpr refuses]
  rfl

/-- The texts of a parted text with values in place of the placeholders, and the last text. -/
def assembled (last : CodePoints) :
    List (CodePoints × CodePoints) → List CodePoints → CodePoints
  | (front, _) :: parts, value :: values => front ++ value ++ assembled last parts values
  | _, _ => last

theorem Parted.resolve_of_holds {parts : List (CodePoints × CodePoints)} {last : CodePoints}
    {values : List CodePoints} (h : Parted s parts last)
    (holds : List.Forall₂ (fun part value => Holds env start part.2 value) parts values) :
    resolve env start s = .ok (assembled last parts values) := by
  induction h generalizing values with
  | last plain =>
      cases holds
      exact plain.resolve_eq
  | next first later ih =>
      cases holds with
      | cons here rest =>
          rw [first.resolve_of_holds here, ih rest]
          rfl

theorem Parted.resolve_of_refuses {before after : List (CodePoints × CodePoints)}
    {last : CodePoints} (h : Parted s (before ++ (front, name) :: after) last)
    (holds : ∀ part ∈ before, ∃ value, Holds env start part.2 value)
    (refuses : Refuses env start name e) : resolve env start s = .error e := by
  induction before generalizing s with
  | nil =>
      cases h with
      | next first later => exact first.resolve_of_refuses refuses
  | cons part before ih =>
      cases h with
      | next first later =>
          obtain ⟨value, here⟩ := holds _ List.mem_cons_self
          rw [first.resolve_of_holds here,
            ih later fun part hpart => holds part (List.mem_cons_of_mem _ hpart)]
          rfl

/-! ## A placeholder after text that opens none -/

/-- What opens a placeholder does not overlap with itself, so text without it leaves a placeholder
behind it the first one. -/
theorem partsAt_of_unopened (unopened : ¬ opening <:+: front) (isName : IsName name)
    (back : CodePoints) : PartsAt (front ++ written name ++ back) front name back := by
  refine ⟨rfl, isName, ?_⟩
  intro front' name' back' _ split
  by_contra earlier
  rw [List.append_assoc, List.append_assoc] at split
  rcases List.append_eq_append_iff.mp split with ⟨between, rfl, _⟩ | ⟨between, rfl, later⟩
  · simp at earlier
  · have reads : between ++ (written name ++ back) =
        opening ++ (name' ++ [closing] ++ back') := by
      rw [← later, written]
      simp only [List.append_assoc]
    rcases List.append_eq_append_iff.mp reads with ⟨mark, hopening, hmark⟩ | ⟨_, rfl, _⟩
    · cases mark with
      | nil =>
          rw [List.append_nil] at hopening
          exact unopened ⟨front', [], by simp [hopening]⟩
      | cons p mark =>
          cases between with
          | nil => simp at earlier
          | cons q between =>
              -- the mark would begin anew within itself
              have begins : p = .ofChar '$' := (List.cons.inj hmark).1.symm
              have within : .ofChar '$' ∈ opening.tail := by
                rw [hopening, begins]
                simp
              exact absurd within (by decide)
    · exact unopened ⟨front', _, by rw [List.append_assoc]⟩

theorem plain_of_unopened (unopened : ¬ opening <:+: s) : Plain s := by
  rintro front name back - rfl
  exact unopened ⟨front, name ++ [closing] ++ back, by simp [written]⟩

theorem partsAt_written (isName : IsName name) : PartsAt (written name) [] name [] :=
  partsAt_of_leading? (leading?_eq_some_iff.mpr ⟨isName, (List.append_nil _).symm⟩)

theorem parted_written (isName : IsName name) : Parted (written name) [([], name)] [] :=
  .next (partsAt_written isName) (.last (plain_of_unopened (by decide)))

theorem resolve_written (isName : IsName name) (holds : Holds env start name value) :
    resolve env start (written name) = .ok value := by
  rw [(parted_written isName).resolve_of_holds (.cons holds .nil)]
  simp [assembled]

/-! ## Resolving as substitution -/

/-- What resolving makes of texts, with the variables of an environment and a common beginning of
their names. -/
structure Substitutes (env : Environment) (start : CodePoints) : Prop where
  parted : ∀ s : CodePoints, ∃! split : List (CodePoints × CodePoints) × CodePoints,
    Parted s split.1 split.2
  /-- If all variables hold values, these take the places of the placeholders, as they are. -/
  filled : ∀ s parts last values, Parted s parts last →
    List.Forall₂ (fun part value => Holds env start part.2 value) parts values →
      resolve env start s = .ok (assembled last parts values)
  /-- The first placeholder whose variable cannot be had is the error. -/
  refused : ∀ s before front name after last e, Parted s (before ++ (front, name) :: after) last →
    (∀ part ∈ before, ∃ value, Holds env start part.2 value) → Refuses env start name e →
      resolve env start s = .error e
  plain : ∀ s, Plain s → resolve env start s = .ok s
  /-- A placeholder after text that opens none becomes the value, and the text behind it is resolved
  by itself. -/
  append : ∀ before name value behind : CodePoints, ¬ opening <:+: before → IsName name →
    Holds env start name value →
      resolve env start (before ++ "$\x7benv:" ++ name ++ "\x7d" ++ behind) =
        (resolve env start behind).map fun later => before ++ value ++ later

/-- Resolving is substitution, whatever the environment holds. -/
theorem substitutes (env : Environment) (start : CodePoints) : Substitutes env start where
  parted s := by
    obtain ⟨parts, last, parted⟩ := exists_parted s
    refine ⟨(parts, last), parted, ?_⟩
    rintro ⟨parts', last'⟩ parted'
    obtain ⟨rfl, rfl⟩ := parted.unique parted'
    rfl
  filled _ _ _ _ parted holds := parted.resolve_of_holds holds
  refused _ _ _ _ _ _ _ parted holds refuses := parted.resolve_of_refuses holds refuses
  plain _ plain := plain.resolve_eq
  append before name value behind unopened isName holds := by
    have first := partsAt_of_unopened unopened isName behind
    have spelled : before ++ "$\x7benv:" ++ name ++ "\x7d" ++ behind =
        before ++ written name ++ behind := by
      rw [written, show CodePoints.ofString "\x7d" = [closing] from rfl]
      simp only [opening, List.append_assoc]
    rw [spelled, first.resolve_of_holds holds]

/-- A name with a surrogate in it that stands for no byte is not said to be unset, though no
variable has it. -/
theorem surrogate_not_unresolved :
    let name : CodePoints := [0xd800]
    let s := written name
    Parted s [([], name)] [] ∧ Host.empty.environment name = none ∧
      resolve Host.empty.environment "" s = .error (.fault .unencodable) ∧
      resolve Host.empty.environment "" s ≠ .error (.settings (.unresolved name name)) := by
  intro name s
  have isName : IsName name := ⟨by decide, by decide⟩
  have refuses : Refuses Host.empty.environment "" name (.fault .unencodable) :=
    .unencodable fun bytes => absurd (bytes 0xd800 List.mem_cons_self rfl) (by decide)
  have resolves := (partsAt_written isName).resolve_of_refuses refuses
  refine ⟨parted_written isName, rfl, resolves, ?_⟩
  rw [resolves]
  rintro ⟨⟩

end SecretVault.Placeholder
