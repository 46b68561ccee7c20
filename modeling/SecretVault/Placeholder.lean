import SecretVault.Failure

/-!
Placeholders. A text may refer to environment variables by `${env:NAME}`; the name is everything
up to the first closing brace and is not empty. Resolving goes over the text once, from left to
right: what a variable holds is put in as it is and not looked at again.
-/

namespace SecretVault

/-- The variables of an environment. -/
abbrev Environment := CodePoints → Option CodePoints

/-- What a variable holds. The environment cannot even be asked for a name that has no bytes. -/
def Environment.read (env : Environment) (name : CodePoints) : Except Fault (Option CodePoints) :=
  if name.isEncodable then .ok (env name) else .error .unencodable

namespace Placeholder

/-- A piece of a text: a code point that stands for itself, or a reference to a variable. -/
inductive Segment where
  | point (p : CodePoint)
  | reference (name : CodePoints)
  deriving DecidableEq

def opening : CodePoints := "$\x7benv:"

def closing : CodePoint := .ofChar '\x7d'

/-- The text up to the first closing brace, and the text after it. -/
def upToBrace? : CodePoints → Option (CodePoints × CodePoints)
  | [] => none
  | p :: s =>
    if p = closing then some ([], s)
    else (upToBrace? s).map fun (name, rest) => (p :: name, rest)

/-- The text after the marks, if the text begins with them. -/
def afterOpening? : CodePoints → CodePoints → Option CodePoints
  | [], s => some s
  | _ :: _, [] => none
  | m :: marks, p :: s => if m = p then afterOpening? marks s else none

/-- The name of the placeholder that the text begins with, and the text after it. -/
def leading? (s : CodePoints) : Option (CodePoints × CodePoints) :=
  match afterOpening? opening s with
  | none => none
  | some inside =>
    match upToBrace? inside with
    | some (p :: name, rest) => some (p :: name, rest)
    | _ => none

theorem length_of_upToBrace? {s name rest : CodePoints} (h : upToBrace? s = some (name, rest)) :
    rest.length < s.length := by
  induction s generalizing name with
  | nil => simp [upToBrace?] at h
  | cons p s ih =>
    by_cases hp : p = closing
    · simp [upToBrace?, hp] at h
      simp [h.2]
    · simp only [upToBrace?, hp, if_false, Option.map_eq_some_iff] at h
      obtain ⟨⟨front, back⟩, hfound, hpair⟩ := h
      simp only [Prod.mk.injEq] at hpair
      obtain ⟨-, rfl⟩ := hpair
      have := ih hfound
      simp only [List.length_cons]
      omega

theorem length_of_afterOpening? {marks s rest : CodePoints}
    (h : afterOpening? marks s = some rest) : rest.length ≤ s.length := by
  induction marks generalizing s with
  | nil => simp_all [afterOpening?]
  | cons m marks ih =>
    cases s with
    | nil => simp [afterOpening?] at h
    | cons p s =>
      by_cases hp : m = p
      · simp only [afterOpening?, hp, if_true] at h
        have := ih h
        simp only [List.length_cons]
        omega
      · simp [afterOpening?, hp] at h

/-- The text after a placeholder is shorter. -/
theorem length_of_leading? {s name rest : CodePoints} (h : leading? s = some (name, rest)) :
    rest.length < s.length := by
  unfold leading? at h
  cases hopen : afterOpening? opening s with
  | none => simp [hopen] at h
  | some inside =>
    simp only [hopen] at h
    split at h
    · next hname =>
      have h₁ := length_of_upToBrace? hname
      have h₂ := length_of_afterOpening? hopen
      simp_all
      omega
    · simp at h

def segments (s : CodePoints) : List Segment :=
  match s with
  | [] => []
  | p :: tail =>
    match _ : leading? (p :: tail) with
    | some (name, rest) => .reference name :: segments rest
    | none => .point p :: segments tail
termination_by s.length
decreasing_by
  · exact length_of_leading? ‹_›
  · simp

/-- What the variable of a placeholder holds. -/
def lookup (env : Environment) (start name : CodePoints) : Except Failure CodePoints := do
  match ← (env.read (start ++ name)).mapError .fault with
  | some value => return value
  | none => .error (.settings (.unresolved name (start ++ name)))

/-- What a piece resolves to. -/
def Segment.resolve (env : Environment) (start : CodePoints) :
    Segment → Except Failure CodePoints
  | .point p => .ok [p]
  | .reference name => lookup env start name

/-- The text that the pieces resolve to, or the error of the first one that does not. -/
def resolveAll (env : Environment) (start : CodePoints) :
    List Segment → Except Failure CodePoints
  | [] => .ok []
  | piece :: rest => do
    let front ← piece.resolve env start
    let back ← resolveAll env start rest
    return front ++ back

/-- The text with every placeholder replaced by the variable whose name is `start` and the
placeholder's name. -/
def resolve (env : Environment) (start s : CodePoints) : Except Failure CodePoints :=
  resolveAll env start (segments s)

end Placeholder

/-- A scalar with its placeholders replaced; only texts have any. -/
def Scalar.resolve (env : Environment) (start : CodePoints) : Scalar → Except Failure Scalar
  | .str t => (Placeholder.resolve env start t).map .str
  | s => .ok s

mutual

/-- A value with the placeholders of all its texts replaced, in the order of the document. Keys,
members of sets and parts of pairs are left alone. -/
def Value.resolve (env : Environment) (start : CodePoints) : Value → Except Failure Value
  | .scalar s => (s.resolve env start).map .scalar
  | .list items => (resolveItems env start items).map .list
  | .map entries => (resolveEntries env start entries).map .map
  | .set members => .ok (.set members)
  | .pair first second => .ok (.pair first second)

def resolveItems (env : Environment) (start : CodePoints) :
    List Value → Except Failure (List Value)
  | [] => .ok []
  | v :: rest => do
    let v ← v.resolve env start
    let rest ← resolveItems env start rest
    return v :: rest

def resolveEntries (env : Environment) (start : CodePoints) :
    List (Scalar × Value) → Except Failure (List (Scalar × Value))
  | [] => .ok []
  | entry :: rest => do
    let entry ← resolveEntry env start entry
    let rest ← resolveEntries env start rest
    return entry :: rest

def resolveEntry (env : Environment) (start : CodePoints) :
    Scalar × Value → Except Failure (Scalar × Value)
  | (k, v) => (v.resolve env start).map fun v => (k, v)

end

end SecretVault
