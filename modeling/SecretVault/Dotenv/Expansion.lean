import SecretVault.Dotenv.Binding
import SecretVault.Host.Basic

/-!
Loading a `.env` file. References of the form `${NAME}` and `${NAME:-default}` are replaced in
every value, first from the environment and then from earlier names of the file. A variable that is
set already is never overwritten.
-/

namespace SecretVault.Dotenv

/-- A piece of a value: text, or a reference with a default. -/
inductive Piece where
  | char (c : Char)
  | reference (name fallback : String)

/-- The reference whose inside the text begins with, and the text after its closing brace. -/
def reference? (cs : List Char) : Option (Piece × List Char) :=
  let name := cs.takeWhile fun c => c != '\x7d' && c != ':'
  match cs.dropWhile fun c => c != '\x7d' && c != ':' with
  | '\x7d' :: rest => some (.reference (String.ofList name) "", rest)
  | ':' :: '-' :: more =>
    match more.dropWhile (· != '\x7d') with
    | _ :: rest =>
      some (.reference (String.ofList name) (String.ofList (more.takeWhile (· != '\x7d'))), rest)
    | [] => none
  | _ => none

/-- The pieces of a value, within a number of steps. -/
def piecesWithin : Nat → List Char → List Piece
  | 0, _ => []
  | _, [] => []
  | fuel + 1, c :: cs =>
    match c, cs with
    | '$', '\x7b' :: inside =>
      match reference? inside with
      | some (piece, rest) => piece :: piecesWithin fuel rest
      | none => .char c :: piecesWithin fuel cs
    | _, _ => .char c :: piecesWithin fuel cs

/-- The pieces of a value. Each step takes at least one character. -/
def pieces (s : String) : List Piece :=
  piecesWithin (s.toList.length + 1) s.toList

/-- The names of a file so far. A name without a value hides the default of a reference to it. -/
abbrev Names := List (String × Option CodePoints)

/-- What a piece stands for. -/
def Piece.text (env : Environment) (names : Names) : Piece → CodePoints
  | .char c => [.ofChar c]
  | .reference name fallback =>
    match env name, names.find? (·.1 == name) with
    | some value, _ => value
    | none, some (_, value) => value.getD ""
    | none, none => fallback

/-- Adds a binding; a later one takes the place of an earlier one. -/
def addName (names : Names) (name : String) (value : Option CodePoints) : Names :=
  if names.any (·.1 == name) then
    names.map fun entry => if entry.1 == name then (name, value) else entry
  else names ++ [(name, value)]

/-- The names of a file with their values expanded. -/
def expand (env : Environment) (written : List Binding) : Names :=
  written.foldl (fun names b =>
    addName names b.name (b.value.map fun v => (pieces v).flatMap (Piece.text env names))) []

end SecretVault.Dotenv

namespace SecretVault.Variables

def unset (values : Variables) (name : CodePoints) : Variables :=
  values.filter fun entry => entry.1.encode? != name.encode?

def set (values : Variables) (name value : CodePoints) : Variables :=
  (name, value) :: values.unset name

/-- Sets a variable, if it can have the name and the value. -/
def assign (values : Variables) (name value : CodePoints) : Except Fault Variables :=
  if !name.isEncodable || !value.isEncodable then .error .unencodable
  else if name.contains (.ofChar '=') || name.contains .nul || value.contains .nul then
    .error .badValue
  else if name.isEmpty then .error .unusableName
  else .ok (values.set name value)

/-- Other variables than the one that is set stay as they are. -/
theorem value?_set (values : Variables) {name other value : CodePoints}
    (apart : name.encode? ≠ other.encode?) :
    (values.set name value).value? other = values.value? other := by
  cases key : other.encode? with
  | none => simp [value?, key]
  | some bytes =>
    rw [key] at apart
    simp only [value?, key, Option.bind_some, set, unset, List.find?_cons, List.find?_filter]
    rw [show (name.encode? == some bytes) = false by simpa using apart]
    refine congrArg (Option.map _) (congrArg (fun test => List.find? test values) ?_)
    funext entry
    by_cases found : entry.1.encode? = some bytes
    · simp [found, Ne.symm apart]
    · simp [found]

end SecretVault.Variables

namespace SecretVault.Dotenv

/-- A letter without regard to case. The long s counts as an s. -/
def caseless (c : Char) : Char :=
  if c == 'ſ' then 's' else c.toLower

/-- Whether loading of `.env` files is switched off. -/
def isDisabled (values : Variables) : Bool :=
  match values.value? "PYTHON_DOTENV_DISABLED" with
  | none => false
  | some v => ["1", "true", "t", "yes", "y"].contains (String.ofList (v.shown.map caseless))

/-- Sets the names that are not set yet, in order. -/
def adopt (values : Variables) : Names → Variables × Except Failure Unit
  | [] => (values, .ok ())
  | (name, value) :: rest =>
    match values.value? name, value with
    | none, some value =>
      match values.assign name value with
      | .ok values => adopt values rest
      | .error f => (values, .error (.fault f))
    | _, _ => adopt values rest

def adoptFile (values : Variables) (content : Bytes) : Variables × Except Failure Unit :=
  match Utf8.decode? content with
  | none => (values, .error (.fault .undecodable))
  | some cs =>
    let cs := match cs with
      | '\ufeff' :: rest => rest
      | _ => cs
    adopt values (expand values.value? (bindings (Text.unifyLines cs)))

/-- Loads a `.env` file into the environment, if loading is not switched off. What is no file is
left alone. -/
def load (machine : Machine) (path : Path) : Variables × Except Failure Unit :=
  match machine.files.find path with
  | .file content =>
    if isDisabled machine.values then (machine.values, .ok ())
    else adoptFile machine.values content
  | _ => (machine.values, .ok ())

/-! ## Nothing is overwritten -/

theorem value?_adopt {values : Variables} {name value : CodePoints}
    (held : values.value? name = some value) (names : Names) :
    (adopt values names).1.value? name = some value := by
  induction names generalizing values with
  | nil => exact held
  | cons entry rest ih =>
    obtain ⟨first, given⟩ := entry
    unfold adopt
    split
    · rename_i free
      split
      · rename_i next assigned
        refine ih ?_
        have apart : CodePoints.encode? first ≠ name.encode? := by
          intro same
          rw [Variables.value?, same] at free
          rw [Variables.value?, free] at held
          cases held
        unfold Variables.assign at assigned
        split at assigned
        · cases assigned
        · split at assigned
          · cases assigned
          · split at assigned
            · cases assigned
            · cases assigned
              rw [Variables.value?_set values apart]
              exact held
      · exact held
    · exact ih held

/-- Loading a file overwrites no variable that is set. -/
theorem value?_load {machine : Machine} {name value : CodePoints}
    (held : machine.value? name = some value) (path : Path) :
    (load machine path).1.value? name = some value := by
  unfold load adoptFile
  split
  · split
    · exact held
    · split
      · exact held
      · exact value?_adopt held _
  · exact held

end SecretVault.Dotenv
