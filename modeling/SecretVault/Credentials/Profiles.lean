import SecretVault.Text.LowerCase
import SecretVault.Value.Basic

/-!
The shared profile file. It has sections in brackets, and in them options with an equals sign or
colon between name and value; indented lines continue a value. The section `DEFAULT` gives its
options to all others. A value that begins with a line end is a mapping of its own, one entry a
line.
-/

namespace SecretVault

namespace Profiles

open SecretVault.Text

/-- An option: its name, and the lines of its value, last one first. -/
structure Item where
  name : List Char
  lines : List (List Char)

/-- A section: its name, and its options, last one first. -/
structure Group where
  name : List Char
  items : List Item

/-- The file so far: its sections, last one first, and how far the last option was indented. -/
structure Draft where
  groups : List Group
  /-- Whether the last line belongs to an option, so that it can be continued. -/
  continues : Bool
  indent : Nat

/-- The name of the section that gives its options to all others. -/
def sharedName : List Char := "DEFAULT".toList

/-- The name in brackets that a line begins with: everything up to the last closing bracket, and not
empty. -/
def header? : List Char → Option (List Char)
  | '[' :: inside =>
    match inside.reverse.dropWhile (· != ']') with
    | _ :: c :: front => some (c :: front).reverse
    | _ => none
  | _ => none

def isDelimiter (c : Char) : Bool :=
  c == '=' || c == ':'

/-- The option that a line begins: its name in lower case, and the first line of its value. -/
def item? (line : List Char) : Option Item :=
  match line.dropWhile fun c => !isDelimiter c with
  | [] => none
  | _ :: value =>
    let name := trimEnd (line.takeWhile fun c => !isDelimiter c)
    if name.isEmpty then none else some ⟨lower name, [trim value]⟩

/-- The draft with a line added to its last option. -/
def Draft.extend (d : Draft) (line : List Char) : Draft :=
  match d.groups with
  | g :: groups =>
    match g.items with
    | i :: items =>
      let items := { i with lines := line :: i.lines } :: items
      { d with groups := { g with items := items } :: groups }
    | [] => d
  | [] => d

/-- The draft with a section begun. Only the shared section may come twice. -/
def Draft.begin? (d : Draft) (name : List Char) (indent : Nat) : Option Draft :=
  match d.groups.find? (·.name == name) with
  | some g =>
    if name == sharedName then
      some ⟨g :: d.groups.filter (·.name != name), false, indent⟩
    else none
  | none => some ⟨⟨name, []⟩ :: d.groups, false, indent⟩

/-- The draft with an option begun in the last section, where its name must be new. -/
def Draft.add? (d : Draft) (i : Item) (indent : Nat) : Option Draft :=
  match d.groups with
  | [] => none
  | g :: groups =>
    if g.items.any (·.name == i.name) then none
    else some ⟨{ g with items := i :: g.items } :: groups, true, indent⟩

def Draft.read? (d : Draft) (line : List Char) : Option Draft :=
  let content := trim line
  match content with
  | [] => some (if d.continues then d.extend [] else d)
  | c :: _ =>
    if c == '#' || c == ';' then some d
    else
      let indent := (line.takeWhile isBlank).length
      if d.continues && d.indent < indent then some (d.extend content)
      else
        match header? content with
        | some name => d.begin? name indent
        | none =>
          match item? content with
          | some i => d.add? i indent
          | none => none

/-- The lines of a value put together, without the blanks at its end. -/
def Item.value (i : Item) : List Char :=
  trimEnd ([ '\n'].intercalate i.lines.reverse)

/-- One line of a value that is a mapping of its own. -/
def entry? (line : List Char) : Option (List Char × List Char) :=
  match line.dropWhile (· != '=') with
  | [] => none
  | _ :: value => some (trim (line.takeWhile (· != '=')), trim value)

/-- The mapping that a value is, if every line of it is an entry. -/
def nested? (value : List Char) : Option Value := do
  let lines := ((pieces value).map trim).filter fun line => !line.isEmpty
  let entries ← lines.mapM entry?
  return .map (Entries.ofList (entries.map fun (k, v) =>
    (.str (String.ofList k), .str (String.ofList v))))

def Item.read? (i : Item) : Option (Scalar × Value) := do
  let value := i.value
  let key : Scalar := .str (String.ofList i.name)
  if value.head? == some '\n' then return (key, ← nested? value)
  else return (key, .str (String.ofList value))

/-- The options of a section, over those that are shared. -/
def Group.read? (shared : List Item) (g : Group) : Option (CodePoints × Entries) := do
  let own ← g.items.reverse.mapM Item.read?
  let common ← (shared.filter fun i => !g.items.any (·.name == i.name)).reverse.mapM Item.read?
  return (CodePoints.ofString (String.ofList g.name), own ++ common)

/-- The profiles of a file, if it is well written. -/
def read? (cs : List Char) : Option (List (CodePoints × Entries)) := do
  let draft ← (lines (unifyLines cs)).foldlM Draft.read? ⟨[], false, 0⟩
  let shared := ((draft.groups.find? (·.name == sharedName)).map (·.items)).getD []
  (draft.groups.reverse.filter (·.name != sharedName)).mapM (Group.read? shared)

end Profiles

end SecretVault
