import SecretVault.Yaml.Cursor

/-!
Block scalars: the indented lines below a bar or a greater-than sign. After a bar every line end
stays; after the other sign a line end between two lines that start with text reads as a space.
Marks in the header say what becomes of the line ends after the last line, and how deep the lines
are indented.
-/

namespace SecretVault.Yaml

/-- What becomes of the line ends after the last line of a block scalar. -/
inductive Chomping where
  /-- All go. -/
  | strip
  /-- One stays. -/
  | clip
  /-- All stay. -/
  | keep
  deriving DecidableEq

/-- The header of a block scalar: what becomes of the last line ends, and how much deeper than the
lines around it the scalar is indented, if it says so. -/
structure BlockHeader where
  chomping : Chomping
  deeper : Option Nat

/-- The mark of a chomping, if one comes next. -/
def chomping? : Option Char → Option Chomping
  | some '+' => some .keep
  | some '-' => some .strip
  | _ => none

/-- The mark of an indentation, if one comes next. -/
def deeper? (c : Option Char) : Option Nat :=
  match c with
  | none => none
  | some c => if '0' ≤ c && c ≤ '9' then some (c.toNat - 48) else none

/-- The header of a block scalar: up to one mark of each kind, in either order. -/
def blockHeader (k : Cursor) : Except Error (BlockHeader × Cursor) := do
  let (header, k) : BlockHeader × Cursor :=
    match chomping? k.peek with
    | some chomping =>
      match deeper? k.next.peek with
      | some n => (⟨chomping, some n⟩, k.skip 2)
      | none => (⟨chomping, none⟩, k.next)
    | none =>
      match deeper? k.peek with
      | some n =>
        match chomping? k.next.peek with
        | some chomping => (⟨chomping, some n⟩, k.skip 2)
        | none => (⟨.clip, some n⟩, k.next)
      | none => (⟨.clip, none⟩, k)
  if header.deeper == some 0 || !endsMark k.peek then k.fail
  else
    let k ← k.restOfLine
    return (header, k)

/-- The place after spaces, but not right of a column. -/
def indentTo (column : Nat) : Nat → Cursor → Cursor
  | 0, k => k
  | fuel + 1, k =>
    if k.column < column && k.peek == some ' ' then indentTo column fuel k.next else k

/-- The empty lines at a place of a block scalar, and the place in the line after them at its
indentation, within a number of lines. -/
def blockBreaks (column : Nat) : Nat → Cursor → List Char × Cursor
  | 0, k => ([], k)
  | fuel + 1, k =>
    let k := indentTo column (k.size + 1) k
    if (k.peek.map isBreak).getD false then
      let (lineEnd, k) := k.takeBreak
      let (more, k) := blockBreaks column fuel k
      (lineEnd ++ more, k)
    else ([], k)

/-- The empty lines before the first line of text, and the greatest column among their ends and the
start of that line, within a number of characters. -/
def blockStart : Nat → Cursor → List Char × Nat × Cursor
  | 0, k => ([], 0, k)
  | fuel + 1, k =>
    match k.peek with
    | some ' ' =>
      let (breaks, column, after) := blockStart fuel k.next
      (breaks, max k.next.column column, after)
    | some c =>
      if isBreak c then
        let (lineEnd, k) := k.takeBreak
        let (more, column, k) := blockStart fuel k
        (lineEnd ++ more, column, k)
      else ([], 0, k)
    | none => ([], 0, k)

/-- The lines of a block scalar: their text, the last line's end, and the empty lines after it. -/
structure BlockLines where
  text : List Char
  lineEnd : List Char
  further : List Char
  cursor : Cursor

/-- The lines of a block scalar from a place on, after some empty lines, within a number of lines.
-/
def blockLines (folded : Bool) (column : Nat) : Nat → List Char → Cursor → BlockLines
  | 0, breaks, k => ⟨[], [], breaks, k⟩
  | fuel + 1, breaks, k =>
    let inLine (k : Cursor) : Bool := k.column == column && k.peek.isSome
    let startsWithText (k : Cursor) : Bool := !(k.peek.map isSpace).getD false
    if !inLine k then ⟨[], [], breaks, k⟩
    else
      let (line, after) := k.takeWhile (!isBreak ·)
      let (lineEnd, after) := after.takeBreak
      let (further, after) := blockBreaks column (after.size + 1) after
      if !inLine after then ⟨breaks ++ line, lineEnd, further, after⟩
      else
        let joint :=
          if folded && lineEnd == ['\n'] && startsWithText k && startsWithText after then
            if further.isEmpty then [' '] else []
          else lineEnd
        let more := blockLines folded column fuel further after
        { more with text := breaks ++ line ++ joint ++ more.text }

/-- The block scalar whose sign comes next. Its lines start at the margin of the lines around it, at
column 1 or right of these, at the column that its header or its first line gives. -/
def block (folded : Bool) (margin : Nat) (k : Cursor) : Except Error (List Char × Cursor) := do
  let (header, k) ← blockHeader k.next
  let least := max margin 1
  let fuel := k.size + 1
  let (breaks, column, k) :=
    match header.deeper with
    | some n =>
      let column := least + n - 1
      let (breaks, k) := blockBreaks column fuel k
      (breaks, column, k)
    | none =>
      let (breaks, column, k) := blockStart fuel k
      (breaks, max least column, k)
  let lines := blockLines folded column fuel breaks k
  let tail := match header.chomping with
    | .strip => []
    | .clip => lines.lineEnd
    | .keep => lines.lineEnd ++ lines.further
  return (lines.text ++ tail, lines.cursor)

end SecretVault.Yaml
