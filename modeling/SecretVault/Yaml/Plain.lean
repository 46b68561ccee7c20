import SecretVault.Yaml.Cursor

/-!
Plain scalars, which have no marks around them. They end at a colon that ends a word, at a comment,
between brackets also at the marks of brackets, and elsewhere at a line that is not indented enough.
Their lines are joined like those in quotes.
-/

namespace SecretVault.Yaml

/-- The marks of brackets, which end a plain scalar that stands in brackets. -/
def isFlowMark (c : Char) : Bool :=
  c == ',' || c == '[' || c == ']' || c == '\x7b' || c == '\x7d'

/-- The characters of a plain scalar up to the end of a word, of a key, or of a part in brackets. -/
def plainWord (inFlow : Bool) : List Char → List Char
  | [] => []
  | c :: cs =>
    let endsKey := c == ':' &&
      (endsWord cs.head? || (inFlow && (cs.head?.map isFlowMark).getD false))
    if endsWord (some c) || endsKey || (inFlow && (isFlowMark c || c == '?')) then []
    else c :: plainWord inFlow cs

/-- The empty lines after the end of a line of a plain scalar, within a number of characters;
nothing if a mark between documents follows. -/
def plainBreaks : Nat → Cursor → Option (List Char) × Cursor
  | 0, k => (some [], k)
  | fuel + 1, k =>
    match k.peek with
    | some ' ' => plainBreaks fuel k.next
    | some c =>
      if isBreak c then
        let (lineEnd, k) := k.takeBreak
        if k.atDocumentMark then (none, k)
        else
          let (more, k) := plainBreaks fuel k
          (more.map (lineEnd ++ ·), k)
      else (some [], k)
    | none => (some [], k)

/-- What separates two words of a plain scalar. -/
structure PlainGap where
  /-- What the gap reads as; empty if the scalar ends here. -/
  text : List Char
  cursor : Cursor
  endsLine : Bool

/-- The gap at a place. -/
def plainGap (k : Cursor) : PlainGap :=
  let (blanks, k) := k.takeWhile (· == ' ')
  if (k.peek.map isBreak).getD false then
    let (lineEnd, k) := k.takeBreak
    if k.atDocumentMark then ⟨[], k, true⟩
    else match plainBreaks (k.size + 1) k with
      | (none, k) => ⟨[], k, true⟩
      | (some more, k) => ⟨joined lineEnd more, k, true⟩
  else ⟨blanks, k, false⟩

/-- A plain scalar, the place after it, and whether a line ended after its last word. -/
structure PlainScalar where
  text : List Char
  cursor : Cursor
  endsLine : Bool

/-- What is left of a plain scalar after a gap, within a number of words. Lines outside of brackets
have to start at the margin or right of it. -/
def plainWithin (inFlow : Bool) (margin : Nat) : Nat → PlainGap → PlainScalar
  | 0, gap => ⟨[], gap.cursor, gap.endsLine⟩
  | fuel + 1, gap =>
    let word := plainWord inFlow gap.cursor.rest
    if gap.cursor.peek == some '#' || word.isEmpty then ⟨[], gap.cursor, gap.endsLine⟩
    else
      let after := plainGap (gap.cursor.skip word.length)
      if after.text.isEmpty || after.cursor.peek == some '#'
          || (!inFlow && after.cursor.column < margin) then
        ⟨gap.text ++ word, after.cursor, after.endsLine⟩
      else
        let more := plainWithin inFlow margin fuel after
        { more with text := gap.text ++ word ++ more.text }

/-- The plain scalar that comes next. Each word takes at least one character. -/
def plain (inFlow : Bool) (margin : Nat) (k : Cursor) : PlainScalar :=
  plainWithin inFlow margin (k.size + 1) ⟨[], k, false⟩

end SecretVault.Yaml
