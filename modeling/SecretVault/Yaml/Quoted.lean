import SecretVault.Text.CodePoint
import SecretVault.Yaml.Cursor

/-!
Scalars in quotes. Between single quotes only the quote itself is special, and is written twice;
between double quotes a backslash starts an escape. Both may go over several lines: blanks around a
line end are dropped, and the lines are joined.
-/

namespace SecretVault.Yaml

def hexDigit? (c : Char) : Option Nat :=
  if '0' ≤ c && c ≤ '9' then some (c.toNat - 48)
  else if 'a' ≤ c && c ≤ 'f' then some (c.toNat - 87)
  else if 'A' ≤ c && c ≤ 'F' then some (c.toNat - 55)
  else none

/-- The number that some digits of base 16 spell, if there are so many. -/
def hexNumber? (width : Nat) (cs : List Char) : Option Nat :=
  let ds := cs.take width
  if ds.length == width then ds.foldlM (fun n c => (hexDigit? c).map (16 * n + ·)) 0 else none

/-- The number that some digits of base 16 at a place spell. -/
def hexNumber (width : Nat) (k : Cursor) : Except Error Nat :=
  match hexNumber? width k.rest with
  | some n => .ok n
  | none => (k.skip ((k.rest.take width).takeWhile fun c => (hexDigit? c).isSome).length).fail

def escaped? (c : Char) : Option Char :=
  match c with
  | '0' => some '\x00'
  | 'a' => some '\x07'
  | 'b' => some '\x08'
  | 't' => some '\t'
  | '\t' => some '\t'
  | 'n' => some '\n'
  | 'v' => some '\x0b'
  | 'f' => some '\x0c'
  | 'r' => some '\r'
  | 'e' => some '\x1b'
  | ' ' => some ' '
  | '"' => some '"'
  | '\\' => some '\\'
  | '/' => some '/'
  | 'N' => some '\u0085'
  | '_' => some '\u00a0'
  | 'L' => some '\u2028'
  | 'P' => some '\u2029'
  | _ => none

/-- The number of digits after the letter of a numbered escape. -/
def escapeWidth? (c : Char) : Option Nat :=
  match c with
  | 'x' => some 2
  | 'u' => some 4
  | 'U' => some 8
  | _ => none

/-- The code point of a numbered escape, and the place after it. It may be a surrogate; two of them
make no character. -/
def numbered (width : Nat) (k : Cursor) : Except Error (CodePoint × Cursor) := do
  let n ← hexNumber width k
  if 0x80000000 ≤ n then .error (.fault .overflow)
  else if h : n < 0x110000 then return (⟨n, h⟩, k.skip width)
  else .error (.fault .badValue)

/-- The empty lines at a place inside quotes, within a number of lines. No mark between documents
may start a line there. -/
def quotedBreaks : Nat → Cursor → Except Error (List Char × Cursor)
  | 0, k => k.fail
  | fuel + 1, k =>
    if k.atDocumentMark then k.fail
    else
      let k := k.skipWhile isSpace
      if (k.peek.map isBreak).getD false then do
        let (lineEnd, k) := k.takeBreak
        let (more, k) ← quotedBreaks fuel k
        return (lineEnd ++ more, k)
      else .ok ([], k)

/-- Blanks inside quotes, and what they read as: themselves, or the joint of two lines. -/
def quotedGap (k : Cursor) : Except Error (CodePoints × Cursor) :=
  let (blanks, k) := k.takeWhile isSpace
  if (k.peek.map isBreak).getD false then do
    let (lineEnd, k) := k.takeBreak
    let (more, k) ← quotedBreaks (k.size + 1) k
    return ((joined lineEnd more).map .ofChar, k)
  else .ok (blanks.map .ofChar, k)

/-- What an escape stands for, from after its backslash. An escaped line end is dropped with the
blanks that follow it. -/
def escape (k : Cursor) : Except Error (CodePoints × Cursor) :=
  match k.peek with
  | none => k.fail
  | some c =>
    match escaped? c, escapeWidth? c with
    | some e, _ => .ok ([.ofChar e], k.next)
    | none, some width => (numbered width k.next).map fun (p, k) => ([p], k)
    | none, none =>
      if isBreak c then do
        let (breaks, k) ← quotedBreaks (k.size + 1) k.takeBreak.2
        return (breaks.map .ofChar, k)
      else k.fail

/-- A scalar up to its closing quote, within a number of steps. -/
def quotedWithin (double : Bool) : Nat → Cursor → Except Error (CodePoints × Cursor)
  | 0, k => k.fail
  | fuel + 1, k =>
    match k.peek with
    | none => k.fail
    | some c =>
      if !double && c == '\'' && k.peekAt 1 == some '\'' then do
        let (more, k) ← quotedWithin double fuel (k.skip 2)
        return (.ofChar '\'' :: more, k)
      else if c == (if double then '"' else '\'') then .ok ([], k.next)
      else do
        let (piece, k) ←
          if double && c == '\\' then escape k.next
          else if endsWord (some c) then quotedGap k
          else .ok ([.ofChar c], k.next)
        let (more, k) ← quotedWithin double fuel k
        return (piece ++ more, k)

/-- The scalar whose opening quote comes next. Each step takes at least one character. -/
def quoted (double : Bool) (k : Cursor) : Except Error (CodePoints × Cursor) :=
  quotedWithin double (k.size + 1) k.next

end SecretVault.Yaml
