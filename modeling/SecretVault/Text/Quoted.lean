import SecretVault.Text.CodePoint
import SecretVault.Text.Printable

/-!
Quoted text: a text or a byte string as a value inside a list or mapping is shown. The quote is the
single one unless only that one occurs inside; what is not printable is written by its number.
-/

namespace SecretVault.Text

def hexDigit (n : Nat) : Char :=
  if n < 10 then Char.ofNat (48 + n) else Char.ofNat (87 + n)

/-- The last `width` hexadecimal digits of a number. -/
def hexDigits : Nat → Nat → List Char
  | 0, _ => []
  | width + 1, n => hexDigits width (n / 16) ++ [hexDigit (n % 16)]

/-- The quote to put around a text: the double one exactly if the text has a single quote and no
double one. -/
def quoteFor (cs : List Char) : Char :=
  if cs.contains '\'' && !cs.contains '"' then '"' else '\''

/-- One character inside quotes. -/
def quotedChar (quote : Char) (c : Char) : List Char :=
  if c == quote || c == '\\' then [ '\\', c]
  else if c == '\n' then [ '\\', 'n']
  else if c == '\r' then [ '\\', 'r']
  else if c == '\t' then [ '\\', 't']
  else if isPrintable c then [c]
  else if c.toNat < 0x100 then '\\' :: 'x' :: hexDigits 2 c.toNat
  else if c.toNat < 0x10000 then '\\' :: 'u' :: hexDigits 4 c.toNat
  else '\\' :: 'U' :: hexDigits 8 c.toNat

def quotedPoint (quote : Char) (p : CodePoint) : List Char :=
  match p.char? with
  | some c => quotedChar quote c
  | none => '\\' :: 'u' :: hexDigits 4 p.val

/-- A text in quotes. -/
def quoted (t : CodePoints) : String :=
  let quote := quoteFor t.shown
  String.ofList (quote :: t.flatMap (quotedPoint quote) ++ [quote])

/-- One byte inside quotes: ASCII as it is, all else by its number. -/
def quotedByte (quote : Char) (b : UInt8) : List Char :=
  if b.toNat < 0x80 then quotedChar quote (Char.ofNat b.toNat)
  else '\\' :: 'x' :: hexDigits 2 b.toNat

/-- A byte string in quotes, marked by a letter. -/
def quotedBytes (b : Bytes) : String :=
  let quote := quoteFor (b.map fun byte => Char.ofNat byte.toNat)
  String.ofList ('b' :: quote :: b.flatMap (quotedByte quote) ++ [quote])

end SecretVault.Text
