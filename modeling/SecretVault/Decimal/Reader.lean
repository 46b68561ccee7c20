import SecretVault.Decimal.Fixed
import SecretVault.Text.Blank
import SecretVault.Text.Digit

/-!
Reading numbers from text. A number may have blanks around it, a sign, digits of any script, and
single underscores between two digits. A whole number has digits only; a float may also have a
point, an exponent, or be an infinity or not a number.
-/

namespace SecretVault.Decimal

open SecretVault.Text

def isDigit (c : Char) : Bool :=
  '0' ≤ c && c ≤ '9'

/-- The number that ASCII digits spell. -/
def ofDigits (cs : List Char) : Nat :=
  cs.foldl (fun n c => 10 * n + (c.toNat - 48)) 0

/-- Digits of all scripts as ASCII digits. -/
def asciiDigits (cs : List Char) : List Char :=
  cs.map fun c => match digit? c with
    | some d => Char.ofNat (48 + d)
    | none => c

/-- The text without its underscores, if each one stands between two digits. The first argument says
whether a digit came before. -/
def ungroup? (afterDigit : Bool) : List Char → Option (List Char)
  | [] => some []
  | [c] => if c == '_' then none else some [c]
  | c :: d :: cs =>
    if c == '_' then
      if afterDigit && isDigit d then ungroup? false (d :: cs) else none
    else (ungroup? (isDigit c) (d :: cs)).map (c :: ·)

def splitSign : List Char → Bool × List Char
  | '-' :: cs => (true, cs)
  | '+' :: cs => (false, cs)
  | cs => (false, cs)

/-- The blanks that a number may have around it: all but the information separators. -/
def isMargin (c : Char) : Bool :=
  isBlank c && !(28 ≤ c.toNat && c.toNat ≤ 31)

/-- The text without the blanks around a number. -/
def unpadded (cs : List Char) : List Char :=
  ((cs.dropWhile isMargin).reverse.dropWhile isMargin).reverse

/-- The text of a number in plain ASCII, without blanks and underscores. -/
def plain? (cs : List Char) : Option (List Char) :=
  ungroup? false (asciiDigits (unpadded cs))

/-- The most digits of a whole number in base ten, leading zeros included. -/
def mostDigits : Nat := 4300

def int? (cs : List Char) : Option Int := do
  let cs ← plain? cs
  let (negative, ds) := splitSign cs
  if ds.isEmpty || !ds.all isDigit || mostDigits < ds.length then none
  else
    let n : Int := ofDigits ds
    some (if negative then -n else n)

/-- The float nearest to `digits * 10 ^ exponent`. Far outside the range of floats the answer is an
infinity or zero, and no power is computed. -/
def scientific (negative : Bool) (digits : List Char) (exponent : Int) : Float :=
  let m := ofDigits digits
  let magnitude : Int := (Nat.toDigits 10 m).length + exponent
  let size :=
    if m == 0 || magnitude < -400 then 0
    else if 400 < magnitude then 1.0 / 0.0
    else match exponent with
      | .ofNat e => Float.ofScientific m false e
      | .negSucc e => Float.ofScientific m true (e + 1)
  if negative then -size else size

/-- The exponent at the end of a float: nothing, or a letter and a whole number. -/
def exponent? : List Char → Option Int
  | [] => some 0
  | c :: cs =>
    if c == 'e' || c == 'E' then
      let (negative, ds) := splitSign cs
      if ds.isEmpty || !ds.all isDigit then none
      else
        let n : Int := ofDigits ds
        some (if negative then -n else n)
    else none

/-- Reads a float without its sign: digits with a point among them, and an exponent. -/
def unsigned? (negative : Bool) (cs : List Char) : Option Float := do
  let whole := cs.takeWhile isDigit
  let rest := cs.dropWhile isDigit
  let (fraction, rest) := match rest with
    | '.' :: more => (more.takeWhile isDigit, more.dropWhile isDigit)
    | _ => ([], rest)
  if whole.isEmpty && fraction.isEmpty then none
  else
    let e ← exponent? rest
    some (scientific negative (whole ++ fraction) (e - fraction.length))

def float? (cs : List Char) : Option Float := do
  let cs ← plain? cs
  let (negative, cs) := splitSign cs
  let word := String.ofList (cs.map Char.toLower)
  if word == "inf" || word == "infinity" then
    some (if negative then -1.0 / 0.0 else 1.0 / 0.0)
  else if word == "nan" then some (0.0 / 0.0)
  else unsigned? negative cs

example : int? " -0_7 ".toList = some (-7) ∧ int? "1__0".toList = none ∧ int? "".toList = none := by
  decide +kernel

end SecretVault.Decimal
