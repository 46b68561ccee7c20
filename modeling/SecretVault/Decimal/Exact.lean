/-!
The exact value of a 64-bit float: a whole number times a power of two. All texts and roundings of
floats in this library are computed from it in whole numbers.
-/

namespace SecretVault.Decimal

/-- A float taken apart. -/
inductive Exact where
  | nan
  /-- Positive infinity, or negative if the flag is set. -/
  | infinite (negative : Bool)
  /-- `mantissa * 2 ^ exponent`, negative if the flag is set; zero keeps its sign. -/
  | finite (negative : Bool) (mantissa : Nat) (exponent : Int)
  deriving DecidableEq

/-- Takes a float apart. A float below the normal range has the exponent of the least normal ones.
-/
def exact (x : Float) : Exact :=
  let bits := x.toBits.toNat
  let negative := bits / Nat.pow 2 63 == 1
  let biased : Nat := bits / Nat.pow 2 52 % 2048
  let fraction := bits % Nat.pow 2 52
  if biased == 2047 then
    if fraction == 0 then .infinite negative else .nan
  else if biased == 0 then .finite negative fraction (-1074)
  else .finite negative (Nat.pow 2 52 + fraction) ((biased : Int) - 1075)

/-- A whole number times a power of two, as a quotient of natural numbers. -/
def scaled (mantissa : Nat) (exponent : Int) : Nat × Nat :=
  match exponent with
  | .ofNat e => (mantissa * Nat.pow 2 e, 1)
  | .negSucc e => (mantissa, Nat.pow 2 (e + 1))

/-- The rational number that a float stands for, if it stands for one. -/
def toRat? (x : Float) : Option Rat :=
  match exact x with
  | .finite negative mantissa exponent =>
    let (num, den) := scaled mantissa exponent
    some (mkRat (if negative then -(num : Int) else num) den)
  | _ => none

/-- The whole number that a float lies on or just above, if it is finite. -/
def floor? (x : Float) : Option Int :=
  (toRat? x).map Rat.floor

/-- A float's whole part, with the rest cut off, if it is finite. -/
def truncate? (x : Float) : Option Int :=
  match exact x with
  | .finite negative mantissa exponent =>
    let (num, den) := scaled mantissa exponent
    let whole : Int := (num / den : Nat)
    some (if negative then -whole else whole)
  | _ => none

example : floor? 2.5 = some 2 ∧ floor? (-2.5) = some (-3) ∧ truncate? (-2.5) = some (-2) := by
  decide +kernel

end SecretVault.Decimal
