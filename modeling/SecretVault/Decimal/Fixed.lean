import SecretVault.Decimal.Exact

/-!
A float with a fixed number of decimal places. The exact value is rounded once, a tie going to the
even neighbour, so `0.25` has the one-place text `0.2`.
-/

namespace SecretVault.Decimal

/-- The whole number nearest to a quotient; of two equally near the even one. -/
def roundDiv (num den : Nat) : Nat :=
  let quotient := num / den
  let twice := 2 * (num % den)
  if twice < den then quotient
  else if den < twice then quotient + 1
  else if quotient % 2 == 0 then quotient else quotient + 1

def digits (n : Nat) : List Char :=
  Nat.toDigits 10 n

/-- At least `width` digits, filled up with zeros on the left. -/
def padded (width n : Nat) : List Char :=
  let ds := digits n
  List.replicate (width - ds.length) '0' ++ ds

def sign (negative : Bool) : String :=
  if negative then "-" else ""

/-- A float with `places` decimal places. -/
def fixed (places : Nat) (x : Float) : String :=
  match exact x with
  | .nan => "nan"
  | .infinite negative => sign negative ++ "inf"
  | .finite negative mantissa exponent =>
    let (num, den) := scaled mantissa exponent
    let units := roundDiv (num * Nat.pow 10 places) den
    let whole := String.ofList (digits (units / Nat.pow 10 places))
    let text := if places == 0 then whole
      else whole ++ "." ++ String.ofList (padded places (units % Nat.pow 10 places))
    sign negative ++ text

example : fixed 1 0.25 = "0.2" ∧ fixed 1 0.35 = "0.3" ∧ fixed 1 (-0.01) = "-0.0" := by
  decide +kernel

end SecretVault.Decimal
