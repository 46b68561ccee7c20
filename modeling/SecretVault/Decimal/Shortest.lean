import SecretVault.Decimal.Fixed

/-!
The shortest text of a float: the fewest digits that read back as the same float, and of all numbers
with so many digits the nearest one. The text is positional from `0.0001` up to below `10 ^ 16`, and
has at least one decimal; outside it has an exponent of at least two digits.
-/

namespace SecretVault.Decimal

/-- The reals that round to the float `mantissa * 2 ^ exponent`, in quarters of the last place. The
interval is closed exactly if the mantissa is even, and narrower below a power of two. -/
structure Interval where
  low : Nat
  high : Nat
  closed : Bool

def Interval.of (mantissa : Nat) (exponent : Int) : Interval where
  low := if mantissa == Nat.pow 2 52 && -1074 < exponent then 4 * mantissa - 1 else 4 * mantissa - 2
  high := 4 * mantissa + 2
  closed := mantissa % 2 == 0

/-- Whether a quotient, counted in quarters of the last place, lies in the interval. -/
def Interval.contains (i : Interval) (num den : Nat) : Bool :=
  if i.closed then i.low * den ≤ num && num ≤ i.high * den
  else i.low * den < num && num < i.high * den

/-- How many digits stand before the point of `num / den`; negative if zeros follow the point. -/
def pointOf (num den : Nat) : Int :=
  (digits (num * Nat.pow 10 400 / den)).length - 400

/-- `coefficient * 10 ^ shift`. -/
structure Rounded where
  coefficient : Nat
  shift : Int

/-- The multiple of `10 ^ shift` that reads back as the float and is nearest to it, if there is one.
The value is `4 * mantissa` quarters, each of them `2 ^ (exponent - 2)`. -/
def onGrid? (mantissa : Nat) (exponent shift : Int) : Option Rounded :=
  let (unitNum, unitDen) := scaled 1 (exponent - 2)
  let (gridNum, gridDen) := match shift with
    | .ofNat s => (Nat.pow 10 s, 1)
    | .negSucc s => (1, Nat.pow 10 (s + 1))
  let num := 4 * mantissa * unitNum * gridDen
  let den := unitDen * gridNum
  let below := num / den
  let interval := Interval.of mantissa exponent
  let fits (n : Nat) : Bool := interval.contains (n * den) (unitNum * gridDen)
  let lower := fits below && below ≠ 0
  let upper := fits (below + 1)
  if lower && (!upper || 2 * (num % den) < den || (2 * (num % den) == den && below % 2 == 0)) then
    some ⟨below, shift⟩
  else if upper then some ⟨below + 1, shift⟩
  else none

/-- The first grid with a number that reads back, from coarse to fine. -/
def shortestFrom (mantissa : Nat) (exponent point : Int) : Nat → Rounded
  | 0 => (onGrid? mantissa exponent (point - 17)).getD ⟨0, 0⟩
  | fuel + 1 =>
    match onGrid? mantissa exponent (point - (17 - (fuel + 1 : Nat))) with
    | some r => r
    | none => shortestFrom mantissa exponent point fuel

/-- The shortest decimal of a positive float. -/
def shortest (mantissa : Nat) (exponent : Int) : Rounded :=
  let (num, den) := scaled mantissa exponent
  shortestFrom mantissa exponent (pointOf num den) 16

/-- Writes a decimal without the zeros at its end, positionally or with an exponent. -/
def Rounded.text (r : Rounded) : String :=
  let ds := (digits r.coefficient).reverse.dropWhile (· == '0') |>.reverse
  let zeros := (digits r.coefficient).length - ds.length
  let point : Int := ds.length + zeros + r.shift
  if -4 < point && point ≤ 16 then
    if point ≤ 0 then
      "0." ++ String.ofList (List.replicate (-point).toNat '0' ++ ds)
    else
      let whole := point.toNat
      let front := ds.take whole ++ List.replicate (whole - ds.length) '0'
      let back := ds.drop whole
      String.ofList front ++ "." ++ (if back.isEmpty then "0" else String.ofList back)
  else
    let exponent := point - 1
    let mark := if exponent < 0 then "e-" else "e+"
    let front := String.ofList (ds.take 1)
    let back := ds.drop 1
    front ++ (if back.isEmpty then "" else "." ++ String.ofList back) ++ mark
      ++ String.ofList (padded 2 exponent.natAbs)

/-- The shortest text of a float. -/
def text (x : Float) : String :=
  match exact x with
  | .nan => "nan"
  | .infinite negative => sign negative ++ "inf"
  | .finite negative 0 _ => sign negative ++ "0.0"
  | .finite negative mantissa exponent => sign negative ++ (shortest mantissa exponent).text

example : text 2.5 = "2.5" ∧ text 0.1 = "0.1" ∧ text 1e16 = "1e+16" ∧ text 0.00001 = "1e-05" := by
  decide +kernel

end SecretVault.Decimal
