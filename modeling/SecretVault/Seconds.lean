import SecretVault.Decimal.Quotient
import SecretVault.Fault

/-!
Time in seconds. The library runs on 64-bit floats, and every definition that handles time takes the
type of seconds as a parameter, so the same definitions can be read over the rational numbers, where
sums and quotients are exact.
-/

namespace SecretVault

/-- What the library asks of seconds: arithmetic and order, the tenth that short budgets are counted
in, and the ways back to whole numbers. -/
class Seconds (T : Type) extends Add T, Sub T, Mul T, Div T, LT T, LE T, BEq T where
  decidableLT : DecidableLT T
  decidableLE : DecidableLE T
  ofInt : Int → T
  tenth : T
  /-- The whole number at or just below. -/
  floor : T → Except Fault Int
  /-- How many whole times the second duration fits into the first one. -/
  wholeTimes : T → T → Except Fault Int
  /-- The nearest number of microseconds. -/
  micros : T → Except Fault Int

instance decidableLess {T : Type} [Seconds T] (a b : T) : Decidable (a < b) :=
  Seconds.decidableLT a b

instance decidableLessOrEqual {T : Type} [Seconds T] (a b : T) : Decidable (a ≤ b) :=
  Seconds.decidableLE a b

namespace Seconds

variable {T : Type} [Seconds T]

/-- The lesser of two; the first one unless the second is less. -/
def least (a b : T) : T :=
  if b < a then b else a

/-- The greater of two; the first one unless the second is greater. -/
def greatest (a b : T) : T :=
  if a < b then b else a

end Seconds

/-- The whole number nearest to a rational number; of two equally near the even one. -/
def roundEven (q : Rat) : Int :=
  let below := q.floor
  let rest := q - below
  if rest < 1 / 2 then below
  else if 1 / 2 < rest then below + 1
  else if below % 2 = 0 then below else below + 1

instance : Seconds Rat where
  decidableLT := inferInstance
  decidableLE := inferInstance
  ofInt n := n
  tenth := 1 / 10
  floor q := .ok q.floor
  wholeTimes a b := if b = 0 then .error .divisionByZero else .ok (a / b).floor
  micros q := .ok (roundEven (q * 1000000))

def Decimal.floor (x : Float) : Except Fault Int :=
  match Decimal.exact x with
  | .nan => .error .badValue
  | .infinite _ => .error .overflow
  | .finite .. => .ok ((Decimal.floor? x).getD 0)

def Decimal.wholeTimes (a b : Float) : Except Fault Int :=
  if b == 0.0 then .error .divisionByZero else Decimal.floor (Decimal.wholeQuotient a b)

/-- The nearest number of microseconds in a number of seconds. The whole seconds count exactly, and
what is left of them is a float of its own. -/
def Decimal.micros (x : Float) : Except Fault Int :=
  match Decimal.exact x with
  | .nan => .error .badValue
  | .infinite _ => .error .overflow
  | .finite .. =>
    let whole := (Decimal.truncate? x).getD 0
    let rest := (Decimal.toRat? (1000000.0 * (x - Float.ofInt whole))).getD 0
    .ok (whole * 1000000 + roundEven rest)

instance : Seconds Float where
  decidableLT := inferInstance
  decidableLE := inferInstance
  ofInt := Float.ofInt
  tenth := 0.1
  floor := Decimal.floor
  wholeTimes := Decimal.wholeTimes
  micros := Decimal.micros

end SecretVault
