import SecretVault.Decimal.Exact

/-!
Remainders and whole quotients of floats. The remainder is exact. The quotient is taken of what the
remainder leaves, so it lies next to a whole number and only has to be moved onto it; far from zero
this is not always the whole part of the exact quotient.
-/

namespace SecretVault.Decimal

/-- What is left of one float after another one is taken away as often as it fits, with the sign of
the first one. -/
def remainder (a b : Float) : Float :=
  match exact a, exact b with
  | .finite negative m e, .finite _ n f =>
    let unit := min e f
    let rest := m * Nat.pow 2 (e - unit).toNat % (n * Nat.pow 2 (f - unit).toNat)
    let size := Float.scaleB (Float.ofNat rest) unit
    if negative then -size else size
  | .finite .., .infinite _ => a
  | _, _ => 0.0 / 0.0

/-- A float next to a whole number, moved onto it. -/
def snapped (x : Float) : Float :=
  let below := x.floor
  if 0.5 < x - below then below + 1.0 else below

/-- The whole quotient of two floats, rounded down. -/
def wholeQuotient (a b : Float) : Float :=
  let rest := remainder a b
  let quotient := (a - rest) / b
  snapped (if rest != 0.0 && (b < 0.0) != (rest < 0.0) then quotient - 1.0 else quotient)

end SecretVault.Decimal
