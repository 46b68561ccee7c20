import SecretVault.Decimal.Reader

/-!
Reading whole numbers in bases other than ten. The digits may have the mark of their base before
them: a zero and a letter.
-/

namespace SecretVault.Decimal

/-- The value of a digit in bases up to 16. -/
def digitIn? (base : Nat) (c : Char) : Option Nat :=
  let d? :=
    if isDigit c then some (c.toNat - 48)
    else if 'a' ≤ c && c ≤ 'f' then some (c.toNat - 87)
    else if 'A' ≤ c && c ≤ 'F' then some (c.toNat - 55)
    else none
  d?.filter (· < base)

/-- The letter that marks a base. -/
def baseMark? (base : Nat) : Option Char :=
  match base with
  | 2 => some 'b'
  | 8 => some 'o'
  | 16 => some 'x'
  | _ => none

/-- The digits after the mark of a base, if there is one. -/
def withoutMark (base : Nat) : List Char → List Char
  | '0' :: c :: cs => if some c.toLower == baseMark? base then cs else '0' :: c :: cs
  | cs => cs

def intIn? (base : Nat) (cs : List Char) : Option Int := do
  let cs ← plain? cs
  let (negative, cs) := splitSign cs
  let ds := withoutMark base cs
  if ds.isEmpty then none
  else
    let n ← ds.foldlM (fun n c => (digitIn? base c).map (base * n + ·)) 0
    some (if negative then -(n : Int) else n)

example : intIn? 8 "017".toList = some 15 ∧ intIn? 16 "-1F".toList = some (-31)
    ∧ intIn? 2 "".toList = none := by
  decide +kernel

end SecretVault.Decimal
