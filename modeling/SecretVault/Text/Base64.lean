import SecretVault.Text.Utf8

/-!
Bytes in base 64. Four digits of six bits spell three bytes. Characters that are no digits are
passed over, and padding that completes a group ends the text.
-/

namespace SecretVault.Base64

def digit? (c : Char) : Option Nat :=
  if 'A' ≤ c && c ≤ 'Z' then some (c.toNat - 65)
  else if 'a' ≤ c && c ≤ 'z' then some (c.toNat - 71)
  else if '0' ≤ c && c ≤ '9' then some (c.toNat + 4)
  else if c == '+' then some 62
  else if c == '/' then some 63
  else none

/-- The bytes that whole groups of digits spell, and the full bytes of an unfinished one. -/
def bytes : List Nat → Bytes
  | a :: b :: c :: d :: rest =>
    UInt8.ofNat (a * 4 + b / 16) :: UInt8.ofNat (b % 16 * 16 + c / 4)
      :: UInt8.ofNat (c % 4 * 64 + d) :: bytes rest
  | [a, b, c] => [UInt8.ofNat (a * 4 + b / 16), UInt8.ofNat (b % 16 * 16 + c / 4)]
  | [a, b] => [UInt8.ofNat (a * 4 + b / 16)]
  | _ => []

/-- The digits of a text, the last one first. The text may end inside a group only by padding: one
sign after three digits, two after two. `pads` counts the signs since the last digit. -/
def digits? (found : List Nat) (pads : Nat) : List Char → Option (List Nat)
  | [] => if found.length % 4 == 0 then some found else none
  | c :: cs =>
    let place := found.length % 4
    if c == '=' then
      if place < 2 then digits? found pads cs
      else if 4 ≤ place + (pads + 1) then some found
      else digits? found (pads + 1) cs
    else match digit? c with
      | some d => digits? (d :: found) 0 cs
      | none => digits? found pads cs

def decode? (cs : List Char) : Option Bytes :=
  (digits? [] 0 cs).map fun found => bytes found.reverse

example : decode? "aGVsbG8=".toList = some (Utf8.ofString "hello")
    ∧ decode? "aGVsbG8".toList = none := by
  decide +kernel

end SecretVault.Base64
