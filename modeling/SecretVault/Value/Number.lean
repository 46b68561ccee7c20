import SecretVault.Decimal.Reader
import SecretVault.Fault
import SecretVault.Value.Basic

/-!
Numbers taken from values of any kind: truth values count as one and zero, and texts are read.
-/

namespace SecretVault

namespace Value

/-- A whole number as a float, unless it is too large for one. -/
def floatOfInt (n : Int) : Except Fault Float :=
  let x := Float.ofInt n
  if x.isInf then .error .overflow else .ok x

/-- The characters of a byte string, one for each byte. -/
def charsOfBytes (b : Bytes) : List Char :=
  b.map fun byte => Char.ofNat byte.toNat

def isAscii (b : Bytes) : Bool :=
  b.all fun byte => byte.toNat < 0x80

def toFloat : Value → Except Fault Float
  | .bool b => .ok (if b then 1.0 else 0.0)
  | .int n => floatOfInt n
  | .float x => .ok x
  | .scalar (.nan _ _) => .ok (0.0 / 0.0)
  | .str t => (Decimal.float? t.shown).elim (.error .badValue) .ok
  | .bytes b =>
    if isAscii b then (Decimal.float? (charsOfBytes b)).elim (.error .badValue) .ok
    else .error .badValue
  | _ => .error .wrongKind

/-- The value as a number of seconds. Text is not read. -/
def duration : Value → Except Fault Float
  | .bool b => .ok (if b then 1.0 else 0.0)
  | .int n => floatOfInt n
  | .float x => .ok x
  | _ => .error .wrongKind

/-- The value as a whole number; a float loses what is behind its point. -/
def toInt : Value → Except Fault Int
  | .bool b => .ok (if b then 1 else 0)
  | .int n => .ok n
  | .float x =>
    match Decimal.exact x with
    | .nan => .error .badValue
    | .infinite _ => .error .overflow
    | .finite .. => .ok ((Decimal.truncate? x).getD 0)
  | .scalar (.nan _ _) => .error .badValue
  | .str t => (Decimal.int? t.shown).elim (.error .badValue) .ok
  | .bytes b =>
    if isAscii b then (Decimal.int? (charsOfBytes b)).elim (.error .badValue) .ok
    else .error .badValue
  | _ => .error .wrongKind

end Value

end SecretVault
