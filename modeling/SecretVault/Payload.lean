import SecretVault.Fault
import SecretVault.Value.Basic

/-!
Secret values as they travel. A value travels as text exactly if its bytes are UTF-8, and as raw
bytes otherwise, so the two ways never meet and each request reads back as the payload it came from.
-/

namespace SecretVault

/-- A secret value on its way to or from the vault. -/
inductive Payload where
  | text (s : String)
  | binary (b : Bytes)
  deriving DecidableEq

namespace Payload

def textField : String := "SecretString"

def binaryField : String := "SecretBinary"

def ofBytes (b : Bytes) : Payload :=
  match Utf8.toString? b with
  | some s => .text s
  | none => .binary b

def toBytes : Payload → Bytes
  | .text s => Utf8.ofString s
  | .binary b => b

def isText : Payload → Bool
  | .text _ => true
  | .binary _ => false

/-- The one field by which the payload travels. -/
def request : Payload → Entries
  | .text s => [(.str textField, .str s)]
  | .binary b => [(.str binaryField, .bytes b)]

def byteOf? : Value → Except Fault UInt8
  | .int n => if 0 ≤ n && n ≤ 255 then .ok (UInt8.ofNat n.toNat) else .error .badValue
  | .bool b => .ok (if b then 1 else 0)
  | _ => .error .wrongKind

/-- So many zeros. The number has to be one that a machine counts in, and more than two thousand
million find no room. -/
def zeros (n : Int) : Except Fault Bytes :=
  let most : Int := 9223372036854775807
  if n < -most - 1 || most - 33 < n then .error .overflow
  else if n < 0 then .error .badValue
  else if 2000000000 < n then .error .noRoom
  else .ok (List.replicate n.toNat 0)

/-- The bytes that a value of a response gives: a byte string itself, a number so many zeros, and a
list or the keys of a mapping one byte each. -/
def bytesOf : Value → Except Fault Bytes
  | .bytes b => .ok b
  | .bool b => .ok (if b then [0] else [])
  | .int n => zeros n
  | .list items => items.mapM byteOf?
  | .map entries => entries.mapM fun entry => byteOf? (.scalar entry.1)
  | _ => .error .wrongKind

/-- The payload of a response: the text field if it is there and not null, else the binary field, an
absent one being empty. -/
def ofResponse : Value → Except Fault Payload
  | .map response =>
    match (Entries.named? textField response).getD .null with
    | .str t => (t.toString?).elim (.error .unencodable) fun s => .ok (.text s)
    | .scalar .null => do
      let binary := (Entries.named? binaryField response).getD .null
      return .binary (← bytesOf (binary.orElse (.bytes [])))
    | _ => .error .unsupported
  | _ => .error .unsupported

/-- A payload as text that does not show the secret. -/
def describe (p : Payload) : String :=
  "SecretPayload(" ++ (if p.isText then "text" else "binary") ++ ", "
    ++ toString p.toBytes.length ++ " bytes)"

end Payload

end SecretVault
