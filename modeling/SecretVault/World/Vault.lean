import SecretVault.Listing
import SecretVault.Outside.Error
import SecretVault.Payload

/-!
The vault service as its clients see it: one finite map from names to payloads that all clients
share. Creating is atomic and never overwrites.
-/

namespace SecretVault

/-- The secrets of a vault, each name at most once. -/
structure Vault where
  secrets : List (String × Payload)

namespace Vault

def empty : Vault :=
  ⟨[]⟩

def find? (v : Vault) (name : String) : Option Payload :=
  (v.secrets.find? (·.1 == name)).map (·.2)

def refusal (code message operation : String) : OutsideError :=
  .refused none
    [(.str "Error", .map [(.str "Code", .str code), (.str "Message", .str message)])]
    (.str operation)

/-- The refusal to create a secret whose name is taken. -/
def taken (name : String) : OutsideError :=
  refusal "ResourceExistsException"
    ("The operation failed because the secret " ++ name ++ " already exists.") "CreateSecret"

/-- The refusal of an operation on a secret that is not there. -/
def absent (operation : String) : OutsideError :=
  refusal "ResourceNotFoundException" "Secrets Manager can't find the specified secret." operation

def insert (v : Vault) (name : String) (p : Payload) : Vault :=
  ⟨v.secrets ++ [(name, p)]⟩

def erase (v : Vault) (name : String) : Vault :=
  ⟨v.secrets.filter (·.1 != name)⟩

def create (v : Vault) (name : String) (p : Payload) : Except OutsideError Vault :=
  match v.find? name with
  | some _ => .error (taken name)
  | none => .ok (v.insert name p)

def get (v : Vault) (name : String) : Except OutsideError Value :=
  match v.find? name with
  | some p => .ok (.map ((.str "Name", .str name) :: p.request))
  | none => .error (absent "GetSecretValue")

def delete (v : Vault) (name : String) : Except OutsideError Vault :=
  match v.find? name with
  | some _ => .ok (v.erase name)
  | none => .error (absent "DeleteSecret")

/-- Cuts a list into pieces of the given size, within a number of steps. -/
def chunks {α : Type} (size : Nat) : Nat → List α → List (List α)
  | 0, _ => []
  | _, [] => []
  | fuel + 1, xs => xs.take size :: chunks size fuel (xs.drop size)

def pageOf (names : List String) : Value :=
  .map [(.str "SecretList", .list (names.map fun name : String => .map [(.str "Name", .str name)]))]

/-- The pages of a listing: the names in descending order, so many a page. Without names there is
one empty page. -/
def pages (v : Vault) (size : Nat) : List Value :=
  let names := (Listing.ascending (v.secrets.map (·.1))).reverse
  match chunks (max 1 size) names.length names with
  | [] => [pageOf []]
  | found => found.map pageOf

end Vault

end SecretVault
