import SecretVault.Credentials.Basic
import SecretVault.Failure
import SecretVault.Limits
import SecretVault.Value.Number

/-!
Options for connecting to the vault service, as a section of the configuration gives them. Only the
region is required; the address names an endpoint other than the region's own.
-/

namespace SecretVault

/-- How to reach the vault service, and with which limits. -/
structure Options (T : Type) where
  region : Value
  address : Value
  encryptionKey : Value
  login : Credentials
  limits : Limits T

namespace Options

def schemeMark : String := "://"

/-- Whether an address has a scheme. Of a list, mapping or set it is asked whether the mark is one
of its members. -/
def hasScheme : Value → Except Fault Bool
  | .str t => .ok (OutsideError.containsText schemeMark t)
  | .list items => .ok (items.any fun item => match item with
    | .str t => t == schemeMark
    | _ => false)
  | .map entries => .ok ((Entries.named? schemeMark entries).isSome)
  | .set members => .ok (members.any (Scalar.sameKey (.str schemeMark)))
  | _ => .error .wrongKind

/-- The address of the service: the region's own endpoint, or the one given, by default over a
secure connection. -/
def endpoint {T : Type} (o : Options T) : Except Fault Value :=
  if o.address.isGiven then do
    if ← hasScheme o.address then return o.address
    else return .str ("https://" ++ (← o.address.write))
  else return .str ("https://secretsmanager." ++ (← o.region.write) ++ ".amazonaws.com")

/-- The endpoint that a client is told, which is none if it finds the region's own. -/
def clientEndpoint {T : Type} (o : Options T) : Except Fault (Option Value) :=
  if o.address.isGiven then o.endpoint.map some else .ok none

def ofFault {α : Type} (x : Except Fault α) : Except Failure α :=
  x.mapError .fault

/-- The options that a section of the configuration gives. Its parts are looked at in the order of
login, timeouts, attempts, and the region last. -/
def ofSection : Value → Except Failure (Options Float)
  | .map fields => do
    let get (name : String) : Value := (Entries.named? name fields).getD .null
    let login ← ofFault (Credentials.ofSection (get "login"))
    let connect ← ofFault ((Entries.named? "connect_timeout" fields).getD (.float 5.0)).toFloat
    let read ← ofFault ((Entries.named? "read_timeout" fields).getD (.float 30.0)).toFloat
    let attempts ← ofFault ((Entries.named? "max_attempts" fields).getD (.int 3)).toInt
    let region := (get "region").orElse (.str "")
    if region.isGiven then
      return {
        region := region
        address := (get "addr").orElse (.str "")
        encryptionKey := (get "kms_key_id").orElse (.str "")
        login := login
        limits := ⟨connect, read, attempts⟩ }
    else .error (.settings .regionRequired)
  | _ => .error (.fault .unsupported)

end Options

end SecretVault
