import SecretVault.Fault
import SecretVault.Value.Text

/-!
Credentials for the vault service. Those that expire are given up five minutes early, so that none
is used after its end.
-/

namespace SecretVault

/-- An access key, a secret key and a session token, where they came from, and when they expire. -/
structure Credentials where
  accessKey : Value
  secretKey : Value
  sessionToken : Value
  source : CodePoints
  expiresAt : Option Instant

namespace Credentials

def empty : Credentials :=
  ⟨.str "", .str "", .str "", "static", none⟩

/-- How long before their end credentials count as expired. -/
def margin : Int := 5 * Calendar.minute

/-- Whether none of the three secrets is given. -/
def isEmpty (c : Credentials) : Bool :=
  !(c.accessKey.isGiven || c.secretKey.isGiven || c.sessionToken.isGiven)

/-- Whether the credentials are to be given up. The clock is read only if they have an end, which
must not lie so early that the margin reaches back before the calendar. -/
def expired (c : Credentials) (clock : Except Fault Instant) : Except Fault Bool :=
  match c.expiresAt with
  | none => .ok false
  | some last => do
    let now ← clock
    if last < margin then .error .overflow else return last - margin ≤ now

/-- The entry of a section, or the empty string. -/
def entry (fields : Entries) (name : String) : Value :=
  ((fields.named? name).getD .null).orElse (.str "")

/-- The credentials that a section of the configuration gives. -/
def ofSection (v : Value) : Except Fault Credentials :=
  match v.orElse (.map []) with
  | .map fields =>
    .ok ⟨entry fields "access_key", entry fields "secret_key", entry fields "session_token",
      "static", none⟩
  | _ => .error .unsupported

/-- The credentials as text that does not show the secrets. -/
def describe (c : Credentials) : String :=
  let expires := match c.expiresAt with
    | none => "None"
    | some i => (Scalar.timestamp (.universal i)).quoted
  "Credentials(access_key=" ++ c.accessKey.quoted ++ ", source=" ++ Text.quoted c.source
    ++ ", expires_at=" ++ expires ++ ")"

end Credentials

end SecretVault
