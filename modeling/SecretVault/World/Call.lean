import SecretVault.Credentials.Basic
import SecretVault.Limits
import SecretVault.Outside.Error
import SecretVault.Payload

/-!
Calls to the outside, and what answers them. A call carries all that the outside gets to see. An
answer may take time, and while it is awaited contexts may be cancelled.
-/

namespace SecretVault

/-- A client of the vault service: its number, and whether it can be closed. -/
structure Client where
  id : Nat
  closable : Bool
  deriving DecidableEq

inductive Call (T : Type) where
  /-- Asks a credential source outside the library. -/
  | load (source : String) (slot : Nat)
  /-- Asks the metadata service of the machine for the credentials of its role. -/
  | metadata
  /-- Opens a session with credentials, or with none. -/
  | session (number : Nat) (region : Value) (credentials : Option Credentials)
  /-- Builds a client from a session; the number is the one it gets. -/
  | client (session id : Nat) (endpoint : Option Value) (limits : Limits T)
  /-- Creates a secret, encrypted with a key of its own if one is given. -/
  | create (client : Nat) (name : String) (payload : Payload) (key : Option Value)
  | get (client : Nat) (name : String)
  | delete (client : Nat) (name : String)
  | paginator (client : Nat)
  | page (client index : Nat)
  | close (client : Nat)
  /-- Sends a plain request to the endpoint, to see whether it can be reached. -/
  | probe (url : Value) (connect read : T)

namespace Call

/-- What a call is answered with. A session, a change to the vault, a closed client and a probe have
nothing to say; a client tells whether it can be closed, and a listing how many pages it has. -/
@[reducible] def Answer {T : Type} : Call T → Type
  | .load _ _ => Option Credentials
  | .metadata => Value
  | .client _ _ _ _ => Bool
  | .get _ _ => Value
  | .paginator _ => Nat
  | .page _ _ => Value
  | _ => Unit

/-- How long the metadata service is waited for, in seconds. -/
def metadataTimeout : Float := 1.0

/-- How often the metadata service is asked. -/
def metadataAttempts : Nat := 1

/-- Whether the call is a request for data of the vault. -/
def isRequest {T : Type} : Call T → Bool
  | .create _ _ _ _ => true
  | .get _ _ => true
  | .delete _ _ => true
  | .page _ _ => true
  | _ => false

end Call

/-- How the outside reacts to a call: the answer or an error, the time that passed, the contexts
that were cancelled meanwhile, and the state of the outside afterwards. -/
structure Reply (T σ α : Type) where
  result : Except OutsideError α
  elapsed : T
  cancelled : List Nat
  state : σ

/-- An outside: anything that answers calls. -/
class Outside (T σ : Type) where
  answer : (c : Call T) → σ → Reply T σ c.Answer

end SecretVault
