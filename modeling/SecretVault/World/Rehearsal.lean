import SecretVault.World.Basic
import SecretVault.World.Vault

/-!
An outside for rehearsals. It answers from a vault in memory and from scripts, and it interferes
where a plan tells it to: time passes, a context is cancelled, a call fails, or another response
comes.
-/

namespace SecretVault

inductive CallKind where
  | load
  | metadata
  | session
  | client
  | create
  | get
  | delete
  | paginator
  | page
  | close
  | probe
  deriving DecidableEq

def Call.kind {T : Type} : Call T → CallKind
  | .load _ _ => .load
  | .metadata => .metadata
  | .session _ _ _ => .session
  | .client _ _ _ _ => .client
  | .create _ _ _ _ => .create
  | .get _ _ => .get
  | .delete _ _ => .delete
  | .paginator _ => .paginator
  | .page _ _ => .page
  | .close _ => .close
  | .probe _ _ _ => .probe

/-- What is to happen at a call: the first call of the kind uses it up. -/
structure Interference (T : Type) where
  kind : CallKind
  elapsed : Option T
  cancelled : Option Nat
  error : Option OutsideError
  response : Option Value

/-- The state of a rehearsal. -/
structure Rehearsal (T : Type) where
  vault : Vault
  pageSize : Nat
  closable : Bool
  metadata : Except OutsideError Value
  /-- What each foreign source still has to answer; the last answer is repeated. -/
  scripts : List (List (Except OutsideError (Option Credentials)))
  plan : List (Interference T)
  /-- The pages that the next listing has, if they are not those of the vault. -/
  pages : Option (List Value)

namespace Rehearsal

variable {T : Type} [Seconds T]

/-- The first interference planned for a kind of call, and the plan without it. -/
def take (kind : CallKind) :
    List (Interference T) → Option (Interference T) × List (Interference T)
  | [] => (none, [])
  | i :: rest =>
    if i.kind = kind then (some i, rest)
    else
      let (found, rest) := take kind rest
      (found, i :: rest)

def listing (r : Rehearsal T) : List Value :=
  r.pages.getD (r.vault.pages r.pageSize)

/-- The next answer of a foreign source, and what it answers after that. -/
def nextAnswer :
    List (Except OutsideError (Option Credentials)) →
      Except OutsideError (Option Credentials) × List (Except OutsideError (Option Credentials))
  | [] => (.ok none, [])
  | [answer] => (answer, [answer])
  | answer :: rest => (answer, rest)

/-- The rehearsal with another vault, or the refusal. -/
def withVault (r : Rehearsal T) (result : Except OutsideError Vault) :
    Except OutsideError Unit × Rehearsal T :=
  match result with
  | .ok vault => (.ok (), { r with vault := vault })
  | .error e => (.error e, r)

/-- The answer to a call that nothing interferes with. -/
def plainAnswer (r : Rehearsal T) : (c : Call T) → Except OutsideError c.Answer × Rehearsal T
  | .load _ slot =>
    let (answer, rest) := nextAnswer (r.scripts.getD slot [])
    (answer, { r with scripts := r.scripts.set slot rest })
  | .metadata => (r.metadata, r)
  | .session _ _ _ => (.ok (), r)
  | .client _ _ _ _ => (.ok r.closable, r)
  | .create _ name payload _ => r.withVault (r.vault.create name payload)
  | .get _ name => (r.vault.get name, r)
  | .delete _ name => r.withVault (r.vault.delete name)
  | .paginator _ => (.ok r.listing.length, r)
  | .page _ index => (.ok (r.listing.getD index .null), r)
  | .close _ => (.ok (), r)
  | .probe _ _ _ => (.ok (), r)

/-- The answer to a call for which a response was planned. Nothing reaches the vault. -/
def plannedAnswer (r : Rehearsal T) (response : Value) :
    (c : Call T) → Except OutsideError c.Answer × Rehearsal T
  | .get _ _ => (.ok response, r)
  | .page _ _ => (.ok response, r)
  | .create _ _ _ _ => (.ok (), r)
  | .delete _ _ => (.ok (), r)
  | c => r.plainAnswer c

/-- Answers a call, after what was planned for it. A foreign source that is made to fail has still
used up an answer. -/
def reply (r : Rehearsal T) (c : Call T) : Reply T (Rehearsal T) c.Answer :=
  let (found, plan) := take c.kind r.plan
  let r := { r with plan := plan }
  match found with
  | none =>
    let (result, r) := r.plainAnswer c
    ⟨result, Seconds.ofInt 0, [], r⟩
  | some i =>
    let (result, r) :=
      match i.error, i.response with
      | some e, _ =>
        (.error e, if c.kind = .load then (r.plainAnswer c).2 else r)
      | none, some response => r.plannedAnswer response c
      | none, none => r.plainAnswer c
    ⟨result, i.elapsed.getD (Seconds.ofInt 0), i.cancelled.toList, r⟩

instance : Outside T (Rehearsal T) where
  answer c r := r.reply c

end Rehearsal

end SecretVault
