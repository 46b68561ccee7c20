import SecretVault.Action
import SecretVault.Host.Basic
import SecretVault.World.Call

/-!
The world that the library acts in: the moment, the host, the outside, and the log of all calls
made so far. Every call is logged with the moment at which it is made, before it is answered.
-/

namespace SecretVault

/-- One entry of the log: a call, the moment at which it was made, and whether it succeeded. -/
structure Logged (T : Type) where
  call : Call T
  moment : Moment T
  succeeded : Bool

/-- The state of everything around the library. The wall clock read `date` when the clock read
`began`, and has run with it since. -/
structure World (T σ : Type) where
  moment : Moment T
  began : T
  date : Instant
  host : Host
  /-- The number of the session opened last. -/
  sessions : Nat
  /-- The number of the client built last. -/
  clients : Nat
  log : List (Logged T)
  outside : σ

namespace World

variable {T σ : Type} [Seconds T]

/-- What the wall clock reads, if the calendar has that instant. -/
def wall (w : World T σ) : Except Fault Instant := do
  let now := w.date + (← Seconds.micros (w.moment.now - w.began))
  if 0 ≤ now && now < Calendar.endOfTime then return now else .error .overflow

def advance (w : World T σ) (elapsed : T) : World T σ :=
  { w with moment := w.moment.after elapsed }

def cancel (w : World T σ) (id : Nat) : World T σ :=
  { w with moment := w.moment.cancel id }

def now : Action (World T σ) (Moment T) := do
  return (← get).moment

def check (ctx : Context T) : Action (World T σ) Unit := do
  match ctx.err (← now) with
  | some e => Action.fail (.context e)
  | none => return ()

/-- Makes a call: logs it, has it answered, and lets pass what passed meanwhile. -/
def perform [Outside T σ] (c : Call T) : Action (World T σ) c.Answer :=
  Action.ofOutcome fun w =>
    let reply := Outside.answer c w.outside
    let succeeded := match reply.result with
      | .ok _ => true
      | .error _ => false
    (reply.result.mapError fun e => .plain (.outside e),
      { w with
        moment := ⟨w.moment.now + reply.elapsed, reply.cancelled ++ w.moment.cancelled⟩
        log := w.log ++ [⟨c, w.moment, succeeded⟩]
        outside := reply.state })

/-- Opens a session, which gets the next number. -/
def openSession [Outside T σ] (region : Value) (credentials : Option Credentials) :
    Action (World T σ) Nat := do
  let number := (← get).sessions + 1
  perform (T := T) (.session number region credentials)
  modify fun w => { w with sessions := number }
  return number

/-- Builds a client, which gets the next number. -/
def buildClient [Outside T σ] (session : Nat) (endpoint : Option Value) (limits : Limits T) :
    Action (World T σ) Client := do
  let id := (← get).clients + 1
  let closable ← perform (.client session id endpoint limits)
  modify fun w => { w with clients := id }
  return ⟨id, closable⟩

/-- Closes a client that can be closed. -/
def closeClient [Outside T σ] (c : Client) : Action (World T σ) Unit := do
  if c.closable then perform (T := T) (.close c.id)

/-- Loads a `.env` file, if there is one. -/
def loadDotenv (load : Host → Host × Except Failure Unit) : Action (World T σ) Unit :=
  Action.ofOutcome fun w =>
    let (host, result) := load w.host
    (result.mapError .plain, { w with host := host })

end World

end SecretVault
