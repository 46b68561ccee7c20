import SecretVault.Seconds

/-!
Limits of a client: how long it waits for a connection and for an answer, and how often it tries.
The limits that fit into a remaining time are those of a budget, the remaining time rounded down, so
that few different limits occur.
-/

namespace SecretVault

/-- Timeouts of one attempt, and the number of attempts. -/
structure Limits (T : Type) where
  connect : T
  read : T
  attempts : Int

namespace Limits

variable {T : Type} [Seconds T]

def same (a b : Limits T) : Bool :=
  a.connect == b.connect && a.read == b.read && a.attempts == b.attempts

/-- A remaining time rounded down: to tenths below one second but not below one tenth, and to whole
seconds above. -/
def budget (remaining : T) : Except Fault T :=
  if remaining < Seconds.ofInt 1 then do
    let tenths ← Seconds.floor (remaining * Seconds.ofInt 10)
    return Seconds.greatest Seconds.tenth (Seconds.ofInt tenths / Seconds.ofInt 10)
  else (Seconds.floor remaining).map Seconds.ofInt

/-- The limits that fit into a budget: neither timeout is longer than it, and there are as many
attempts as fit, but at least one and at most the configured number. -/
def fitted (configured : Limits T) (budget : T) : Except Fault (Limits T) := do
  let connect := Seconds.least configured.connect budget
  let read := Seconds.least configured.read budget
  let times ← Seconds.wholeTimes budget (connect + read)
  return ⟨connect, read, max 1 (min configured.attempts times)⟩

/-- The limits for a remaining time, or nothing if the configured ones already fit. -/
def within? (configured : Limits T) (remaining : T) : Except Fault (Option (Limits T)) := do
  let limits ← configured.fitted (← budget remaining)
  return if limits.same configured then none else some limits

/-- The limits for a time that may be unbounded. -/
def for? (configured : Limits T) : Option T → Except Fault (Option (Limits T))
  | none => .ok none
  | some remaining => configured.within? remaining

end Limits

end SecretVault
