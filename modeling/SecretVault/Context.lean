import SecretVault.Decimal.Shortest
import SecretVault.Seconds

/-!
Contexts: the deadline and the cancellation signal that bound an operation. A context derived from
another inherits both, so its deadline is never later than its parent's and it is cancelled with it.
A context is a plain value; what changes is the moment, which holds the clock and the set of
contexts on which cancellation was called.
-/

namespace SecretVault

/-- What a running system shows at one moment: the clock, and the contexts cancelled so far. -/
structure Moment (T : Type) where
  now : T
  cancelled : List Nat

/-- A deadline and a cancellation signal. The lineage holds the contexts that this one was derived
from, nearest first. -/
structure Context (T : Type) where
  id : Nat
  lineage : List Nat
  deadline : Option T

/-- Why a context is done. -/
inductive ContextError where
  | canceled
  | deadlineExceeded
  deriving DecidableEq

def ContextError.message : ContextError → String
  | .canceled => "context canceled"
  | .deadlineExceeded => "context deadline exceeded"

namespace Moment

variable {T : Type} [Seconds T]

def after (m : Moment T) (elapsed : T) : Moment T :=
  { m with now := m.now + elapsed }

def cancel (m : Moment T) (id : Nat) : Moment T :=
  { m with cancelled := id :: m.cancelled }

end Moment

namespace Context

variable {T : Type} [Seconds T]

/-- The earlier of two deadlines, of which either may be missing. -/
def earlier : Option T → Option T → Option T
  | none, d => d
  | d, none => d
  | some own, some inherited => some (Seconds.least own inherited)

/-- A new context with a timeout counted from now, derived from a parent; either may be missing. -/
def start (m : Moment T) (id : Nat) (timeout : Option T) (parent : Option (Context T)) :
    Context T where
  id := id
  lineage := match parent with
    | none => []
    | some p => p.id :: p.lineage
  deadline := earlier (timeout.map (m.now + ·)) (parent.bind (·.deadline))

/-- Whether the context or one that it was derived from is cancelled. -/
def isCancelled (m : Moment T) (c : Context T) : Bool :=
  (c.id :: c.lineage).any fun id => m.cancelled.contains id

/-- The time left until the deadline, never negative; nothing without a deadline. -/
def remaining (m : Moment T) (c : Context T) : Option T :=
  c.deadline.map fun deadline => Seconds.greatest (Seconds.ofInt 0) (deadline - m.now)

/-- Why the context is done, if it is. Cancellation comes before the deadline. -/
def err (m : Moment T) (c : Context T) : Option ContextError :=
  if c.isCancelled m then some .canceled
  else
    match c.deadline with
    | none => none
    | some deadline => if deadline ≤ m.now then some .deadlineExceeded else none

def isDone (m : Moment T) (c : Context T) : Bool :=
  (c.err m).isSome

def describe (m : Moment Float) (c : Context Float) : String :=
  let left := match c.remaining m with
    | none => "None"
    | some left => Decimal.text left
  let cancelled := if c.isCancelled m then "True" else "False"
  "Context(remaining=" ++ left ++ ", cancelled=" ++ cancelled ++ ")"

end Context

end SecretVault
