import SecretVault.Failure

/-!
Actions: steps that work on a state and end with an answer or a failure. What an action did before a
failure stays done.
-/

namespace SecretVault

/-- A step that works on a state. -/
abbrev Action (s α : Type) := ExceptT Raised (StateM s) α

namespace Action

variable {s t α : Type}

/-- Carries out an action: its outcome, and the state it leaves. -/
def outcome (a : Action s α) (state : s) : Except Raised α × s :=
  StateT.run (ExceptT.run a) state

/-- The action with a given outcome in every state. -/
def ofOutcome (f : s → Except Raised α × s) : Action s α :=
  ExceptT.mk (fun state => f state)

@[simp] theorem outcome_ofOutcome (f : s → Except Raised α × s) (state : s) :
    (ofOutcome f).outcome state = f state := rfl

@[simp] theorem outcome_pure (a : α) (state : s) :
    (pure a : Action s α).outcome state = (.ok a, state) := rfl

@[simp] theorem outcome_throw (e : Raised) (state : s) :
    (throw e : Action s α).outcome state = (.error e, state) := rfl

/-- An action after another one starts where that one succeeded, and does not start if it failed. -/
theorem outcome_bind (a : Action s α) (f : α → Action s t) (state : s) :
    (a >>= f).outcome state = match a.outcome state with
      | (.ok x, after) => (f x).outcome after
      | (.error e, after) => (.error e, after) := by
  simp only [outcome, ExceptT.run_bind, StateT.run_bind]
  rcases StateT.run (ExceptT.run a) state with ⟨result, after⟩
  cases result <;> rfl

def fail (f : Failure) : Action s α :=
  throw (.plain f)

/-- Goes on with the answer of a computation without state, or stops with its failure. -/
def ofExcept (x : Except Failure α) : Action s α :=
  match x with
  | .ok a => pure a
  | .error f => fail f

/-- Goes on with a value, or stops with its fault. -/
def ofFault (x : Except Fault α) : Action s α :=
  ofExcept (x.mapError .fault)

/-- Carries out an action and hands over its failure instead of stopping. -/
def attempt (a : Action s α) : Action s (Except Raised α) :=
  ofOutcome fun state =>
    let (result, state) := a.outcome state
    (.ok result, state)

@[simp] theorem outcome_attempt (a : Action s α) (state : s) :
    a.attempt.outcome state = (.ok (a.outcome state).1, (a.outcome state).2) := rfl

/-- Goes on with what an attempt brought. -/
def settle (result : Except Raised α) : Action s α :=
  match result with
  | .ok a => pure a
  | .error e => throw e

/-- Carries out an action on a part of the state. -/
def within (part : s → t) (replace : t → s → s) (a : Action t α) : Action s α :=
  ofOutcome fun state =>
    let (result, inner) := a.outcome (part state)
    (result, replace inner state)

@[simp] theorem outcome_within (part : s → t) (replace : t → s → s) (a : Action t α) (state : s) :
    (within part replace a).outcome state =
      ((a.outcome (part state)).1, replace (a.outcome (part state)).2 state) := rfl

def onSecond {u : Type} (a : Action s α) : Action (u × s) α :=
  within Prod.snd (fun second state => (state.1, second)) a

end Action

end SecretVault
