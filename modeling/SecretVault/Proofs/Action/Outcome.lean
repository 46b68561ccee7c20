import SecretVault.Action

/-!
Outcomes of actions, one equation for each way to build an action. An action of several steps is
taken apart step by step with them. What holds of the states before and after an action whatever it
brings is said by `Moves`.
-/

namespace SecretVault.Action

variable {s t u α β : Type}

/-! ## Results -/

theorem ok_of_toOption {ε : Type} {x : Except ε α} {a : α} (h : x.toOption = some a) :
    x = .ok a := by
  cases x with
  | ok b => exact congrArg Except.ok (Option.some.inj h)
  | error e => cases h

@[simp] theorem mapError_ok {ε δ : Type} (f : ε → δ) (a : α) :
    (Except.ok a : Except ε α).mapError f = .ok a := rfl

@[simp] theorem mapError_error {ε δ : Type} (f : ε → δ) (e : ε) :
    (Except.error e : Except ε α).mapError f = .error (f e) := rfl

theorem ok_of_isOk {ε : Type} {x : Except ε α} (h : x.isOk = true) : ∃ a, x = .ok a := by
  cases x with
  | ok a => exact ⟨a, rfl⟩
  | error e => cases h

theorem error_of_isOk {ε : Type} {x : Except ε α} (h : x.isOk = false) : ∃ e, x = .error e := by
  cases x with
  | ok a => cases h
  | error e => exact ⟨e, rfl⟩

/-! ## Single steps -/

@[simp] theorem outcome_get (state : s) :
    (get : Action s s).outcome state = (.ok state, state) := rfl

@[simp] theorem outcome_fail (f : Failure) (state : s) :
    (fail f : Action s α).outcome state = (.error (.plain f), state) := rfl

@[simp] theorem outcome_ofExcept (x : Except Failure α) (state : s) :
    (ofExcept x).outcome state = (x.mapError .plain, state) := by
  cases x <;> rfl

@[simp] theorem outcome_ofFault (x : Except Fault α) (state : s) :
    (ofFault x).outcome state = (x.mapError fun f => .plain (.fault f), state) := by
  cases x <;> rfl

theorem ofFault_ok (x : α) : (ofFault (.ok x) : Action s α) = pure x := rfl

theorem ofFault_map (x : Except Fault α) (f : α → β) :
    (ofFault (x.map f) : Action s β) = ofFault x >>= fun a => pure (f a) := by
  cases x <;> rfl

@[simp] theorem outcome_onSecond (a : Action s α) (state : u × s) :
    (onSecond a).outcome state = ((a.outcome state.2).1, state.1, (a.outcome state.2).2) := rfl

/-! ## Steps one after the other -/

theorem outcome_bind_ok {a : Action s α} {f : α → Action s β} {x : α} {state after : s}
    (h : a.outcome state = (.ok x, after)) :
    (a >>= f).outcome state = (f x).outcome after := by
  rw [outcome_bind, h]

theorem outcome_bind_error {a : Action s α} {f : α → Action s β} {e : Raised} {state after : s}
    (h : a.outcome state = (.error e, after)) :
    (a >>= f).outcome state = (.error e, after) := by
  rw [outcome_bind, h]

theorem outcome_bind_pure (a : Action s α) (f : α → β) (state : s) :
    (a >>= fun x => pure (f x)).outcome state =
      ((a.outcome state).1.map f, (a.outcome state).2) := by
  rw [outcome_bind]
  rcases a.outcome state with ⟨result, after⟩
  cases result <;> rfl

theorem outcome_bind_eq_ok {a : Action s α} {f : α → Action s β} {y : β} {state last : s} :
    (a >>= f).outcome state = (.ok y, last) ↔
      ∃ x after, a.outcome state = (.ok x, after) ∧ (f x).outcome after = (.ok y, last) := by
  rw [outcome_bind]
  rcases h : a.outcome state with ⟨result, after⟩
  cases result with
  | ok x =>
      constructor
      · intro hf
        exact ⟨x, after, rfl, hf⟩
      · rintro ⟨x', after', he, hf⟩
        cases he
        exact hf
  | error e =>
      constructor
      · intro hf
        cases hf
      · rintro ⟨x', after', he, _⟩
        cases he

/-! ## What holds whatever an action brings -/

/-- Whether it succeeds or fails, the action leads from a state to one related to it. -/
def Moves (R : s → s → Prop) (a : Action s α) : Prop :=
  ∀ state, R state (a.outcome state).2

/-- A relation that no step leaves by doing nothing, and none by going on. -/
structure Lasting (R : s → s → Prop) : Prop where
  refl : ∀ state, R state state
  trans : ∀ {x y z}, R x y → R y z → R x z

theorem Moves.attempt {R : s → s → Prop} {a : Action s α} (h : Moves R a) : Moves R a.attempt :=
  h

namespace Lasting

variable {R : s → s → Prop}

theorem pure (hR : Lasting R) (x : α) : Moves R (Pure.pure x : Action s α) :=
  hR.refl

theorem throw (hR : Lasting R) (e : Raised) : Moves R (MonadExcept.throw e : Action s α) :=
  hR.refl

theorem ofExcept (hR : Lasting R) (x : Except Failure α) : Moves R (Action.ofExcept x) := by
  intro state
  rw [outcome_ofExcept]
  exact hR.refl state

theorem ofFault (hR : Lasting R) (x : Except Fault α) : Moves R (Action.ofFault x) :=
  hR.ofExcept _

theorem bind (hR : Lasting R) {a : Action s α} {f : α → Action s β} (ha : Moves R a)
    (hf : ∀ x, Moves R (f x)) : Moves R (a >>= f) := by
  intro state
  have first := ha state
  rw [outcome_bind]
  rcases h : a.outcome state with ⟨result, after⟩
  rw [h] at first
  cases result with
  | ok x => exact hR.trans first (hf x after)
  | error e => exact first

end Lasting

/-! ## What an action can fail with -/

def Raises (P : Raised → Prop) (a : Action s α) : Prop :=
  ∀ {state after raised}, a.outcome state = (.error raised, after) → P raised

namespace Raises

variable {P : Raised → Prop}

theorem pure (x : α) : Raises P (Pure.pure x : Action s α) := by
  intro state after raised h
  cases h

theorem bind {a : Action s α} {f : α → Action s β} (ha : Raises P a) (hf : ∀ x, Raises P (f x)) :
    Raises P (a >>= f) := by
  intro state after raised h
  rw [outcome_bind] at h
  rcases hout : a.outcome state with ⟨result, between⟩
  rw [hout] at h
  cases result with
  | ok x => exact hf x h
  | error e =>
      cases h
      exact ha hout

end Raises

end SecretVault.Action
