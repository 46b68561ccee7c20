import SecretVault.Proofs.Action.Outcome

/-!
Two actions side by side. From related states they fail alike or bring related answers, and they
leave related states. There is one law for each way to build an action, so a proof about two runs of
a program follows the program.
-/

namespace SecretVault

inductive Likewise {ε α : Type} (Q : α → α → Prop) : Except ε α → Except ε α → Prop where
  | ok {x x' : α} (h : Q x x') : Likewise Q (.ok x) (.ok x')
  | error (e : ε) : Likewise Q (.error e) (.error e)

namespace Likewise

variable {ε δ α : Type} {Q Q' : α → α → Prop} {x x' : Except ε α}

theorem refl (x : Except ε α) : Likewise Eq x x := by
  cases x with
  | ok a => exact .ok rfl
  | error e => exact .error e

theorem eq (h : Likewise Eq x x') : x' = x := by
  cases h with
  | ok h => rw [h]
  | error e => rfl

theorem mono (h : Likewise Q x x') (hQ : ∀ a a', Q a a' → Q' a a') : Likewise Q' x x' := by
  cases h with
  | ok h => exact .ok (hQ _ _ h)
  | error e => exact .error e

theorem mapError (h : Likewise Q x x') (f : ε → δ) :
    Likewise Q (x.mapError f) (x'.mapError f) := by
  cases h with
  | ok h => exact .ok h
  | error e => exact .error (f e)

theorem isOk_eq (h : Likewise Q x x') : x'.isOk = x.isOk := by
  cases h <;> rfl

end Likewise

namespace Action

variable {s t u α β : Type}

/-- From related states the actions fail alike or bring related answers, and they leave related
states. -/
def Abreast (R : s → s → Prop) (Q : α → α → Prop) (a a' : Action s α) : Prop :=
  ∀ ⦃st st'⦄, R st st' →
    Likewise Q (a.outcome st).1 (a'.outcome st').1 ∧ R (a.outcome st).2 (a'.outcome st').2

namespace Abreast

variable {R : s → s → Prop} {Q : α → α → Prop} {V : β → β → Prop} {a a' : Action s α}
  {f f' : α → Action s β}

theorem pure {x x' : α} (h : Q x x') : Abreast R Q (Pure.pure x) (Pure.pure x') :=
  fun _ _ hst => ⟨.ok h, hst⟩

theorem throw (e : Raised) : Abreast R Q (MonadExcept.throw e) (MonadExcept.throw e) :=
  fun _ _ hst => ⟨.error e, hst⟩

theorem get : Abreast R R (MonadState.get : Action s s) MonadState.get :=
  fun _ _ hst => ⟨.ok hst, hst⟩

theorem set {x x' : s} (h : R x x') :
    Abreast R Eq (MonadStateOf.set x : Action s PUnit) (MonadStateOf.set x') :=
  fun _ _ _ => ⟨.ok rfl, h⟩

theorem change {g : s → s} (hg : ∀ st st', R st st' → R (g st) (g st')) :
    Abreast R Eq (modify g : Action s PUnit) (modify g) :=
  fun _ _ hst => ⟨.ok rfl, hg _ _ hst⟩

theorem ofExcept {x x' : Except Failure α} (h : Likewise Q x x') :
    Abreast R Q (Action.ofExcept x) (Action.ofExcept x') := by
  intro st st' hst
  rw [outcome_ofExcept, outcome_ofExcept]
  exact ⟨h.mapError _, hst⟩

theorem ofFault {x x' : Except Fault α} (h : Likewise Q x x') :
    Abreast R Q (Action.ofFault x) (Action.ofFault x') :=
  ofExcept (h.mapError _)

theorem bind (ha : Abreast R Q a a') (hf : ∀ x x', Q x x' → Abreast R V (f x) (f' x')) :
    Abreast R V (a >>= f) (a' >>= f') := by
  intro st st' hst
  obtain ⟨results, states⟩ := ha hst
  rw [outcome_bind, outcome_bind]
  rcases hout : a.outcome st with ⟨result, after⟩
  rcases hout' : a'.outcome st' with ⟨result', after'⟩
  rw [hout, hout'] at results states
  cases results with
  | ok related => exact hf _ _ related states
  | error e => exact ⟨.error e, states⟩

/-- Where the answers are the same, both go on with the same one. -/
theorem then_ (ha : Abreast R Eq a a') (hf : ∀ x, Abreast R V (f x) (f' x)) :
    Abreast R V (a >>= f) (a' >>= f') := by
  refine ha.bind ?_
  intro x x' h
  subst h
  exact hf x

theorem attempt (ha : Abreast R Q a a') : Abreast R (Likewise Q) a.attempt a'.attempt :=
  fun _ _ hst => ⟨.ok (ha hst).1, (ha hst).2⟩

theorem onSecond {F : u → u → Prop} {R : t → t → Prop} {Q : α → α → Prop} {a a' : Action t α}
    (ha : Abreast R Q a a') :
    Abreast (fun st st' : u × t => F st.1 st'.1 ∧ R st.2 st'.2) Q (Action.onSecond a)
      (Action.onSecond a') :=
  fun _ _ hst => ⟨(ha hst.2).1, hst.1, (ha hst.2).2⟩

end Abreast

end Action

end SecretVault
