import SecretVault.Proofs.World.Calls

/-!
When a context is done, what a failure tells of it, and how actions heed it. A failure is honest
about a context at a moment if it is an error of the store only while the context is not done, and
an error of the context only for the reason that it names. An action heeds its context if it stops
at once when the context is done on entry, and is honest about whatever goes wrong later.
-/

namespace SecretVault

variable {T : Type} [Seconds T] {ctx : Context T} {m : Moment T}

namespace Context

omit [Seconds T] in
theorem isCancelled_iff : ctx.isCancelled m = true ↔
    ∃ id ∈ ctx.id :: ctx.lineage, id ∈ m.cancelled := by
  simp only [isCancelled, List.any_eq_true, List.contains_iff_mem]

/-- A context is canceled if it was cancelled itself or one that it comes from was. -/
theorem err_eq_canceled_iff : ctx.err m = some .canceled ↔
    ∃ id ∈ ctx.id :: ctx.lineage, id ∈ m.cancelled := by
  rw [← isCancelled_iff]
  unfold err
  by_cases cancelled : ctx.isCancelled m = true
  · simp [cancelled]
  · rw [if_neg cancelled]
    cases ctx.deadline with
    | none => simp [cancelled]
    | some deadline =>
        by_cases late : deadline ≤ m.now
        · simp [late, cancelled]
        · simp [late, cancelled]

theorem err_eq_deadlineExceeded_iff : ctx.err m = some .deadlineExceeded ↔
    (∃ deadline, ctx.deadline = some deadline ∧ deadline ≤ m.now) ∧
      ¬ ∃ id ∈ ctx.id :: ctx.lineage, id ∈ m.cancelled := by
  rw [← isCancelled_iff]
  unfold err
  by_cases cancelled : ctx.isCancelled m = true
  · simp [cancelled]
  · rw [if_neg cancelled]
    cases ctx.deadline with
    | none => simp
    | some deadline =>
        by_cases late : deadline ≤ m.now
        · simp [late, cancelled]
        · simp [late]

theorem isDone_iff : ctx.isDone m = true ↔
    ctx.isCancelled m = true ∨ ∃ deadline, ctx.deadline = some deadline ∧ deadline ≤ m.now := by
  unfold isDone err
  by_cases cancelled : ctx.isCancelled m = true
  · simp [cancelled]
  · rw [if_neg cancelled]
    cases ctx.deadline with
    | none => simp [cancelled]
    | some deadline =>
        by_cases late : deadline ≤ m.now
        · simp [late]
        · simp [late, cancelled]

end Context

/-! ## Honest failures -/

/-- The failure tells the truth about the context at a moment. -/
structure Honest (ctx : Context T) (m : Moment T) (raised : Raised) : Prop where
  store : ∀ e, raised.failure = .store e → ctx.err m = none
  canceled : raised.failure = .context .canceled → ∃ id ∈ ctx.id :: ctx.lineage, id ∈ m.cancelled
  late : raised.failure = .context .deadlineExceeded →
    (∃ deadline, ctx.deadline = some deadline ∧ deadline ≤ m.now) ∧
      ¬ ∃ id ∈ ctx.id :: ctx.lineage, id ∈ m.cancelled

theorem honest_iff {raised : Raised} : Honest ctx m raised ↔
    (∀ e, raised.failure = .store e → ctx.err m = none) ∧
      ∀ e, raised.failure = .context e → ctx.err m = some e := by
  constructor
  · intro honest
    refine ⟨honest.store, ?_⟩
    intro e he
    cases e with
    | canceled => exact Context.err_eq_canceled_iff.mpr (honest.canceled he)
    | deadlineExceeded => exact Context.err_eq_deadlineExceeded_iff.mpr (honest.late he)
  · rintro ⟨store, context⟩
    refine ⟨store, ?_, ?_⟩
    · intro he
      exact Context.err_eq_canceled_iff.mp (context _ he)
    · intro he
      exact Context.err_eq_deadlineExceeded_iff.mp (context _ he)

theorem Honest.of_context {err : ContextError} {chained : Option OutsideError}
    (done : ctx.err m = some err) : Honest ctx m ⟨.context err, chained⟩ := by
  apply honest_iff.mpr
  refine ⟨nofun, ?_⟩
  rintro e ⟨⟩
  exact done

theorem Honest.of_alive {raised : Raised} (alive : ctx.err m = none)
    (other : ∀ err, raised.failure ≠ .context err) : Honest ctx m raised :=
  honest_iff.mpr ⟨fun _ _ => alive, fun err he => absurd he (other err)⟩

open SecretVault.Action

/-! ## Honest actions -/

section

variable {T state α β : Type} [Seconds T] {moment : state → Moment T} {ctx : Context T}

/-- The action fails honestly: what it fails with is true of the context at the moment it ends. -/
def Truthful (moment : state → Moment T) (ctx : Context T) (a : Action state α) : Prop :=
  ∀ st raised after, a.outcome st = (.error raised, after) → Honest ctx (moment after) raised

theorem Truthful.pure (x : α) : Truthful moment ctx (Pure.pure x : Action state α) := by
  intro st raised after h
  cases h

theorem Truthful.bind {a : Action state α} {f : α → Action state β}
    (ha : Truthful moment ctx a) (hf : ∀ x, Truthful moment ctx (f x)) :
    Truthful moment ctx (a >>= f) := by
  intro st raised after h
  rw [outcome_bind] at h
  rcases hout : a.outcome st with ⟨result, between⟩
  rw [hout] at h
  cases result with
  | ok x => exact hf x _ _ _ h
  | error e =>
      cases h
      exact ha _ _ _ hout

/-- If its context is done on entry, the action stops with the error of the context and leaves all
as it is: no call is logged, and the stores and the outside are the same. -/
def StopsAtOnce (moment : state → Moment T) (ctx : Context T) (a : Action state α) : Prop :=
  ∀ st err, ctx.err (moment st) = some err → a.outcome st = (.error (.plain (.context err)), st)

theorem StopsAtOnce.bind {a : Action state α} (h : StopsAtOnce moment ctx a)
    (f : α → Action state β) : StopsAtOnce moment ctx (a >>= f) := by
  intro st err done
  rw [outcome_bind, h st err done]

/-- The action stops at once if its context is done on entry, and fails honestly. -/
structure Heeds (moment : state → Moment T) (ctx : Context T) (a : Action state α) : Prop where
  stops : StopsAtOnce moment ctx a
  honest : Truthful moment ctx a

theorem Heeds.of_check {check : Action state Unit} {a : Action state α}
    (checks : ∀ st, check.outcome st = (match ctx.err (moment st) with
      | some e => .error (.plain (.context e))
      | none => .ok (), st))
    (honest : ∀ st raised after, ctx.err (moment st) = none →
      a.outcome st = (.error raised, after) → Honest ctx (moment after) raised) :
    Heeds moment ctx (check >>= fun _ => a) := by
  constructor
  · intro st err done
    rw [outcome_bind, checks, done]
  · intro st raised after h
    rw [outcome_bind, checks] at h
    cases hdone : ctx.err (moment st) with
    | some err =>
        rw [hdone] at h
        cases h
        exact .of_context hdone
    | none =>
        rw [hdone] at h
        exact honest st raised after hdone h

theorem Heeds.map {a : Action state α} (h : Heeds moment ctx a) (f : α → β) :
    Heeds moment ctx (a >>= fun x => pure (f x)) :=
  ⟨h.stops.bind _, h.honest.bind fun x => .pure (f x)⟩

theorem Heeds.congr {a b : Action state α} (h : Heeds moment ctx a)
    (same : ∀ st, b.outcome st = a.outcome st) : Heeds moment ctx b := by
  constructor
  · intro st err done
    rw [same]
    exact h.stops st err done
  · intro st raised after houtcome
    rw [same] at houtcome
    exact h.honest st raised after houtcome

end

namespace World

variable {T σ α : Type} [Seconds T]

def momentBeside (st : α × World T σ) : Moment T :=
  st.2.moment

theorem outcome_check_beside (ctx : Context T) (st : α × World T σ) :
    (Action.onSecond (check ctx)).outcome st = (match ctx.err (momentBeside st) with
      | some e => .error (.plain (.context e))
      | none => .ok (), st) := by
  rw [outcome_onSecond, outcome_check]
  rfl

end World

end SecretVault
