import SecretVault.Proofs.Context
import SecretVault.Proofs.Remote.Run
import SecretVault.Proofs.Remote.Translation

/-!
How a store in the vault heeds contexts. Each of its operations stops at once if its context is done
on entry, and is honest about whatever goes wrong later; connecting is honest when its failure is
raised, and may then still close the new client. A request that went through is reported, though the
context may be done by then.
-/

namespace SecretVault

open SecretVault.Action
open SecretVault.World (momentBeside outcome_check_beside)

namespace RemoteStore

variable {T σ α : Type} [Seconds T] [Outside T σ] {ctx : Context T}

theorem Foreign.honest {m : Moment T} {raised : Raised} (h : Foreign raised) :
    Honest ctx m raised := by
  rcases h with ⟨e, rfl⟩ | ⟨f, rfl⟩
  · exact honest_iff.mpr ⟨nofun, nofun⟩
  · exact honest_iff.mpr ⟨nofun, nofun⟩

omit [Outside T σ] in
theorem truthful_of_foreign {a : Op T σ α} (h : Raises Foreign a) : Truthful momentBeside ctx a :=
  fun _ _ _ houtcome => (h houtcome).honest

omit [Outside T σ] in
theorem truthful_ofFault (x : Except Fault α) :
    Truthful momentBeside ctx (Action.ofFault x : Op T σ α) := by
  refine truthful_of_foreign ?_
  intro st raised after h
  cases x with
  | ok a => cases h
  | error f =>
      cases h
      exact .inr ⟨f, rfl⟩

omit [Outside T σ] in
theorem truthful_check : Truthful momentBeside ctx (check ctx : Op T σ Unit) := by
  intro st raised after h
  rw [show (check ctx : Op T σ Unit) = Action.onSecond (World.check ctx) from rfl,
    outcome_check_beside] at h
  cases hdone : ctx.err (momentBeside st) with
  | some err =>
      rw [hdone] at h
      cases h
      exact .of_context hdone
  | none =>
      rw [hdone] at h
      cases h

/-! ## Data operations -/

/-- The choice of a client fails honestly. That the store is closed shows at once: without a client
there is nothing to refresh, and so no call in which the context could end. -/
theorem Picked.honest {operation name : String} {s s' : RemoteStore T} {w w' : World T σ}
    {raised : Raised} (alive : ctx.err w.moment = none)
    (h : Picked ctx operation name s w (.error raised) s' w') : Honest ctx w'.moment raised := by
  cases h with
  | refused access => exact (accessed_freshClient _ _ access).foreign.honest
  | noLimits => exact Foreign.honest (.inr ⟨_, rfl⟩)
  | closed access limits client =>
      cases accessed_freshClient _ _ access with
      | kept => exact .of_alive alive nofun
      | refreshed => cases client
  | unbuilt _ _ _ _ _ failed => exact (foreign_build failed).honest

theorem truthful_fetch (client : Nat) (indices : List Nat) :
    Truthful momentBeside ctx (fetch ctx client indices : Op T σ (List Value)) := by
  induction indices with
  | nil => exact .pure _
  | cons index rest ih =>
      refine Truthful.bind (truthful_of_foreign (foreign_perform (.page client index))) ?_
      intro page
      refine truthful_check.bind fun _ => (truthful_ofFault _).bind ?_
      intro names
      exact ih.bind fun more => .pure _

theorem truthful_serve (key : Option Value) (op : Operation) (client : Client) :
    Truthful momentBeside ctx (op.serve ctx key client : Op T σ (Except Fault Answer)) := by
  cases hsole : op.sole? (T := T) key client.id with
  | some call =>
      rintro ⟨s, w⟩ raised after h
      obtain ⟨e, _, rfl, _⟩ := (Operation.serve_sole hsole).mp h
      exact Foreign.honest (.inl ⟨e, rfl⟩)
  | none =>
      rw [Operation.serve_listing hsole]
      refine Truthful.bind (truthful_of_foreign (foreign_perform (.paginator client.id))) ?_
      rintro count ⟨s, w⟩ raised after h
      exact truthful_fetch _ _ _ _ _ ((Operation.request_listing hsole).mp h)

theorem honest_reported {m : Moment T} {raised : Raised} (operation name : String)
    (honest : Honest ctx m raised) : Honest ctx m (reported ctx operation name m raised) := by
  unfold reported
  split
  · rename_i e _
    split
    · cases hdone : ctx.err m with
      | some err => exact .of_context hdone
      | none =>
          dsimp only
          cases e.kind with
          | error f => exact Foreign.honest (.inr ⟨f, rfl⟩)
          | ok kind =>
              obtain ⟨failure, hfailure, _⟩ := Operation.failureOf_store operation name e kind
              refine .of_alive hdone ?_
              intro err herr
              cases hfailure.symm.trans herr
    · exact honest
  · exact honest

theorem heeds_onRemote (ctx : Context T) (op : Operation) :
    Heeds momentBeside ctx (op.onRemote ctx : Op T σ Answer) := by
  constructor
  · rintro ⟨s, w⟩ err done
    rw [Operation.outcome_onRemote, show ctx.err w.moment = some err from done]
  · rintro ⟨s, w⟩ raised after h
    rw [Operation.outcome_onRemote] at h
    cases hdone : ctx.err w.moment with
    | some err =>
        rw [hdone] at h
        cases h
        exact .of_context hdone
    | none =>
        rw [hdone] at h
        dsimp only at h
        rcases hwork : (op.work ctx (Operation.encryption s.options)).outcome (s, w) with
          ⟨result, s', w'⟩
        rw [hwork] at h
        cases result with
        | ok answer =>
            cases answer with
            | ok x => cases h
            | error f =>
                cases h
                exact Foreign.honest (.inr ⟨f, rfl⟩)
        | error inner =>
            cases h
            refine honest_reported _ _ ?_
            rw [Operation.work_eq_serve, outcome_bind] at hwork
            rcases hpicked : (clientFor ctx op.label op.subject).outcome (s, w) with
              ⟨picked, s₁, w₁⟩
            rw [hpicked] at hwork
            cases picked with
            | error failed =>
                cases hwork
                exact (picked_clientFor ctx _ _ s w hpicked).honest hdone
            | ok client => exact truthful_serve _ op client _ _ _ hwork

/-! ## Probes and connections -/

/-- What a probe that brought an error fails with, at the moment after it: a request that failed
means that the store cannot be reached, unless the context is done by then; any other error is
raised as it is. -/
def probeFailure (ctx : Context T) (m : Moment T) (e : OutsideError) : Raised :=
  if e.isRequest then
    match ctx.err m with
    | some err => .standingFor (.context err) e
    | none => .standingFor (.store (.unreachable (.error e))) e
  else .plain (.outside e)

theorem outcome_probe (ctx : Context T) (url : Value) (timeouts : T × T) (s : RemoteStore T)
    (w : World T σ) :
    (probe ctx url timeouts).outcome (s, w) =
      (let call : Call T := .probe url timeouts.1 timeouts.2
      ((w.reply call).result.mapError (probeFailure ctx (w.afterCall call).moment), s,
        w.afterCall call)) := by
  simp only [probe, outcome_bind, outcome_attempt, outcome_outward,
    World.outcome_perform w (.probe url timeouts.1 timeouts.2)]
  cases (w.reply (.probe url timeouts.1 timeouts.2)).result with
  | ok u => rfl
  | error e =>
      simp only [mapError_error, Raised.plain, probeFailure]
      cases e.isRequest with
      | false => rfl
      | true =>
          simp only [if_true, outcome_bind, outcome_outward, World.outcome_now]
          cases ctx.err (w.afterCall (.probe url timeouts.1 timeouts.2)).moment <;> rfl

theorem honest_probeFailure (m : Moment T) (e : OutsideError) :
    Honest ctx m (probeFailure ctx m e) := by
  unfold probeFailure
  split
  · cases hdone : ctx.err m with
    | some err => exact .of_context hdone
    | none => exact .of_alive hdone nofun
  · exact Foreign.honest (.inl ⟨e, rfl⟩)

theorem truthful_probe (url : Value) (timeouts : T × T) :
    Truthful momentBeside ctx (probe ctx url timeouts : Op T σ Unit) := by
  rintro ⟨s, w⟩ raised after h
  rw [outcome_probe] at h
  cases hreply : (w.reply (.probe url timeouts.1 timeouts.2)).result with
  | ok answer =>
      simp only [hreply] at h
      cases h
  | error e =>
      simp only [hreply] at h
      cases h
      exact honest_probeFailure _ e

theorem heeds_status (ctx : Context T) : Heeds momentBeside ctx (status ctx : Op T σ T) := by
  have looks : Truthful momentBeside ctx (get : Op T σ (RemoteStore T × World T σ)) := by
    intro st raised after h
    cases h
  have reads : Truthful momentBeside ctx (outward World.now : Op T σ (Moment T)) := by
    intro st raised after h
    cases h
  have rest := looks.bind fun st =>
    (truthful_ofFault st.1.options.endpoint).bind fun url =>
      (truthful_probe url
        (probeTimeouts st.1.options.limits (ctx.remaining st.2.moment))).bind fun _ =>
        reads.bind fun last => truthful_check.bind fun _ =>
          Truthful.pure (last.now - st.2.moment.now)
  refine .of_check (outcome_check_beside ctx) ?_
  intro st raised after _ h
  exact rest st raised after h

/-- Opening a store fails honestly: the context is checked once credentials are found, and the probe
looks at it before it is believed. -/
theorem truthful_opening (ctx : Context T) :
    Truthful momentBeside ctx (opening ctx : Op T σ Unit) := by
  have builds : Raises Foreign (newClient : Op T σ Client) := by
    rintro ⟨s, w⟩ ⟨s', w'⟩ raised h
    exact (rebuilt_newClient s w h).foreign
  have keeps (client : Client) : Truthful momentBeside ctx
      (update (fun s => { s with client := some client }) : Op T σ Unit) := by
    intro st raised after h
    cases h
  refine (truthful_of_foreign builds).bind fun client => (keeps client).bind fun _ => ?_
  exact truthful_check.bind fun _ => (heeds_status ctx).honest.bind fun _ => .pure ()

/-- How connecting fails, where the failure was raised, and where it left the world: the context is
done on entry; or opening fails, and then the new client is closed; or that closing fails itself. -/
inductive Unconnected (ctx : Context T) (options : Options T) (resolver : Resolver)
    (w : World T σ) : Raised → World T σ → World T σ → Prop where
  | late {err} (done : ctx.err w.moment = some err) :
      Unconnected ctx options resolver w (.plain (.context err)) w w
  | unopened {raised s₁ w₁ s₂ w₂}
      (failed : (opening ctx).outcome (unconnected options resolver, w) = (.error raised, s₁, w₁))
      (closed : close.outcome (s₁, w₁) = (.ok (), s₂, w₂)) :
      Unconnected ctx options resolver w raised w₁ w₂
  | unclosed {first s₁ w₁ raised s₂ w₂}
      (failed : (opening ctx).outcome (unconnected options resolver, w) = (.error first, s₁, w₁))
      (closing : close.outcome (s₁, w₁) = (.error raised, s₂, w₂)) :
      Unconnected ctx options resolver w raised w₂ w₂

theorem unconnected_connect {options : Options T} {resolver : Resolver} {w w' : World T σ}
    {raised : Raised} (h : (connect ctx options resolver).outcome w = (.error raised, w')) :
    ∃ w₁, Unconnected ctx options resolver w raised w₁ w' := by
  rw [outcome_connect] at h
  cases hdone : ctx.err w.moment with
  | some err =>
      simp only [hdone] at h
      cases h
      exact ⟨w, .late hdone⟩
  | none =>
      rcases hopening : (opening ctx).outcome (unconnected options resolver, w) with
        ⟨opened, s₁, w₁⟩
      simp only [hdone, hopening] at h
      cases opened with
      | ok u => cases h
      | error first =>
          rcases hclose : close.outcome (s₁, w₁) with ⟨closed, s₂, w₂⟩
          simp only [hclose] at h
          cases closed with
          | ok u =>
              cases h
              exact ⟨w₁, .unopened hopening hclose⟩
          | error late =>
              cases h
              exact ⟨w', .unclosed hopening hclose⟩

theorem foreign_close : Raises Foreign (close : Op T σ Unit) := by
  rintro ⟨s, w⟩ after raised h
  simp only [close, outcome_bind, outcome_current, outcome_update] at h
  cases hclient : s.client with
  | none =>
      simp only [hclient] at h
      cases h
  | some client =>
      simp only [hclient] at h
      exact foreign_closeAll _ h

/-- Wherever connecting fails, the failure is honest when it is raised. -/
theorem Unconnected.honest {options : Options T} {resolver : Resolver} {w w₁ w₂ : World T σ}
    {raised : Raised} (h : Unconnected ctx options resolver w raised w₁ w₂) :
    Honest ctx w₁.moment raised := by
  cases h with
  | late done => exact .of_context done
  | unopened failed closed => exact truthful_opening ctx _ _ _ failed
  | unclosed failed closing => exact (foreign_close closing).honest

/-- Closing a client takes no time, and nothing is cancelled meanwhile. -/
def ClosesStill (T σ : Type) [Seconds T] [Outside T σ] : Prop :=
  ∀ (w : World T σ) (id : Nat), (w.afterCall (.close id)).moment = w.moment

theorem ClosesStill.close (still : ClosesStill T σ) (st : RemoteStore T × World T σ) :
    momentBeside (RemoteStore.close.outcome st).2 = momentBeside st := by
  have each : ∀ (clients : List Client) (st : RemoteStore T × World T σ),
      momentBeside ((closeAll clients).outcome st).2 = momentBeside st := by
    intro clients
    induction clients with
    | nil => exact fun st => rfl
    | cons c rest ih =>
        rintro ⟨s, w⟩
        simp only [closeAll, outcome_bind, outcome_outward, World.outcome_closeClient]
        by_cases hc : c.closable = true
        · simp only [hc, if_true, World.outcome_perform w (.close c.id)]
          cases (w.reply (.close c.id)).result with
          | error e => exact still w c.id
          | ok u => exact (ih (s, w.afterCall (.close c.id))).trans (still w c.id)
        · simp only [hc]
          exact ih (s, w)
  obtain ⟨s, w⟩ := st
  simp only [RemoteStore.close, outcome_bind, outcome_current, outcome_update]
  cases s.client with
  | none => rfl
  | some client => exact each _ _

theorem Unconnected.moment_eq {options : Options T} {resolver : Resolver} {w w₁ w₂ : World T σ}
    {raised : Raised} (still : ClosesStill T σ)
    (h : Unconnected ctx options resolver w raised w₁ w₂) : w₂.moment = w₁.moment := by
  cases h with
  | late => rfl
  | @unopened raised s₁ w₁ s₂ w₂ failed closed =>
      have same := still.close (s₁, w₁)
      rw [closed] at same
      exact same
  | unclosed => rfl

/-- Connecting stops at once if its context is done on entry. What it fails with is honest when it
is raised, and if closing the new client changes nothing for contexts, also when it ends. -/
structure ConnectsHeeding (σ : Type) [Outside T σ] (ctx : Context T) (options : Options T)
    (resolver : Resolver) : Prop where
  stops : StopsAtOnce World.moment ctx
    (connect ctx options resolver : Action (World T σ) (RemoteStore T))
  raised : ∀ (w : World T σ) raised after,
    (connect ctx options resolver).outcome w = (.error raised, after) →
      ∃ between, Unconnected ctx options resolver w raised between after ∧
        Honest ctx between.moment raised
  still : ClosesStill T σ →
    Heeds World.moment ctx (connect ctx options resolver : Action (World T σ) (RemoteStore T))

theorem connectsHeeding (ctx : Context T) (options : Options T) (resolver : Resolver) :
    ConnectsHeeding σ ctx options resolver := by
  have stops : StopsAtOnce World.moment ctx
      (connect ctx options resolver : Action (World T σ) (RemoteStore T)) := by
    intro w err done
    rw [outcome_connect, done]
  refine ⟨stops, ?_, ?_⟩
  · intro w raised after h
    obtain ⟨between, unconnected⟩ := unconnected_connect h
    exact ⟨between, unconnected, unconnected.honest⟩
  · intro still
    refine ⟨stops, ?_⟩
    intro w raised after h
    obtain ⟨between, unconnected⟩ := unconnected_connect h
    rw [unconnected.moment_eq still]
    exact unconnected.honest

/-! ## Requests that went through -/

variable {op : Operation} {s : RemoteStore T} {w : World T σ}

/-- An operation with one request, once it has its client, brings what the request brings. -/
theorem onRemote_sole {client : Client} {s₁ : RemoteStore T} {w₁ : World T σ} {call : Call T}
    (alive : ctx.err w.moment = none)
    (picked : (clientFor ctx op.label op.subject).outcome (s, w) = (.ok client, s₁, w₁))
    (sole : op.sole? (Operation.encryption s.options) client.id = some call) :
    (op.onRemote ctx).outcome (s, w) =
      (match (w₁.reply call).result with
        | .ok x => (Operation.answerTo call x).mapError fun f => .plain (.fault f)
        | .error e => .error (reported ctx op.label op.subject (w₁.afterCall call).moment
            (.plain (.outside e))), s₁, w₁.afterCall call) := by
  rw [Operation.outcome_onRemote, alive]
  simp only [Operation.work_eq_serve, outcome_bind, picked, Operation.outcome_serve_sole sole]
  cases (w₁.reply call).result <;> rfl

theorem unrequested_clientFor {operation name : String} {picked : Except Raised Client}
    {s₁ : RemoteStore T} {w₁ : World T σ}
    (h : (clientFor ctx operation name).outcome (s, w) = (picked, s₁, w₁)) :
    ∃ kept, w₁.log = w.log ++ kept ∧ ∀ e ∈ kept, e.call.isRequest = false := by
  have upkeep := (kept_clientFor ctx operation name (s, w)).passes.logs
  rw [h] at upkeep
  obtain ⟨kept, hkept, quiet⟩ := upkeep
  exact ⟨kept, hkept, fun e he => Call.not_isRequest_of_isUpkeep (quiet e he)⟩

/-- An operation with one request reports what the request brought, if it went through, whatever has
become of its context meanwhile. -/
theorem onRemote_reports (single : ∀ start limit cursor, op ≠ .list start limit cursor)
    {calls : List (Logged T)}
    (hlog : ((op.onRemote ctx).outcome (s, w)).2.2.log = w.log ++ calls) {e : Logged T}
    (he : e ∈ calls) (request : e.call.isRequest = true) (succeeded : e.succeeded = true) :
    ∃ (u : World T σ) (x : e.call.Answer), (u.reply e.call).result = .ok x ∧
      ((op.onRemote ctx).outcome (s, w)).2.2 = u.afterCall e.call ∧
      ((op.onRemote ctx).outcome (s, w)).1 =
        (Operation.answerTo e.call x).mapError fun f => .plain (.fault f) := by
  cases hdone : ctx.err w.moment with
  | some err =>
      rw [(heeds_onRemote ctx op).stops (s, w) err hdone] at hlog
      obtain rfl := List.self_eq_append_right.mp hlog
      cases he
  | none =>
      rcases hpicked : (clientFor ctx op.label op.subject).outcome (s, w) with ⟨picked, s₁, w₁⟩
      obtain ⟨kept, hkept, quiet⟩ := unrequested_clientFor hpicked
      cases picked with
      | error raised =>
          have stopped : (op.work ctx (Operation.encryption s.options)).outcome (s, w) =
              (.error raised, s₁, w₁) := by
            rw [Operation.work_eq_serve, outcome_bind_error hpicked]
          rw [Operation.onRemote_of_work hdone stopped] at hlog
          obtain rfl : kept = calls := List.append_cancel_left (hkept.symm.trans hlog)
          rw [quiet e he] at request
          cases request
      | ok client =>
          cases hsole : op.sole? (T := T) (Operation.encryption s.options) client.id with
          | none =>
              cases op with
              | list start limit cursor => exact absurd rfl (single start limit cursor)
              | _ => cases hsole
          | some call =>
              rw [onRemote_sole hdone hpicked hsole] at hlog ⊢
              have same : w.log ++ calls = w.log ++ (kept ++ [w₁.entryOf call]) := by
                rw [← hlog, World.log_afterCall, hkept, List.append_assoc]
              have split_calls : calls = kept ++ [w₁.entryOf call] :=
                List.append_cancel_left same
              rw [split_calls] at he
              rcases List.mem_append.mp he with he | he
              · rw [quiet e he] at request
                cases request
              · obtain rfl := List.mem_singleton.mp he
                obtain ⟨x, hx⟩ := ok_of_isOk succeeded
                refine ⟨w₁, x, hx, rfl, ?_⟩
                rw [hx]
                rfl

end RemoteStore

end SecretVault
