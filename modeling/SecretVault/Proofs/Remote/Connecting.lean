import SecretVault.Proofs.Remote.Closed
import SecretVault.Proofs.Remote.Heeding

/-!
Connecting as a whole. It yields a store that holds the one client built for it, or it stops: at the
first check of its context, while the client is built, or while the endpoint is probed. `Probed` and
`Stops` list all the points at which it can, as `Rebuilt` does for the building of the client.
Wherever it stops, a client that was built by then is closed, if it can be closed.
-/

namespace SecretVault

open SecretVault.Action World

variable {T σ : Type} [Seconds T] [Outside T σ]

/-! ## What is entered in the log -/

/-- The call uses no client, and if it is a probe, the context was not done when it was sent. -/
def Logged.Orderly (ctx : Context T) (e : Logged T) : Prop :=
  e.call.user = none ∧ (e.call.isProbe = true → ctx.err e.moment = none)

theorem Logged.orderly_of_isUpkeep {ctx : Context T} {e : Logged T}
    (h : e.call.isUpkeep = true) : e.Orderly ctx := by
  refine ⟨Call.user_of_isUpkeep h, ?_⟩
  intro probe
  obtain ⟨c, m, b⟩ := e
  cases c with
  | probe => cases h
  | _ => cases probe

namespace RemoteStore

/-- The log went on by orderly calls, which built and closed the clients with these numbers, each
list in the order of the calls. -/
structure Entered (ctx : Context T) (built closed : List Nat) (w after : World T σ) : Prop where
  entries : ∃ calls, after.log = w.log ++ calls ∧ Log.built calls = built ∧
    Log.closed calls = closed ∧ ∀ e ∈ calls, e.Orderly ctx

namespace Entered

variable {ctx : Context T} {built more closed gone : List Nat} {u v w : World T σ}

omit [Outside T σ] in
theorem refl (w : World T σ) : Entered ctx [] [] w w :=
  ⟨[], by simp, rfl, rfl, by simp⟩

omit [Outside T σ] in
theorem trans (first : Entered ctx built closed u v) (second : Entered ctx more gone v w) :
    Entered ctx (built ++ more) (closed ++ gone) u w := by
  obtain ⟨calls, hlog, hbuilt, hclosed, orderly⟩ := first
  obtain ⟨rest, hrest, hmore, hgone, orderly'⟩ := second
  refine ⟨calls ++ rest, by rw [hrest, hlog, List.append_assoc], ?_, ?_, ?_⟩
  · rw [Log.built_append, hbuilt, hmore]
  · rw [Log.closed_append, hclosed, hgone]
  · intro e he
    rcases List.mem_append.mp he with he | he
    · exact orderly e he
    · exact orderly' e he

theorem call (c : Call T) (orderly : (w.entryOf c).Orderly ctx) :
    Entered ctx (Log.built [w.entryOf c]) (Log.closed [w.entryOf c]) w (w.afterCall c) := by
  refine ⟨[w.entryOf c], rfl, rfl, rfl, ?_⟩
  intro e he
  obtain rfl := List.mem_singleton.mp he
  exact orderly

theorem probe (alive : ctx.err w.moment = none) (url : Value) (connect read : T) :
    Entered ctx [] [] w (w.afterCall (.probe url connect read)) :=
  call (.probe url connect read) ⟨rfl, fun _ => alive⟩

theorem close (w : World T σ) (id : Nat) : Entered ctx [] [id] w (w.afterCall (.close id)) :=
  call (.close id) ⟨rfl, nofun⟩

end Entered

variable {ctx : Context T} {options : Options T} {resolver : Resolver}
variable {s s' : RemoteStore T} {w w' : World T σ}

theorem Rebuilt.orderly {result : Except Raised Client} (h : Rebuilt s w result s' w')
    (ctx : Context T) : Logs (Logged.Orderly ctx) w w' := by
  have kept := (kept_newClient (s, w)).passes.logs
  rw [h.outcome] at kept
  exact kept.mono fun e => Logged.orderly_of_isUpkeep

theorem Rebuilt.entered_error {raised : Raised} (h : Rebuilt s w (.error raised) s' w') :
    Entered ctx [] [] w w' := by
  obtain ⟨calls, hlog, orderly⟩ := h.orderly ctx
  have quiet := h.unbuilt.quiet.of_log_eq hlog
  exact ⟨calls, hlog, Log.built_quiet quiet, Log.closed_quiet quiet, orderly⟩

theorem Rebuilt.entered_ok {c : Client} (h : Rebuilt s w (.ok c) s' w') :
    Entered ctx [c.id] [] w w' := by
  obtain ⟨quiet, building, hlog, hquiet, builds⟩ := h.built.entries
  rw [← h.built.id_eq] at builds
  rw [List.append_assoc] at hlog
  refine ⟨quiet ++ [building], hlog, ?_, ?_, (h.orderly ctx).of_log_eq hlog⟩
  · rw [Log.built_snoc builds, Log.built_quiet hquiet, List.nil_append]
  · rw [Log.closed_snoc_none (Logged.not_user_of_builds builds).1, Log.closed_quiet hquiet]

/-! ## Probing the endpoint -/

def probeAt (ctx : Context T) (options : Options T) (m : Moment T) (url : Value) : Call T :=
  .probe url (probeTimeouts options.limits (ctx.remaining m)).1
    (probeTimeouts options.limits (ctx.remaining m)).2

/-- What can become of a new store once its client is built: the context is checked, the endpoint is
probed, and the context is checked again. -/
inductive Probed (ctx : Context T) (options : Options T) (w : World T σ) :
    Except Raised Unit → World T σ → Prop where
  | late {err} (done : ctx.err w.moment = some err) :
      Probed ctx options w (.error (.plain (.context err))) w
  | unaddressed {f} (alive : ctx.err w.moment = none) (address : options.endpoint = .error f) :
      Probed ctx options w (.error (.plain (.fault f))) w
  | unanswered {url e} (alive : ctx.err w.moment = none) (address : options.endpoint = .ok url)
      (failed : (w.reply (probeAt ctx options w.moment url)).result = .error e) :
      Probed ctx options w
        (.error (probeFailure ctx (w.afterCall (probeAt ctx options w.moment url)).moment e))
        (w.afterCall (probeAt ctx options w.moment url))
  | overdue {url err} (alive : ctx.err w.moment = none) (address : options.endpoint = .ok url)
      (answered : (w.reply (probeAt ctx options w.moment url)).result = .ok ())
      (done : ctx.err (w.afterCall (probeAt ctx options w.moment url)).moment = some err) :
      Probed ctx options w (.error (.plain (.context err)))
        (w.afterCall (probeAt ctx options w.moment url))
  | reached {url} (alive : ctx.err w.moment = none) (address : options.endpoint = .ok url)
      (answered : (w.reply (probeAt ctx options w.moment url)).result = .ok ())
      (still : ctx.err (w.afterCall (probeAt ctx options w.moment url)).moment = none) :
      Probed ctx options w (.ok ()) (w.afterCall (probeAt ctx options w.moment url))

theorem Probed.exists (ctx : Context T) (options : Options T) (w : World T σ) :
    ∃ result w', Probed ctx options w result w' := by
  cases alive : ctx.err w.moment with
  | some err => exact ⟨_, _, .late alive⟩
  | none =>
      cases address : options.endpoint with
      | error f => exact ⟨_, _, .unaddressed alive address⟩
      | ok url =>
          cases answered : (w.reply (probeAt ctx options w.moment url)).result with
          | error e => exact ⟨_, _, .unanswered alive address answered⟩
          | ok u =>
              cases still : ctx.err (w.afterCall (probeAt ctx options w.moment url)).moment with
              | some err => exact ⟨_, _, .overdue alive address answered still⟩
              | none => exact ⟨_, _, .reached alive address answered still⟩

theorem Probed.outcome_opening {c : Client} {w₁ w₂ : World T σ} {result : Except Raised Unit}
    (h : Probed ctx s'.options w₁ result w₂)
    (built : newClient.outcome (s, w) = (.ok c, s', w₁)) :
    (opening ctx).outcome (s, w) = (result, { s' with client := some c }, w₂) := by
  simp only [opening, status, check, outcome_bind, built, outcome_update, outcome_outward,
    World.outcome_check]
  cases h with
  | late done => simp only [done]
  | unaddressed alive address =>
      simp only [alive, outcome_get, outcome_ofFault, address, mapError_error]
  | unanswered alive address failed =>
      simp only [probeAt] at failed ⊢
      simp only [alive, outcome_get, outcome_ofFault, address, mapError_ok, outcome_probe, failed,
        mapError_error]
  | overdue alive address answered done =>
      simp only [probeAt] at answered done ⊢
      simp only [alive, outcome_get, outcome_ofFault, address, mapError_ok, outcome_probe, answered,
        World.outcome_now, done]
  | reached alive address answered still =>
      simp only [probeAt] at answered still ⊢
      simp only [alive, outcome_get, outcome_ofFault, address, mapError_ok, outcome_probe, answered,
        World.outcome_now, still, outcome_pure]

theorem Probed.entered {result : Except Raised Unit} (h : Probed ctx options w result w') :
    Entered ctx [] [] w w' := by
  cases h with
  | late => exact .refl w
  | unaddressed => exact .refl w
  | unanswered alive => exact .probe alive _ _ _
  | overdue alive => exact .probe alive _ _ _
  | reached alive => exact .probe alive _ _ _

/-! ## Where connecting stops -/

/-- The points at which connecting can stop: what fails there, the client that was built by then, if
one was, and the world in which it fails. -/
inductive Stops (ctx : Context T) (options : Options T) (resolver : Resolver) (w : World T σ) :
    Raised → Option Client → World T σ → Prop where
  | late {err} (done : ctx.err w.moment = some err) :
      Stops ctx options resolver w (.plain (.context err)) none w
  /-- No session can be opened, or no client be built from it. -/
  | unbuilt {raised s₁ w₁} (alive : ctx.err w.moment = none)
      (failed : Rebuilt (unconnected options resolver) w (.error raised) s₁ w₁) :
      Stops ctx options resolver w raised none w₁
  /-- The context is done once the client is built, or the probe fails, or the context is done once
  the probe is answered. -/
  | unprobed {c s₁ w₁ raised w₂} (alive : ctx.err w.moment = none)
      (built : Rebuilt (unconnected options resolver) w (.ok c) s₁ w₁)
      (failed : Probed ctx options w₁ (.error raised) w₂) :
      Stops ctx options resolver w raised (some c) w₂

/-- How connecting goes through: the client is built, and the probe is answered in time. -/
inductive Opens (ctx : Context T) (options : Options T) (resolver : Resolver) (w : World T σ) :
    RemoteStore T → World T σ → Prop where
  | opened {c s₁ w₁ w₂} (alive : ctx.err w.moment = none)
      (built : Rebuilt (unconnected options resolver) w (.ok c) s₁ w₁)
      (probed : Probed ctx options w₁ (.ok ()) w₂) :
      Opens ctx options resolver w { s₁ with client := some c } w₂

theorem stops_or_opens (ctx : Context T) (options : Options T) (resolver : Resolver)
    (w : World T σ) :
    (∃ failure client? w₁, Stops ctx options resolver w failure client? w₁) ∨
      ∃ s w', Opens ctx options resolver w s w' := by
  cases alive : ctx.err w.moment with
  | some err => exact .inl ⟨_, _, _, .late alive⟩
  | none =>
      rcases hnew : newClient.outcome (unconnected options resolver, w) with ⟨result, s₁, w₁⟩
      have rebuilt := rebuilt_newClient _ w hnew
      cases result with
      | error raised => exact .inl ⟨_, _, _, .unbuilt alive rebuilt⟩
      | ok c =>
          obtain ⟨probed, w₂, h⟩ := Probed.exists ctx options w₁
          cases probed with
          | error raised => exact .inl ⟨_, _, _, .unprobed alive rebuilt h⟩
          | ok u => exact .inr ⟨_, _, .opened alive rebuilt h⟩

theorem Rebuilt.fresh {c : Client} (h : Rebuilt (unconnected options resolver) w (.ok c) s' w') :
    s'.options = options ∧ s'.bounded = [] := by
  rw [h.built.store_eq]
  exact ⟨rfl, rfl⟩

theorem Stops.entered {failure : Raised} {client? : Option Client} {w₁ : World T σ}
    (h : Stops ctx options resolver w failure client? w₁) :
    Entered ctx (client?.toList.map (·.id)) [] w w₁ := by
  cases h with
  | late => exact .refl w
  | unbuilt _ failed => exact failed.entered_error
  | unprobed _ built failed => exact built.entered_ok.trans failed.entered

/-! ## What is closed again -/

theorem close_only {c : Client} (client : s.client = some c) (bounded : s.bounded = [])
    (w : World T σ) :
    close.outcome (s, w) =
      if c.closable then
        ((w.reply (.close c.id)).result.mapError fun e => .plain (.outside e), s.cleared,
          w.afterCall (.close c.id))
      else (.ok (), s.cleared, w) := by
  have only : s.held = [c] := by simp [held, client, bounded]
  simp only [close, outcome_bind, outcome_current, outcome_update, client, only, closeAll,
    outcome_outward, World.outcome_closeClient]
  cases c.closable with
  | false => rfl
  | true =>
      simp only [if_true, World.outcome_perform w (.close c.id)]
      cases (w.reply (.close c.id)).result <;> rfl

/-- Connecting stopped with a failure at a point where a client had been built, or none had, and
leaves nothing open: what it raises, and the world it leaves. -/
structure NothingOpen (ctx : Context T) (w : World T σ) (failure : Raised)
    (client? : Option Client) (w₁ : World T σ) (raised : Raised) (w' : World T σ) : Prop where
  /-- The failure is raised, if closing the client does not fail. -/
  raised_eq : (∀ c ∈ client?, c.closable = true → (w₁.reply (.close c.id)).result = .ok ()) →
    raised = failure
  /-- If closing it fails, that error is raised. -/
  unclosed : ∀ c ∈ client?, c.closable = true →
    ∀ e, (w₁.reply (.close c.id)).result = .error e → raised = .plain (.outside e)
  /-- Of all that was called since the beginning, one call built that client, and one closed it, if
  it can be closed; none used a client, and no probe was sent once the context was done. -/
  entered : Entered ctx (client?.toList.map (·.id))
    ((client?.toList.filter (·.closable)).map (·.id)) w w'
  /-- Nothing is called after the failure but for closing. -/
  idle : (∀ c ∈ client?, c.closable = false) → w' = w₁

theorem Stops.nothing_built {failure : Raised} {w₁ : World T σ}
    (h : Stops ctx options resolver w failure none w₁) :
    NothingOpen ctx w failure none w₁ failure w₁ :=
  ⟨fun _ => rfl, nofun, h.entered, fun _ => rfl⟩

theorem Stops.closing_built {failure : Raised} {c : Client} {w₁ : World T σ}
    (h : Stops ctx options resolver w failure (some c) w₁) :
    ∃ raised w', (connect ctx options resolver).outcome w = (.error raised, w') ∧
      NothingOpen ctx w failure (some c) w₁ raised w' := by
  have entered := h.entered
  cases h with
  | @unprobed _ s₁ w₀ _ _ alive built failed =>
      obtain ⟨hoptions, hbounded⟩ := built.fresh
      have opened := Probed.outcome_opening (hoptions ▸ failed) built.outcome
      simp only [outcome_connect, alive, opened]
      rw [close_only (s := { s₁ with client := some c }) rfl hbounded]
      cases closable : c.closable with
      | false =>
          refine ⟨_, _, rfl, fun _ => rfl, ?_, ?_, fun _ => rfl⟩
          · rintro _ ⟨⟩ closes
            rw [closable] at closes
            cases closes
          · simpa [closable] using entered
      | true =>
          have closed : Entered ctx [c.id] [c.id] w (w₁.afterCall (.close c.id)) :=
            entered.trans (.close w₁ c.id)
          have can : ¬ ∀ d ∈ some c, d.closable = false := by simp [closable]
          cases reply : (w₁.reply (.close c.id)).result with
          | ok u =>
              refine ⟨_, _, rfl, fun _ => rfl, ?_, by simpa [closable] using closed,
                fun h => absurd h can⟩
              rintro _ ⟨⟩ _ e fails
              rw [reply] at fails
              cases fails
          | error e =>
              refine ⟨_, _, rfl, ?_, ?_, by simpa [closable] using closed,
                fun h => absurd h can⟩
              · intro fine
                have fine := fine c rfl closable
                rw [reply] at fine
                cases fine
              · rintro _ ⟨⟩ _ e' fails
                rw [reply] at fails
                cases fails
                rfl

theorem Stops.connect {failure : Raised} {client? : Option Client} {w₁ : World T σ}
    (h : Stops ctx options resolver w failure client? w₁) :
    ∃ raised w', (connect ctx options resolver).outcome w = (.error raised, w') ∧
      NothingOpen ctx w failure client? w₁ raised w' := by
  cases client? with
  | some c => exact h.closing_built
  | none =>
      refine ⟨failure, w₁, ?_, h.nothing_built⟩
      cases h with
      | late done => rw [outcome_connect, done]
      | @unbuilt _ s₁ _ alive failed =>
          have stopped : (opening ctx).outcome (unconnected options resolver, w) =
              (.error failure, s₁, w₁) := by
            rw [opening, outcome_bind, failed.outcome]
          simp only [outcome_connect, alive, stopped, close_closed failed.unbuilt.client_eq]

/-! ## The store that connecting yields -/

/-- A live store: it holds the one client that was built for it, from the credentials that its
resolver found and with the configured limits, and that client is open. -/
structure Live (ctx : Context T) (options : Options T) (resolver : Resolver) (w : World T σ)
    (s : RemoteStore T) (w' : World T σ) (c : Client) (session : Nat) (endpoint : Option Value)
    (url : Value) : Prop where
  client_eq : s.client = some c
  session_eq : s.session = some session
  bounded_eq : s.bounded = []
  setup : s.options = options ∧ s.resolver = resolver
  found : ((resolve resolver).outcome w).1 = .ok s.credentials
  told : options.clientEndpoint = .ok endpoint
  address : options.endpoint = .ok url
  /-- The probe goes to the endpoint that the client is told, if an address is given. -/
  same : options.address.isGiven = true → endpoint = some url
  /-- After the search for credentials, the session, the client and the probe were called for. -/
  calls : ∃ search m, w'.log.map (·.call) = w.log.map (·.call) ++ search ++
      [.session session options.region s.credentials,
        .client session c.id endpoint options.limits] ++ [probeAt ctx options m url] ∧
    ∀ call ∈ search, call.isSearch = true
  entered : Entered ctx [c.id] [] w w'

theorem Rebuilt.calls {c : Client} (h : Rebuilt s w (.ok c) s' w') :
    ∃ search session endpoint, s'.session = some session ∧
      s.options.clientEndpoint = .ok endpoint ∧
      ((resolve s.resolver).outcome w).1 = .ok s'.credentials ∧
      w'.log.map (·.call) = w.log.map (·.call) ++ search ++
        [.session session s.options.region s'.credentials,
          .client session c.id endpoint s.options.limits] ∧
      ∀ call ∈ search, call.isSearch = true := by
  cases h with
  | @client found w₁ _ _ search opened built =>
      obtain ⟨calls, hcalls, searched⟩ := (searched_of_resolve _ search).passes.logs
      obtain ⟨-, hid, endpoint, told, -, rfl⟩ := build_ok built
      refine ⟨calls.map (·.call), w₁.sessions + 1, endpoint, rfl, told,
        congrArg Prod.fst search, ?_, by simpa using searched⟩
      simp [withSession, renewed, hid, hcalls]

omit [Seconds T] in
theorem told_eq {endpoint : Option Value} {url : Value}
    (told : options.clientEndpoint = .ok endpoint) (address : options.endpoint = .ok url)
    (given : options.address.isGiven = true) : endpoint = some url := by
  rw [Options.clientEndpoint, if_pos given, address] at told
  cases told
  rfl

theorem Opens.live (h : Opens ctx options resolver w s w') :
    ∃ c session endpoint url, Live ctx options resolver w s w' c session endpoint url := by
  cases h with
  | @opened c s₁ w₁ _ alive built probed =>
      have entered : Entered ctx [c.id] [] w w' := built.entered_ok.trans probed.entered
      obtain ⟨search, session, endpoint, hsession, told, found, calls, searched⟩ := built.calls
      cases probed with
      | @reached url _ address _ _ =>
          refine ⟨c, session, endpoint, url, rfl, hsession, built.fresh.2, ?_, found, told,
            address, told_eq told address, ⟨search, w₁.moment, ?_, searched⟩, entered⟩
          · rw [built.built.store_eq]
            exact ⟨rfl, rfl⟩
          · rw [World.log_afterCall, List.map_append, calls]
            rfl

theorem Opens.connect (h : Opens ctx options resolver w s w') :
    (connect ctx options resolver).outcome w = (.ok s, w') := by
  cases h with
  | opened alive built probed =>
      have opened := Probed.outcome_opening (built.fresh.1 ▸ probed) built.outcome
      simp only [outcome_connect, alive, opened]

/-! ## All or nothing -/

/-- What connecting does, wherever it begins: it yields a live store, or leaves nothing open. -/
structure AllOrNothing (ctx : Context T) (options : Options T) (resolver : Resolver)
    (w : World T σ) : Prop where
  /-- At each point at which it can stop, it raises the failure and leaves nothing open. -/
  stops : ∀ failure client? w₁, Stops ctx options resolver w failure client? w₁ →
    ∃ raised w', (connect ctx options resolver).outcome w = (.error raised, w') ∧
      NothingOpen ctx w failure client? w₁ raised w'
  fails : ∀ raised w', (connect ctx options resolver).outcome w = (.error raised, w') →
    ∃ failure client? w₁, Stops ctx options resolver w failure client? w₁ ∧
      NothingOpen ctx w failure client? w₁ raised w'
  opens : ∀ s w', (connect ctx options resolver).outcome w = (.ok s, w') →
    ∃ c session endpoint url, Live ctx options resolver w s w' c session endpoint url

theorem connect_all_or_nothing (ctx : Context T) (options : Options T) (resolver : Resolver)
    (w : World T σ) : AllOrNothing ctx options resolver w := by
  refine ⟨fun _ _ _ => Stops.connect, ?_, ?_⟩
  · intro raised w' failed
    rcases stops_or_opens ctx options resolver w with ⟨failure, client?, w₁, stopped⟩ | opened
    · obtain ⟨raised', w₂, outcome, nothing⟩ := stopped.connect
      rw [failed] at outcome
      cases outcome
      exact ⟨failure, client?, w₁, stopped, nothing⟩
    · obtain ⟨s, w₂, through⟩ := opened
      rw [through.connect] at failed
      cases failed
  · intro s w' went
    rcases stops_or_opens ctx options resolver w with ⟨failure, client?, w₁, stopped⟩ | opened
    · obtain ⟨raised, w₂, failed, -⟩ := stopped.connect
      rw [failed] at went
      cases went
    · obtain ⟨s', w₂, through⟩ := opened
      rw [through.connect] at went
      cases went
      exact through.live

/-- How connecting goes if the endpoint cannot be reached, and closing the client comes to this. -/
def unreached (closing : Option OutsideError) :
    Except Raised (RemoteStore Rat) × World Rat (Rehearsal Rat) :=
  (connect ⟨0, [], none⟩ (.ofRegion "us-east-1") .foreign).outcome
    (.starting 0 (.planned .empty []
      [⟨.probe, none, none, some (.request .connection "boom"), none⟩,
        ⟨.close, none, none, closing, none⟩]))

def complaint (result : Except Raised (RemoteStore Rat)) : Option CodePoints :=
  match result with
  | .ok _ => none
  | .error raised => raised.failure.message?

/-- If closing the client fails, the failure that connecting came to is not raised. -/
theorem failing_close_hides_failure :
    complaint (unreached none).1 = some (.ofString "key store is unreachable: boom") ∧
      complaint (unreached (some (.runtime "bang"))).1 = some (.ofString "bang") ∧
      (unreached (some (.runtime "bang"))).2.log.map (fun e => (e.call.kind, e.succeeded)) =
        [(.load, true), (.session, true), (.client, true), (.probe, false), (.close, false)] := by
  decide +kernel

end RemoteStore

end SecretVault
