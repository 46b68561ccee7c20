import SecretVault.Store.Remote
import SecretVault.Proofs.World.Calls

/-!
How a store keeps its clients. `Rebuilt`, `Accessed` and `Picked` list all that can become of
building a client anew, of a look at the client with the configured limits, and of the choice of a
client for an operation. Each is the exact graph of its action, so proofs about runs go by their
cases and do not open the actions again.
-/

namespace SecretVault.RemoteStore

open SecretVault.Action World

variable {T σ : Type} [Seconds T] [Outside T σ]

/-! ## Single steps -/

omit [Seconds T] [Outside T σ] in
@[simp] theorem outcome_current (st : RemoteStore T × World T σ) :
    (current : Op T σ _).outcome st = (.ok st.1, st) := rfl

omit [Seconds T] [Outside T σ] in
@[simp] theorem outcome_update (f : RemoteStore T → RemoteStore T)
    (st : RemoteStore T × World T σ) :
    (update f : Op T σ _).outcome st = (.ok (), f st.1, st.2) := rfl

omit [Seconds T] [Outside T σ] in
@[simp] theorem outcome_outward {α : Type} (a : Action (World T σ) α)
    (st : RemoteStore T × World T σ) :
    (outward a).outcome st = ((a.outcome st.2).1, st.1, (a.outcome st.2).2) := rfl

/-- A client is built by one call, unless the endpoint is no text or the number of attempts is
negative. -/
theorem outcome_build (session : Nat) (limits : Limits T) (s : RemoteStore T) (w : World T σ) :
    (build session limits).outcome (s, w) =
      match s.options.clientEndpoint with
      | .error f => (.error (.plain (.fault f)), s, w)
      | .ok endpoint =>
        if limits.attempts < 0 then
          (.error (.plain (.outside (.badAttempts limits.attempts))), s, w)
        else
          (((buildClient session endpoint limits).outcome w).1, s,
            ((buildClient session endpoint limits).outcome w).2) := by
  simp only [build, outcome_bind, outcome_current, outcome_ofFault]
  cases s.options.clientEndpoint with
  | error f => rfl
  | ok endpoint =>
      simp only [mapError_ok]
      split <;> rfl

/-- A client that was built has the next number, and its call, with the endpoint that a client is to
be told, succeeded. -/
theorem build_ok {session : Nat} {limits : Limits T} {s s' : RemoteStore T} {w w' : World T σ}
    {c : Client} (h : (build session limits).outcome (s, w) = (.ok c, s', w')) :
    s' = s ∧ c.id = w.clients + 1 ∧ ∃ endpoint, s.options.clientEndpoint = .ok endpoint ∧
      (w.reply (.client session (w.clients + 1) endpoint limits)).result = .ok c.closable ∧
      w' = { w.afterCall (.client session (w.clients + 1) endpoint limits) with
        clients := w.clients + 1 } := by
  rw [outcome_build] at h
  cases he : s.options.clientEndpoint with
  | error f =>
      rw [he] at h
      cases h
  | ok endpoint =>
      simp only [he] at h
      split at h
      · cases h
      · rw [outcome_buildClient] at h
        cases hr : (w.reply (.client session (w.clients + 1) endpoint limits)).result with
        | error e =>
            simp only [hr] at h
            cases h
        | ok closable =>
            simp only [hr] at h
            obtain ⟨hc, rfl, rfl⟩ := by simpa using h
            subst hc
            exact ⟨rfl, rfl, endpoint, rfl, hr, rfl⟩

/-- Where no client could be built, none was numbered, and at most the call that failed was made. -/
theorem build_error {session : Nat} {limits : Limits T} {s s' : RemoteStore T} {w w' : World T σ}
    {raised : Raised} (h : (build session limits).outcome (s, w) = (.error raised, s', w')) :
    s' = s ∧ w'.sessions = w.sessions ∧ w'.clients = w.clients ∧
      Logs (fun e => e.succeeded = false ∧
        ∃ endpoint, e.call = .client session (w.clients + 1) endpoint limits) w w' := by
  rw [outcome_build] at h
  cases he : s.options.clientEndpoint with
  | error f =>
      rw [he] at h
      cases h
      exact ⟨rfl, rfl, rfl, [], by simp, by simp⟩
  | ok endpoint =>
      simp only [he] at h
      split at h
      · cases h
        exact ⟨rfl, rfl, rfl, [], by simp, by simp⟩
      · rw [outcome_buildClient] at h
        cases hr : (w.reply (.client session (w.clients + 1) endpoint limits)).result with
        | ok closable =>
            simp only [hr] at h
            cases h
        | error e =>
            simp only [hr] at h
            cases h
            refine ⟨rfl, rfl, rfl, [_], log_afterCall _ _, ?_⟩
            intro entry hentry
            obtain rfl := List.mem_singleton.mp hentry
            exact ⟨by simp [hr, Except.isOk, Except.toBool], endpoint, rfl⟩

/-- What closing clients does: it numbers nothing, and calls for those that can be closed, in order
and for all of them unless it fails. -/
structure Closing (clients : List Client) (w : World T σ) (result : Except Raised Unit)
    (after : World T σ) : Prop where
  sessions_eq : after.sessions = w.sessions
  clients_eq : after.clients = w.clients
  log_eq : ∃ calls done, after.log = w.log ++ calls ∧ done <+: clients.filter (·.closable) ∧
    calls.map (·.call) = done.map (fun c => .close c.id) ∧
    (result = .ok () → done = clients.filter (·.closable))

theorem closing_closeAll (clients : List Client) (s : RemoteStore T) (w : World T σ) :
    ∃ result after, (closeAll clients).outcome (s, w) = (result, s, after) ∧
      Closing clients w result after := by
  -- a close that fails ends the closing, so only an initial part of the clients is closed
  induction clients generalizing w with
  | nil => exact ⟨.ok (), w, rfl, rfl, rfl, [], [], by simp, List.nil_prefix, rfl, fun _ => rfl⟩
  | cons c rest ih =>
      simp only [closeAll, outcome_bind, outcome_outward, outcome_closeClient]
      by_cases hc : c.closable = true
      · simp only [hc, if_true, outcome_perform w (.close c.id)]
        have hfilter : (c :: rest).filter (·.closable) = c :: rest.filter (·.closable) := by
          simp [hc]
        cases hr : (w.reply (.close c.id)).result with
        | error e =>
            refine ⟨_, _, rfl, rfl, rfl, [w.entryOf (.close c.id)], [c], rfl, ?_, rfl, nofun⟩
            rw [hfilter]
            exact List.prefix_cons_inj c |>.mpr List.nil_prefix
        | ok u =>
            obtain ⟨result, after, houtcome, closing⟩ := ih (w.afterCall (.close c.id))
            obtain ⟨calls, done, hlog, initial, hcalls, hall⟩ := closing.log_eq
            refine ⟨result, after, houtcome, closing.sessions_eq, closing.clients_eq,
              w.entryOf (.close c.id) :: calls, c :: done, by simp [hlog], ?_, by simp [hcalls], ?_⟩
            · rw [hfilter]
              exact (List.prefix_cons_inj c).mpr initial
            · intro hok
              rw [hfilter, hall hok]
      · obtain ⟨result, after, houtcome, closing⟩ := ih w
        have hfilter : (c :: rest).filter (·.closable) = rest.filter (·.closable) := by
          simp [hc]
        refine ⟨result, after, by simpa [hc] using houtcome, closing.sessions_eq,
          closing.clients_eq, ?_⟩
        rw [hfilter]
        exact closing.log_eq

/-! ## A client built anew -/

def withSession (w : World T σ) (region : Value) (credentials : Option Credentials) : World T σ :=
  { w.afterCall (.session (w.sessions + 1) region credentials) with sessions := w.sessions + 1 }

def renewed (s : RemoteStore T) (found : Option Credentials) (session : Nat) : RemoteStore T :=
  { s with credentials := found, session := some session }

/-- What can become of opening a session and building the client with the configured limits. -/
inductive Rebuilt (s : RemoteStore T) (w : World T σ) :
    Except Raised Client → RemoteStore T → World T σ → Prop where
  | noResolver (unusable : s.resolver = .unusable) :
      Rebuilt s w (.error (.plain (.fault .unsupported))) s w
  | noSession {found w₁ e} (search : (resolve s.resolver).outcome w = (.ok found, w₁))
      (refused : (w₁.reply (.session (w₁.sessions + 1) s.options.region found)).result = .error e) :
      Rebuilt s w (.error (.plain (.outside e))) { s with credentials := found }
        (w₁.afterCall (.session (w₁.sessions + 1) s.options.region found))
  | noClient {found w₁ raised w₂} (search : (resolve s.resolver).outcome w = (.ok found, w₁))
      (opened : (w₁.reply (.session (w₁.sessions + 1) s.options.region found)).result = .ok ())
      (failed : (build (w₁.sessions + 1) s.options.limits).outcome
        (s.renewed found (w₁.sessions + 1), withSession w₁ s.options.region found) =
          (.error raised, s.renewed found (w₁.sessions + 1), w₂)) :
      Rebuilt s w (.error raised) (s.renewed found (w₁.sessions + 1)) w₂
  | client {found w₁ c w₂} (search : (resolve s.resolver).outcome w = (.ok found, w₁))
      (opened : (w₁.reply (.session (w₁.sessions + 1) s.options.region found)).result = .ok ())
      (built : (build (w₁.sessions + 1) s.options.limits).outcome
        (s.renewed found (w₁.sessions + 1), withSession w₁ s.options.region found) =
          (.ok c, s.renewed found (w₁.sessions + 1), w₂)) :
      Rebuilt s w (.ok c) (s.renewed found (w₁.sessions + 1)) w₂

theorem rebuilt_newClient (s : RemoteStore T) (w : World T σ) {result : Except Raised Client}
    {s' : RemoteStore T} {w' : World T σ} (h : newClient.outcome (s, w) = (result, s', w')) :
    Rebuilt s w result s' w' := by
  simp only [newClient, newSession, outcome_bind, outcome_current, outcome_outward,
    outcome_update] at h
  cases hres : s.resolver with
  | unusable =>
      simp only [hres, resolve, outcome_fail] at h
      cases h
      exact .noResolver hres
  | chain sources =>
      obtain ⟨found, w₁, hsearch⟩ := Source.resolve_ok sources w
      have search : (resolve s.resolver).outcome w = (.ok found, w₁) := by rw [hres]; exact hsearch
      simp only [search, outcome_openSession] at h
      cases hopen : (w₁.reply (.session (w₁.sessions + 1) s.options.region found)).result with
      | error e =>
          simp only [hopen] at h
          cases h
          exact .noSession search hopen
      | ok u =>
          simp only [hopen] at h
          cases result with
          | error raised =>
              obtain ⟨rfl, _⟩ := build_error h
              exact .noClient search hopen h
          | ok c =>
              obtain ⟨rfl, _⟩ := build_ok h
              exact .client search hopen h

theorem Rebuilt.outcome {s s' : RemoteStore T} {w w' : World T σ} {result : Except Raised Client}
    (h : Rebuilt s w result s' w') : newClient.outcome (s, w) = (result, s', w') := by
  have opening {found : Option Credentials} {w₁ : World T σ}
      (search : (resolve s.resolver).outcome w = (.ok found, w₁)) :
      newSession.outcome (s, w) =
        (((openSession s.options.region found).outcome w₁).1, { s with credentials := found },
          ((openSession s.options.region found).outcome w₁).2) := by
    simp only [newSession, outcome_bind, outcome_current, outcome_outward, search, outcome_update]
  cases h with
  | noResolver unusable =>
      simp only [newClient, newSession, outcome_bind, outcome_current, outcome_outward, unusable,
        resolve, outcome_fail]
  | noSession search refused =>
      simp only [newClient, outcome_bind, opening search, outcome_openSession, refused]
  | noClient search opened failed =>
      simp only [newClient, outcome_bind, opening search, outcome_openSession, opened,
        outcome_update, outcome_current]
      exact failed
  | client search opened built =>
      simp only [newClient, outcome_bind, opening search, outcome_openSession, opened,
        outcome_update, outcome_current]
      exact built

/-! ## The client with the configured limits -/

/-- What can become of a look at the client with the configured limits. -/
inductive Accessed (s : RemoteStore T) (w : World T σ) :
    Except Raised (Option Client) → RemoteStore T → World T σ → Prop where
  | unknown {f} (stale : s.isStale w.wall = .error f) :
      Accessed s w (.error (.plain (.fault f))) s w
  | kept (stale : s.isStale w.wall = .ok false) : Accessed s w (.ok s.client) s w
  | failed {raised s₁ w₁} (stale : s.isStale w.wall = .ok true)
      (rebuilt : Rebuilt { s with bounded := [] } w (.error raised) s₁ w₁) :
      Accessed s w (.error raised) s₁ w₁
  | unclosed {c s₁ w₁ raised w₂} (stale : s.isStale w.wall = .ok true)
      (rebuilt : Rebuilt { s with bounded := [] } w (.ok c) s₁ w₁)
      (closing : (closeAll s.held).outcome ({ s₁ with client := some c }, w₁) =
        (.error raised, { s₁ with client := some c }, w₂)) :
      Accessed s w (.error raised) { s₁ with client := some c } w₂
  | refreshed {c s₁ w₁ w₂} (stale : s.isStale w.wall = .ok true)
      (rebuilt : Rebuilt { s with bounded := [] } w (.ok c) s₁ w₁)
      (closing : (closeAll s.held).outcome ({ s₁ with client := some c }, w₁) =
        (.ok (), { s₁ with client := some c }, w₂)) :
      Accessed s w (.ok (some c)) { s₁ with client := some c } w₂

theorem accessed_freshClient (s : RemoteStore T) (w : World T σ)
    {result : Except Raised (Option Client)} {s' : RemoteStore T} {w' : World T σ}
    (h : freshClient.outcome (s, w) = (result, s', w')) : Accessed s w result s' w' := by
  simp only [freshClient, outcome_bind, outcome_get, outcome_ofFault] at h
  cases hstale : s.isStale w.wall with
  | error f =>
      simp only [hstale, mapError_error] at h
      cases h
      exact .unknown hstale
  | ok stale =>
      simp only [hstale, mapError_ok] at h
      cases stale with
      | false =>
          cases h
          exact .kept hstale
      | true =>
          simp only [if_true, outcome_bind, outcome_update, outcome_current] at h
          rcases hnew : newClient.outcome (({ s with bounded := [] } : RemoteStore T), w) with
            ⟨made, s₁, w₁⟩
          have rebuilt := rebuilt_newClient _ _ hnew
          simp only [hnew] at h
          cases made with
          | error raised =>
              cases h
              exact .failed hstale rebuilt
          | ok c =>
              obtain ⟨closed, w₂, hclose, _⟩ :=
                closing_closeAll s.held { s₁ with client := some c } w₁
              simp only [hclose] at h
              cases closed with
              | error raised =>
                  cases h
                  exact .unclosed hstale rebuilt hclose
              | ok u =>
                  cases h
                  exact .refreshed hstale rebuilt hclose

theorem Accessed.outcome {s s' : RemoteStore T} {w w' : World T σ}
    {result : Except Raised (Option Client)} (h : Accessed s w result s' w') :
    freshClient.outcome (s, w) = (result, s', w') := by
  cases h with
  | unknown stale =>
      simp only [freshClient, outcome_bind, outcome_get, outcome_ofFault, stale, mapError_error]
  | kept stale =>
      simp only [freshClient, outcome_bind, outcome_get, outcome_ofFault, stale, mapError_ok]
      rfl
  | failed stale rebuilt =>
      simp only [freshClient, outcome_bind, outcome_get, outcome_ofFault, stale, mapError_ok,
        if_true, outcome_update, rebuilt.outcome]
  | unclosed stale rebuilt closing =>
      simp only [freshClient, outcome_bind, outcome_get, outcome_ofFault, stale, mapError_ok,
        if_true, outcome_update, rebuilt.outcome, closing]
  | refreshed stale rebuilt closing =>
      simp only [freshClient, outcome_bind, outcome_get, outcome_ofFault, stale, mapError_ok,
        if_true, outcome_update, rebuilt.outcome, closing, outcome_current,
        outcome_pure]

/-! ## The client for an operation -/

/-- What can become of the choice of a client for an operation. -/
inductive Picked (ctx : Context T) (operation name : String) (s : RemoteStore T) (w : World T σ) :
    Except Raised Client → RemoteStore T → World T σ → Prop where
  | refused {raised s₁ w₁} (access : freshClient.outcome (s, w) = (.error raised, s₁, w₁)) :
      Picked ctx operation name s w (.error raised) s₁ w₁
  | noLimits {c? s₁ w₁ f} (access : freshClient.outcome (s, w) = (.ok c?, s₁, w₁))
      (limits : s₁.options.limits.for? (ctx.remaining w₁.moment) = .error f) :
      Picked ctx operation name s w (.error (.plain (.fault f))) s₁ w₁
  | closed {c? s₁ w₁ limits?} (access : freshClient.outcome (s, w) = (.ok c?, s₁, w₁))
      (limits : s₁.options.limits.for? (ctx.remaining w₁.moment) = .ok limits?)
      (client : s₁.client = none) :
      Picked ctx operation name s w
        (.error (.plain (.store (.unknown operation name (.text "store is closed") "aws")))) s₁ w₁
  | configured {c? s₁ w₁ limits? c} (access : freshClient.outcome (s, w) = (.ok c?, s₁, w₁))
      (limits : s₁.options.limits.for? (ctx.remaining w₁.moment) = .ok limits?)
      (client : s₁.client = some c) (free : limits? = none ∨ s₁.session = none) :
      Picked ctx operation name s w (.ok c) s₁ w₁
  | cached {c? s₁ w₁ limits session c d} (access : freshClient.outcome (s, w) = (.ok c?, s₁, w₁))
      (limited : s₁.options.limits.for? (ctx.remaining w₁.moment) = .ok (some limits))
      (client : s₁.client = some c) (open_ : s₁.session = some session)
      (found : s₁.boundedClient? limits = some d) :
      Picked ctx operation name s w (.ok d) s₁ w₁
  | unbuilt {c? s₁ w₁ limits session c raised w₂}
      (access : freshClient.outcome (s, w) = (.ok c?, s₁, w₁))
      (limited : s₁.options.limits.for? (ctx.remaining w₁.moment) = .ok (some limits))
      (client : s₁.client = some c) (open_ : s₁.session = some session)
      (new : s₁.boundedClient? limits = none)
      (failed : (build session limits).outcome (s₁, w₁) = (.error raised, s₁, w₂)) :
      Picked ctx operation name s w (.error raised) s₁ w₂
  | built {c? s₁ w₁ limits session c d w₂} (access : freshClient.outcome (s, w) = (.ok c?, s₁, w₁))
      (limited : s₁.options.limits.for? (ctx.remaining w₁.moment) = .ok (some limits))
      (client : s₁.client = some c) (open_ : s₁.session = some session)
      (new : s₁.boundedClient? limits = none)
      (build : (build session limits).outcome (s₁, w₁) = (.ok d, s₁, w₂)) :
      Picked ctx operation name s w (.ok d)
        { s₁ with bounded := s₁.bounded ++ [(limits, d)] } w₂

theorem picked_clientFor (ctx : Context T) (operation name : String) (s : RemoteStore T)
    (w : World T σ) {result : Except Raised Client} {s' : RemoteStore T} {w' : World T σ}
    (h : (clientFor ctx operation name).outcome (s, w) = (result, s', w')) :
    Picked ctx operation name s w result s' w' := by
  simp only [clientFor, outcome_bind] at h
  rcases hfresh : freshClient.outcome (s, w) with ⟨fresh, s₁, w₁⟩
  simp only [hfresh] at h
  cases fresh with
  | error raised =>
      cases h
      exact .refused hfresh
  | ok c? =>
      simp only [outcome_get, outcome_ofFault] at h
      cases hlimits : s₁.options.limits.for? (ctx.remaining w₁.moment) with
      | error f =>
          simp only [hlimits, mapError_error] at h
          cases h
          exact .noLimits hfresh hlimits
      | ok limits? =>
          simp only [hlimits, mapError_ok] at h
          cases hclient : s₁.client with
          | none =>
              simp only [hclient, outcome_fail] at h
              cases h
              exact .closed hfresh hlimits hclient
          | some c =>
              simp only [hclient] at h
              cases limits? with
              | none =>
                  cases h
                  exact .configured hfresh hlimits hclient (.inl rfl)
              | some limits =>
                  cases hsession : s₁.session with
                  | none =>
                      simp only [hsession, outcome_pure] at h
                      cases h
                      exact .configured hfresh hlimits hclient (.inr hsession)
                  | some session =>
                      simp only [hsession] at h
                      cases hbounded : s₁.boundedClient? limits with
                      | some d =>
                          simp only [hbounded, outcome_pure] at h
                          cases h
                          exact .cached hfresh hlimits hclient hsession hbounded
                      | none =>
                          simp only [hbounded, outcome_bind] at h
                          rcases hbuild : (build session limits).outcome (s₁, w₁) with
                            ⟨made, s₂, w₂⟩
                          simp only [hbuild] at h
                          cases made with
                          | error raised =>
                              obtain ⟨rfl, _⟩ := build_error hbuild
                              cases h
                              exact .unbuilt hfresh hlimits hclient hsession hbounded hbuild
                          | ok d =>
                              obtain ⟨rfl, _⟩ := build_ok hbuild
                              cases h
                              exact .built hfresh hlimits hclient hsession hbounded hbuild

theorem Picked.outcome {ctx : Context T} {operation name : String} {s s' : RemoteStore T}
    {w w' : World T σ} {result : Except Raised Client}
    (h : Picked ctx operation name s w result s' w') :
    (clientFor ctx operation name).outcome (s, w) = (result, s', w') := by
  cases h with
  | refused access => simp only [clientFor, outcome_bind, access]
  | noLimits access limits =>
      simp only [clientFor, outcome_bind, access, outcome_get, outcome_ofFault, limits,
        mapError_error]
  | closed access limits client =>
      simp only [clientFor, outcome_bind, access, outcome_get, outcome_ofFault, limits, mapError_ok,
        client, outcome_fail]
  | @configured _ _ _ limits? _ access limits client free =>
      simp only [clientFor, outcome_bind, access, outcome_get, outcome_ofFault, limits, mapError_ok,
        client]
      rcases free with rfl | none
      · rfl
      · cases limits? with
        | none => rfl
        | some limits => simp only [none, outcome_pure]
  | cached access limited client open_ found =>
      simp only [clientFor, outcome_bind, access, outcome_get, outcome_ofFault, limited,
        mapError_ok, client, open_, found, outcome_pure]
  | unbuilt access limited client open_ new failed =>
      simp only [clientFor, outcome_bind, access, outcome_get, outcome_ofFault, limited,
        mapError_ok, client, open_, new, failed]
  | built access limited client open_ new built =>
      simp only [clientFor, outcome_bind, access, outcome_get, outcome_ofFault, limited,
        mapError_ok, client, open_, new, built, outcome_update, outcome_pure]

/-! ## What upkeep fails with -/

/-- A failure that is no error of the store or of a context: an error from outside, or a fault of a
value. -/
def Foreign (raised : Raised) : Prop :=
  (∃ e, raised = .plain (.outside e)) ∨ ∃ f, raised = .plain (.fault f)

theorem foreign_perform (c : Call T) : Raises Foreign (outward (perform c) : Op T σ _) := by
  rintro ⟨s, w⟩ after raised h
  rw [outcome_outward, outcome_perform w c] at h
  cases hr : (w.reply c).result with
  | ok answer =>
      rw [hr] at h
      cases h
  | error e =>
      rw [hr] at h
      cases h
      exact .inl ⟨e, rfl⟩

theorem foreign_build {session : Nat} {limits : Limits T} :
    Raises Foreign (build session limits : Op T σ _) := by
  rintro ⟨s, w⟩ after raised h
  rw [outcome_build] at h
  cases he : s.options.clientEndpoint with
  | error f =>
      rw [he] at h
      cases h
      exact .inr ⟨f, rfl⟩
  | ok endpoint =>
      simp only [he] at h
      split at h
      · cases h
        exact .inl ⟨_, rfl⟩
      · rw [outcome_buildClient] at h
        dsimp only at h
        split at h
        · cases h
        · cases h
          exact .inl ⟨_, rfl⟩

theorem foreign_closeAll (clients : List Client) :
    Raises Foreign (closeAll clients : Op T σ _) := by
  induction clients with
  | nil => exact Raises.pure _
  | cons c rest ih =>
      refine Raises.bind ?_ fun _ => ih
      rintro ⟨s, w⟩ after raised h
      rw [outcome_outward, outcome_closeClient] at h
      split at h
      · exact foreign_perform (.close c.id) h
      · cases h

theorem Rebuilt.foreign {s s' : RemoteStore T} {w w' : World T σ} {raised : Raised}
    (h : Rebuilt s w (.error raised) s' w') : Foreign raised := by
  cases h with
  | noResolver => exact .inr ⟨_, rfl⟩
  | noSession => exact .inl ⟨_, rfl⟩
  | noClient _ _ failed => exact foreign_build failed

theorem Accessed.foreign {s s' : RemoteStore T} {w w' : World T σ} {raised : Raised}
    (h : Accessed s w (.error raised) s' w') : Foreign raised := by
  cases h with
  | unknown => exact .inr ⟨_, rfl⟩
  | failed _ rebuilt => exact rebuilt.foreign
  | unclosed _ _ closing => exact foreign_closeAll _ closing

/-! ## What upkeep leaves alone -/

/-- The configuration is as before, and only calls that keep clients were made. -/
structure Kept (before after : RemoteStore T × World T σ) : Prop where
  options_eq : after.1.options = before.1.options
  resolver_eq : after.1.resolver = before.1.resolver
  passes : Passes (fun c => c.isUpkeep = true) before.2 after.2

theorem kept_lasting : Lasting (Kept (T := T) (σ := σ)) where
  refl st := ⟨rfl, rfl, .refl st.2⟩
  trans first second := ⟨second.options_eq.trans first.options_eq,
    second.resolver_eq.trans first.resolver_eq, first.passes.trans second.passes⟩

theorem kept_outward {α : Type} {a : Action (World T σ) α}
    (h : Moves (Passes fun c => c.isUpkeep = true) a) : Moves Kept (outward a) :=
  fun st => ⟨rfl, rfl, h st.2⟩

theorem kept_update (f : RemoteStore T → RemoteStore T) (hoptions : ∀ s, (f s).options = s.options)
    (hresolver : ∀ s, (f s).resolver = s.resolver) :
    Moves Kept (update f : Op T σ Unit) :=
  fun st => ⟨hoptions st.1, hresolver st.1, .refl st.2⟩

theorem kept_resolve (resolver : Resolver) :
    Moves Kept (outward (resolve resolver) : Op T σ _) := by
  cases resolver with
  | chain sources =>
      refine kept_outward ?_
      intro w
      exact (Source.searched_resolve sources w).passes.mono fun _ => Call.isUpkeep_of_isSearch
  | unusable => exact kept_lasting.refl

theorem kept_build (session : Nat) (limits : Limits T) :
    Moves Kept (build session limits : Op T σ _) := by
  refine kept_lasting.bind kept_lasting.refl ?_
  intro s
  refine kept_lasting.bind (kept_lasting.ofFault _) ?_
  intro endpoint
  split
  · exact kept_lasting.refl
  · refine kept_outward ?_
    intro w
    rw [outcome_buildClient]
    have called := (Passes.refl w).call (.client session (w.clients + 1) endpoint limits)
      (K := fun c => c.isUpkeep = true) rfl
    dsimp only
    split
    · exact called.number w.sessions (w.clients + 1)
    · exact called

theorem kept_newClient : Moves Kept (newClient : Op T σ _) := by
  refine kept_lasting.bind ?_ fun session => kept_lasting.bind (kept_update _ ?_ ?_) ?_
  · refine kept_lasting.bind kept_lasting.refl fun s => kept_lasting.bind (kept_resolve _) ?_
    intro found
    refine kept_lasting.bind (kept_update _ ?_ ?_) fun _ => kept_outward ?_
    · exact fun _ => rfl
    · exact fun _ => rfl
    · intro w
      rw [outcome_openSession]
      have called := (Passes.refl w).call (.session (w.sessions + 1) s.options.region found)
        (K := fun c => c.isUpkeep = true) rfl
      dsimp only
      split
      · exact called.number (w.sessions + 1) w.clients
      · exact called
  · exact fun _ => rfl
  · exact fun _ => rfl
  · exact fun _ => kept_lasting.bind kept_lasting.refl fun s => kept_build _ _

theorem kept_closeAll (clients : List Client) : Moves Kept (closeAll clients : Op T σ _) := by
  induction clients with
  | nil => exact kept_lasting.refl
  | cons c rest ih =>
      refine kept_lasting.bind (kept_outward ?_) fun _ => ih
      intro w
      rw [outcome_closeClient, outcome_perform w (.close c.id)]
      split
      · exact Passes.call (K := fun c => c.isUpkeep = true) (.close c.id) (.refl w) rfl
      · exact .refl w

theorem kept_freshClient : Moves Kept (freshClient : Op T σ _) := by
  refine kept_lasting.bind kept_lasting.refl ?_
  rintro ⟨s, w⟩
  refine kept_lasting.bind (kept_lasting.ofFault _) ?_
  intro stale
  cases stale with
  | false => exact kept_lasting.refl
  | true =>
      refine kept_lasting.bind (kept_update _ ?_ ?_) fun _ => kept_lasting.bind kept_newClient ?_
      · exact fun _ => rfl
      · exact fun _ => rfl
      · intro c
        refine kept_lasting.bind (kept_update _ ?_ ?_) fun _ =>
          kept_lasting.bind (kept_closeAll _) fun _ => kept_lasting.refl
        · exact fun _ => rfl
        · exact fun _ => rfl

/-- The choice of a client keeps the configuration and sends no request. -/
theorem kept_clientFor (ctx : Context T) (operation name : String) :
    Moves Kept (clientFor ctx operation name : Op T σ _) := by
  refine kept_lasting.bind kept_freshClient fun _ => kept_lasting.bind kept_lasting.refl ?_
  rintro ⟨s, w⟩
  refine kept_lasting.bind (kept_lasting.ofFault _) ?_
  intro limits?
  cases s.client with
  | none => exact kept_lasting.refl
  | some c =>
      dsimp only
      split
      · split
        · exact kept_lasting.refl
        · refine kept_lasting.bind (kept_build _ _) fun d =>
            kept_lasting.bind (kept_update _ ?_ ?_) fun _ => kept_lasting.refl
          · exact fun _ => rfl
          · exact fun _ => rfl
      · exact kept_lasting.refl

end SecretVault.RemoteStore
