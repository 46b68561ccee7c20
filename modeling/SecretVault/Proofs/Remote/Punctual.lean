import SecretVault.Proofs.Remote.Request
import SecretVault.Proofs.World.Rehearsing

/-!
Whether an operation sends its requests in time. Its context is checked on entry and when a page
arrives, but not between the preparation and the first request. So an operation is punctual exactly
if its preparation does not end late, or ends with an error of the vendor, whose report looks at the
context again.
-/

namespace SecretVault

variable {T σ : Type} [Seconds T] [Outside T σ]

open SecretVault.Action RemoteStore World

/-! ## The preparation -/

namespace RemoteStore

/-- Calls of one kind only were made, whatever became of the store. -/
def Calling (K : Call T → Prop) (before after : RemoteStore T × World T σ) : Prop :=
  Passes K before.2 after.2

theorem calling_lasting (K : Call T → Prop) : Lasting (Calling (σ := σ) K) where
  refl st := .refl st.2
  trans first second := Passes.trans first second

theorem calling_perform {K : Call T → Prop} {c : Call T} (hc : K c) :
    Moves (Calling K) (outward (perform c) : Op T σ _) := by
  intro st
  rw [outcome_outward, outcome_perform]
  exact Passes.call c (.refl _) hc

def NotContext (raised : Raised) : Prop :=
  ∀ err, raised.failure ≠ .context err

theorem Foreign.notContext {raised : Raised} (h : Foreign raised) : NotContext raised := by
  rcases h with ⟨e, rfl⟩ | ⟨f, rfl⟩
  · nofun
  · nofun

theorem Picked.notContext {ctx : Context T} {operation name : String} {s s' : RemoteStore T}
    {w w' : World T σ} {raised : Raised}
    (h : Picked ctx operation name s w (.error raised) s' w') : NotContext raised := by
  cases h with
  | refused access => exact (accessed_freshClient _ _ access).foreign.notContext
  | noLimits => nofun
  | closed => nofun
  | unbuilt _ _ _ _ _ failed => exact (foreign_build failed).notContext

end RemoteStore

namespace Operation

theorem calling_prepare (ctx : Context T) (op : Operation) :
    Moves (Calling fun c => c.isRequest = false) (op.prepare ctx : RemoteStore.Op T σ _) := by
  have lasting := calling_lasting (T := T) (σ := σ) fun c => c.isRequest = false
  refine lasting.bind ?_ ?_
  · intro st
    exact (kept_clientFor ctx op.label op.subject st).passes.mono
      fun _ => Call.not_isRequest_of_isUpkeep
  · intro client
    cases op with
    | list start limit cursor => exact lasting.bind (calling_perform rfl) fun _ => lasting.pure _
    | _ => exact lasting.pure _

theorem notContext_prepare (ctx : Context T) (op : Operation) :
    Raises NotContext (op.prepare ctx : RemoteStore.Op T σ _) := by
  refine Raises.bind ?_ ?_
  · rintro ⟨s, w⟩ ⟨s', w'⟩ raised h
    exact (picked_clientFor ctx _ _ s w h).notContext
  · intro client
    cases op with
    | list start limit cursor =>
        refine Raises.bind ?_ fun _ => Raises.pure _
        intro st after raised h
        exact (foreign_perform (.paginator client.id) h).notContext
    | _ => exact Raises.pure _

theorem prepare_one {ctx : Context T} {op : Operation} {st after : RemoteStore T × World T σ}
    {client : Client} {n : Nat} (hop : ∀ start limit cursor, op ≠ .list start limit cursor)
    (h : (op.prepare ctx).outcome st = (.ok (client, n), after)) : n = 1 := by
  cases op with
  | list start limit cursor => exact absurd rfl (hop start limit cursor)
  | _ =>
      obtain ⟨c, between, _, hpure⟩ := outcome_bind_eq_ok.mp h
      cases hpure
      rfl

/-! ## The requests -/

/-- The entry of a call that is no request, or was made before the context was done. -/
def InTime (ctx : Context T) (e : Logged T) : Prop :=
  e.call.isRequest = true → ctx.err e.moment = none

/-- Once the first page is requested in time, every other page is: the check on arrival stops the
listing before the next request. -/
theorem inTime_fetch {ctx : Context T} (client : Nat) (indices : List Nat)
    (st : RemoteStore T × World T σ) (alive : ctx.err st.2.moment = none) :
    Logs (InTime ctx) st.2 ((fetch ctx client indices).outcome st).2.2 := by
  induction indices generalizing st with
  | nil => exact .refl _
  | cons index rest ih =>
      obtain ⟨s, w⟩ := st
      have first : Logs (InTime ctx) w (w.afterCall (.page client index)) :=
        .afterCall _ fun _ => alive
      rw [outcome_fetch_cons]
      dsimp only
      split
      · exact first
      · split
        · exact first
        · rename_i hdone
          split
          · exact first
          · exact first.trans (ih (s, w.afterCall (.page client index)) hdone)

theorem request_one (ctx : Context T) (key : Option Value) (client : Client) (count : Nat)
    {op : Operation} (hop : ∀ start limit cursor, op ≠ .list start limit cursor)
    (st : RemoteStore T × World T σ) :
    ∃ c : Call T, c.isRequest = true ∧
      ((op.request ctx key client count).outcome st).2.2 = st.2.afterCall c := by
  have sends {α : Type} (c : Call T) (f : c.Answer → α) :
      ((outward (World.perform c) >>= fun x => pure (f x) :
        RemoteStore.Op T σ α).outcome st).2.2 = st.2.afterCall c := by
    rw [outcome_bind_pure, outcome_outward, World.outcome_perform]
  cases op with
  | create name value => exact ⟨.create client.id name (.ofBytes value) key, rfl, sends _ _⟩
  | put name value => exact ⟨.create client.id name (.ofBytes value) key, rfl, sends _ _⟩
  | read name => exact ⟨.get client.id name, rfl, sends _ _⟩
  | delete name => exact ⟨.delete client.id name, rfl, sends _ _⟩
  | list start limit cursor => exact absurd rfl (hop start limit cursor)

theorem inTime_request {ctx : Context T} (key : Option Value) (client : Client) (count : Nat)
    (op : Operation) (st : RemoteStore T × World T σ) (alive : ctx.err st.2.moment = none) :
    Logs (InTime ctx) st.2 ((op.request ctx key client count).outcome st).2.2 := by
  by_cases hop : ∃ start limit cursor, op = .list start limit cursor
  · obtain ⟨start, limit, cursor, rfl⟩ := hop
    rw [request, outcome_bind_pure]
    exact inTime_fetch client.id _ st alive
  · obtain ⟨c, _, hafter⟩ := request_one ctx key client count
      (fun start limit cursor h => hop ⟨start, limit, cursor, h⟩) st
    rw [hafter]
    exact .afterCall c fun _ => alive

theorem request_first (ctx : Context T) (key : Option Value) (client : Client) (n : Nat)
    (op : Operation) (st : RemoteStore T × World T σ) :
    ∃ e rest, ((op.request ctx key client (n + 1)).outcome st).2.2.log = st.2.log ++ e :: rest ∧
      e.call.isRequest = true ∧ e.moment = st.2.moment := by
  by_cases hop : ∃ start limit cursor, op = .list start limit cursor
  · obtain ⟨start, limit, cursor, rfl⟩ := hop
    obtain ⟨s, w⟩ := st
    -- the pages after the first only add entries
    have grows (indices : List Nat) (u : World T σ) :
        ∃ more, ((fetch ctx client.id indices).outcome (s, u)).2.2.log = u.log ++ more := by
      obtain ⟨more, hmore, _⟩ := (sending_fetch (K := fun _ => True) client.id (fun _ => trivial)
        ctx indices (s, u)).passes.logs
      exact ⟨more, hmore⟩
    obtain ⟨more, hmore⟩ := grows ((List.range n).map Nat.succ) (w.afterCall (.page client.id 0))
    rw [request, outcome_bind_pure, List.range_succ_eq_map, outcome_fetch_cons]
    dsimp only
    split
    · exact ⟨_, [], rfl, rfl, rfl⟩
    · split
      · exact ⟨_, [], rfl, rfl, rfl⟩
      · split
        · exact ⟨_, [], rfl, rfl, rfl⟩
        · refine ⟨w.entryOf (.page client.id 0), more, ?_, rfl, rfl⟩
          rw [hmore, log_afterCall, List.append_assoc, List.singleton_append]
  · obtain ⟨c, hc, hafter⟩ := request_one ctx key client (n + 1)
      (fun start limit cursor h => hop ⟨start, limit, cursor, h⟩) st
    exact ⟨st.2.entryOf c, [], by rw [hafter, log_afterCall], hc, rfl⟩

/-! ## Stages before a request -/

/-- The stages of an operation with a request ahead, each with what it brought and the moment at
which it ended: the preparation, unless no request is to follow, and every page but the last. -/
inductive Ahead (ctx : Context T) (op : Operation) (s : RemoteStore T) (w : World T σ) :
    Except Raised Unit → Moment T → Prop where
  | prepared {client n st}
      (preparation : (op.prepare ctx).outcome (s, w) = (.ok (client, n + 1), st)) :
      Ahead ctx op s w (.ok ()) st.2.moment
  | unprepared {raised st}
      (preparation : (op.prepare ctx).outcome (s, w) = (.error raised, st)) :
      Ahead ctx op s w (.error raised) st.2.moment
  | page {client n st k names st₁ page w₂}
      (preparation : (op.prepare ctx).outcome (s, w) = (.ok (client, n), st)) (more : k + 1 < n)
      (before : (fetch ctx client.id (List.range k)).outcome st = (.ok names, st₁))
      (arrival : (World.perform (.page client.id k)).outcome st₁.2 = (page, w₂)) :
      Ahead ctx op s w (page.map fun _ => ()) w₂.moment

variable {ctx : Context T} {op : Operation} {s : RemoteStore T} {w : World T σ}

/-- Work that fails stops the operation, and its failure is reported at the moment it came. -/
theorem onRemote_of_work {raised : Raised} {st : RemoteStore T × World T σ}
    (alive : ctx.err w.moment = none)
    (h : (op.work ctx (encryption s.options)).outcome (s, w) = (.error raised, st)) :
    (op.onRemote ctx).outcome (s, w) =
      (.error (reported ctx op.label op.subject st.2.moment raised), st) := by
  rw [outcome_onRemote, alive]
  simp only [h]

/-- A page that does not arrive, or arrives late, ends the fetching there. -/
theorem fetch_stops {client k n : Nat} {names : List Value} {st st₁ : RemoteStore T × World T σ}
    {page : Except Raised Value} {w₂ : World T σ} {raised : Raised} (hk : k < n)
    (before : (fetch ctx client (List.range k)).outcome st = (.ok names, st₁))
    (arrival : (World.perform (.page client k)).outcome st₁.2 = (page, w₂))
    (stop : page = .error raised ∨ ∃ value err, page = .ok value ∧
      ctx.err w₂.moment = some err ∧ raised = .plain (.context err)) :
    (fetch ctx client (List.range n)).outcome st = (.error raised, st₁.1, w₂) := by
  have split_range : List.range n = List.range k ++ k :: (List.range n).drop (k + 1) := by
    have htake : (List.range n).take k = List.range k := by
      rw [List.take_range, Nat.min_eq_left (Nat.le_of_lt hk)]
    have hdrop : (List.range n).drop k = k :: (List.range n).drop (k + 1) := by
      rw [List.drop_eq_getElem_cons (by simpa using hk), List.getElem_range]
    rw [← htake, ← hdrop, List.take_append_drop]
  have here : (fetch ctx client (k :: (List.range n).drop (k + 1))).outcome st₁ =
      (.error raised, st₁.1, w₂) := by
    obtain ⟨s₁, w₁⟩ := st₁
    rw [World.outcome_perform] at arrival
    obtain ⟨hpage, rfl⟩ := Prod.mk.inj arrival
    rw [outcome_fetch_cons]
    cases hr : (w₁.reply (.page client k)).result with
    | error e =>
        rw [hr] at hpage
        rcases stop with rfl | ⟨value, err, rfl, _, _⟩
        · cases hpage
          rfl
        · cases hpage
    | ok value =>
        rw [hr] at hpage
        rcases stop with rfl | ⟨value, err, rfl, hdone, rfl⟩
        · cases hpage
        · simp only [hdone]
  rw [split_range, fetch_append, outcome_bind_ok before, outcome_bind_error here]

theorem unchanging_prepare (ctx : Context T) (op : Operation) :
    Moves (Calling fun c => c.isChange = false) (op.prepare ctx : RemoteStore.Op T σ _) :=
  fun st => Passes.mono (calling_prepare ctx op st) fun _ => Call.not_isChange_of_not_isRequest

theorem work_page {client : Client} {n k : Nat} {names : List Value}
    {st st₁ : RemoteStore T × World T σ} {page : Except Raised Value} {w₂ : World T σ}
    {raised : Raised} (key : Option Value)
    (preparation : (op.prepare ctx).outcome (s, w) = (.ok (client, n), st)) (more : k + 1 < n)
    (before : (fetch ctx client.id (List.range k)).outcome st = (.ok names, st₁))
    (arrival : (World.perform (.page client.id k)).outcome st₁.2 = (page, w₂))
    (stop : page = .error raised ∨ ∃ value err, page = .ok value ∧
      ctx.err w₂.moment = some err ∧ raised = .plain (.context err)) :
    (op.work ctx key).outcome (s, w) = (.error raised, st₁.1, w₂) ∧
      Calling (fun c => c.isChange = false) (s, w) (st₁.1, w₂) := by
  have fetched := fetch_stops (Nat.lt_of_succ_lt more) before arrival stop
  cases op with
  | list start limit cursor =>
      constructor
      · rw [work, outcome_bind_ok preparation]
        exact outcome_bind_error fetched
      · have prepared := unchanging_prepare ctx (.list start limit cursor) (s, w)
        have fetching := (sending_fetch (K := fun c => c.isChange = false) client.id (fun _ => rfl)
          ctx (List.range n) st).passes
        rw [preparation] at prepared
        rw [fetched] at fetching
        exact Passes.trans prepared fetching
  | _ =>
      obtain rfl := prepare_one (fun _ _ _ h => by cases h) preparation
      omega

theorem Ahead.failing {result : Except Raised Unit} {m : Moment T} {raised : Raised}
    (alive : ctx.err w.moment = none) (h : Ahead ctx op s w result m)
    (hfail : result = .error raised) :
    NotContext raised ∧ ∃ st,
      (op.onRemote ctx).outcome (s, w) = (.error (reported ctx op.label op.subject m raised), st) ∧
      Calling (fun c => c.isChange = false) (s, w) st := by
  cases h with
  | prepared => cases hfail
  | @unprepared raised st preparation =>
      cases hfail
      have unchanged := unchanging_prepare ctx op (s, w)
      rw [preparation] at unchanged
      exact ⟨notContext_prepare ctx op preparation, st,
        onRemote_of_work alive (outcome_bind_error preparation), unchanged⟩
  | @page client n st k names st₁ page w₂ preparation more before arrival =>
      -- the stage fails if the page does
      obtain rfl : page = .error raised := by
        cases page with
        | ok value => cases hfail
        | error e =>
            cases hfail
            rfl
      obtain ⟨hwork, unchanged⟩ :=
        work_page (encryption s.options) preparation more before arrival (.inl rfl)
      have arrived : (outward (World.perform (.page client.id k)) :
          RemoteStore.Op T σ _).outcome st₁ = (.error raised, st₁.1, w₂) := by
        rw [outcome_outward, arrival]
      exact ⟨(foreign_perform (.page client.id k) arrived).notContext, _,
        onRemote_of_work alive hwork, unchanged⟩

theorem Ahead.late {result : Except Raised Unit} {m : Moment T} {err : ContextError}
    (alive : ctx.err w.moment = none) (h : Ahead ctx op s w result m) (hok : result = .ok ())
    (sending : ∀ client n st, (op.prepare ctx).outcome (s, w) = (.ok (client, n + 1), st) →
      ctx.err st.2.moment = none) (done : ctx.err m = some err) :
    ∃ st, (op.onRemote ctx).outcome (s, w) = (.error (.plain (.context err)), st) ∧
      Calling (fun c => c.isChange = false) (s, w) st := by
  cases h with
  | prepared preparation =>
      rw [sending _ _ _ preparation] at done
      cases done
  | unprepared => cases hok
  | @page client n st k names st₁ page w₂ preparation more before arrival =>
      obtain ⟨value, rfl⟩ : ∃ value, page = .ok value := by
        cases page with
        | ok value => exact ⟨value, rfl⟩
        | error e => cases hok
      obtain ⟨hwork, unchanged⟩ := work_page (encryption s.options) preparation more before arrival
        (.inr ⟨value, err, rfl, done, rfl⟩)
      exact ⟨_, onRemote_of_work alive hwork, unchanged⟩

/-! ## Punctual operations -/

/-- No request goes out once the context is done. An operation that comes to a request with its
context done ends with the error of the context and leaves the vault as it was. -/
structure Punctual {V : Type} (view : σ → V) (ctx : Context T) (op : Operation) (s : RemoteStore T)
    (w : World T σ) : Prop where
  requests : ∀ calls, ((op.onRemote ctx).outcome (s, w)).2.2.log = w.log ++ calls →
    ∀ e ∈ calls, e.call.isRequest = true → ctx.err e.moment = none
  entry : ∀ err, ctx.err w.moment = some err →
    ((op.onRemote ctx).outcome (s, w)).1 = .error (.plain (.context err)) ∧
      view ((op.onRemote ctx).outcome (s, w)).2.2.outside = view w.outside
  ahead : ctx.err w.moment = none → ∀ result m err, Ahead ctx op s w result m →
    ctx.err m = some err →
    (∃ raised, ((op.onRemote ctx).outcome (s, w)).1 = .error raised ∧
      raised.failure = .context err) ∧
      view ((op.onRemote ctx).outcome (s, w)).2.2.outside = view w.outside

/-- The preparation does not end late with a request to follow, and no stage before a request fails
late, unless with an error of the vendor. -/
structure Timely (ctx : Context T) (op : Operation) (s : RemoteStore T) (w : World T σ) :
    Prop where
  sending : ∀ client n st, (op.prepare ctx).outcome (s, w) = (.ok (client, n + 1), st) →
    ctx.err st.2.moment = none
  failing : ∀ raised m, Ahead ctx op s w (.error raised) m →
    (∀ e, raised.failure = .outside e → e.isVendor = false) → ctx.err m = none

theorem inTime_onRemote (alive : ctx.err w.moment = none)
    (sending : ∀ client n st, (op.prepare ctx).outcome (s, w) = (.ok (client, n + 1), st) →
      ctx.err st.2.moment = none) :
    Logs (InTime ctx) w ((op.onRemote ctx).outcome (s, w)).2.2 := by
  rw [outcome_onRemote_snd alive, work, outcome_bind]
  rcases hprep : (op.prepare ctx).outcome (s, w) with ⟨result, st⟩
  have prepared : Logs (InTime ctx) w st.2 := by
    have passed := (calling_prepare ctx op (s, w)).logs
    rw [hprep] at passed
    refine passed.mono fun e he hrequest => ?_
    rw [he] at hrequest
    cases hrequest
  cases result with
  | error raised => exact prepared
  | ok found =>
      obtain ⟨client, count⟩ := found
      cases count with
      | zero =>
          cases op with
          | list start limit cursor =>
              dsimp only
              rw [request, outcome_bind_pure]
              exact prepared
          | _ =>
              have one := prepare_one (fun _ _ _ h => by cases h) hprep
              omega
      | succ n => exact prepared.trans (inTime_request _ client (n + 1) op st (sending _ _ _ hprep))

theorem Punctual.of_done {V : Type} (view : σ → V) {late : ContextError}
    (done : ctx.err w.moment = some late) : Punctual view ctx op s w := by
  have stopped : (op.onRemote ctx).outcome (s, w) = (.error (.plain (.context late)), s, w) := by
    rw [outcome_onRemote, done]
  constructor
  · intro calls hcalls e he
    rw [stopped] at hcalls
    obtain rfl : calls = [] := by simpa using hcalls
    cases he
  · intro err herr
    obtain rfl : late = err := by simpa [done] using herr
    rw [stopped]
    exact ⟨rfl, rfl⟩
  · intro alive
    rw [done] at alive
    cases alive

/-- A punctual operation is prepared in time: a preparation that ends late lets a request out late,
and a stage that fails late with another error hides the error of the context. -/
theorem Punctual.timely {V : Type} {view : σ → V} (alive : ctx.err w.moment = none)
    (punctual : Punctual view ctx op s w) : Timely ctx op s w := by
  constructor
  · intro client n st hprep
    obtain ⟨e, rest, hlog, hrequest, hmoment⟩ :=
      request_first ctx (encryption s.options) client n op st
    have hwork : ((op.onRemote ctx).outcome (s, w)).2 =
        ((op.request ctx (encryption s.options) client (n + 1)).outcome st).2 := by
      rw [outcome_onRemote_snd alive, work, outcome_bind_ok hprep]
    obtain ⟨calls, hcalls, _⟩ := (calling_prepare ctx op (s, w)).logs
    rw [hprep] at hcalls
    have in_time := punctual.requests (calls ++ e :: rest)
      (by rw [hwork, hlog, hcalls, List.append_assoc]) e (by simp) hrequest
    rw [← hmoment]
    exact in_time
  · intro raised m hahead hvendor
    cases hdone : ctx.err m with
    | none => rfl
    | some err =>
        obtain ⟨not_context, st, hresult, _⟩ := hahead.failing alive rfl
        obtain ⟨⟨found, hfound, hcontext⟩, _⟩ := punctual.ahead alive _ m err hahead hdone
        rw [hresult, reported_of_not_vendor hvendor] at hfound
        obtain rfl : raised = found := by simpa using hfound
        exact absurd hcontext (not_context err)

theorem Timely.stopped {result : Except Raised Unit} {m : Moment T} {err : ContextError}
    (alive : ctx.err w.moment = none) (timely : Timely ctx op s w)
    (hahead : Ahead ctx op s w result m) (done : ctx.err m = some err) :
    ∃ raised st, (op.onRemote ctx).outcome (s, w) = (.error raised, st) ∧
      raised.failure = .context err ∧ Calling (fun c => c.isChange = false) (s, w) st := by
  cases hresult : result with
  | ok u =>
      obtain ⟨st, houtcome, unchanged⟩ := hahead.late alive hresult timely.sending done
      exact ⟨_, st, houtcome, rfl, unchanged⟩
  | error raised =>
      obtain ⟨_, st, houtcome, unchanged⟩ := hahead.failing alive hresult
      refine ⟨_, st, houtcome, ?_, unchanged⟩
      -- an error of the vendor makes room for that of the context, any other one came in time
      by_cases hvendor : ∃ e, raised.failure = .outside e ∧ e.isVendor = true
      · obtain ⟨e, he, hv⟩ := hvendor
        exact reported_late he hv done
      · have alive_here := timely.failing raised m (hresult ▸ hahead) (by
          intro e he
          cases hv : e.isVendor with
          | false => rfl
          | true => exact absurd ⟨e, he, hv⟩ hvendor)
        rw [alive_here] at done
        cases done

/-- An operation is punctual exactly if it is called late, when it stops at once, or prepared in
time. Here no call but a creation and a deletion changes the view of the vault. -/
theorem punctual_iff_timely {V : Type} (view : σ → V)
    (unchanging : ∀ c : Call T, c.isChange = false →
      ∀ o : σ, view (Outside.answer c o).state = view o)
    (ctx : Context T) (op : Operation) (s : RemoteStore T) (w : World T σ) :
    Punctual view ctx op s w ↔ (ctx.err w.moment = none → Timely ctx op s w) := by
  constructor
  · intro punctual alive
    exact punctual.timely alive
  · intro timely
    cases hentry : ctx.err w.moment with
    | some late => exact Punctual.of_done view hentry
    | none =>
        constructor
        · intro calls hcalls
          exact (inTime_onRemote hentry (timely hentry).sending).of_log_eq hcalls
        · intro err herr
          rw [hentry] at herr
          cases herr
        · intro _ result m err hahead hdone
          obtain ⟨raised, st, houtcome, hcontext, unchanged⟩ :=
            (timely hentry).stopped hentry hahead hdone
          rw [houtcome]
          exact ⟨⟨raised, rfl, hcontext⟩, Passes.view unchanging unchanged⟩

/-- A vault with one secret, and credentials due for renewal whose source cancels a context while
it is asked. -/
def renewing : World Rat (Rehearsal Rat) :=
  .starting (60 * Calendar.minute) (.planned ⟨[("k", .binary [0])]⟩ [.ok none]
    [⟨.load, none, some 7, none, none⟩])

/-- Cancelled while credentials are looked for, a deletion still goes out and takes effect. -/
theorem deletion_sent_late :
    ¬ Punctual (fun r : Rehearsal Rat => r.vault) ⟨7, [], none⟩ (.delete "k")
      (.lasting (64 * Calendar.minute)) renewing ∧
    ((((delete "k").onRemote ⟨7, [], none⟩).outcome
      (.lasting (64 * Calendar.minute), renewing)).2.2.outside.vault.find? "k").isNone = true := by
  refine ⟨?_, by decide +kernel⟩
  intro punctual
  have late : (((delete "k").onRemote ⟨7, [], none⟩).outcome
      (.lasting (64 * Calendar.minute), renewing)).2.2.log.any (fun e =>
        e.call.isRequest && (Context.err e.moment ⟨7, [], none⟩).isSome) = true := by
    decide +kernel
  obtain ⟨e, he, hlate⟩ := List.any_eq_true.mp late
  obtain ⟨hrequest, hdone⟩ := Bool.and_eq_true_iff.mp hlate
  rw [punctual.requests _ (List.nil_append _).symm e he hrequest] at hdone
  cases hdone

/-- With credentials that are good for longer nothing is looked for, and the deletion is punctual.
-/
theorem punctual_deletion :
    (∀ c : Call Rat, c.isChange = false →
      ∀ r : Rehearsal Rat, (Outside.answer c r).state.vault = r.vault) ∧
    Punctual (fun r : Rehearsal Rat => r.vault) ⟨7, [], none⟩ (.delete "k")
      (.lasting (66 * Calendar.minute)) renewing := by
  refine ⟨Rehearsal.vault_answer, (punctual_iff_timely (fun r : Rehearsal Rat => r.vault)
    Rehearsal.vault_answer ⟨7, [], none⟩ (.delete "k") (.lasting (66 * Calendar.minute))
    renewing).mpr fun _ => ?_⟩
  have succeeds : (((delete "k").prepare ⟨7, [], none⟩).outcome
      (.lasting (66 * Calendar.minute), renewing)).1.isOk = true := by
    decide +kernel
  constructor
  · intro client n st hprep
    have alive : Context.err (((delete "k").prepare ⟨7, [], none⟩).outcome
        (.lasting (66 * Calendar.minute), renewing)).2.2.moment ⟨7, [], none⟩ = none := by
      decide +kernel
    rw [hprep] at alive
    exact alive
  · intro raised m hahead
    generalize hresult : (Except.error raised : Except Raised Unit) = result at hahead
    cases hahead with
    | prepared => cases hresult
    | unprepared hprep =>
        rw [hprep] at succeeds
        cases succeeds
    | page hprep more =>
        obtain rfl := prepare_one (fun _ _ _ h => by cases h) hprep
        omega

end Operation

end SecretVault
