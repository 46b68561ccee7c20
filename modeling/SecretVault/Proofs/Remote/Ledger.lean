import SecretVault.Proofs.Remote.Run
import SecretVault.Proofs.World.Rehearsing

/-!
The ledger of a store over whole runs in which no refresh fails and clients can be closed. The
clients that were built and not closed are exactly those that the store holds, all of them come from
the session that it holds, and that session was opened with the credentials that it holds.
-/

namespace SecretVault

variable {T σ : Type} [Seconds T] [Outside T σ]

open SecretVault.Action World

def Call.isSession : Call T → Bool
  | .session _ _ _ => true
  | _ => false

namespace RemoteStore

variable {s s' : RemoteStore T} {w w' : World T σ} {calls more : List (Logged T)}

/-! ## Runs without trouble -/

/-- The event looks at the client: it is a look itself, or an operation that does not stop at
once. -/
def LooksAtClient (w : World T σ) : Event T σ → Prop
  | .operate ctx _ => ctx.err w.moment = none
  | .access => True
  | _ => False

/-- Nothing goes wrong with the clients that the store holds: they can be closed, a refresh that is
due succeeds, and so does a closing. -/
structure Untroubled (st : RemoteStore T × World T σ) (event : Event T σ) : Prop where
  closable : ∀ c ∈ st.1.held, c.closable = true
  refresh : LooksAtClient st.2 event → st.1.isStale st.2.wall = .ok true →
    ∃ c after, freshClient.outcome st = (.ok (some c), after)
  closing : event = .close → ∃ after, close.outcome st = (.ok (), after)

/-! ## Where clients come from -/

def OpenedWith (calls : List (Logged T)) (session : Nat) (credentials : Option Credentials) :
    Prop :=
  ∃ e ∈ calls, e.succeeded = true ∧ ∃ region, e.call = .session session region credentials

def BuiltFrom (calls : List (Logged T)) (session id : Nat) : Prop :=
  ∃ e ∈ calls, e.succeeded = true ∧
    ∃ endpoint limits, e.call = .client session id endpoint limits

/-- Every client that the store holds was built from the session that it holds, which was opened
with the credentials that it holds. -/
def Consistent (calls : List (Logged T)) (s : RemoteStore T) : Prop :=
  ∀ c ∈ s.held, ∃ n, s.session = some n ∧ OpenedWith calls n s.credentials ∧ BuiltFrom calls n c.id

omit [Seconds T] in
theorem OpenedWith.append {session : Nat} {credentials : Option Credentials}
    (h : OpenedWith calls session credentials) (more : List (Logged T)) :
    OpenedWith (calls ++ more) session credentials := by
  obtain ⟨e, he, h⟩ := h
  exact ⟨e, List.mem_append_left _ he, h⟩

omit [Seconds T] in
theorem BuiltFrom.append {session id : Nat} (h : BuiltFrom calls session id)
    (more : List (Logged T)) : BuiltFrom (calls ++ more) session id := by
  obtain ⟨e, he, h⟩ := h
  exact ⟨e, List.mem_append_left _ he, h⟩

omit [Seconds T] in
theorem Consistent.append (h : Consistent calls s) (more : List (Logged T)) :
    Consistent (calls ++ more) s := by
  intro c hc
  obtain ⟨n, hsession, opened, built⟩ := h c hc
  exact ⟨n, hsession, opened.append more, built.append more⟩

/-! ## Balanced books -/

/-- The books are sound, nothing but what the store holds is open, and what it holds fits
together. -/
structure Balanced (calls : List (Logged T)) (s : RemoteStore T) (w : World T σ) : Prop where
  sound : Sound calls s w
  complete : Log.Complete calls s.heldIds
  consistent : Consistent calls s

def KeepsBalance (s : RemoteStore T) (w : World T σ) (s' : RemoteStore T) (w' : World T σ) : Prop :=
  ∀ calls, Balanced calls s w → ∃ more, w'.log = w.log ++ more ∧ Balanced (calls ++ more) s' w'

omit [Seconds T] [Outside T σ] in
theorem KeepsBalance.refl (s : RemoteStore T) (w : World T σ) : KeepsBalance s w s w :=
  fun calls balanced => ⟨[], by simp, by simpa using balanced⟩

omit [Seconds T] [Outside T σ] in
theorem KeepsBalance.trans {s'' : RemoteStore T} {w'' : World T σ}
    (first : KeepsBalance s w s' w') (second : KeepsBalance s' w' s'' w'') :
    KeepsBalance s w s'' w'' := by
  intro calls balanced
  obtain ⟨more, hlog, balanced'⟩ := first calls balanced
  obtain ⟨rest, hlog', balanced''⟩ := second _ balanced'
  refine ⟨more ++ rest, by rw [hlog', hlog, List.append_assoc], ?_⟩
  rw [← List.append_assoc]
  exact balanced''

omit [Seconds T] [Outside T σ] in
/-- Sound books stay balanced if the new entries account for the clients that the store gained and
lost, and the store still fits together. -/
theorem KeepsBalance.of_keepsBooks (books : KeepsBooks s w s' w') (hlog : w'.log = w.log ++ more)
    (complete : ∀ calls, Log.Complete calls s.heldIds → Log.Complete (calls ++ more) s'.heldIds)
    (consistent : ∀ calls, Consistent calls s → Consistent (calls ++ more) s') :
    KeepsBalance s w s' w' := by
  intro calls balanced
  obtain ⟨found, hfound, sound⟩ := books calls balanced.sound
  obtain rfl : more = found := List.append_cancel_left (hlog.symm.trans hfound)
  exact ⟨more, hlog, sound, complete calls balanced.complete, consistent calls balanced.consistent⟩

omit [Seconds T] [Outside T σ] in
theorem KeepsBalance.of_same (books : KeepsBooks s w s w') (hlog : w'.log = w.log ++ more)
    (hbuilt : Log.built more = []) : KeepsBalance s w s w' :=
  .of_keepsBooks books hlog (fun _ complete => complete.mono hbuilt)
    fun _ consistent => consistent.append more

/-! ## A refresh that succeeds -/

/-- A refresh that succeeds looks for credentials, opens a session with them, builds a client from
it, and closes the clients that the store held, in this order. -/
structure Refreshed (s : RemoteStore T) (w : World T σ) (c : Client) (s' : RemoteStore T)
    (w' : World T σ) : Prop where
  client_eq : s'.client = some c
  bounded_eq : s'.bounded = []
  log_eq : ∃ search opening building closings n,
    w'.log = w.log ++ (search ++ [opening] ++ [building] ++ closings) ∧
    (∀ e ∈ search, e.call.isSearch = true) ∧
    s'.session = some n ∧
    opening.succeeded = true ∧ opening.call = .session n s.options.region s'.credentials ∧
    building.succeeded = true ∧
    (∃ endpoint limits, building.call = .client n c.id endpoint limits) ∧
    closings.map Logged.closes = s.heldIds.map some

omit [Seconds T] [Outside T σ] in
/-- A client built anew, and the closings of those that it replaces, make up a refresh. -/
theorem Built.refreshed {c : Client} {w₁ : World T σ} {closings : List (Logged T)}
    (h : Built { s with bounded := [] } w c s' w₁) (hlog : w'.log = w₁.log ++ closings)
    (hclosings : closings.map Logged.closes = s.heldIds.map some) :
    Refreshed s w c { s' with client := some c } w' := by
  obtain ⟨search, opening, building, hbuild, hsearch, hopening, hopened, ⟨endpoint, hbuilding⟩,
    hbuilt⟩ := h.log_eq
  have store_eq := h.store_eq
  refine ⟨rfl, ?_, search, opening, building, closings, w₁.sessions, ?_, hsearch, ?_, hopened,
    hopening, hbuilt, ⟨endpoint, _, hbuilding⟩, hclosings⟩
  · rw [store_eq]
    rfl
  · rw [hlog, hbuild]
    simp only [List.append_assoc]
  · rw [store_eq]
    rfl

theorem refreshed_of_due {c? : Option Client} (due : s.isStale w.wall = .ok true)
    (closable : ∀ c ∈ s.held, c.closable = true)
    (h : freshClient.outcome (s, w) = (.ok c?, s', w')) : ∃ c, Refreshed s w c s' w' := by
  cases accessed_freshClient s w h with
  | kept stale =>
      rw [due] at stale
      cases stale
  | @refreshed c s₁ w₁ w₂ _ rebuilt closing =>
      obtain ⟨result, w₃, hclose, closed⟩ := closing_closeAll s.held { s₁ with client := some c } w₁
      rw [closing] at hclose
      cases hclose
      obtain ⟨closings, done, hlog, _, hcalls, hall⟩ := closed.log_eq
      have all_closed : done = s.held := by
        rw [hall rfl]
        exact List.filter_eq_self.mpr closable
      refine ⟨c, rebuilt.built.refreshed hlog ?_⟩
      rw [closes_of_calls hcalls, all_closed]
      rfl

omit [Seconds T] [Outside T σ] in
theorem Refreshed.keepsBalance {c : Client} (books : KeepsBooks s w s' w')
    (h : Refreshed s w c s' w') : KeepsBalance s w s' w' := by
  obtain ⟨search, opening, building, closings, n, hlog, hsearch, hsession, hopened, hopening,
    hbuilt, ⟨endpoint, limits, hbuilding⟩, hclosings⟩ := h.log_eq
  have held_eq : s'.held = [c] := by
    rw [held, h.client_eq, h.bounded_eq]
    rfl
  refine .of_keepsBooks books hlog ?_ ?_
  · -- search and session neither build nor close, so the new client joins the old ones, and then
    -- these are closed in the order in which they were held
    intro calls complete
    have quiet : ∀ e ∈ search ++ [opening], e.Quiet := by
      intro e he
      rcases List.mem_append.mp he with he | he
      · exact Logged.quiet_of_isQuiet (Call.isQuiet_of_isSearch (hsearch e he))
      · obtain rfl := List.mem_singleton.mp he
        exact Logged.quiet_of_isQuiet (by rw [hopening]; rfl)
    have builds : building.builds = some c.id := by
      simp [Logged.builds, hbuilding, hbuilt]
    have after_building := (complete.mono (Log.built_quiet quiet)).build builds
    have after_closing := Log.Complete.closeMany after_building (Log.built_of_map hclosings)
      (Log.closed_of_map hclosings)
    rw [heldIds, held_eq]
    simpa [List.append_assoc] using after_closing
  · intro calls _ d hd
    rw [held_eq] at hd
    obtain rfl := List.mem_singleton.mp hd
    refine ⟨n, hsession, ⟨opening, ?_, hopened, _, hopening⟩,
      ⟨building, ?_, hbuilt, endpoint, limits, hbuilding⟩⟩
    · simp
    · simp

/-! ## Balanced steps -/

theorem keepsBalance_freshClient {result : Except Raised (Option Client)}
    (closable : ∀ c ∈ s.held, c.closable = true)
    (refresh : s.isStale w.wall = .ok true →
      ∃ c after, freshClient.outcome (s, w) = (.ok (some c), after))
    (h : freshClient.outcome (s, w) = (result, s', w')) : KeepsBalance s w s' w' := by
  have books := (accessed_freshClient s w h).keepsBooks
  by_cases due : s.isStale w.wall = .ok true
  · obtain ⟨c, after, hafter⟩ := refresh due
    rw [h] at hafter
    obtain ⟨rfl, rfl⟩ := Prod.mk.inj hafter
    obtain ⟨d, refreshed⟩ := refreshed_of_due due closable h
    exact refreshed.keepsBalance books
  · cases accessed_freshClient s w h with
    | unknown => exact .refl s w
    | kept => exact .refl s w
    | failed stale => exact absurd stale due
    | unclosed stale => exact absurd stale due
    | refreshed stale => exact absurd stale due

theorem keepsBalance_build {session : Nat} {limits : Limits T} {c d : Client}
    (client : s.client = some c) (session_eq : s.session = some session)
    (h : (build session limits).outcome (s, w) = (.ok d, s, w')) :
    KeepsBalance s w { s with bounded := s.bounded ++ [(limits, d)] } w' := by
  have books := keepsBooks_build client h
  obtain ⟨_, hid, endpoint, _, hbuilt, rfl⟩ := build_ok h
  have succeeded :
      (w.entryOf (.client session (w.clients + 1) endpoint limits)).succeeded = true := by
    rw [succeeded_entryOf, hbuilt]
    rfl
  refine .of_keepsBooks books rfl ?_ ?_
  · intro calls complete
    have builds : (w.entryOf (.client session (w.clients + 1) endpoint limits)).builds =
        some d.id := by
      rw [hid]
      simp [Logged.builds, hbuilt, Except.isOk, Except.toBool]
    have joined := complete.build builds
    rw [heldIds_eq] at joined ⊢
    simpa [List.append_assoc] using joined
  · intro calls consistent e he
    have same_held : ({ s with bounded := s.bounded ++ [(limits, d)] } : RemoteStore T).held =
        s.held ++ [d] := by
      simp [held, List.append_assoc]
    rw [same_held] at he
    rcases List.mem_append.mp he with he | he
    · exact (consistent.append _) e he
    · -- the new client comes from the session that the configured one comes from
      obtain rfl := List.mem_singleton.mp he
      obtain ⟨n, hn, opened, _⟩ := consistent c (by simp [held, client])
      refine ⟨n, hn, opened.append _, _, List.mem_append_right _ List.mem_cons_self, succeeded,
        endpoint, limits, ?_⟩
      obtain rfl : session = n := by simpa [session_eq] using hn
      rw [call_entryOf, hid]

theorem keepsBalance_build_error {session : Nat} {limits : Limits T} {raised : Raised}
    (h : (build session limits).outcome (s, w) = (.error raised, s, w')) :
    KeepsBalance s w s w' := by
  have books := keepsBooks_build_error h
  obtain ⟨_, _, _, more, hlog, hmore⟩ := build_error h
  refine .of_same books hlog (Log.built_quiet ?_)
  intro e he
  obtain ⟨hfail, endpoint, hcall⟩ := hmore e he
  exact Logged.quiet_of_failed hcall hfail

theorem Picked.keepsBalance {ctx : Context T} {operation name : String}
    {result : Except Raised Client} (closable : ∀ c ∈ s.held, c.closable = true)
    (refresh : s.isStale w.wall = .ok true →
      ∃ c after, freshClient.outcome (s, w) = (.ok (some c), after))
    (h : Picked ctx operation name s w result s' w') : KeepsBalance s w s' w' := by
  cases h with
  | refused access => exact keepsBalance_freshClient closable refresh access
  | noLimits access => exact keepsBalance_freshClient closable refresh access
  | closed access => exact keepsBalance_freshClient closable refresh access
  | configured access => exact keepsBalance_freshClient closable refresh access
  | cached access => exact keepsBalance_freshClient closable refresh access
  | unbuilt access _ _ _ _ failed =>
      exact (keepsBalance_freshClient closable refresh access).trans
        (keepsBalance_build_error failed)
  | built access _ client session _ build =>
      exact (keepsBalance_freshClient closable refresh access).trans
        (keepsBalance_build client session build)

theorem Operated.keepsBalance {ctx : Context T} {op : Operation}
    (closable : ∀ c ∈ s.held, c.closable = true)
    (refresh : ctx.err w.moment = none → s.isStale w.wall = .ok true →
      ∃ c after, freshClient.outcome (s, w) = (.ok (some c), after))
    (h : Operated ctx op s w s' w') : KeepsBalance s w s' w' := by
  cases h with
  | late => exact .refl s w
  | refused alive picked => exact picked.keepsBalance closable (refresh alive)
  | served alive picked sent =>
      obtain ⟨more, hlog, hmore⟩ := sent.passes.logs
      exact (picked.keepsBalance closable (refresh alive)).trans
        (.of_same (keepsBooks_use picked.mem_held sent) hlog (Log.built_of_user hmore))

theorem keepsBalance_close {after : World T σ} (closable : ∀ c ∈ s.held, c.closable = true)
    (h : close.outcome (s, w) = (.ok (), s', after)) : KeepsBalance s w s' after := by
  have books := keepsBooks_close h
  obtain ⟨found, last, houtcome, hidle, hopen⟩ := closed_close s w
  rw [h] at houtcome
  cases houtcome
  have nothing_held : ∀ calls, Consistent calls s.cleared := fun _ _ hc => nomatch hc
  by_cases hclient : s.client = none
  · -- a store that is closed already makes no call, and nothing was open
    obtain ⟨_, rfl⟩ := hidle hclient
    intro calls balanced
    obtain ⟨more, hlog, sound⟩ := books calls balanced.sound
    obtain rfl : more = [] := by simpa using hlog
    refine ⟨[], hlog, sound, ?_, nothing_held _⟩
    have empty : s.heldIds = [] := by
      rw [heldIds_eq, hclient, balanced.sound.idle hclient]
      rfl
    have complete := balanced.complete
    rw [empty] at complete
    rw [List.append_nil]
    exact complete
  · obtain ⟨_, _, closings, done, hlog, _, hcalls, hall⟩ := hopen hclient
    have all_closed : done = s.held := by
      rw [hall rfl]
      exact List.filter_eq_self.mpr closable
    have hclosings : closings.map Logged.closes = s.heldIds.map some := by
      rw [closes_of_calls hcalls, all_closed]
      rfl
    refine .of_keepsBooks books hlog ?_ fun _ _ => nothing_held _
    intro calls complete
    have no_others : Log.Complete calls (s.heldIds ++ []) := by
      rw [List.append_nil]
      exact complete
    exact no_others.closeMany (Log.built_of_map hclosings) (Log.closed_of_map hclosings)

theorem keepsBalance_after {st : RemoteStore T × World T σ} {event : Event T σ}
    (untroubled : Untroubled st event) :
    KeepsBalance st.1 st.2 (after st event).1 (after st event).2 := by
  obtain ⟨s, w⟩ := st
  obtain ⟨closable, refresh, closing⟩ := untroubled
  cases event with
  | operate ctx op => exact (operated_onRemote ctx op s w).keepsBalance closable refresh
  | look ctx =>
      have sent := sending_status ctx (s, w)
      rcases h : ((status ctx).outcome (s, w)).2 with ⟨s', w'⟩
      rw [h] at sent
      obtain rfl : s' = s := sent.store_eq
      obtain ⟨more, hlog, hmore⟩ := sent.passes.logs
      rw [after, h]
      exact .of_same (keepsBooks_quiet sent) hlog
        (Log.built_quiet fun e he => Logged.quiet_of_isQuiet (hmore e he))
  | access =>
      rcases h : freshClient.outcome (s, w) with ⟨result, s', w'⟩
      rw [after, h]
      exact keepsBalance_freshClient closable (refresh trivial) h
  | close =>
      obtain ⟨⟨s', w'⟩, h⟩ := closing rfl
      rw [after, h]
      exact keepsBalance_close closable h
  | meanwhile moment host outside =>
      intro calls balanced
      obtain ⟨sound, complete, consistent⟩ := balanced
      refine ⟨[], by simp [after], ?_⟩
      rw [List.append_nil]
      exact ⟨⟨sound.books, sound.session_le, sound.idle⟩, complete, consistent⟩

/-! ## Balanced runs -/

theorem Connected.balanced {options : Options T} {resolver : Resolver} {w₀ : World T σ}
    (h : Connected options resolver w₀ s w) :
    ∃ calls, w.log = w₀.log ++ calls ∧ Balanced calls s w := by
  obtain ⟨c, s₁, w₁, built, rfl, probed⟩ := h.built
  have none_yet : Balanced [] (unconnected options resolver) w₀ :=
    ⟨⟨⟨.nil, nofun, List.nodup_nil, nofun⟩, nofun, fun _ => rfl⟩, (fun _ h => nomatch h.1),
      nofun⟩
  have nothing_to_close : Closing (unconnected options resolver).held w₁ (.ok ()) w₁ :=
    ⟨rfl, rfl, [], [], by simp, List.nil_prefix, rfl, fun _ => rfl⟩
  have refreshed : Refreshed (unconnected options resolver) w₀ c { s₁ with client := some c } w₁ :=
    Built.refreshed built (List.append_nil w₁.log).symm rfl
  have first := refreshed.keepsBalance (Built.keepsBooks (s := unconnected options resolver) built
    nothing_to_close)
  obtain ⟨more, hlog, hmore⟩ := probed.passes.logs
  have then_probed := KeepsBalance.of_same (keepsBooks_quiet probed) hlog
    (Log.built_quiet fun e he => Logged.quiet_of_isQuiet (hmore e he))
  obtain ⟨calls, hcalls, balanced⟩ := (first.trans then_probed) [] none_yet
  exact ⟨calls, hcalls, by simpa using balanced⟩

theorem Connected.balanced_run {options : Options T} {resolver : Resolver} {w₀ w₁ : World T σ}
    {s₀ : RemoteStore T} (connected : Connected options resolver w₀ s₀ w₁)
    {st : RemoteStore T × World T σ} (run : Reaches Untroubled (s₀, w₁) st) :
    ∃ calls, st.2.log = w₀.log ++ calls ∧ Balanced calls st.1 st.2 := by
  induction run with
  | start => exact connected.balanced
  | step event _ untroubled ih =>
      obtain ⟨calls, hlog, balanced⟩ := ih
      obtain ⟨more, hmore, balanced'⟩ := keepsBalance_after untroubled calls balanced
      exact ⟨calls ++ more, by rw [hmore, hlog, List.append_assoc], balanced'⟩

/-! ## What one operation logs -/

/-- The store is open, and its credentials have an end that is no more than the margin away. -/
def Due (s : RemoteStore T) (w : World T σ) : Prop :=
  ∃ client credentials last now, s.client = some client ∧ s.credentials = some credentials ∧
    credentials.expiresAt = some last ∧ w.wall = .ok now ∧ last - Credentials.margin ≤ now

/-- Credentials are given up exactly if the clock can be read, the margin does not reach back before
the calendar, and no more than it is left. -/
theorem expired_eq_true_iff (c : Credentials) (clock : Except Fault Instant) :
    c.expired clock = .ok true ↔
      ∃ last now, c.expiresAt = some last ∧ clock = .ok now ∧ Credentials.margin ≤ last ∧
        last - Credentials.margin ≤ now := by
  unfold Credentials.expired
  cases hlast : c.expiresAt with
  | none => simp
  | some last =>
      cases clock with
      | error f => simp [bind, Except.bind]
      | ok now =>
          by_cases early : last < Credentials.margin
          · simp [bind, Except.bind, early, Int.not_le.mpr early]
          · simp [bind, Except.bind, pure, Except.pure, early, Int.not_lt.mp early]

omit [Outside T σ] in
theorem isStale_eq_true_iff : s.isStale w.wall = .ok true ↔ ∃ client credentials,
    s.client = some client ∧ s.credentials = some credentials ∧
      credentials.expired w.wall = .ok true := by
  cases hclient : s.client <;> cases hcredentials : s.credentials <;>
    simp [isStale, hclient, hcredentials]

omit [Outside T σ] in
theorem due_of_isStale (stale : s.isStale w.wall = .ok true) : Due s w := by
  obtain ⟨client, credentials, hclient, hcredentials, expired⟩ := isStale_eq_true_iff.mp stale
  obtain ⟨last, now, hlast, hnow, _, hdue⟩ := (expired_eq_true_iff _ _).mp expired
  exact ⟨client, credentials, last, now, hclient, hcredentials, hlast, hnow, hdue⟩

omit [Outside T σ] in
/-- A store gives up its client exactly when its credentials are due, if their end is not so early
that the margin reaches back before the calendar. -/
theorem isStale_iff_due
    (late_enough : ∀ credentials last, s.credentials = some credentials →
      credentials.expiresAt = some last → Credentials.margin ≤ last) :
    s.isStale w.wall = .ok true ↔ Due s w := by
  refine ⟨due_of_isStale, ?_⟩
  rintro ⟨client, credentials, last, now, hclient, hcredentials, hlast, hnow, hdue⟩
  refine isStale_eq_true_iff.mpr ⟨client, credentials, hclient, hcredentials,
    (expired_eq_true_iff _ _).mpr ?_⟩
  exact ⟨last, now, hlast, hnow, late_enough credentials last hcredentials hlast, hdue⟩

/-- The entries of an operation: they open a session once if it refreshes and never if it does not,
and a refresh closes the clients that the store held before and nothing else is closed. -/
structure RefreshLog (refreshes : Prop) (s : RemoteStore T) (calls : List (Logged T)) : Prop where
  at_most_once : (calls.filter (·.call.isSession)).length ≤ 1
  opens_iff : (∃ e ∈ calls, e.call.isSession = true) ↔ refreshes
  closes : refreshes → Log.closed calls = s.heldIds
  closes_none : ¬ refreshes → Log.closed calls = []

def Plain (e : Logged T) : Prop :=
  e.call.isSession = false ∧ e.closes = none

omit [Seconds T] in
theorem RefreshLog.append {refreshes : Prop} (h : RefreshLog refreshes s calls)
    (plain : ∀ e ∈ more, Plain e) : RefreshLog refreshes s (calls ++ more) := by
  have no_session : more.filter (·.call.isSession) = [] :=
    List.filter_eq_nil_iff.mpr fun e he => by simp [(plain e he).1]
  have no_closing : Log.closed more = [] :=
    List.filterMap_eq_nil_iff.mpr fun e he => (plain e he).2
  refine ⟨?_, ?_, ?_, ?_⟩
  · rw [List.filter_append, no_session, List.append_nil]
    exact h.at_most_once
  · rw [← h.opens_iff]
    constructor
    · rintro ⟨e, he, hsession⟩
      rcases List.mem_append.mp he with he | he
      · exact ⟨e, he, hsession⟩
      · rw [(plain e he).1] at hsession
        cases hsession
    · rintro ⟨e, he, hsession⟩
      exact ⟨e, List.mem_append_left _ he, hsession⟩
  · rw [Log.closed_append, no_closing, List.append_nil]
    exact h.closes
  · rw [Log.closed_append, no_closing, List.append_nil]
    exact h.closes_none

omit [Seconds T] in
theorem RefreshLog.nil {refreshes : Prop} (h : ¬ refreshes) : RefreshLog refreshes s [] :=
  ⟨Nat.zero_le _, by simpa using h, fun hr => absurd hr h, fun _ => rfl⟩

omit [Seconds T] in
theorem plain_of_isSearch {e : Logged T} (h : e.call.isSearch = true) : Plain e := by
  obtain ⟨c, m, b⟩ := e
  cases c <;> first | exact ⟨rfl, rfl⟩ | cases h

omit [Seconds T] in
theorem plain_of_user {e : Logged T} {id : Nat} (h : e.call.user = some id) : Plain e := by
  obtain ⟨c, m, b⟩ := e
  cases c <;> first | exact ⟨rfl, rfl⟩ | cases h

omit [Seconds T] in
theorem not_isSession_of_closes {e : Logged T} {id : Nat} (h : e.closes = some id) :
    e.call.isSession = false := by
  obtain ⟨c, m, b⟩ := e
  cases c <;> first | rfl | cases h

omit [Seconds T] [Outside T σ] in
theorem Refreshed.refreshLog {c : Client} {refreshes : Prop} (h : Refreshed s w c s' w')
    (hlog : w'.log = w.log ++ calls) (yes : refreshes) : RefreshLog refreshes s calls := by
  obtain ⟨search, opening, building, closings, n, hall, hsearch, _, _, hopening, _,
    ⟨endpoint, limits, hbuilding⟩, hclosings⟩ := h.log_eq
  obtain rfl : calls = search ++ [opening] ++ [building] ++ closings :=
    List.append_cancel_left (hlog.symm.trans hall)
  have opens : opening.call.isSession = true := by
    rw [hopening]
    rfl
  have building_opens : building.call.isSession = false := by
    rw [hbuilding]
    rfl
  have search_none : search.filter (·.call.isSession) = [] :=
    List.filter_eq_nil_iff.mpr fun e he => by simp [(plain_of_isSearch (hsearch e he)).1]
  have closings_none : closings.filter (·.call.isSession) = [] := by
    refine List.filter_eq_nil_iff.mpr fun e he => ?_
    obtain ⟨id, _, hid⟩ := List.mem_map.mp (hclosings ▸ List.mem_map_of_mem he)
    simp [not_isSession_of_closes hid.symm]
  have one_session : (search ++ [opening] ++ [building] ++ closings).filter (·.call.isSession) =
      [opening] := by
    simp [search_none, closings_none, opens, building_opens]
  have closed_eq : Log.closed (search ++ [opening] ++ [building] ++ closings) = s.heldIds := by
    have search_closes : Log.closed search = [] :=
      List.filterMap_eq_nil_iff.mpr fun e he => (plain_of_isSearch (hsearch e he)).2
    have opening_closes : opening.closes = none := by
      rw [Logged.closes, hopening]
      rfl
    have building_closes : building.closes = none := by
      rw [Logged.closes, hbuilding]
      rfl
    rw [Log.closed_append, Log.closed_snoc_none building_closes,
      Log.closed_snoc_none opening_closes, search_closes, Log.closed_of_map hclosings,
      List.nil_append]
  refine ⟨?_, ⟨fun _ => yes, fun _ => ⟨opening, by simp, opens⟩⟩, fun _ => closed_eq,
    fun no => absurd yes no⟩
  rw [one_session]
  exact Nat.le_refl _

omit [Seconds T] [Outside T σ] in
theorem Refreshed.no_user {c : Client} (h : Refreshed s w c s' w')
    (hlog : w'.log = w.log ++ calls) : ∀ e ∈ calls, e.call.user = none := by
  obtain ⟨search, opening, building, closings, n, hall, hsearch, _, _, hopening, _,
    ⟨endpoint, limits, hbuilding⟩, hclosings⟩ := h.log_eq
  obtain rfl : calls = search ++ [opening] ++ [building] ++ closings :=
    List.append_cancel_left (hlog.symm.trans hall)
  intro e he
  simp only [List.append_assoc, List.mem_append, List.mem_singleton] at he
  rcases he with he | rfl | rfl | he
  · exact (Logged.quiet_of_isQuiet (Call.isQuiet_of_isSearch (hsearch e he))).user_eq
  · rw [hopening]
    rfl
  · rw [hbuilding]
    rfl
  · obtain ⟨id, _, hid⟩ := List.mem_map.mp (hclosings ▸ List.mem_map_of_mem he)
    exact (Logged.not_user_of_closes hid.symm).2

theorem refreshLog_freshClient {result : Except Raised (Option Client)}
    (closable : ∀ c ∈ s.held, c.closable = true)
    (refresh : s.isStale w.wall = .ok true →
      ∃ c after, freshClient.outcome (s, w) = (.ok (some c), after))
    (h : freshClient.outcome (s, w) = (result, s', w')) :
    ∃ calls, w'.log = w.log ++ calls ∧ RefreshLog (s.isStale w.wall = .ok true) s calls ∧
      ∀ e ∈ calls, e.call.user = none := by
  by_cases stale : s.isStale w.wall = .ok true
  · obtain ⟨c, after, hafter⟩ := refresh stale
    rw [h] at hafter
    obtain ⟨rfl, rfl⟩ := Prod.mk.inj hafter
    obtain ⟨d, refreshed⟩ := refreshed_of_due stale closable h
    obtain ⟨calls, hlog, _⟩ := (kept_freshClient (s, w)).passes.logs
    rw [h] at hlog
    exact ⟨calls, hlog, refreshed.refreshLog hlog stale, refreshed.no_user hlog⟩
  · have nothing : ∃ calls, w.log = w.log ++ calls ∧
        RefreshLog (s.isStale w.wall = .ok true) s calls ∧ ∀ e ∈ calls, e.call.user = none :=
      ⟨[], by simp, .nil stale, nofun⟩
    cases accessed_freshClient s w h with
    | unknown => exact nothing
    | kept => exact nothing
    | failed due => exact absurd due stale
    | unclosed due => exact absurd due stale
    | refreshed due => exact absurd due stale

theorem Picked.refreshLog {ctx : Context T} {operation name : String}
    {result : Except Raised Client} (closable : ∀ c ∈ s.held, c.closable = true)
    (refresh : s.isStale w.wall = .ok true →
      ∃ c after, freshClient.outcome (s, w) = (.ok (some c), after))
    (h : Picked ctx operation name s w result s' w') :
    ∃ calls, w'.log = w.log ++ calls ∧ RefreshLog (s.isStale w.wall = .ok true) s calls ∧
      ∀ e ∈ calls, e.call.user = none := by
  -- at most one tighter client is built after the look at the client
  have extend {fresh : Except Raised (Option Client)} {s₁ : RemoteStore T} {w₁ w₂ : World T σ}
      (access : freshClient.outcome (s, w) = (fresh, s₁, w₁))
      (building : Logs (fun e => Plain e ∧ e.call.user = none) w₁ w₂) :
      ∃ calls, w₂.log = w.log ++ calls ∧ RefreshLog (s.isStale w.wall = .ok true) s calls ∧
        ∀ e ∈ calls, e.call.user = none := by
    obtain ⟨calls, hlog, refreshing, unused⟩ := refreshLog_freshClient closable refresh access
    obtain ⟨more, hmore, plain⟩ := building
    refine ⟨calls ++ more, by rw [hmore, hlog, List.append_assoc],
      refreshing.append fun e he => (plain e he).1, ?_⟩
    intro e he
    rcases List.mem_append.mp he with he | he
    · exact unused e he
    · exact (plain e he).2
  have plain_client {e : Logged T} {session id : Nat} {endpoint : Option Value} {limits : Limits T}
      (he : e.call = .client session id endpoint limits) : Plain e ∧ e.call.user = none := by
    rw [Plain, Logged.closes, he]
    exact ⟨⟨rfl, rfl⟩, rfl⟩
  cases h with
  | refused access => exact extend access (.refl _)
  | noLimits access => exact extend access (.refl _)
  | closed access => exact extend access (.refl _)
  | configured access => exact extend access (.refl _)
  | cached access => exact extend access (.refl _)
  | unbuilt access _ _ _ _ failed =>
      obtain ⟨_, _, _, failing⟩ := build_error failed
      refine extend access (failing.mono ?_)
      rintro e ⟨_, endpoint, hcall⟩
      exact plain_client hcall
  | built access _ _ _ _ build =>
      obtain ⟨_, _, endpoint, _, _, rfl⟩ := build_ok build
      exact extend access (.afterCall _ (plain_client rfl))

/-- What the entries of an operation say of it: it refreshes at most once and exactly if it does not
stop at once and the client is to be given up, and all that it sends goes to a client that the store
holds. -/
theorem Operated.refreshLog {ctx : Context T} {op : Operation}
    (closable : ∀ c ∈ s.held, c.closable = true)
    (refresh : ctx.err w.moment = none → s.isStale w.wall = .ok true →
      ∃ c after, freshClient.outcome (s, w) = (.ok (some c), after))
    (h : Operated ctx op s w s' w') :
    ∃ calls, w'.log = w.log ++ calls ∧
      RefreshLog (ctx.err w.moment = none ∧ s.isStale w.wall = .ok true) s calls ∧
      ∀ e ∈ calls, ∀ id, e.call.user = some id → id ∈ s'.heldIds := by
  have with_alive {calls : List (Logged T)} (alive : ctx.err w.moment = none)
      (refreshing : RefreshLog (s.isStale w.wall = .ok true) s calls) :
      RefreshLog (ctx.err w.moment = none ∧ s.isStale w.wall = .ok true) s calls := by
    rwa [show (ctx.err w.moment = none ∧ s.isStale w.wall = .ok true) =
      (s.isStale w.wall = .ok true) from by simp [alive]]
  cases h with
  | late late => exact ⟨[], by simp, .nil (by simp [late]), nofun⟩
  | refused alive picked =>
      obtain ⟨calls, hlog, refreshing, unused⟩ := picked.refreshLog closable (refresh alive)
      refine ⟨calls, hlog, with_alive alive refreshing, ?_⟩
      intro e he id hid
      rw [unused e he] at hid
      cases hid
  | @served c s₁ w₁ w₂ alive picked sent =>
      obtain ⟨calls, hlog, refreshing, unused⟩ := picked.refreshLog closable (refresh alive)
      obtain ⟨more, hmore, uses⟩ := sent.passes.logs
      refine ⟨calls ++ more, by rw [hmore, hlog, List.append_assoc],
        with_alive alive (refreshing.append fun e he => plain_of_user (uses e he)), ?_⟩
      intro e he id hid
      rcases List.mem_append.mp he with he | he
      · rw [unused e he] at hid
        cases hid
      · obtain rfl : c.id = id := by simpa [uses e he] using hid
        exact List.mem_map_of_mem picked.mem_held

/-! ## The ledger -/

/-- The clients that were built and not closed are exactly those that the store holds. None is built
or closed twice, all that the store holds fits together, and whatever was sent went to a client that
had been built and not been closed. -/
structure Ledger (calls : List (Logged T)) (s : RemoteStore T) : Prop where
  open_iff : ∀ id, Log.IsOpen calls id ↔ id ∈ s.heldIds
  held_nodup : s.heldIds.Nodup
  built_nodup : (Log.built calls).Nodup
  closed_nodup : (Log.closed calls).Nodup
  consistent : Consistent calls s
  used_open : ∀ before e rest id, calls = before ++ e :: rest → e.call.user = some id →
    Log.IsOpen before id

omit [Seconds T] [Outside T σ] in
theorem Balanced.ledger (h : Balanced calls s w) : Ledger calls s where
  open_iff id := ⟨h.complete id, h.sound.books.owned_open id⟩
  held_nodup := h.sound.books.owned_nodup
  built_nodup := h.sound.books.proper.built_nodup
  closed_nodup := h.sound.books.proper.closed_nodup
  consistent := h.consistent
  used_open before e rest id hcalls huser := by
    have proper := h.sound.books.proper
    rw [hcalls] at proper
    exact proper.open_of_user huser

/-- In every run without trouble of a store that was connected, the ledger is right in each state
that is reached. From there an operation refreshes at most once, and exactly if its context is not
done when it begins and the credentials are due; the refresh closes the clients that the store held
and nothing else does; and all that the operation sends goes to a client that the store holds then.
-/
theorem ledger_of_run {ctx : Context T} {options : Options T} {resolver : Resolver}
    {w₀ w₁ : World T σ} {s₀ : RemoteStore T}
    (connected : (connect ctx options resolver).outcome w₀ = (.ok s₀, w₁))
    (run : Reaches Untroubled (s₀, w₁) (s, w)) :
    ∃ calls, w.log = w₀.log ++ calls ∧ Ledger calls s ∧
      ∀ (ctx : Context T) (op : Operation), Untroubled (s, w) (.operate ctx op) →
        (∀ credentials last, s.credentials = some credentials →
          credentials.expiresAt = some last → Credentials.margin ≤ last) →
        ∃ more, ((op.onRemote ctx).outcome (s, w)).2.2.log = w.log ++ more ∧
          RefreshLog (ctx.err w.moment = none ∧ Due s w) s more ∧
          ∀ e ∈ more, ∀ id, e.call.user = some id →
            id ∈ ((op.onRemote ctx).outcome (s, w)).2.1.heldIds := by
  obtain ⟨calls, hlog, balanced⟩ := (connected_connect connected).balanced_run run
  refine ⟨calls, hlog, balanced.ledger, ?_⟩
  intro ctx op untroubled late_enough
  rw [← isStale_iff_due late_enough]
  exact (operated_onRemote ctx op s w).refreshLog untroubled.closable untroubled.refresh

def anHour : Event Rat (Rehearsal Rat) :=
  .meanwhile ⟨3600, [5]⟩ .empty (.planned .empty [.ok (some (.lasting (120 * Calendar.minute)))] [])

/-- A store connected in the first hour that has read once within ten seconds. -/
def usedStore : RemoteStore Rat × World Rat (Rehearsal Rat) :=
  after (opened ⟨0, [], none⟩ (.ofRegion "us-east-1") .foreign .firstHour)
    (.operate ⟨1, [], some 10⟩ (.read "k"))

theorem usedStore_reached :
    Reaches Untroubled (opened ⟨0, [], none⟩ (.ofRegion "us-east-1") .foreign .firstHour)
      usedStore := by
  refine .step (.operate ⟨1, [], some 10⟩ (.read "k")) .start ⟨by decide +kernel, ?_, nofun⟩
  intro _ stale
  have fresh : ((opened ⟨0, [], none⟩ (.ofRegion "us-east-1") .foreign .firstHour).1.isStale
      (opened ⟨0, [], none⟩ (.ofRegion "us-east-1") .foreign World.firstHour).2.wall).toOption =
        some false := by
    decide +kernel
  rw [stale] at fresh
  cases fresh

/-- A context that is done when the operation begins keeps credentials that are due from being
looked for. -/
theorem late_operation_without_refresh :
    ∃ s₀ w₁ s w,
      (connect ⟨0, [], none⟩ (.ofRegion "us-east-1") .foreign).outcome World.firstHour =
        (.ok s₀, w₁) ∧
      Reaches Untroubled (s₀, w₁) (s, w) ∧
      Untroubled (s, w) (.operate ⟨5, [], none⟩ (.read "k")) ∧ Due s w ∧
      (((Operation.read "k").onRemote ⟨5, [], none⟩).outcome (s, w)).2.2.log = w.log := by
  have done : Context.err (after usedStore anHour).2.moment ⟨5, [], none⟩ = some .canceled := by
    decide +kernel
  refine ⟨_, _, (after usedStore anHour).1, (after usedStore anHour).2,
    connect_opened (by decide +kernel), ?_, ⟨by decide +kernel, ?_, nofun⟩, ?_, ?_⟩
  · exact usedStore_reached.step anHour ⟨by decide +kernel, nofun, nofun⟩
  · intro alive
    rw [LooksAtClient, done] at alive
    cases alive
  · exact due_of_isStale (ok_of_toOption (by decide +kernel))
  · rw [Operation.outcome_onRemote, done]

/-- The ledger after an hour, and of the reading that refreshes then. -/
theorem ledger_after_anHour :
    ∃ calls, (after usedStore anHour).2.log = World.firstHour.log ++ calls ∧
      Ledger calls (after usedStore anHour).1 ∧
      ∃ more, (((Operation.read "k").onRemote ⟨1, [], none⟩).outcome
          (after usedStore anHour)).2.2.log = (after usedStore anHour).2.log ++ more ∧
        Log.closed more = [1, 2] := by
  have connected : (connect ⟨0, [], none⟩ (.ofRegion "us-east-1") .foreign).outcome
      World.firstHour = (.ok _, _) :=
    connect_opened (by decide +kernel)
  have run := usedStore_reached.step anHour ⟨by decide +kernel, nofun, nofun⟩
  have stale : (after usedStore anHour).1.isStale (after usedStore anHour).2.wall = .ok true :=
    ok_of_toOption (by decide +kernel)
  have alive : Context.err (after usedStore anHour).2.moment ⟨1, [], none⟩ = none := by
    decide +kernel
  have refresh : ∃ c st, freshClient.outcome (after usedStore anHour) = (.ok (some c), st) := by
    have succeeds : ((freshClient.outcome (after usedStore anHour)).1.toOption.bind fun c => c) =
        some ⟨3, true⟩ := by
      decide +kernel
    rcases hfresh : freshClient.outcome (after usedStore anHour) with ⟨result, st⟩
    rw [hfresh] at succeeds
    obtain ⟨c?, hresult, rfl⟩ := Option.bind_eq_some_iff.mp succeeds
    obtain rfl : result = _ := ok_of_toOption hresult
    exact ⟨_, st, rfl⟩
  have enough : ((after usedStore anHour).1.credentials.bind (·.expiresAt)) =
      some (120 * Calendar.minute) := by
    decide +kernel
  obtain ⟨calls, hlog, ledger, serves⟩ :=
    ledger_of_run (s := (after usedStore anHour).1) (w := (after usedStore anHour).2) connected run
  obtain ⟨more, hmore, refreshing, _⟩ := serves ⟨1, [], none⟩ (.read "k")
    ⟨by decide +kernel, fun _ _ => refresh, nofun⟩ (by
      intro credentials last hcredentials hlast
      rw [hcredentials] at enough
      obtain rfl : last = 120 * Calendar.minute := by simpa [hlast] using enough
      decide)
  refine ⟨calls, hlog, ledger, more, hmore, ?_⟩
  rw [refreshing.closes ⟨alive, due_of_isStale stale⟩]
  decide +kernel

end RemoteStore

end SecretVault
