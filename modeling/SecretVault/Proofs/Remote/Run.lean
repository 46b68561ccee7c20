import SecretVault.Proofs.Remote.Request
import SecretVault.Proofs.World.Books

/-!
Runs of a store in the vault. After it is connected, operations, looks at its client and at its
state, and closings come in any order, and between them anything may happen outside. In every run
the books are sound: what the store holds is open, nothing is closed twice, and nothing goes to a
closed client.
-/

namespace SecretVault

variable {T σ : Type} [Seconds T] [Outside T σ]

open SecretVault.Action World

/-! ## Events -/

/-- What may happen once a store is connected. Meanwhile the clock goes on, contexts are cancelled
and the host and the outside change. -/
inductive Event (T σ : Type) where
  | operate (ctx : Context T) (op : Operation)
  | look (ctx : Context T)
  | access
  | close
  | meanwhile (moment : Moment T) (host : Host) (outside : σ)

namespace RemoteStore

def after (st : RemoteStore T × World T σ) : Event T σ → RemoteStore T × World T σ
  | .operate ctx op => ((op.onRemote ctx).outcome st).2
  | .look ctx => ((status ctx).outcome st).2
  | .access => (freshClient.outcome st).2
  | .close => (close.outcome st).2
  | .meanwhile moment host outside =>
    (st.1, { st.2 with moment := moment, host := host, outside := outside })

/-- What a run leads to, if each of its events is allowed where it happens. -/
inductive Reaches (allowed : RemoteStore T × World T σ → Event T σ → Prop)
    (start : RemoteStore T × World T σ) : RemoteStore T × World T σ → Prop where
  | start : Reaches allowed start start
  | step {st} (event : Event T σ) (before : Reaches allowed start st) (may : allowed st event) :
      Reaches allowed start (after st event)

theorem Reaches.foldl {start st : RemoteStore T × World T σ}
    (run : Reaches (fun _ _ => True) start st) (events : List (Event T σ)) :
    Reaches (fun _ _ => True) start (events.foldl after st) := by
  induction events generalizing st with
  | nil => exact run
  | cons event events ih => exact ih (run.step event trivial)

/-! ## What a client built anew leaves -/

theorem searched_of_resolve (resolver : Resolver) {w w₁ : World T σ}
    {found : Except Raised (Option Credentials)}
    (h : (resolve resolver).outcome w = (found, w₁)) : Source.Searched w w₁ := by
  cases resolver with
  | unusable =>
      cases h
      exact Source.searched_lasting.refl w
  | chain sources =>
      have searched := Source.searched_resolve sources w
      rw [show (Source.resolve sources).outcome w = (found, w₁) from h] at searched
      exact searched

structure Unbuilt (s : RemoteStore T) (w : World T σ) (s' : RemoteStore T) (w' : World T σ) :
    Prop where
  client_eq : s'.client = s.client
  bounded_eq : s'.bounded = s.bounded
  clients_eq : w'.clients = w.clients
  sessions_le : w.sessions ≤ w'.sessions
  session : s'.session = s.session ∨ s'.session = some w'.sessions
  quiet : Logs Logged.Quiet w w'

theorem Rebuilt.unbuilt {s s' : RemoteStore T} {w w' : World T σ} {raised : Raised}
    (h : Rebuilt s w (.error raised) s' w') : Unbuilt s w s' w' := by
  have quiet_search {found} {w₁ : World T σ}
      (search : (resolve s.resolver).outcome w = (found, w₁)) :
      Logs Logged.Quiet w w₁ :=
    (searched_of_resolve _ search).passes.logs.mono fun e he =>
      Logged.quiet_of_isQuiet (Call.isQuiet_of_isSearch he)
  cases h with
  | noResolver => exact ⟨rfl, rfl, rfl, Nat.le_refl _, .inl rfl, .refl w⟩
  | @noSession found w₁ e search refused =>
      have searched := searched_of_resolve _ search
      exact ⟨rfl, rfl, searched.clients_eq, Nat.le_of_eq searched.sessions_eq.symm, .inl rfl,
        (quiet_search search).trans (.afterCall _ (Logged.quiet_of_isQuiet rfl))⟩
  | @noClient found w₁ raised w₂ search opened failed =>
      have searched := searched_of_resolve _ search
      obtain ⟨_, hsessions, hclients, failing⟩ := build_error failed
      refine ⟨rfl, rfl, hclients.trans searched.clients_eq, ?_, .inr ?_, ?_⟩
      · rw [hsessions]
        exact Nat.le_succ_of_le (Nat.le_of_eq searched.sessions_eq.symm)
      · rw [hsessions]
        rfl
      · have opening : Logs Logged.Quiet w₁ (withSession w₁ s.options.region found) :=
          .afterCall _ (Logged.quiet_of_isQuiet rfl)
        refine ((quiet_search search).trans opening).trans (failing.mono ?_)
        rintro e ⟨hfail, endpoint, hcall⟩
        exact Logged.quiet_of_failed hcall hfail

/-- A rebuilding that succeeds has looked for credentials, opened a session with them and built the
client from it. -/
structure Built (s : RemoteStore T) (w : World T σ) (c : Client) (s' : RemoteStore T)
    (w' : World T σ) : Prop where
  usable : s.resolver ≠ .unusable
  store_eq : s' = s.renewed s'.credentials w'.sessions
  sessions_eq : w'.sessions = w.sessions + 1
  id_eq : c.id = w.clients + 1
  clients_eq : w'.clients = w.clients + 1
  log_eq : ∃ search opening building,
    w'.log = w.log ++ (search ++ [opening]) ++ [building] ∧
    (∀ e ∈ search, e.call.isSearch = true) ∧
    opening.call = .session w'.sessions s.options.region s'.credentials ∧
    opening.succeeded = true ∧
    (∃ endpoint, building.call = .client w'.sessions c.id endpoint s.options.limits) ∧
    building.succeeded = true

theorem Rebuilt.built {s s' : RemoteStore T} {w w' : World T σ} {c : Client}
    (h : Rebuilt s w (.ok c) s' w') : Built s w c s' w' := by
  cases h with
  | @client found w₁ c w₂ search opened built =>
      have searched := searched_of_resolve _ search
      obtain ⟨calls, hlog, hcalls⟩ := searched.passes.logs
      obtain ⟨_, hid, endpoint, _, hbuilt, rfl⟩ := build_ok built
      have usable : s.resolver ≠ .unusable := by
        intro unusable
        rw [unusable] at search
        cases search
      refine ⟨usable, rfl, congrArg (· + 1) searched.sessions_eq, ?_,
        congrArg (· + 1) searched.clients_eq, calls,
        w₁.entryOf (.session (w₁.sessions + 1) s.options.region found),
        (withSession w₁ s.options.region found).entryOf
          (.client (w₁.sessions + 1) (w₁.clients + 1) endpoint s.options.limits),
        ?_, hcalls, rfl, ?_, ⟨endpoint, ?_⟩, ?_⟩
      · rw [hid]
        exact congrArg (· + 1) searched.clients_eq
      · simp [withSession, hlog]
      · rw [succeeded_entryOf, opened]
        rfl
      · rw [hid]
        rfl
      · rw [succeeded_entryOf]
        exact congrArg Except.isOk hbuilt

/-! ## Sound books -/

def heldIds (s : RemoteStore T) : List Nat :=
  s.held.map (·.id)

/-- The books on the clients that the store holds are in order, and the current session has been
numbered. A store without a client holds none at all. -/
structure Sound (calls : List (Logged T)) (s : RemoteStore T) (w : World T σ) : Prop where
  books : Log.Books calls s.heldIds w.clients
  session_le : ∀ n, s.session = some n → n ≤ w.sessions
  idle : s.client = none → s.bounded = []

def KeepsBooks (s : RemoteStore T) (w : World T σ) (s' : RemoteStore T) (w' : World T σ) : Prop :=
  ∀ calls, Sound calls s w → ∃ more, w'.log = w.log ++ more ∧ Sound (calls ++ more) s' w'

variable {s s' : RemoteStore T} {w w' : World T σ}

omit [Seconds T] [Outside T σ] in
theorem KeepsBooks.trans {s'' : RemoteStore T} {w'' : World T σ} (first : KeepsBooks s w s' w')
    (second : KeepsBooks s' w' s'' w'') : KeepsBooks s w s'' w'' := by
  intro calls sound
  obtain ⟨more, hlog, sound'⟩ := first calls sound
  obtain ⟨rest, hlog', sound''⟩ := second _ sound'
  refine ⟨more ++ rest, by rw [hlog', hlog, List.append_assoc], ?_⟩
  rw [← List.append_assoc]
  exact sound''

omit [Seconds T] [Outside T σ] in
theorem KeepsBooks.refl (s : RemoteStore T) (w : World T σ) : KeepsBooks s w s w :=
  fun calls sound => ⟨[], by simp, by simpa using sound⟩

omit [Seconds T] [Outside T σ] in
theorem heldIds_eq (s : RemoteStore T) :
    s.heldIds = s.client.toList.map (·.id) ++ s.bounded.map (·.2.id) := by
  simp [heldIds, held]

omit [Seconds T] [Outside T σ] in
theorem Unbuilt.keepsBooks (h : Unbuilt { s with bounded := [] } w s' w') :
    KeepsBooks s w s' w' := by
  intro calls sound
  obtain ⟨more, hlog, quiet⟩ := h.quiet
  refine ⟨more, hlog, ?_, ?_, fun _ => h.bounded_eq⟩
  · rw [h.clients_eq]
    refine (sound.books.quiet quiet).sublist ?_
    rw [heldIds_eq, heldIds_eq, h.client_eq, h.bounded_eq]
    simp
  · intro n hn
    rcases h.session with hs | hs
    · exact Nat.le_trans (sound.session_le n (hs ▸ hn)) h.sessions_le
    · obtain rfl : w'.sessions = n := by simpa [hs] using hn
      exact Nat.le_refl _

omit [Seconds T] [Outside T σ] in
theorem Built.entries {c : Client} (h : Built s w c s' w') :
    ∃ quiet building, w'.log = w.log ++ quiet ++ [building] ∧ (∀ e ∈ quiet, e.Quiet) ∧
      building.builds = some (w.clients + 1) := by
  obtain ⟨search, opening, building, hlog, hsearch, hopening, _, ⟨endpoint, hbuilding⟩, hok⟩ :=
    h.log_eq
  refine ⟨search ++ [opening], building, hlog, ?_, ?_⟩
  · intro e he
    rcases List.mem_append.mp he with he | he
    · exact Logged.quiet_of_isQuiet (Call.isQuiet_of_isSearch (hsearch e he))
    · obtain rfl := List.mem_singleton.mp he
      exact Logged.quiet_of_isQuiet (by rw [hopening]; rfl)
  · simp [Logged.builds, hbuilding, hok, h.id_eq]

omit [Seconds T] in
theorem closes_of_calls {closings : List (Logged T)} {done : List Client}
    (h : closings.map (·.call) = done.map fun c => .close c.id) :
    closings.map Logged.closes = (done.map (·.id)).map some := by
  calc closings.map Logged.closes = (closings.map (·.call)).map Call.closing := by
        rw [List.map_map]
        rfl
    _ = (done.map fun c => Call.close c.id).map Call.closing := by rw [h]
    _ = (done.map (·.id)).map some := by
        rw [List.map_map, List.map_map]
        rfl

omit [Seconds T] [Outside T σ] in
/-- A client built anew takes the place of those that are then closed, also if closing them fails on
the way. -/
theorem Built.keepsBooks {c : Client} {w₁ : World T σ} {result : Except Raised Unit}
    (h : Built { s with bounded := [] } w c s' w₁) (closing : Closing s.held w₁ result w') :
    KeepsBooks s w { s' with client := some c } w' := by
  intro calls sound
  obtain ⟨quiet, building, hlog, hquiet, hbuilding⟩ := h.entries
  obtain ⟨closings, done, hclosings, initial, hcalls, _⟩ := closing.log_eq
  have hstore := h.store_eq
  have books := ((sound.books.quiet hquiet).build hbuilding)
  have closed_done := closes_of_calls hcalls
  have only_done : (done.map (·.id) ++ [w.clients + 1]).Sublist (s.heldIds ++ [w.clients + 1]) := by
    refine List.Sublist.append ?_ (List.Sublist.refl _)
    exact (initial.sublist.trans List.filter_sublist).map _
  refine ⟨quiet ++ [building] ++ closings, ?_, ⟨?_, ?_, nofun⟩⟩
  · rw [hclosings, hlog]
    simp only [List.append_assoc]
  · have final := (books.sublist only_done).closeMany closed_done
    rw [heldIds_eq, closing.clients_eq, h.clients_eq, hstore]
    simpa [renewed, h.id_eq, List.append_assoc] using final
  · intro n hn
    rw [hstore] at hn
    obtain rfl : w₁.sessions = n := by simpa [renewed] using hn
    exact Nat.le_of_eq closing.sessions_eq.symm

/-! ## Sound steps -/

theorem Accessed.keepsBooks {result : Except Raised (Option Client)}
    (h : Accessed s w result s' w') : KeepsBooks s w s' w' := by
  cases h with
  | unknown => exact .refl s w
  | kept => exact .refl s w
  | failed _ rebuilt => exact rebuilt.unbuilt.keepsBooks
  | @unclosed c s₁ w₁ raised w₂ _ rebuilt closing =>
      obtain ⟨result, w₃, hclose, closed⟩ := closing_closeAll s.held { s₁ with client := some c } w₁
      rw [closing] at hclose
      cases hclose
      exact rebuilt.built.keepsBooks closed
  | @refreshed c s₁ w₁ w₂ _ rebuilt closing =>
      obtain ⟨result, w₃, hclose, closed⟩ := closing_closeAll s.held { s₁ with client := some c } w₁
      rw [closing] at hclose
      cases hclose
      exact rebuilt.built.keepsBooks closed

theorem keepsBooks_build {session : Nat} {limits : Limits T} {c d : Client}
    (client : s.client = some c)
    (h : (build session limits).outcome (s, w) = (.ok d, s, w')) :
    KeepsBooks s w { s with bounded := s.bounded ++ [(limits, d)] } w' := by
  intro calls sound
  obtain ⟨_, hid, endpoint, _, hbuilt, rfl⟩ := build_ok h
  have building : (w.entryOf (.client session (w.clients + 1) endpoint limits)).builds =
      some (w.clients + 1) := by
    simp [Logged.builds, hbuilt, Except.isOk, Except.toBool]
  refine ⟨[w.entryOf (.client session (w.clients + 1) endpoint limits)], rfl, ?_,
    sound.session_le, ?_⟩
  · have books := sound.books.build building
    rw [heldIds_eq] at books ⊢
    simpa [hid, List.append_assoc] using books
  · intro idle
    rw [client] at idle
    cases idle

theorem keepsBooks_build_error {session : Nat} {limits : Limits T} {raised : Raised}
    (h : (build session limits).outcome (s, w) = (.error raised, s, w')) : KeepsBooks s w s w' := by
  intro calls sound
  obtain ⟨_, hsessions, hclients, more, hlog, hmore⟩ := build_error h
  refine ⟨more, hlog, ?_, ?_, sound.idle⟩
  · rw [hclients]
    refine sound.books.quiet ?_
    intro e he
    obtain ⟨hfail, endpoint, hcall⟩ := hmore e he
    exact Logged.quiet_of_failed hcall hfail
  · rw [hsessions]
    exact sound.session_le

theorem Picked.keepsBooks {ctx : Context T} {operation name : String}
    {result : Except Raised Client} (h : Picked ctx operation name s w result s' w') :
    KeepsBooks s w s' w' := by
  have accessed {fresh : Except Raised (Option Client)} {s₁ : RemoteStore T} {w₁ : World T σ}
      (access : freshClient.outcome (s, w) = (fresh, s₁, w₁)) : KeepsBooks s w s₁ w₁ :=
    (accessed_freshClient s w access).keepsBooks
  cases h with
  | refused access => exact accessed access
  | noLimits access => exact accessed access
  | closed access => exact accessed access
  | configured access => exact accessed access
  | cached access => exact accessed access
  | unbuilt access _ _ _ _ failed => exact (accessed access).trans (keepsBooks_build_error failed)
  | built access _ client _ _ build => exact (accessed access).trans (keepsBooks_build client build)

omit [Outside T σ] in
theorem mem_held_of_boundedClient? {limits : Limits T} {d : Client}
    (h : s.boundedClient? limits = some d) : d ∈ s.held := by
  obtain ⟨entry, hentry, rfl⟩ := Option.map_eq_some_iff.mp h
  exact List.mem_append_right _ (List.mem_map_of_mem (List.mem_of_find?_eq_some hentry))

theorem Picked.mem_held {ctx : Context T} {operation name : String} {c : Client}
    (h : Picked ctx operation name s w (.ok c) s' w') : c ∈ s'.held := by
  cases h with
  | configured _ _ client => simp [held, client]
  | cached _ _ _ _ found => exact mem_held_of_boundedClient? found
  | built => simp [held]

theorem keepsBooks_use {c : Client} (hc : c ∈ s.held)
    (h : Sending (fun call : Call T => call.user = some c.id) (s, w) (s', w')) :
    KeepsBooks s w s' w' := by
  obtain ⟨rfl, passes, hsessions, hclients⟩ := h
  intro calls sound
  obtain ⟨more, hlog, hmore⟩ := passes.logs
  refine ⟨more, hlog, ?_, ?_, sound.idle⟩
  · rw [hclients]
    exact sound.books.useMany (List.mem_map_of_mem hc) hmore
  · rw [hsessions]
    exact sound.session_le

theorem keepsBooks_quiet (h : Sending (fun call : Call T => call.isQuiet = true) (s, w) (s', w')) :
    KeepsBooks s w s' w' := by
  obtain ⟨rfl, passes, hsessions, hclients⟩ := h
  intro calls sound
  obtain ⟨more, hlog, hmore⟩ := passes.logs
  refine ⟨more, hlog, ?_, ?_, sound.idle⟩
  · rw [hclients]
    exact sound.books.quiet fun e he => Logged.quiet_of_isQuiet (hmore e he)
  · rw [hsessions]
    exact sound.session_le

/-! ## Operations and looks -/

/-- What becomes of an operation: it stops at once, or picks a client, and if it gets one, all that
it sends goes to that client while the store stays as it is. -/
inductive Operated (ctx : Context T) (op : Operation) (s : RemoteStore T) (w : World T σ) :
    RemoteStore T → World T σ → Prop where
  | late {err} (late : ctx.err w.moment = some err) : Operated ctx op s w s w
  | refused {raised s₁ w₁} (alive : ctx.err w.moment = none)
      (picked : Picked ctx op.label op.subject s w (.error raised) s₁ w₁) :
      Operated ctx op s w s₁ w₁
  | served {c s₁ w₁ w₂} (alive : ctx.err w.moment = none)
      (picked : Picked ctx op.label op.subject s w (.ok c) s₁ w₁)
      (sent : Sending (fun call : Call T => call.user = some c.id) (s₁, w₁) (s₁, w₂)) :
      Operated ctx op s w s₁ w₂

theorem operated_onRemote (ctx : Context T) (op : Operation) (s : RemoteStore T) (w : World T σ) :
    Operated ctx op s w ((op.onRemote ctx).outcome (s, w)).2.1
      ((op.onRemote ctx).outcome (s, w)).2.2 := by
  cases halive : ctx.err w.moment with
  | some err =>
      rw [Operation.outcome_onRemote, halive]
      exact .late halive
  | none =>
      rw [Operation.outcome_onRemote_snd halive, Operation.work_eq_serve, outcome_bind]
      rcases hpick : (clientFor ctx op.label op.subject).outcome (s, w) with ⟨result, s₁, w₁⟩
      have picked := picked_clientFor ctx _ _ s w hpick
      cases result with
      | error raised => exact .refused halive picked
      | ok c =>
          have sent := Operation.sending_serve ctx (Operation.encryption s.options) op c (s₁, w₁)
          have same := sent.store_eq
          rcases hserve : (op.serve ctx (Operation.encryption s.options) c).outcome (s₁, w₁) with
            ⟨answer, s₂, w₂⟩
          rw [hserve] at sent same
          obtain rfl : s₂ = s₁ := same
          dsimp only
          rw [hserve]
          exact .served halive picked sent

theorem Operated.keepsBooks {ctx : Context T} {op : Operation} (h : Operated ctx op s w s' w') :
    KeepsBooks s w s' w' := by
  cases h with
  | late => exact .refl s w
  | refused _ picked => exact picked.keepsBooks
  | served _ picked sent => exact picked.keepsBooks.trans (keepsBooks_use picked.mem_held sent)

theorem sending_check {K : Call T → Prop} (ctx : Context T) :
    Moves (Sending K) (RemoteStore.check ctx : Op T σ _) := by
  rintro ⟨s, w⟩
  rw [RemoteStore.check, outcome_outward, outcome_check]
  exact (sending_lasting _).refl (s, w)

theorem sending_probing {K : Call T → Prop} (hK : ∀ url connect read, K (.probe url connect read))
    (ctx : Context T) : Moves (Sending K) (status ctx : Op T σ _) := by
  have lasting := sending_lasting (T := T) (σ := σ) K
  refine lasting.bind (sending_check ctx) fun _ => lasting.bind lasting.refl fun _ =>
    lasting.bind (lasting.ofFault _) fun url => lasting.bind ?_ fun _ =>
      lasting.bind lasting.refl fun _ => lasting.bind (sending_check ctx) fun _ => lasting.pure _
  refine lasting.bind (sending_perform (hK _ _ _)).attempt fun result => ?_
  cases result with
  | ok u => exact lasting.pure _
  | error raised =>
      dsimp only
      split
      · split
        · refine lasting.bind lasting.refl fun _ => ?_
          split <;> exact lasting.throw _
        · exact lasting.throw _
      · exact lasting.throw _

theorem sending_status (ctx : Context T) :
    Moves (Sending fun call : Call T => call.isQuiet = true) (status ctx : Op T σ _) :=
  sending_probing (fun _ _ _ => rfl) ctx

/-! ## Closing -/

def cleared (s : RemoteStore T) : RemoteStore T :=
  { s with client := none, bounded := [], session := none }

/-- Closing clears the store first, and then closes the clients that it held. -/
theorem closed_close (s : RemoteStore T) (w : World T σ) :
    ∃ result after, close.outcome (s, w) = (result, s.cleared, after) ∧
      (s.client = none → result = .ok () ∧ after = w) ∧
      (s.client ≠ none → Closing s.held w result after) := by
  simp only [close, outcome_bind, outcome_current, outcome_update]
  cases hclient : s.client with
  | none => exact ⟨.ok (), w, rfl, fun _ => ⟨rfl, rfl⟩, fun h => absurd rfl h⟩
  | some c =>
      obtain ⟨result, after, houtcome, closing⟩ := closing_closeAll s.held s.cleared w
      exact ⟨result, after, houtcome, nofun, fun _ => closing⟩

theorem keepsBooks_close {result : Except Raised Unit}
    (h : close.outcome (s, w) = (result, s', w')) : KeepsBooks s w s' w' := by
  obtain ⟨found, after, houtcome, hidle, hopen⟩ := closed_close s w
  rw [h] at houtcome
  cases houtcome
  intro calls sound
  by_cases hclient : s.client = none
  · obtain ⟨_, rfl⟩ := hidle hclient
    refine ⟨[], by simp, ?_, nofun, fun _ => rfl⟩
    rw [List.append_nil]
    exact sound.books.sublist (List.nil_sublist _)
  · obtain ⟨hsessions, hclients, closings, done, hlog, initial, hcalls, _⟩ := hopen hclient
    have only_done : (done.map Client.id ++ []).Sublist s.heldIds := by
      rw [List.append_nil]
      exact (initial.sublist.trans List.filter_sublist).map _
    refine ⟨closings, hlog, ?_, nofun, fun _ => rfl⟩
    rw [hclients]
    exact (sound.books.sublist only_done).closeMany (closes_of_calls hcalls)

/-! ## Connecting -/

/-- A store that was connected holds the one client that was built for it. -/
structure Connected (options : Options T) (resolver : Resolver) (w₀ : World T σ)
    (s : RemoteStore T) (w : World T σ) : Prop where
  built : ∃ c s₁ w₁, Built (unconnected options resolver) w₀ c s₁ w₁ ∧
    s = { s₁ with client := some c } ∧
    Sending (fun call : Call T => call.isQuiet = true) (s, w₁) (s, w)

/-- Connecting checks its context, opens the store, and closes it again if that failed. -/
theorem outcome_connect (ctx : Context T) (options : Options T) (resolver : Resolver)
    (w : World T σ) :
    (connect ctx options resolver).outcome w =
      match ctx.err w.moment with
      | some err => (.error (.plain (.context err)), w)
      | none =>
        match (opening ctx).outcome (unconnected options resolver, w) with
        | (.ok _, s, w₁) => (.ok s, w₁)
        | (.error first, s, w₁) =>
          match close.outcome (s, w₁) with
          | (.ok _, _, w₂) => (.error first, w₂)
          | (.error late, _, w₂) => (.error late, w₂) := by
  simp only [connect, openOrClose, outcome_bind, outcome_check]
  cases ctx.err w.moment with
  | some err => rfl
  | none =>
      simp only [outcome_ofOutcome, outcome_attempt]
      rcases (opening ctx).outcome (unconnected options resolver, w) with ⟨_ | u, s, w₁⟩
      · simp only [outcome_bind]
        rcases close.outcome (s, w₁) with ⟨_ | u, s', w₂⟩ <;> rfl
      · rfl

theorem rebuilt_connect {ctx : Context T} {options : Options T} {resolver : Resolver}
    {w₀ : World T σ} (h : (connect ctx options resolver).outcome w₀ = (.ok s, w)) :
    ∃ c s₁ w₁, Rebuilt (unconnected options resolver) w₀ (.ok c) s₁ w₁ ∧
      s = { s₁ with client := some c } ∧
      Sending (fun call : Call T => call.isQuiet = true) (s, w₁) (s, w) := by
  rw [outcome_connect] at h
  cases alive : ctx.err w₀.moment with
  | some err =>
      simp only [alive] at h
      cases h
  | none =>
      rcases hopening : (opening ctx).outcome (unconnected options resolver, w₀) with
        ⟨result, s₂, w₂⟩
      simp only [alive, hopening] at h
      cases result with
      | error raised =>
          rcases hclose : close.outcome (s₂, w₂) with ⟨closing, s₃, w₃⟩
          simp only [hclose] at h
          cases closing <;> cases h
      | ok u =>
          cases h
          obtain ⟨c, ⟨s₃, w₃⟩, hnew, hrest⟩ := outcome_bind_eq_ok.mp hopening
          have lasting := sending_lasting (T := T) (σ := σ) fun call => call.isQuiet = true
          have probing := lasting.bind (sending_check ctx) (fun _ =>
            lasting.bind (sending_status ctx) fun _ => lasting.pure ())
            ({ s₃ with client := some c }, w₃)
          rw [outcome_bind, outcome_update] at hrest
          dsimp only at hrest
          rw [hrest] at probing
          obtain rfl : s = { s₃ with client := some c } := probing.store_eq
          exact ⟨c, s₃, w₃, rebuilt_newClient _ _ hnew, rfl, probing⟩

theorem connected_connect {ctx : Context T} {options : Options T} {resolver : Resolver}
    {w₀ : World T σ} (h : (connect ctx options resolver).outcome w₀ = (.ok s, w)) :
    Connected options resolver w₀ s w := by
  obtain ⟨c, s₁, w₁, rebuilt, hs, probed⟩ := rebuilt_connect h
  exact ⟨c, s₁, w₁, rebuilt.built, hs, probed⟩

theorem Connected.sound {options : Options T} {resolver : Resolver} {w₀ : World T σ}
    (h : Connected options resolver w₀ s w) :
    ∃ calls, w.log = w₀.log ++ calls ∧ Sound calls s w := by
  obtain ⟨c, s₁, w₁, built, rfl, probed⟩ := h.built
  have none_yet : Sound [] (unconnected options resolver) w₀ :=
    ⟨⟨.nil, nofun, List.nodup_nil, nofun⟩, nofun, fun _ => rfl⟩
  have nothing_to_close : Closing [] w₁ (.ok ()) w₁ :=
    ⟨rfl, rfl, [], [], by simp, List.nil_prefix, rfl, fun _ => rfl⟩
  obtain ⟨calls, hlog, sound⟩ :=
    ((Built.keepsBooks (s := unconnected options resolver) built nothing_to_close).trans
      (keepsBooks_quiet probed)) [] none_yet
  exact ⟨calls, hlog, by simpa using sound⟩

def opened (ctx : Context T) (options : Options T) (resolver : Resolver) (w₀ : World T σ) :
    RemoteStore T × World T σ :=
  match (connect ctx options resolver).outcome w₀ with
  | (.ok s, w) => (s, w)
  | (.error _, w) => (unconnected options resolver, w)

theorem connect_opened {ctx : Context T} {options : Options T} {resolver : Resolver}
    {w₀ : World T σ} (h : ((connect ctx options resolver).outcome w₀).1.isOk = true) :
    (connect ctx options resolver).outcome w₀ =
      (.ok (opened ctx options resolver w₀).1, (opened ctx options resolver w₀).2) := by
  unfold opened
  rcases hc : (connect ctx options resolver).outcome w₀ with ⟨result, w⟩
  cases result with
  | ok s => rfl
  | error raised =>
      rw [hc] at h
      cases h

/-! ## What no event changes -/

def SameSetup (before after : RemoteStore T × World T σ) : Prop :=
  after.1.options = before.1.options ∧ after.1.resolver = before.1.resolver

omit [Seconds T] [Outside T σ] in
theorem sameSetup_lasting : Lasting (SameSetup (T := T) (σ := σ)) where
  refl _ := ⟨rfl, rfl⟩
  trans first second := ⟨second.1.trans first.1, second.2.trans first.2⟩

theorem sameSetup_after (st : RemoteStore T × World T σ) (event : Event T σ) :
    SameSetup st (after st event) := by
  obtain ⟨s, w⟩ := st
  cases event with
  | operate ctx op =>
      cases halive : ctx.err w.moment with
      | some err =>
          rw [after, Operation.outcome_onRemote, halive]
          exact ⟨rfl, rfl⟩
      | none =>
          rw [after, Operation.outcome_onRemote_snd halive, Operation.work_eq_serve]
          refine sameSetup_lasting.bind ?_ ?_ (s, w)
          · intro st
            have kept := kept_clientFor ctx op.label op.subject st
            exact ⟨kept.options_eq, kept.resolver_eq⟩
          · intro c st
            have sent := Operation.sending_serve ctx (Operation.encryption s.options) op c st
            exact ⟨congrArg options sent.store_eq, congrArg resolver sent.store_eq⟩
  | look ctx =>
      have sent := sending_status ctx (s, w)
      exact ⟨congrArg options sent.store_eq, congrArg resolver sent.store_eq⟩
  | access =>
      have kept := kept_freshClient (s, w)
      exact ⟨kept.options_eq, kept.resolver_eq⟩
  | close =>
      obtain ⟨result, w', h, _⟩ := closed_close s w
      rw [after, h]
      exact ⟨rfl, rfl⟩
  | meanwhile moment host outside => exact ⟨rfl, rfl⟩

/-! ## Sound runs -/

theorem keepsBooks_after (st : RemoteStore T × World T σ) (event : Event T σ) :
    KeepsBooks st.1 st.2 (after st event).1 (after st event).2 := by
  obtain ⟨s, w⟩ := st
  cases event with
  | operate ctx op => exact (operated_onRemote ctx op s w).keepsBooks
  | look ctx => exact keepsBooks_quiet (sending_status ctx (s, w))
  | access =>
      rcases h : freshClient.outcome (s, w) with ⟨result, s', w'⟩
      rw [after, h]
      exact (accessed_freshClient s w h).keepsBooks
  | close =>
      rcases h : close.outcome (s, w) with ⟨result, s', w'⟩
      rw [after, h]
      exact keepsBooks_close h
  | meanwhile moment host outside =>
      intro calls sound
      exact ⟨[], by simp [after], by simpa using ⟨sound.books, sound.session_le, sound.idle⟩⟩

theorem Reaches.sound {allowed : RemoteStore T × World T σ → Event T σ → Prop}
    {start st : RemoteStore T × World T σ} {calls : List (Logged T)}
    (run : Reaches allowed start st) (sound : Sound calls start.1 start.2) :
    ∃ more, st.2.log = start.2.log ++ more ∧ Sound (calls ++ more) st.1 st.2 := by
  induction run with
  | start => exact KeepsBooks.refl _ _ calls sound
  | step event _ _ ih =>
      obtain ⟨more, hlog, sound'⟩ := ih
      obtain ⟨rest, hlog', sound''⟩ := keepsBooks_after _ event _ sound'
      refine ⟨more ++ rest, by rw [hlog', hlog, List.append_assoc], ?_⟩
      rw [← List.append_assoc]
      exact sound''

theorem Reaches.sameSetup {allowed : RemoteStore T × World T σ → Event T σ → Prop}
    {start st : RemoteStore T × World T σ} (run : Reaches allowed start st) :
    SameSetup start st := by
  induction run with
  | start => exact sameSetup_lasting.refl start
  | step event _ _ ih => exact sameSetup_lasting.trans ih (sameSetup_after _ event)

theorem Connected.usable {options : Options T} {resolver : Resolver} {w₀ w₁ : World T σ}
    {s₀ : RemoteStore T} {allowed : RemoteStore T × World T σ → Event T σ → Prop}
    (connected : Connected options resolver w₀ s₀ w₁)
    (run : Reaches allowed (s₀, w₁) (s, w)) : s.resolver ≠ .unusable := by
  obtain ⟨c, s₁, w₂, built, rfl, _⟩ := connected.built
  have same : s.resolver = s₁.resolver := run.sameSetup.2
  rw [same, built.store_eq]
  exact built.usable

/-- In every run of a store that was connected, the books are sound from the connection on. -/
theorem Connected.sound_run {options : Options T} {resolver : Resolver} {w₀ w₁ : World T σ}
    {s₀ : RemoteStore T} {allowed : RemoteStore T × World T σ → Event T σ → Prop}
    (connected : Connected options resolver w₀ s₀ w₁)
    (run : Reaches allowed (s₀, w₁) (s, w)) :
    ∃ calls, w.log = w₀.log ++ calls ∧ Sound calls s w := by
  obtain ⟨calls, hlog, sound⟩ := connected.sound
  obtain ⟨more, hmore, sound'⟩ := run.sound sound
  exact ⟨calls ++ more, by rw [hmore, hlog, List.append_assoc], sound'⟩

end RemoteStore

end SecretVault
