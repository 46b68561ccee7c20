import SecretVault.Proofs.Remote.Tighter

/-!
Which client an operation goes to. Without a deadline it is the configured one, and with a deadline
one for the budget of the time left. As long as nothing is refreshed or closed the store only gains
clients, so operations with the same budget go to the same one, and with exact seconds it gains few.
-/

namespace SecretVault

variable {T σ : Type} [Seconds T] [Outside T σ]

open SecretVault.Action World

theorem Operation.log_serve_lt (ctx : Context T) (key : Option Value) (op : Operation)
    (client : Client) (s : RemoteStore T) (w : World T σ) :
    w.log.length < ((op.serve ctx key client).outcome (s, w)).2.2.log.length := by
  have after_call (c : Call T) : w.log.length < (w.afterCall c).log.length := by
    simp
  cases sole : op.sole? (T := T) key client.id with
  | some call =>
      rw [outcome_serve_sole sole]
      exact after_call call
  | none =>
      rw [serve_listing sole, outcome_bind, RemoteStore.outcome_outward, World.outcome_perform]
      cases (w.reply (.paginator client.id)).result with
      | error e => exact after_call _
      | ok count =>
          have sending : Moves (RemoteStore.Sending fun _ => True)
              (op.request ctx key client count : RemoteStore.Op T σ _) :=
            sending_request (fun _ _ => trivial) ctx key count op
          obtain ⟨more, hmore, _⟩ := (sending (s, w.afterCall (.paginator client.id))).passes.logs
          dsimp only [mapError_ok]
          rw [hmore, List.length_append]
          exact Nat.lt_add_right _ (after_call _)

namespace RemoteStore

variable {s s' s₁ : RemoteStore T} {w w' w₁ : World T σ} {ctx : Context T} {op : Operation}
  {id : Nat}

/-! ## What goes to which client -/

/-- The operation sends something, all of it to the client with this number. -/
def GoesTo (ctx : Context T) (op : Operation) (st : RemoteStore T × World T σ) (id : Nat) : Prop :=
  ∃ more, (after st (.operate ctx op)).2.log = st.2.log ++ more ∧
    (∃ e ∈ more, e.call.user = some id) ∧ ∀ e ∈ more, ∀ other, e.call.user = some other → other = id

theorem served_log {c : Client} (alive : ctx.err w.moment = none)
    (picked : Picked ctx op.label op.subject s w (.ok c) s₁ w₁) :
    (after (s, w) (.operate ctx op)).1 = s₁ ∧ ∃ upkeep used,
      (after (s, w) (.operate ctx op)).2.log = w.log ++ (upkeep ++ used) ∧
      (∀ e ∈ upkeep, e.call.user = none) ∧ used ≠ [] ∧ ∀ e ∈ used, e.call.user = some c.id := by
  have work_eq : after (s, w) (.operate ctx op) =
      ((op.serve ctx (Operation.encryption s.options) c).outcome (s₁, w₁)).2 := by
    rw [after, Operation.outcome_onRemote_snd alive, Operation.work_eq_serve,
      outcome_bind_ok picked.outcome]
  have sent := Operation.sending_serve ctx (Operation.encryption s.options) op c (s₁, w₁)
  have more := Operation.log_serve_lt ctx (Operation.encryption s.options) op c s₁ w₁
  obtain ⟨used, hused, uses⟩ := sent.passes.logs
  obtain ⟨upkeep, hupkeep, keeps⟩ := (kept_clientFor ctx op.label op.subject (s, w)).passes.logs
  rw [picked.outcome] at hupkeep
  dsimp only at hupkeep hused
  rw [work_eq]
  refine ⟨sent.store_eq, upkeep, used, ?_, ?_, ?_, uses⟩
  · rw [hused, hupkeep, List.append_assoc]
  · exact fun e he => Call.user_of_isUpkeep (keeps e he)
  · rintro rfl
    rw [hused, List.append_nil] at more
    exact lt_irrefl _ more

theorem goesTo_iff : GoesTo ctx op (s, w) id ↔ ctx.err w.moment = none ∧
    ∃ c s₁ w₁, Picked ctx op.label op.subject s w (.ok c) s₁ w₁ ∧ c.id = id := by
  constructor
  · rintro ⟨more, hlog, ⟨e, he, huser⟩, -⟩
    cases alive : ctx.err w.moment with
    | some err =>
        rw [after, Operation.outcome_onRemote, alive] at hlog
        obtain rfl : more = [] := by simpa using hlog
        cases he
    | none =>
        refine ⟨rfl, ?_⟩
        rcases hpick : (clientFor ctx op.label op.subject).outcome (s, w) with ⟨result, s₁, w₁⟩
        have picked := picked_clientFor ctx _ _ s w hpick
        cases result with
        | error raised =>
            have kept := (kept_clientFor ctx op.label op.subject (s, w)).passes.logs
            rw [hpick] at kept
            rw [after, Operation.outcome_onRemote_snd alive, Operation.work_eq_serve,
              outcome_bind_error hpick] at hlog
            rw [Call.user_of_isUpkeep (kept.of_log_eq hlog e he)] at huser
            cases huser
        | ok c =>
            refine ⟨c, s₁, w₁, picked, ?_⟩
            obtain ⟨-, upkeep, used, hall, keeps, -, uses⟩ := served_log alive picked
            obtain rfl := List.append_cancel_left (hlog.symm.trans hall)
            rcases List.mem_append.mp he with he | he
            · rw [keeps e he] at huser
              cases huser
            · rw [uses e he] at huser
              exact Option.some.inj huser
  · rintro ⟨alive, c, s₁, w₁, picked, rfl⟩
    obtain ⟨-, upkeep, used, hall, keeps, something, uses⟩ := served_log alive picked
    refine ⟨upkeep ++ used, hall, ?_, ?_⟩
    · obtain ⟨e, he⟩ := List.exists_mem_of_ne_nil used something
      exact ⟨e, List.mem_append_right upkeep he, uses e he⟩
    · intro e he other hother
      rcases List.mem_append.mp he with he | he
      · rw [keeps e he] at hother
        cases hother
      · rw [uses e he] at hother
        exact (Option.some.inj hother).symm

theorem goesTo_of_toOption {st : RemoteStore T × World T σ} {c : Client}
    (alive : ctx.err st.2.moment = none)
    (picks : ((clientFor ctx op.label op.subject).outcome st).1.toOption = some c) :
    GoesTo ctx op st c.id := by
  rcases hpick : (clientFor ctx op.label op.subject).outcome st with ⟨result, s', w'⟩
  rw [hpick] at picks
  obtain rfl : result = .ok c := ok_of_toOption picks
  exact goesTo_iff.mpr ⟨alive, c, s', w', picked_clientFor ctx _ _ st.1 st.2 hpick, rfl⟩

/-! ## Stores that only gain clients -/

def gain (s : RemoteStore T) (more : List (Limits T × Client)) : RemoteStore T :=
  { s with bounded := s.bounded ++ more }

omit [Seconds T] in
theorem gain_nil (s : RemoteStore T) : s.gain [] = s := by
  rw [gain, List.append_nil]

omit [Seconds T] in
theorem gain_gain (s : RemoteStore T) (more rest : List (Limits T × Client)) :
    (s.gain more).gain rest = s.gain (more ++ rest) := by
  simp only [gain, List.append_assoc]

def Gained (s s' : RemoteStore T) : Prop :=
  ∃ more, s' = s.gain more

omit [Seconds T] in
theorem Gained.refl (s : RemoteStore T) : Gained s s :=
  ⟨[], s.gain_nil.symm⟩

omit [Seconds T] in
theorem Gained.trans {s'' : RemoteStore T} (first : Gained s s') (second : Gained s' s'') :
    Gained s s'' := by
  obtain ⟨more, rfl⟩ := first
  obtain ⟨rest, rfl⟩ := second
  exact ⟨more ++ rest, gain_gain s more rest⟩

/-- The event neither closes the store nor refreshes its client. -/
structure Calm (st : RemoteStore T × World T σ) (event : Event T σ) : Prop where
  unclosed : event ≠ .close
  fresh : LooksAtClient st.2 event → st.1.isStale st.2.wall ≠ .ok true

theorem Accessed.eq_of_fresh {result : Except Raised (Option Client)}
    (h : Accessed s w result s' w') (fresh : s.isStale w.wall ≠ .ok true) : s' = s := by
  cases h with
  | unknown => rfl
  | kept => rfl
  | failed stale => exact absurd stale fresh
  | unclosed stale => exact absurd stale fresh
  | refreshed stale => exact absurd stale fresh

theorem Picked.gained {operation name : String} {result : Except Raised Client}
    (h : Picked ctx operation name s w result s' w') (fresh : s.isStale w.wall ≠ .ok true) :
    Gained s s' := by
  have same {looked : Except Raised (Option Client)} {s₁ : RemoteStore T} {w₁ : World T σ}
      (access : freshClient.outcome (s, w) = (looked, s₁, w₁)) : s₁ = s :=
    (accessed_freshClient s w access).eq_of_fresh fresh
  cases h with
  | refused access => exact same access ▸ .refl s
  | noLimits access => exact same access ▸ .refl s
  | closed access => exact same access ▸ .refl s
  | configured access => exact same access ▸ .refl s
  | cached access => exact same access ▸ .refl s
  | unbuilt access => exact same access ▸ .refl s
  | built access =>
      obtain rfl := same access
      exact ⟨_, rfl⟩

theorem Operated.gained (h : Operated ctx op s w s' w')
    (fresh : ctx.err w.moment = none → s.isStale w.wall ≠ .ok true) : Gained s s' := by
  cases h with
  | late => exact .refl s
  | refused alive picked => exact picked.gained (fresh alive)
  | served alive picked => exact picked.gained (fresh alive)

theorem gained_after {st : RemoteStore T × World T σ} {event : Event T σ} (calm : Calm st event) :
    Gained st.1 (after st event).1 := by
  obtain ⟨s, w⟩ := st
  cases event with
  | operate ctx op => exact (operated_onRemote ctx op s w).gained calm.fresh
  | look ctx =>
      have same := (sending_status ctx (s, w)).store_eq
      exact ⟨[], same.trans (gain_nil s).symm⟩
  | access =>
      rcases h : freshClient.outcome (s, w) with ⟨result, s', w'⟩
      obtain rfl := (accessed_freshClient s w h).eq_of_fresh (calm.fresh trivial)
      rw [after, h]
      exact .refl s'
  | close => exact absurd rfl calm.unclosed
  | meanwhile moment host outside => exact .refl s

theorem Reaches.gained {start st : RemoteStore T × World T σ} (run : Reaches Calm start st) :
    Gained start.1 st.1 := by
  induction run with
  | start => exact .refl _
  | step event _ calm ih => exact ih.trans (gained_after calm)

/-! ## The client for a budget -/

def timeLeft (ctx : Context T) (st : RemoteStore T × World T σ) : Option T :=
  ctx.remaining (freshClient.outcome st).2.2.moment

/-- The client that the store has for limits that differ from the configured ones, or for these. A
store without a session builds no tighter ones. -/
def clientWithin? (s : RemoteStore T) (limits? : Option (Limits T)) : Option Client :=
  match limits?, s.session with
  | some limits, some _ => s.boundedClient? limits
  | _, _ => s.client

theorem clientWithin?_of_free {limits? : Option (Limits T)}
    (free : limits? = none ∨ s.session = none) : s.clientWithin? limits? = s.client := by
  unfold clientWithin?
  rcases free with rfl | closed
  · rfl
  · rw [closed]
    cases limits? <;> rfl

theorem clientWithin?_of_session {limits : Limits T} {session : Nat}
    (open_ : s.session = some session) :
    s.clientWithin? (some limits) = s.boundedClient? limits := by
  simp only [clientWithin?, open_]

theorem boundedClient?_gain {limits : Limits T} {c : Client} (more : List (Limits T × Client))
    (h : s.boundedClient? limits = some c) : (s.gain more).boundedClient? limits = some c := by
  obtain ⟨entry, hentry, hc⟩ := Option.map_eq_some_iff.mp h
  rw [boundedClient?, gain, List.find?_append, hentry]
  exact congrArg some hc

theorem boundedClient?_gain_new {limits : Limits T} (d : Client) (self : limits.same limits = true)
    (new : s.boundedClient? limits = none) :
    (s.gain [(limits, d)]).boundedClient? limits = some d := by
  have found : [(limits, d)].find? (fun entry => entry.1.same limits) = some (limits, d) :=
    List.find?_cons_of_pos self
  rw [boundedClient?, gain, List.find?_append, Option.map_eq_none_iff.mp new, Option.none_or, found]
  rfl

theorem clientWithin?_gain {limits? : Option (Limits T)} {c : Client}
    (more : List (Limits T × Client)) (h : s.clientWithin? limits? = some c) :
    (s.gain more).clientWithin? limits? = some c := by
  have session_eq : (s.gain more).session = s.session := rfl
  cases limits? with
  | none => exact h
  | some limits =>
      cases open_ : s.session with
      | none =>
          rw [clientWithin?_of_free (.inr open_)] at h
          rw [clientWithin?_of_free (.inr (session_eq.trans open_))]
          exact h
      | some session =>
          rw [clientWithin?_of_session open_] at h
          rw [clientWithin?_of_session (session_eq.trans open_)]
          exact boundedClient?_gain more h

theorem Accessed.client_eq {c? : Option Client} (h : Accessed s w (.ok c?) s' w') :
    s'.client = c? := by
  cases h with
  | kept => rfl
  | refreshed => rfl

theorem Picked.of_clientWithin? {operation name : String} {limits? : Option (Limits T)}
    {c? : Option Client} {c d : Client} (access : freshClient.outcome (s, w) = (.ok c?, s₁, w₁))
    (limited : s₁.options.limits.for? (ctx.remaining w₁.moment) = .ok limits?)
    (client : s₁.client = some c) (within : s₁.clientWithin? limits? = some d) :
    Picked ctx operation name s w (.ok d) s₁ w₁ := by
  cases limits? with
  | none => exact .configured access limited within (.inl rfl)
  | some limits =>
      cases open_ : s₁.session with
      | none =>
          rw [clientWithin?_of_free (.inr open_)] at within
          exact .configured access limited within (.inr open_)
      | some session =>
          rw [clientWithin?_of_session open_] at within
          exact .cached access limited client open_ within

/-- Without a deadline an operation goes to the client that a look at the client brings. -/
theorem goesTo_unbounded_iff (unbounded : ctx.deadline = none) :
    GoesTo ctx op (s, w) id ↔ ctx.err w.moment = none ∧
      ∃ c st, freshClient.outcome (s, w) = (.ok (some c), st) ∧ c.id = id := by
  have no_time (m : Moment T) : ctx.remaining m = none := by
    rw [Context.remaining, unbounded]
    rfl
  rw [goesTo_iff]
  refine and_congr_right fun alive => ?_
  constructor
  · rintro ⟨c, s₁, w₁, picked, rfl⟩
    cases picked with
    | configured access _ client =>
        obtain rfl := (accessed_freshClient s w access).client_eq.symm.trans client
        exact ⟨c, _, access, rfl⟩
    | cached _ limited =>
        rw [no_time] at limited
        cases limited
    | built _ limited =>
        rw [no_time] at limited
        cases limited
  · rintro ⟨c, ⟨s₁, w₁⟩, access, rfl⟩
    have limited : s₁.options.limits.for? (ctx.remaining w₁.moment) = .ok none := by
      rw [no_time]
      rfl
    have client := (accessed_freshClient s w access).client_eq
    exact ⟨c, s₁, w₁, .configured access limited client (.inl rfl), rfl⟩

/-! ## Exact seconds -/

section Exact

variable {ρ : Type} [Outside Rat ρ] {before : List (Logged Rat)} {options : Options Rat}
  {st st' : RemoteStore Rat × World Rat ρ}

theorem Picked.clientWithin? {ctx : Context Rat} {operation name : String} {c : Client}
    {r : RemoteStore Rat} {v : World Rat ρ} (h : Picked ctx operation name st.1 st.2 (.ok c) r v) :
    ∃ limits?, r.options.limits.for? (timeLeft ctx st) = .ok limits? ∧
      (∃ d, r.client = some d) ∧ r.clientWithin? limits? = some c := by
  have left {fresh : Except Raised (Option Client)} {r₁ : RemoteStore Rat} {v₁ : World Rat ρ}
      (access : freshClient.outcome st = (fresh, r₁, v₁)) :
      timeLeft ctx st = ctx.remaining v₁.moment := by
    rw [timeLeft, access]
  cases h with
  | configured access limited client free =>
      rw [← left access] at limited
      exact ⟨_, limited, ⟨_, client⟩, (clientWithin?_of_free free).trans client⟩
  | cached access limited client open_ found =>
      rw [← left access] at limited
      exact ⟨_, limited, ⟨_, client⟩, (clientWithin?_of_session open_).trans found⟩
  | @built _ r₁ _ limits session _ _ _ access limited client open_ new =>
      -- the client was not among the tighter ones, so the last entry is the first for its limits
      rw [← left access] at limited
      have session_eq : (r₁.gain [(limits, c)]).session = some session := open_
      exact ⟨_, limited, ⟨_, client⟩, (clientWithin?_of_session session_eq).trans
        (boundedClient?_gain_new c (Limits.same_iff.mpr rfl) new)⟩

/-- Operations with the same budget go to the same client, if nothing is refreshed or closed from
the first one to the choice of a client for the second one. -/
theorem goesTo_again {ctx ctx' : Context Rat} {op : Operation} {id : Nat}
    (first : GoesTo ctx op st id) (calm : Reaches Calm (after st (.operate ctx op)) st')
    (alive : ctx'.err st'.2.moment = none) (fresh : st'.1.isStale st'.2.wall = .ok false)
    (same : (timeLeft ctx' st').map Limits.rounded = (timeLeft ctx st).map Limits.rounded)
    (op' : Operation) : GoesTo ctx' op' st' id := by
  -- the first operation leaves its client in the store, where the second one finds it
  obtain ⟨alive₁, c, r, v, picked, rfl⟩ := goesTo_iff.mp first
  obtain ⟨store_eq, -⟩ := served_log alive₁ picked
  obtain ⟨limits?, limited, ⟨d, client⟩, within⟩ := picked.clientWithin?
  have gained := calm.gained
  rw [store_eq] at gained
  obtain ⟨more, hmore⟩ := gained
  have kept : freshClient.outcome st' = (.ok st'.1.client, st') := (Accessed.kept fresh).outcome
  have left : timeLeft ctx' st' = ctx'.remaining st'.2.moment := by
    rw [timeLeft, kept]
  have limited' : st'.1.options.limits.for? (ctx'.remaining st'.2.moment) = .ok limits? := by
    rw [← left, Limits.for?_congr _ same, hmore]
    exact limited
  have client' : st'.1.client = some d := by
    rw [hmore]
    exact client
  have within' : st'.1.clientWithin? limits? = some c := by
    rw [hmore]
    exact clientWithin?_gain more within
  exact goesTo_iff.mpr ⟨alive, c, st'.1, st'.2,
    .of_clientWithin? kept limited' client' within', rfl⟩

/-- What holds of the clients of a store with these options, if the log stood at `before` when it
was connected. Each tighter client was built with exactly the limits that it is kept under, which
are not the configured ones, and there are few. Where one operation went, another one goes whose
time left is rounded down to the same budget, if nothing is refreshed or closed in between and its
context is not done. Without a deadline an operation goes to the configured client. -/
structure Tight (before : List (Logged Rat)) (options : Options Rat)
    (st : RemoteStore Rat × World Rat ρ) : Prop where
  keyed : ∀ entry ∈ st.1.bounded, BuiltSince before st.2.log entry.2.id entry.1
  built_once : ∃ calls, st.2.log = before ++ calls ∧ (Log.built calls).Nodup
  keys_nodup : (st.1.bounded.map (·.1)).Nodup
  tighter : ∀ entry ∈ st.1.bounded, entry.1 ≠ options.limits
  few : st.1.bounded.length ≤ 8 + ⌈options.limits.total⌉₊
  shared : ∀ ctx op id, GoesTo ctx op st id → ∀ st', Reaches Calm (after st (.operate ctx op)) st' →
    ∀ ctx' op', ctx'.err st'.2.moment = none → st'.1.isStale st'.2.wall = .ok false →
      (timeLeft ctx' st').map Limits.rounded = (timeLeft ctx st).map Limits.rounded →
      GoesTo ctx' op' st' id
  unbounded : ∀ ctx op id, ctx.deadline = none → (GoesTo ctx op st id ↔
    ctx.err st.2.moment = none ∧ ∃ c st', freshClient.outcome st = (.ok (some c), st') ∧ c.id = id)
  configured : ∀ c st', freshClient.outcome st = (.ok (some c), st') →
    st'.1.client = some c ∧ BuiltSince before st'.2.log c.id options.limits

omit [Outside Rat ρ] in
theorem Cached.keys_nodup (cached : Cached before st.1 st.2) :
    (st.1.bounded.map (·.1)).Nodup := by
  refine List.pairwise_map.mpr (cached.distinct.imp fun {a b} differ same => ?_)
  rw [Limits.same_iff.mpr same] at differ
  cases differ

/-- In every run of a store that was connected with positive timeouts and at least one attempt, its
clients are as they are to be. -/
theorem tight_of_run {ctx : Context Rat} {resolver : Resolver} {w₀ w₁ : World Rat ρ}
    {s₀ : RemoteStore Rat} (connected : (connect ctx options resolver).outcome w₀ = (.ok s₀, w₁))
    (hconnect : 0 < options.limits.connect) (hread : 0 < options.limits.read)
    (hattempts : 1 ≤ options.limits.attempts) (run : Reaches (fun _ _ => True) (s₀, w₁) st) :
    Tight w₀.log options st := by
  have opened := connected_connect connected
  have cached := opened.cached_run run
  have options_eq : st.1.options = options := by
    obtain ⟨c, s₁, w₂, built, rfl, -⟩ := opened.built
    rw [run.sameSetup.1]
    exact congrArg RemoteStore.options built.store_eq
  have within := cached.within
  rw [options_eq] at within
  constructor
  case keyed => exact cached.keyed
  case built_once =>
    obtain ⟨calls, hlog, sound⟩ := opened.sound_run run
    exact ⟨calls, hlog, sound.books.proper.built_nodup⟩
  case keys_nodup => exact cached.keys_nodup
  case tighter =>
    intro entry hentry
    obtain ⟨remaining, hremaining⟩ := within entry hentry
    obtain ⟨-, differs, same⟩ := Limits.within?_eq_some_iff.mp hremaining
    rwa [← same]
  case few =>
    rw [← List.length_map (·.1)]
    refine Limits.length_le_of_within hconnect hread hattempts cached.keys_nodup ?_
    intro limits hlimits
    obtain ⟨entry, hentry, rfl⟩ := List.mem_map.mp hlimits
    exact within entry hentry
  case shared =>
    intro ctx op id first st' calm ctx' op' alive fresh same
    exact goesTo_again first calm alive fresh same op'
  case unbounded =>
    intro ctx op id unbounded
    exact goesTo_unbounded_iff unbounded
  case configured =>
    intro c st' access
    have accessed := accessed_freshClient st.1 st.2 access
    have client_eq := accessed.client_eq
    have built := (accessed.keepsCached cached).configured c client_eq
    have same : st'.1.options = st.1.options := by
      have kept := (kept_freshClient st).options_eq
      rwa [access] at kept
    rw [same, options_eq] at built
    exact ⟨client_eq, built⟩

end Exact

def halfASecond : Event Rat (Rehearsal Rat) :=
  .meanwhile ⟨1 / 2, []⟩ .empty (.planned .empty [] [])

/-- A store connected in the first hour is tight. A reading within ten seconds gets it a tighter
client, and a deletion that has ten and a half seconds left later goes to the same one. -/
theorem usedStore_shares :
    Tight World.firstHour.log (.ofRegion "us-east-1") usedStore ∧
      GoesTo ⟨2, [], some 11⟩ (.delete "k") (after usedStore halfASecond) 2 := by
  have connected : (connect ⟨0, [], none⟩ (.ofRegion "us-east-1") .foreign).outcome
      World.firstHour = (.ok _, _) :=
    connect_opened (by decide +kernel)
  have tight {st} (run : Reaches (fun _ _ => True) _ st) :
      Tight World.firstHour.log (.ofRegion "us-east-1") st :=
    tight_of_run connected (by decide +kernel) (by decide +kernel) (by decide +kernel) run
  refine ⟨tight (.step _ .start trivial), ?_⟩
  refine (tight .start).shared ⟨1, [], some 10⟩ (.read "k") 2 ?_ _
    (.step halfASecond .start ⟨nofun, nofun⟩) ⟨2, [], some 11⟩ (.delete "k") ?_ ?_ ?_
  · exact goesTo_of_toOption (c := ⟨2, true⟩) (by decide +kernel) (by decide +kernel)
  · decide +kernel
  · exact ok_of_toOption (by decide +kernel)
  · decide +kernel

end RemoteStore

end SecretVault
