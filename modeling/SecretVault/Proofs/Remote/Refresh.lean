import SecretVault.Proofs.Remote.Run
import SecretVault.Proofs.World.Rehearsing

/-!
What a store is left with when its credentials are due and the client cannot be built anew. The
tighter clients are given up and the credentials just found are kept before anything can fail, so
the store is as before only if there were no tighter clients, the same credentials were found again
and no session was opened with them.
-/

namespace SecretVault.RemoteStore

variable {T σ : Type} [Seconds T] [Outside T σ]

open SecretVault.Action World

variable {s s' : RemoteStore T} {w w' : World T σ}

/-! ## Where a rebuilding can fail -/

/-- The store that a failed refresh leaves: the tighter clients are gone, the credentials are those
that were found, and the session is a new one if one was opened. -/
theorem Rebuilt.failed {raised : Raised} {sources : List Source}
    (h : Rebuilt { s with bounded := [] } w (.error raised) s' w')
    (chain : s.resolver = .chain sources) :
    ∃ found w₁, (resolve s.resolver).outcome w = (.ok found, w₁) ∧
      ((∃ e, (w₁.reply (.session (w₁.sessions + 1) s.options.region found)).result = .error e ∧
          s' = { s with bounded := [], credentials := found }) ∨
        (w₁.reply (.session (w₁.sessions + 1) s.options.region found)).result = .ok () ∧
          s' = { s with
            bounded := [], credentials := found, session := some (w₁.sessions + 1) }) := by
  cases h with
  | noResolver unusable =>
      change s.resolver = .unusable at unusable
      rw [chain] at unusable
      cases unusable
  | @noSession found w₁ e search refused => exact ⟨found, w₁, search, .inl ⟨e, refused, rfl⟩⟩
  | @noClient found w₁ raised w₂ search opened failed =>
      exact ⟨found, w₁, search, .inr ⟨opened, rfl⟩⟩

/-! ## Atomic refreshes -/

/-- What a refresh that fails is to leave: the store as it was, so that its credentials are as due
as before, no client that is still open is dropped, and the client goes with the credentials and
the session that it went with. -/
structure Atomic (s : RemoteStore T) (w : World T σ) (s' : RemoteStore T) (w' : World T σ) :
    Prop where
  unchanged : s' = s
  retried : ∀ clock, s'.isStale clock = s.isStale clock
  kept : ∀ c ∈ s.held, c ∈ s'.held ∨ ∃ calls, w'.log = w.log ++ calls ∧ c.id ∈ Log.closed calls
  paired : s'.client = s.client → s'.credentials = s.credentials ∧ s'.session = s.session

omit [Seconds T] [Outside T σ] in
theorem Atomic.of_eq (h : s' = s) : Atomic s w s' w' := by
  subst h
  exact ⟨rfl, fun _ => rfl, fun _ hc => .inl hc, fun _ => ⟨rfl, rfl⟩⟩

theorem freshClient_of_newClient {raised : Raised} (due : s.isStale w.wall = .ok true)
    (failed : newClient.outcome ({ s with bounded := [] }, w) = (.error raised, s', w')) :
    freshClient.outcome (s, w) = (.error raised, s', w') := by
  simp only [freshClient, outcome_bind, outcome_get, outcome_ofFault, due, mapError_ok, if_true,
    outcome_update, failed]

/-- A rebuilding that fails is atomic exactly if there were no tighter clients, the credentials are
those from before, and no session was opened. -/
theorem Rebuilt.atomic_iff {raised : Raised} {found : Option Credentials} {w₂ : World T σ}
    (h : Rebuilt { s with bounded := [] } w (.error raised) s' w')
    (search : (resolve s.resolver).outcome w = (.ok found, w₂))
    (left : (∃ e,
        (w₂.reply (.session (w₂.sessions + 1) s.options.region found)).result = .error e ∧
          s' = { s with bounded := [], credentials := found }) ∨
      (w₂.reply (.session (w₂.sessions + 1) s.options.region found)).result = .ok () ∧
        s' = { s with
          bounded := [], credentials := found, session := some (w₂.sessions + 1) })
    (numbered : ∀ n, s.session = some n → n ≤ w.sessions) :
    Atomic s w s' w' ↔ s.bounded = [] ∧ found = s.credentials ∧
      ∃ e, (w₂.reply (.session (w₂.sessions + 1) s.options.region found)).result = .error e := by
  have bounded_eq : s'.bounded = [] := h.unbuilt.bounded_eq
  have credentials_eq : s'.credentials = found := by
    rcases left with ⟨_, _, rfl⟩ | ⟨_, rfl⟩ <;> rfl
  constructor
  · intro atomic
    have same := atomic.unchanged
    refine ⟨by rw [← same, bounded_eq], by rw [← credentials_eq, same], ?_⟩
    rcases left with ⟨e, refused, _⟩ | ⟨_, hs'⟩
    · exact ⟨e, refused⟩
    · -- the number of a session just opened is new
      have session_le := numbered (w₂.sessions + 1) (by rw [← same, hs'])
      rw [(searched_of_resolve _ search).sessions_eq] at session_le
      omega
  · rintro ⟨hbounded, hfound, e, refused⟩
    rcases left with ⟨_, _, hs'⟩ | ⟨opened, _⟩
    · apply Atomic.of_eq
      rw [hs', hfound, ← hbounded]
    · rw [refused] at opened
      cases opened

theorem Rebuilt.dropped_iff {raised : Raised} {client c : Client}
    (h : Rebuilt { s with bounded := [] } w (.error raised) s' w')
    (hclient : s.client = some client) (distinct : s.heldIds.Nodup) (hc : c ∈ s.held) :
    (c ∉ s'.held ∧ ∀ calls, w'.log = w.log ++ calls → c.id ∉ Log.closed calls) ↔
      c ∈ s.bounded.map (·.2) := by
  have client_eq : s'.client = s.client := h.unbuilt.client_eq
  have bounded_eq : s'.bounded = [] := h.unbuilt.bounded_eq
  have held_eq : s'.held = [client] := by
    rw [held, client_eq, hclient, bounded_eq]
    rfl
  rw [heldIds_eq, hclient, Option.toList_some, List.map_singleton, List.singleton_append,
    List.nodup_cons] at distinct
  rw [held, hclient] at hc
  rw [held_eq]
  constructor
  · rintro ⟨dropped, _⟩
    exact (List.mem_append.mp hc).resolve_left dropped
  · intro tighter
    constructor
    · intro same
      obtain rfl := List.mem_singleton.mp same
      obtain ⟨entry, hentry, hclient⟩ := List.mem_map.mp tighter
      exact distinct.1 (List.mem_map.mpr ⟨entry, hentry, congrArg Client.id hclient⟩)
    · -- whatever failed, nothing was closed before it
      intro calls hlog
      rw [Log.closed_quiet (h.unbuilt.quiet.of_log_eq hlog)]
      exact List.not_mem_nil

/-- A refresh that fails while the client is built anew is atomic exactly if the store held no
tighter clients, the resolver found the credentials that the store had, and no session could be
opened with them. It always keeps the client and takes the credentials that were found, so a later
look retries it exactly if those are due, and it drops the tighter clients and no others. -/
theorem failed_refresh_atomic_iff {ctx : Context T} {options : Options T} {resolver : Resolver}
    {w₀ w₁ : World T σ} {s₀ : RemoteStore T} {raised : Raised}
    (connected : (connect ctx options resolver).outcome w₀ = (.ok s₀, w₁))
    (run : Reaches (fun _ _ => True) (s₀, w₁) (s, w)) (due : s.isStale w.wall = .ok true)
    (failed : newClient.outcome ({ s with bounded := [] }, w) = (.error raised, s', w')) :
    freshClient.outcome (s, w) = (.error raised, s', w') ∧
      ∃ found w₂, (resolve s.resolver).outcome w = (.ok found, w₂) ∧
        (Atomic s w s' w' ↔ s.bounded = [] ∧ found = s.credentials ∧
          ∃ e, (w₂.reply (.session (w₂.sessions + 1) s.options.region found)).result = .error e) ∧
        s'.client = s.client ∧ s'.credentials = found ∧
        (∀ clock, s'.isStale clock = .ok true ↔ ∃ c, found = some c ∧ c.expired clock = .ok true) ∧
        ∀ c ∈ s.held, (c ∉ s'.held ∧ ∀ calls, w'.log = w.log ++ calls → c.id ∉ Log.closed calls) ↔
          c ∈ s.bounded.map (·.2) := by
  have opened := connected_connect connected
  obtain ⟨calls, _, sound⟩ := opened.sound_run run
  obtain ⟨sources, chain⟩ : ∃ sources, s.resolver = .chain sources := by
    cases hres : s.resolver with
    | chain sources => exact ⟨sources, rfl⟩
    | unusable => exact absurd hres (opened.usable run)
  have rebuilt := rebuilt_newClient _ _ failed
  obtain ⟨found, w₂, search, left⟩ := rebuilt.failed chain
  have client_eq : s'.client = s.client := rebuilt.unbuilt.client_eq
  have credentials_eq : s'.credentials = found := by
    rcases left with ⟨_, _, rfl⟩ | ⟨_, rfl⟩ <;> rfl
  obtain ⟨client, hclient⟩ : ∃ client, s.client = some client := by
    cases hclient : s.client with
    | some client => exact ⟨client, rfl⟩
    | none =>
        rw [isStale, hclient] at due
        cases due
  refine ⟨freshClient_of_newClient due failed, found, w₂, search, ?_, client_eq, credentials_eq,
    ?_, ?_⟩
  · exact rebuilt.atomic_iff search left sound.session_le
  · intro clock
    rw [isStale, client_eq, hclient, credentials_eq]
    cases found <;> simp
  · intro c hc
    exact rebuilt.dropped_iff hclient sound.books.owned_nodup hc

/-! ## A refresh that is not atomic -/

/-- A store connected in the first hour, that has read once within ten seconds and so holds a
tighter client. An hour later no session can be opened. -/
def lateStore : RemoteStore Rat × World Rat (Rehearsal Rat) :=
  [.operate ⟨1, [], some 10⟩ (.read "k"),
    .meanwhile ⟨3600, []⟩ .empty (.planned .empty [.ok (some (.lasting (120 * Calendar.minute)))]
      [⟨.session, none, none, some .unspecified, none⟩])].foldl after
    (opened ⟨0, [], none⟩ (.ofRegion "us-east-1") .foreign firstHour)

theorem lateStore_due : lateStore.1.isStale lateStore.2.wall = .ok true :=
  ok_of_toOption (by decide +kernel)

theorem lateStore_fails :
    ∃ raised s' w', newClient.outcome ({ lateStore.1 with bounded := [] }, lateStore.2) =
      (.error raised, s', w') := by
  obtain ⟨raised, h⟩ := error_of_isOk (x :=
    (newClient.outcome ({ lateStore.1 with bounded := [] }, lateStore.2)).1) (by decide +kernel)
  exact ⟨raised, _, _, Prod.ext h rfl⟩

/-- The late store is reached from a connection, and the refresh that fails there is not atomic: the
tighter client is gone. -/
theorem refresh_drops_client :
    ∃ s₀ w₁ raised s' w',
      (connect ⟨0, [], none⟩ (.ofRegion "us-east-1") .foreign).outcome firstHour =
        (.ok s₀, w₁) ∧
      Reaches (fun _ _ => True) (s₀, w₁) lateStore ∧
      lateStore.1.isStale lateStore.2.wall = .ok true ∧
      newClient.outcome ({ lateStore.1 with bounded := [] }, lateStore.2) =
        (.error raised, s', w') ∧
      ¬ Atomic lateStore.1 lateStore.2 s' w' := by
  obtain ⟨raised, s', w', failed⟩ := lateStore_fails
  refine ⟨_, _, raised, s', w', connect_opened (by decide +kernel), .foldl .start _, lateStore_due,
    failed, ?_⟩
  intro atomic
  have before : lateStore.1.heldIds = [1, 2] := by decide +kernel
  have left : (newClient.outcome ({ lateStore.1 with bounded := [] }, lateStore.2)).2.1.heldIds =
      [1] := by
    decide +kernel
  rw [failed, atomic.unchanged, before] at left
  cases left

/-- What becomes of the late store: the look fails, and the client that is dropped unclosed is the
tighter one. -/
theorem lateStore_refresh :
    ∃ raised s' w', freshClient.outcome lateStore = (.error raised, s', w') ∧
      s'.client = lateStore.1.client ∧
      ∀ c ∈ lateStore.1.held,
        (c ∉ s'.held ∧ ∀ calls, w'.log = lateStore.2.log ++ calls → c.id ∉ Log.closed calls) ↔
          c ∈ lateStore.1.bounded.map (·.2) := by
  obtain ⟨raised, s', w', failed⟩ := lateStore_fails
  have connected : (connect ⟨0, [], none⟩ (.ofRegion "us-east-1") .foreign).outcome firstHour =
      (.ok _, _) :=
    connect_opened (by decide +kernel)
  obtain ⟨access, found, w₂, _, _, client_eq, _, _, dropped⟩ :=
    failed_refresh_atomic_iff connected (.foldl .start _) lateStore_due failed
  exact ⟨raised, s', w', access, client_eq, dropped⟩

end SecretVault.RemoteStore
