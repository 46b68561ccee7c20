import SecretVault.Proofs.Limits.Budgets
import SecretVault.Proofs.Remote.Ledger

/-!
The tighter clients that a store builds for deadlines, over whole runs. Each is kept under the very
limits that it was built with, and these are never the configured ones. With exact seconds there are
few of them, whatever times were left, and operations with the same budget share one as long as
nothing is refreshed or closed.
-/

namespace SecretVault

variable {T σ : Type} [Seconds T] [Outside T σ]

open SecretVault.Action World

namespace RemoteStore

variable {s s' : RemoteStore T} {w w' : World T σ} {before log : List (Logged T)}

/-! ## What clients are built with -/

/-- After the entries before, the client was built with these limits. -/
def BuiltSince (before log : List (Logged T)) (id : Nat) (limits : Limits T) : Prop :=
  ∃ calls, log = before ++ calls ∧ ∃ e ∈ calls, e.succeeded = true ∧
    ∃ session endpoint, e.call = .client session id endpoint limits

omit [Seconds T] [Outside T σ] in
theorem BuiltSince.mono {P : Logged T → Prop} {id : Nat} {limits : Limits T}
    (h : BuiltSince before w.log id limits) (grows : Logs P w w') :
    BuiltSince before w'.log id limits := by
  obtain ⟨calls, hlog, e, he, built⟩ := h
  obtain ⟨more, hmore, _⟩ := grows
  refine ⟨calls ++ more, ?_, e, List.mem_append_left more he, built⟩
  rw [hmore, hlog, List.append_assoc]

omit [Seconds T] in
theorem BuiltSince.of_mem {more : List (Logged T)} {e : Logged T} {session id : Nat}
    {endpoint : Option Value} {limits : Limits T} (since : before <+: log) (he : e ∈ more)
    (succeeded : e.succeeded = true) (hcall : e.call = .client session id endpoint limits) :
    BuiltSince before (log ++ more) id limits := by
  obtain ⟨calls, rfl⟩ := since
  exact ⟨calls ++ more, by rw [List.append_assoc], e, List.mem_append_right calls he, succeeded,
    session, endpoint, hcall⟩

/-- The configured client was built with the configured limits, and each tighter one with those that
it is kept under. These are limits that some time left asks for, and no two of them are the same. -/
structure Cached (before : List (Logged T)) (s : RemoteStore T) (w : World T σ) : Prop where
  since : before <+: w.log
  configured : ∀ c, s.client = some c → BuiltSince before w.log c.id s.options.limits
  keyed : ∀ entry ∈ s.bounded, BuiltSince before w.log entry.2.id entry.1
  within : ∀ entry ∈ s.bounded, ∃ remaining,
    s.options.limits.within? remaining = .ok (some entry.1)
  distinct : s.bounded.Pairwise fun a b => a.1.same b.1 = false

omit [Outside T σ] in
theorem Cached.mono {P : Logged T → Prop} (h : Cached before s w) (grows : Logs P w w') :
    Cached before s w' where
  since := by
    obtain ⟨more, hmore, _⟩ := grows
    rw [hmore]
    exact h.since.trans (List.prefix_append _ _)
  configured c hc := (h.configured c hc).mono grows
  keyed entry hentry := (h.keyed entry hentry).mono grows
  within := h.within
  distinct := h.distinct

omit [Outside T σ] in
theorem Cached.of_nil (since : before <+: w.log)
    (configured : ∀ c, s.client = some c → BuiltSince before w.log c.id s.options.limits)
    (none_kept : s.bounded = []) : Cached before s w where
  since := since
  configured := configured
  keyed := by simp [none_kept]
  within := by simp [none_kept]
  distinct := by simp [none_kept]

/-! ## Steps -/

theorem Rebuilt.kept {result : Except Raised Client} (h : Rebuilt s w result s' w') :
    Kept (s, w) (s', w') := by
  have kept := kept_newClient (s, w)
  rwa [h.outcome] at kept

omit [Outside T σ] in
theorem Built.cached {c : Client} (h : Built { s with bounded := [] } w c s' w')
    (since : before <+: w.log) : Cached before { s' with client := some c } w' := by
  obtain ⟨search, opening, building, hlog, _, _, _, ⟨endpoint, hbuilding⟩, succeeded⟩ := h.log_eq
  have store_eq := h.store_eq
  have hlog' : w'.log = w.log ++ (search ++ [opening] ++ [building]) := by
    rw [hlog]
    simp only [List.append_assoc]
  apply Cached.of_nil
  · rw [hlog']
    exact since.trans (List.prefix_append _ _)
  · intro d hd
    obtain rfl : c = d := Option.some.inj hd
    rw [hlog', store_eq]
    exact .of_mem since (by simp) succeeded hbuilding
  · rw [store_eq]
    rfl

omit [Seconds T] [Outside T σ] in
theorem Closing.logs {clients : List Client} {result : Except Raised Unit}
    (h : Closing clients w result w') : Logs (fun _ => True) w w' := by
  obtain ⟨calls, _, hlog, _⟩ := h.log_eq
  exact ⟨calls, hlog, fun _ _ => trivial⟩

theorem Accessed.keepsCached {result : Except Raised (Option Client)}
    (h : Accessed s w result s' w') (cached : Cached before s w) : Cached before s' w' := by
  have replaced {c : Client} {s₁ : RemoteStore T} {w₁ w₂ : World T σ} {result : Except Raised Unit}
      (rebuilt : Rebuilt { s with bounded := [] } w (.ok c) s₁ w₁)
      (closing : (closeAll s.held).outcome ({ s₁ with client := some c }, w₁) =
        (result, { s₁ with client := some c }, w₂)) :
      Cached before { s₁ with client := some c } w₂ := by
    obtain ⟨result, w₃, hclose, closed⟩ := closing_closeAll s.held { s₁ with client := some c } w₁
    rw [closing] at hclose
    cases hclose
    exact (rebuilt.built.cached cached.since).mono closed.logs
  cases h with
  | unknown => exact cached
  | kept => exact cached
  | failed _ rebuilt =>
      -- the tighter clients are given up, and the configured one stays
      have kept := rebuilt.kept
      have unbuilt := rebuilt.unbuilt
      have options_eq : s'.options = s.options := kept.options_eq
      have client_eq : s'.client = s.client := unbuilt.client_eq
      have grown := cached.mono kept.passes.logs
      refine .of_nil grown.since ?_ unbuilt.bounded_eq
      rw [client_eq, options_eq]
      exact grown.configured
  | unclosed _ rebuilt closing => exact replaced rebuilt closing
  | refreshed _ rebuilt closing => exact replaced rebuilt closing

omit [Outside T σ] in
theorem not_same_of_boundedClient? {limits : Limits T} (h : s.boundedClient? limits = none) :
    ∀ entry ∈ s.bounded, entry.1.same limits = false := by
  intro entry hentry
  simpa using List.find?_eq_none.mp (Option.map_eq_none_iff.mp h) entry hentry

/-- A client that is built with limits that are not kept yet joins those that are. -/
theorem Cached.build {session : Nat} {limits : Limits T} {remaining : Option T} {d : Client}
    (cached : Cached before s w)
    (limited : s.options.limits.for? remaining = .ok (some limits))
    (new : s.boundedClient? limits = none)
    (built : (build session limits).outcome (s, w) = (.ok d, s, w')) :
    Cached before { s with bounded := s.bounded ++ [(limits, d)] } w' := by
  obtain ⟨_, hid, endpoint, _, hbuilt, rfl⟩ := build_ok built
  have called : Logs (fun _ => True) w
      (w.afterCall (.client session (w.clients + 1) endpoint limits)) :=
    .afterCall _ trivial
  have grown := cached.mono called
  refine ⟨grown.since, grown.configured, ?_, ?_, ?_⟩
  · intro entry hentry
    rcases List.mem_append.mp hentry with earlier | last
    · exact grown.keyed entry earlier
    · obtain rfl := List.mem_singleton.mp last
      have succeeded :
          (w.entryOf (.client session (w.clients + 1) endpoint limits)).succeeded = true := by
        rw [succeeded_entryOf, hbuilt]
        rfl
      have hcall : (w.entryOf (.client session (w.clients + 1) endpoint limits)).call =
          .client session d.id endpoint limits := by
        rw [call_entryOf, hid]
      exact .of_mem cached.since List.mem_cons_self succeeded hcall
  · intro entry hentry
    rcases List.mem_append.mp hentry with earlier | last
    · exact cached.within entry earlier
    · obtain rfl := List.mem_singleton.mp last
      cases remaining with
      | none => cases limited
      | some left => exact ⟨left, limited⟩
  · refine List.pairwise_append.mpr ⟨cached.distinct, List.pairwise_singleton _ _, ?_⟩
    intro entry hentry other hother
    obtain rfl := List.mem_singleton.mp hother
    exact not_same_of_boundedClient? new entry hentry

theorem Picked.keepsCached {ctx : Context T} {operation name : String}
    {result : Except Raised Client} (h : Picked ctx operation name s w result s' w')
    (cached : Cached before s w) : Cached before s' w' := by
  have accessed {fresh : Except Raised (Option Client)} {s₁ : RemoteStore T} {w₁ : World T σ}
      (access : freshClient.outcome (s, w) = (fresh, s₁, w₁)) : Cached before s₁ w₁ :=
    (accessed_freshClient s w access).keepsCached cached
  cases h with
  | refused access => exact accessed access
  | noLimits access => exact accessed access
  | closed access => exact accessed access
  | configured access => exact accessed access
  | cached access => exact accessed access
  | unbuilt access _ _ _ _ failed =>
      obtain ⟨_, _, _, failing⟩ := build_error failed
      exact (accessed access).mono failing
  | built access limited _ _ new build => exact (accessed access).build limited new build

theorem Operated.keepsCached {ctx : Context T} {op : Operation} (h : Operated ctx op s w s' w')
    (cached : Cached before s w) : Cached before s' w' := by
  cases h with
  | late => exact cached
  | refused _ picked => exact picked.keepsCached cached
  | served _ picked sent => exact (picked.keepsCached cached).mono sent.passes.logs

theorem Cached.closed {result : Except Raised Unit} (cached : Cached before s w)
    (h : close.outcome (s, w) = (result, s', w')) : Cached before s' w' := by
  obtain ⟨found, last, houtcome, idle, closes⟩ := closed_close s w
  rw [h] at houtcome
  cases houtcome
  by_cases hclient : s.client = none
  · obtain ⟨-, rfl⟩ := idle hclient
    exact .of_nil cached.since nofun rfl
  · exact .of_nil (cached.mono (closes hclient).logs).since nofun rfl

theorem Cached.after {st : RemoteStore T × World T σ} (cached : Cached before st.1 st.2)
    (event : Event T σ) : Cached before (after st event).1 (after st event).2 := by
  obtain ⟨s, w⟩ := st
  cases event with
  | operate ctx op => exact (operated_onRemote ctx op s w).keepsCached cached
  | look ctx =>
      have sent := sending_status ctx (s, w)
      rcases h : ((status ctx).outcome (s, w)).2 with ⟨s', w'⟩
      rw [h] at sent
      obtain rfl : s' = s := sent.store_eq
      rw [RemoteStore.after, h]
      exact cached.mono sent.passes.logs
  | access =>
      rcases h : freshClient.outcome (s, w) with ⟨result, s', w'⟩
      rw [RemoteStore.after, h]
      exact (accessed_freshClient s w h).keepsCached cached
  | close =>
      rcases h : close.outcome (s, w) with ⟨result, s', w'⟩
      rw [RemoteStore.after, h]
      exact cached.closed h
  | meanwhile moment host outside =>
      exact ⟨cached.since, cached.configured, cached.keyed, cached.within, cached.distinct⟩

/-- In every run of a store that was connected, the tighter clients are in order. -/
theorem Connected.cached_run {options : Options T} {resolver : Resolver} {w₀ w₁ : World T σ}
    {s₀ : RemoteStore T} {allowed : RemoteStore T × World T σ → Event T σ → Prop}
    {st : RemoteStore T × World T σ} (connected : Connected options resolver w₀ s₀ w₁)
    (run : Reaches allowed (s₀, w₁) st) : Cached w₀.log st.1 st.2 := by
  induction run with
  | start =>
      obtain ⟨c, s₁, w₂, built, rfl, probed⟩ := connected.built
      have anew : Built { unconnected options resolver with bounded := [] } w₀ c s₁ w₂ := built
      exact (anew.cached (List.prefix_refl _)).mono probed.passes.logs
  | step event _ _ ih => exact ih.after event

end RemoteStore

end SecretVault
