import SecretVault.Proofs.Store.Refinement
import SecretVault.Proofs.Walk

/-!
Walks through the names of a key store. Between two pages anything may happen to the store and to
the world, names may come and go; what is collected is strictly increasing all the same, was there
when its page was listed, and misses nothing that was there all the time. A listing of the vault
passes over an empty name, so the store in the vault does not show one.
-/

namespace SecretVault

variable {T σ : Type} [Seconds T] [Outside T σ]

open SecretVault.Action
open Walk (collected Finished)

/-- How a page is asked for: the store and the world at the time, the context of the call, and its
limit. -/
structure Asking (T σ : Type) where
  store : KeyStore T
  world : World T σ
  ctx : Context T
  limit : Int

namespace Asking

/-- The page is what the store lists from a cursor on. The limit is not zero, and a vault service is
working. -/
structure Lists (service : Service T σ) (start cursor : String) (a : Asking T σ) (page : Page) :
    Prop where
  given : a.limit ≠ 0
  working : a.store.remote?.isSome = true → service.working a.world.outside
  listed : ((KeyStore.list a.ctx start a.limit cursor).outcome (a.store, a.world)).1 = .ok page

/-- Whether there is an entry of the name when the page is asked for. -/
def Has (service : Service T σ) (a : Asking T σ) (name : String) : Prop :=
  match a.store with
  | .memory _ s => (s.find? name).isSome = true
  | .remote _ _ => (service.held a.world.outside name).isSome = true

def shown (service : Service T σ) (a : Asking T σ) : Finset String :=
  match a.store with
  | .memory _ s => s.names.toFinset
  | .remote _ _ => service.shown a.world.outside

def view (service : Service T σ) (a : Asking T σ) : Finset String × Int :=
  (a.shown service, a.limit)

omit [Seconds T] in
/-- All that there is is shown, but for an empty name in the vault. -/
theorem mem_shown {service : Service T σ} {a : Asking T σ}
    (working : a.store.remote?.isSome = true → service.working a.world.outside) {name : String} :
    name ∈ a.shown service ↔
      a.Has service name ∧ (a.store.remote?.isSome = true → name ≠ "") := by
  obtain ⟨store, world, ctx, limit⟩ := a
  cases store with
  | memory label s =>
      have there : name ∈ s.names.toFinset ↔ (s.find? name).isSome = true := by
        rw [List.mem_toFinset, MemoryStore.names]
        exact (isSome_valueUnder? s.entries name).symm
      simp only [shown, Has, there, KeyStore.remote?]
      exact ⟨fun found => ⟨found, nofun⟩, fun found => found.1⟩
  | remote label s =>
      have working' : service.working world.outside := working rfl
      simp only [shown, Has, service.mem_shown working', KeyStore.remote?]
      exact ⟨fun found => ⟨found.2, fun _ => found.1⟩, fun found => ⟨found.2 rfl, found.1⟩⟩

end Asking

/-! ## One page -/

omit [Outside T σ] in
theorem MemoryStore.outcome_list (ctx : Context T) (start : String) (limit : Int) (cursor : String)
    (s : MemoryStore) (w : World T σ) :
    (MemoryStore.list ctx start limit cursor).outcome (s, w) =
      (match ctx.err w.moment with
        | some err => .error (.plain (.context err))
        | none => .ok (Listing.portion s.names.toFinset start limit cursor), s, w) := by
  simp only [MemoryStore.list, MemoryStore.check, outcome_bind, outcome_onSecond,
    World.outcome_check]
  cases ctx.err w.moment with
  | some err => rfl
  | none =>
      rw [← Listing.page_eq_portion]
      rfl

namespace RemoteStore

variable {service : Service T σ} {s : RemoteStore T} {w : World T σ} {ctx : Context T}
  {start cursor : String} {limit : Int}

theorem onRemote_list :
    ((Operation.list start limit cursor).onRemote ctx).outcome (s, w) =
      (((RemoteStore.list ctx start limit cursor).outcome (s, w)).1.map Answer.page,
        ((RemoteStore.list ctx start limit cursor).outcome (s, w)).2) :=
  outcome_bind_pure _ _ _

theorem shown_clientFor (working : service.working w.outside) {operation name : String}
    {result : Except Raised Client} {s₁ : RemoteStore T} {w₁ : World T σ}
    (h : (clientFor ctx operation name).outcome (s, w) = (result, s₁, w₁)) :
    service.working w₁.outside ∧ service.shown w₁.outside = service.shown w.outside := by
  have kept := kept_clientFor ctx operation name (s, w)
  rw [h] at kept
  refine service.shown_passes working (kept.passes.mono ?_)
  exact fun c hc => Call.not_isChange_of_not_isRequest (Call.not_isRequest_of_isUpkeep hc)

/-- A listing that succeeds gives a page of the names that the vault shows. -/
theorem page_of_list (working : service.working w.outside) {page : Page}
    (h : ((RemoteStore.list ctx start limit cursor).outcome (s, w)).1 = .ok page) :
    page = Listing.portion (service.shown w.outside) start limit cursor := by
  have answered : (((Operation.list start limit cursor).onRemote ctx).outcome (s, w)).1 =
      .ok (.page page) := by
    rw [onRemote_list, h]
    rfl
  obtain ⟨client, ⟨s₁, w₁⟩, picked, served⟩ := Operation.onRemote_ok (Prod.ext answered rfl)
  obtain ⟨working', same⟩ := shown_clientFor working picked
  rcases Operation.serve_shown working' served with found | ⟨err, _, failed⟩
  · rw [same] at found
    cases found
    rfl
  · cases failed

theorem list_succeeds (working : service.working w.outside) (ready : Ready s)
    (known : ∃ stale, s.isStale w.wall = .ok stale) (alive : ctx.err w.moment = none)
    (outlives :
      ctx.err ((RemoteStore.list ctx start limit cursor).outcome (s, w)).2.2.moment = none)
    (limited : ∃ limits?, s.options.limits.for? (ctx.remaining
      ((RemoteStore.list ctx start limit cursor).outcome (s, w)).2.2.moment) = .ok limits?) :
    ∃ page, ((RemoteStore.list ctx start limit cursor).outcome (s, w)).1 = .ok page := by
  have same : (((Operation.list start limit cursor).onRemote ctx).outcome (s, w)).2 =
      ((RemoteStore.list ctx start limit cursor).outcome (s, w)).2 := by
    rw [onRemote_list]
  rw [← same] at outlives limited
  obtain ⟨client, s₁, w₁, result, w', upkeep, _, served, hresult, hafter⟩ :=
    Operation.onRemote_served working ready known alive limited
  rw [hafter] at outlives
  obtain ⟨working', _⟩ := service.shown_passes working (upkeep.mono fun c hc =>
    Call.not_isChange_of_not_isRequest (Call.not_isRequest_of_isUpkeep hc))
  rcases Operation.serve_shown working' served with rfl | ⟨err, late, _⟩
  · rw [onRemote_list] at hresult
    cases hlist : ((RemoteStore.list ctx start limit cursor).outcome (s, w)).1 with
    | ok page => exact ⟨page, rfl⟩
    | error raised =>
        rw [hlist] at hresult
        cases hresult
  · rw [outlives] at late
    cases late

end RemoteStore

namespace Asking

variable {service : Service T σ} {start cursor : String} {a : Asking T σ}

theorem Lists.portions {page : Page} (h : a.Lists service start cursor page) :
    Listing.Portions start cursor (a.view service) page := by
  obtain ⟨given, working, listed⟩ := h
  refine ⟨given, ?_⟩
  obtain ⟨store, world, ctx, limit⟩ := a
  cases store with
  | memory label s =>
      have listed' : ((MemoryStore.list ctx start limit cursor).outcome (s, world)).1 = .ok page :=
        listed
      rw [MemoryStore.outcome_list] at listed'
      cases alive : ctx.err world.moment with
      | some err =>
          rw [alive] at listed'
          cases listed'
      | none =>
          rw [alive] at listed'
          cases listed'
          rfl
  | remote label s => exact RemoteStore.page_of_list (working rfl) listed

/-- The page can be had: the call is permitted, and a store in the vault is open, in front of a
working service. -/
structure Able (service : Service T σ) (start cursor : String) (a : Asking T σ) : Prop where
  given : a.limit ≠ 0
  permitted : KeyStore.Permitted (a.store, a.world) a.ctx (.list start a.limit cursor)
  served : ∀ s ∈ a.store.remote?, s.Ready ∧ service.working a.world.outside

theorem Able.lists (able : a.Able service start cursor) :
    ∃ page, a.Lists service start cursor page := by
  obtain ⟨given, permitted, served⟩ := able
  obtain ⟨store, world, ctx, limit⟩ := a
  cases store with
  | memory label s =>
      have listed : (MemoryStore.list ctx start limit cursor).outcome (s, world) =
          (.ok (Listing.portion s.names.toFinset start limit cursor), s, world) := by
        rw [MemoryStore.outcome_list, show ctx.err world.moment = none from permitted.alive]
      exact ⟨_, given, nofun, congrArg Prod.fst listed⟩
  | remote label s =>
      obtain ⟨ready, working⟩ := served s rfl
      have outlives := permitted.outlives
      have limited := permitted.limited s rfl
      rw [KeyStore.step, Operation.outcome_perform_remote, RemoteStore.onRemote_list]
        at outlives limited
      obtain ⟨page, listed⟩ := RemoteStore.list_succeeds working ready (permitted.known s rfl)
        permitted.alive outlives limited
      exact ⟨page, given, fun _ => working, listed⟩

end Asking

/-! ## Walks -/

structure ExactWalk (service : Service T σ) (start : String) (pages : List (Asking T σ × Page)) :
    Prop where
  increasing : (collected pages).Pairwise (· < ·)
  sound : ∀ v ∈ pages, ∀ name ∈ v.2.names, start.toList <+: name.toList ∧ v.1.Has service name
  /-- What is there for all the pages is collected once, but for an empty name in the vault. -/
  complete : Finished pages → ∀ name, start.toList <+: name.toList →
    (∀ v ∈ pages, v.1.Has service name ∧ (v.1.store.remote?.isSome = true → name ≠ "")) →
    (collected pages).count name = 1
  /-- With one limit, and while the names stay the same, the walk ends after so many pages as they
  need, and has then collected them in order. -/
  steady : ∀ (names : Finset String) (limit : Nat), 0 < limit →
    (∀ v ∈ pages, v.1.limit = limit ∧ ∀ name, name ∈ names ↔
      v.1.Has service name ∧ (v.1.store.remote?.isSome = true → name ≠ "")) →
    pages.length ≤ max 1 ((names.filter (start.toList <+: ·.toList)).card ⌈/⌉ limit) ∧
    (Finished pages ↔
      pages.length = max 1 ((names.filter (start.toList <+: ·.toList)).card ⌈/⌉ limit)) ∧
    (Finished pages → collected pages = (names.filter (start.toList <+: ·.toList)).sort)
  /-- Until it has ended the walk can go on. -/
  going : ¬ Finished pages → ∀ a : Asking T σ, a.Able service start (Walk.reached "" pages) →
    ∃ page, Walk (Asking.Lists service start) "" (pages ++ [(a, page)])

/-- A walk through the names of a store is exact, whatever happens between its pages. -/
theorem walk_exact (service : Service T σ) {start : String} {pages : List (Asking T σ × Page)}
    (walk : Walk (Asking.Lists service start) "" pages) : ExactWalk service start pages := by
  -- the same walk, of which only what is shown and the limits are seen
  have seen := walk.map (Asking.view service) fun _ _ _ h => h.portions
  have shown (v) (hv : v ∈ pages) (name : String) : name ∈ v.1.shown service ↔
      v.1.Has service name ∧ (v.1.store.remote?.isSome = true → name ≠ "") := by
    obtain ⟨cursor, listed⟩ := walk.listed v hv
    exact Asking.mem_shown listed.working
  have increasing : (collected pages).Pairwise (· < ·) := by
    rw [← Walk.collected_map (Asking.view service)]
    exact Listing.collected_pairwise seen
  refine ⟨increasing, ?_, ?_, ?_, ?_⟩
  · intro v hv name hname
    obtain ⟨there, begins⟩ := Listing.mem_of_mem_page seen _ (List.mem_map_of_mem hv) name hname
    exact ⟨begins, ((shown v hv name).mp there).1⟩
  · intro finished name begins always
    apply List.count_eq_one_of_mem (increasing.imp fun h => ne_of_lt h)
    rw [← Walk.collected_map (Asking.view service)]
    apply Listing.mem_collected_of_forall begins seen
      ((Walk.finished_map (Asking.view service)).mpr finished) (Listing.empty_le name)
    intro v' hv'
    obtain ⟨v, hv, rfl⟩ := List.mem_map.mp hv'
    exact (shown v hv name).mpr (always v hv)
  · intro names limit positive same
    have unchanged : ∀ v ∈ pages.map fun v => (v.1.view service, v.2),
        v.1 = (names, (limit : Int)) := by
      intro v' hv'
      obtain ⟨v, hv, rfl⟩ := List.mem_map.mp hv'
      obtain ⟨hlimit, hnames⟩ := same v hv
      refine Prod.ext ?_ hlimit
      ext name
      exact (shown v hv name).trans (hnames name).symm
    obtain ⟨length_le, finished_iff, collected_eq⟩ := Listing.steady positive seen unchanged
    rw [Walk.finished_map (Asking.view service)] at finished_iff collected_eq
    rw [Walk.collected_map (Asking.view service)] at collected_eq
    rw [List.length_map, Listing.found_empty, Finset.length_sort, Listing.pagesFor]
      at length_le finished_iff
    rw [Listing.found_empty] at collected_eq
    exact ⟨length_le, finished_iff, collected_eq⟩
  · intro unfinished a able
    obtain ⟨page, listed⟩ := able.lists
    exact ⟨page, walk.concat unfinished listed⟩

/-! ## Concrete walks -/

def Asking.ofNames (names : List String) (limit : Int) : Asking Rat (Rehearsal Rat) where
  store := .remote "SecretsManagerStore" (.lasting (66 * Calendar.minute))
  world := .starting (60 * Calendar.minute)
    (.planned ⟨names.map fun name => (name, .binary [0])⟩ [] [])
  ctx := KeyStore.endless
  limit := limit

theorem Asking.lists_ofNames {names : List String} {start cursor : String} {limit : Int}
    {page : Page} (given : limit ≠ 0)
    (listed : ((KeyStore.list KeyStore.endless start limit cursor).outcome
      ((ofNames names limit).store, (ofNames names limit).world)).1.toOption = some page) :
    (ofNames names limit).Lists Rehearsal.service start cursor page :=
  ⟨given, fun _ => ⟨rfl, rfl⟩, ok_of_toOption listed⟩

/-- Between two pages the name that the cursor refers to is deleted, and another one is created. -/
theorem walk_past_changes :
    ∃ pages : List (Asking Rat (Rehearsal Rat) × Page),
      Walk (Asking.Lists Rehearsal.service "") "" pages ∧ Finished pages ∧
      ExactWalk Rehearsal.service "" pages ∧ collected pages = ["a", "c", "d"] := by
  have walk : Walk (Asking.Lists Rehearsal.service "") ""
      [(Asking.ofNames ["a", "b", "c"] 1, ⟨["a"], "b"⟩),
        (Asking.ofNames ["a", "c", "d"] 2, ⟨["c", "d"], ""⟩)] :=
    .more (Asking.lists_ofNames (by decide) (by decide +kernel)) (by decide)
      (.last (Asking.lists_ofNames (by decide) (by decide +kernel)) rfl)
  exact ⟨_, walk, rfl, walk_exact Rehearsal.service walk, rfl⟩

/-- A vault that holds a secret under an empty name all the time never shows it. -/
theorem empty_name_not_listed :
    ∃ pages : List (Asking Rat (Rehearsal Rat) × Page),
      Walk (Asking.Lists Rehearsal.service "") "" pages ∧ Finished pages ∧
      (∀ v ∈ pages, v.1.Has Rehearsal.service "") ∧ (collected pages).count "" = 0 := by
  have walk : Walk (Asking.Lists Rehearsal.service "") ""
      [(Asking.ofNames [""] 1, ⟨[], ""⟩)] :=
    .last (Asking.lists_ofNames (by decide) (by decide +kernel)) rfl
  refine ⟨_, walk, rfl, ?_, rfl⟩
  intro v hv
  obtain rfl := List.mem_singleton.mp hv
  rfl

end SecretVault
