import SecretVault.Proofs.Limits
import SecretVault.Proofs.Remote.Run
import SecretVault.Proofs.Store.Contents
import SecretVault.Proofs.World.Service

/-!
A store in front of a working vault service. Its clients can always be had, whatever refreshes and
deadlines ask for, and each operation brings what it brings on the map that the vault stands for.
-/

namespace SecretVault

variable {T σ : Type} [Seconds T] [Outside T σ]

open SecretVault.Action World

namespace RemoteStore

variable {s s' : RemoteStore T} {w w' : World T σ}

/-! ## Clients can be had -/

/-- Clients can be built: the endpoint is a text, and the number of attempts is not negative. -/
def Buildable (options : Options T) : Prop :=
  (∃ endpoint, options.clientEndpoint = .ok endpoint) ∧ 0 ≤ options.limits.attempts

/-- The store is open. If it was given its client, it has no session and no credentials, and builds
no client of its own. -/
structure Ready (s : RemoteStore T) : Prop where
  client : s.client.isSome = true
  able : s.session.isSome = true ∨ s.credentials.isSome = true →
    Buildable s.options ∧ s.resolver ≠ .unusable

theorem build_succeeds (service : Service T σ) (working : service.working w.outside)
    {endpoint : Option Value} (hendpoint : s.options.clientEndpoint = .ok endpoint)
    {limits : Limits T} (hattempts : 0 ≤ limits.attempts) (session : Nat) :
    ∃ c w', (build session limits).outcome (s, w) = (.ok c, s, w') := by
  obtain ⟨closable, hbuilt⟩ :=
    service.client_builds session (w.clients + 1) endpoint limits working
  have built : (w.reply (.client session (w.clients + 1) endpoint limits)).result = .ok closable :=
    hbuilt
  simp only [outcome_build, hendpoint, Int.not_lt.mpr hattempts, if_false, outcome_buildClient,
    built]
  exact ⟨_, _, rfl⟩

theorem closeAll_succeeds (service : Service T σ) (working : service.working w.outside)
    (clients : List Client) (s : RemoteStore T) :
    ∃ w', (closeAll clients).outcome (s, w) = (.ok (), s, w') := by
  induction clients generalizing w with
  | nil => exact ⟨w, rfl⟩
  | cons c rest ih =>
      simp only [closeAll, outcome_bind, outcome_outward, outcome_closeClient]
      by_cases hc : c.closable = true
      · have closed : (w.reply (.close c.id)).result = .ok () :=
          service.client_closes c.id working
        simp only [hc, if_true, outcome_perform w (.close c.id), closed, mapError_ok]
        exact ih (service.working_answer (.close c.id) working)
      · simp only [hc]
        exact ih working

theorem working_of_resolve {service : Service T σ} (working : service.working w.outside)
    {found : Option Credentials} {resolver : Resolver}
    (search : (resolve resolver).outcome w = (.ok found, w')) : service.working w'.outside :=
  (searched_of_resolve _ search).passes.keeps (fun c _ _ => service.working_answer c) working

theorem Rebuilt.succeeds {service : Service T σ} (working : service.working w.outside)
    (able : Buildable s.options) (usable : s.resolver ≠ .unusable) {result : Except Raised Client}
    (h : Rebuilt s w result s' w') : ∃ c, result = .ok c := by
  cases h with
  | noResolver unusable => exact absurd unusable usable
  | @noSession found w₁ e search refused =>
      have opens := service.session_opens (w₁.sessions + 1) s.options.region found
        (working_of_resolve working search)
      rw [World.reply, opens] at refused
      cases refused
  | @noClient found w₁ raised w₂ search opened failed =>
      obtain ⟨⟨endpoint, hendpoint⟩, hattempts⟩ := able
      obtain ⟨c, w₃, built⟩ := build_succeeds (s := s.renewed found (w₁.sessions + 1))
        (w := withSession w₁ s.options.region found) service
        (service.working_answer _ (working_of_resolve working search)) hendpoint hattempts
        (w₁.sessions + 1)
      rw [built] at failed
      cases failed
  | client => exact ⟨_, rfl⟩

theorem Rebuilt.working {service : Service T σ} (working : service.working w.outside) {c : Client}
    (h : Rebuilt s w (.ok c) s' w') : service.working w'.outside := by
  cases h with
  | client search opened built =>
      obtain ⟨_, _, endpoint, _, _, rfl⟩ := build_ok built
      exact service.working_answer _ (service.working_answer _ (working_of_resolve working search))

omit [Outside T σ] in
theorem Ready.able_of_stale (ready : Ready s) (stale : s.isStale w.wall = .ok true) :
    Buildable s.options ∧ s.resolver ≠ .unusable := by
  refine ready.able (.inr ?_)
  cases hcredentials : s.credentials with
  | some credentials => rfl
  | none =>
      rw [isStale, hcredentials] at stale
      cases hclient : s.client <;> rw [hclient] at stale <;> cases stale

theorem Accessed.succeeds {service : Service T σ} (working : service.working w.outside)
    (ready : Ready s) (known : ∃ stale, s.isStale w.wall = .ok stale)
    {result : Except Raised (Option Client)} (h : Accessed s w result s' w') :
    (∃ c?, result = .ok c?) ∧ Ready s' := by
  cases h with
  | unknown stale =>
      obtain ⟨stale', hstale'⟩ := known
      rw [hstale'] at stale
      cases stale
  | kept stale => exact ⟨⟨_, rfl⟩, ready⟩
  | failed stale rebuilt =>
      obtain ⟨able, usable⟩ := ready.able_of_stale stale
      obtain ⟨c, hc⟩ := Rebuilt.succeeds (s := { s with bounded := [] }) working able usable rebuilt
      cases hc
  | @unclosed c s₁ w₁ raised w₂ stale rebuilt closing =>
      -- the service never refuses to close a client
      obtain ⟨w₃, closed⟩ := closeAll_succeeds service (rebuilt.working working) s.held
        { s₁ with client := some c }
      rw [closed] at closing
      cases closing
  | @refreshed c s₁ w₁ w₂ stale rebuilt closing =>
      have setup : s₁.options = s.options ∧ s₁.resolver = s.resolver := by
        rw [rebuilt.built.store_eq]
        exact ⟨rfl, rfl⟩
      refine ⟨⟨_, rfl⟩, rfl, fun _ => ?_⟩
      rw [setup.1, setup.2]
      exact ready.able_of_stale stale

/-- Only a failure to compute limits for the remaining time keeps an operation from its client. -/
theorem Picked.ready {service : Service T σ} (working : service.working w.outside)
    (ready : Ready s) (known : ∃ stale, s.isStale w.wall = .ok stale) {ctx : Context T}
    {operation name : String} {result : Except Raised Client}
    (h : Picked ctx operation name s w result s' w') :
    Ready s' ∧ ((∃ c, result = .ok c) ∨
      ∃ f, s'.options.limits.for? (ctx.remaining w'.moment) = .error f) := by
  have found {c? : Except Raised (Option Client)} {s₁ : RemoteStore T} {w₁ : World T σ}
      (access : freshClient.outcome (s, w) = (c?, s₁, w₁)) : (∃ c, c? = .ok c) ∧ Ready s₁ :=
    (accessed_freshClient s w access).succeeds working ready known
  cases h with
  | refused access =>
      obtain ⟨⟨c?, hc⟩, _⟩ := found access
      cases hc
  | noLimits access limits => exact ⟨(found access).2, .inr ⟨_, limits⟩⟩
  | closed access limits client =>
      have held := (found access).2.client
      rw [client] at held
      cases held
  | configured access _ client free => exact ⟨(found access).2, .inl ⟨_, rfl⟩⟩
  | cached access limited client open_ there => exact ⟨(found access).2, .inl ⟨_, rfl⟩⟩
  | @unbuilt c? s₁ w₁ limits session c raised w₂ access limited client open_ new failed =>
      have kept := kept_freshClient (s, w)
      rw [access] at kept
      have working' : service.working w₁.outside :=
        kept.passes.keeps (fun c _ _ => service.working_answer c) working
      obtain ⟨⟨⟨endpoint, hendpoint⟩, _⟩, _⟩ := (found access).2.able (.inl (by rw [open_]; rfl))
      obtain ⟨d, w₃, built⟩ := build_succeeds service working' hendpoint
        (Int.le_trans Int.one_nonneg (Limits.attempts_of_for? limited)) session
      rw [built] at failed
      cases failed
  | built access _ client open_ new build =>
      exact ⟨⟨(found access).2.client, (found access).2.able⟩, .inl ⟨_, rfl⟩⟩

theorem Rebuilt.able {c : Client} (h : Rebuilt s w (.ok c) s' w') :
    Buildable s.options ∧ s.resolver ≠ .unusable := by
  refine ⟨?_, h.built.usable⟩
  cases h with
  | client search opened built =>
      rw [outcome_build] at built
      cases hendpoint : s.options.clientEndpoint with
      | error f =>
          simp only [renewed, hendpoint] at built
          cases built
      | ok endpoint =>
          refine ⟨⟨endpoint, hendpoint⟩, Int.not_lt.mp fun hneg => ?_⟩
          simp only [renewed, hendpoint, hneg, if_true] at built
          cases built

omit [Outside T σ] in
/-- With an end so early that the margin reaches back before the calendar, it cannot be told whether
credentials are to be given up. -/
theorem isStale_early {credentials : Credentials} {last now : Instant}
    (client : s.client.isSome = true) (held : s.credentials = some credentials)
    (ends : credentials.expiresAt = some last) (early : last < Credentials.margin)
    (clock : w.wall = .ok now) : s.isStale w.wall = .error .overflow := by
  obtain ⟨c, hc⟩ := Option.isSome_iff_exists.mp client
  simp only [isStale, hc, held, Credentials.expired, ends, clock, bind, Except.bind, early, if_true]

/-- A store comes into use when it is connected, or when it is given a client. -/
inductive Opened : RemoteStore T → World T σ → Prop where
  | connected {ctx : Context T} {options resolver} {w₀ s w}
      (h : (connect ctx options resolver).outcome w₀ = (.ok s, w)) : Opened s w
  | given (options resolver client w) :
      Opened { unconnected options resolver with client := some client } w

theorem Opened.ready (h : Opened s w) : Ready s := by
  cases h with
  | connected h =>
      obtain ⟨c, s₁, w₁, rebuilt, rfl, _⟩ := rebuilt_connect h
      refine ⟨rfl, fun _ => ?_⟩
      rw [rebuilt.built.store_eq]
      exact rebuilt.able
  | given options resolver client w =>
      refine ⟨rfl, ?_⟩
      rintro (h | h) <;> cases h

end RemoteStore

/-! ## The names that a listing shows -/

/-- The names that a listing of the vault shows. It passes over an empty one. -/
def Service.shown (service : Service T σ) (o : σ) : Finset String :=
  (service.pages o).flatten.toFinset.erase ""

omit [Seconds T] in
theorem Service.mem_shown (service : Service T σ) {o : σ} (working : service.working o)
    {name : String} : name ∈ service.shown o ↔ name ≠ "" ∧ (service.held o name).isSome = true := by
  rw [Service.shown, Finset.mem_erase, List.mem_toFinset, service.mem_pages name working]

theorem Service.shown_passes {service : Service T σ} {w w' : World T σ}
    (working : service.working w.outside)
    (calls : Passes (fun c : Call T => c.isChange = false) w w') :
    service.working w'.outside ∧ service.shown w'.outside = service.shown w.outside := by
  have both : service.working w'.outside ∧ service.pages w'.outside = service.pages w.outside :=
    calls.keeps (P := fun o => service.working o ∧ service.pages o = service.pages w.outside)
      (fun c hc o ho => ⟨service.working_answer c ho.1, (service.pages_answer ho.1 hc).trans ho.2⟩)
      ⟨working, rfl⟩
  exact ⟨both.1, by rw [Service.shown, Service.shown, both.2]⟩

/-! ## The map that a vault stands for -/

/-- The vault holds the entries of the map, each in a response that decodes to its value. -/
structure Service.Represents (service : Service T σ) (o : σ) (m : Contents) : Prop where
  working : service.working o
  decoded_eq : ∀ name, (service.held o name).map Payload.decoded =
    (m.find? name).map .ok
  named : ∀ name, (m.find? name).isSome = true → name ≠ ""

namespace Service.Represents

variable {service : Service T σ} {o : σ} {m : Contents} {w w' : World T σ}

omit [Seconds T] in
theorem held_eq_none (h : service.Represents o m) {name : String} (free : m.find? name = none) :
    service.held o name = none := by
  have same := h.decoded_eq name
  rw [free] at same
  exact Option.map_eq_none_iff.mp same

omit [Seconds T] in
theorem held_eq_some (h : service.Represents o m) {name : String} {value : Bytes}
    (there : m.find? name = some value) :
    ∃ fields, service.held o name = some fields ∧ Payload.decoded fields = .ok value := by
  have same := h.decoded_eq name
  rw [there] at same
  exact Option.map_eq_some_iff.mp same

omit [Seconds T] in
theorem congr {o' : σ} (h : service.Represents o m) (working : service.working o')
    (same : service.held o' = service.held o) : service.Represents o' m := by
  refine ⟨working, fun name => ?_, h.named⟩
  rw [same]
  exact h.decoded_eq name

theorem passes (h : service.Represents w.outside m)
    (calls : Passes (fun c : Call T => c.isChange = false) w w') :
    service.Represents w'.outside m := by
  have both : service.working w'.outside ∧ service.held w'.outside = service.held w.outside :=
    calls.keeps (P := fun o => service.working o ∧ service.held o = service.held w.outside)
      (fun c hc o ho => ⟨service.working_answer c ho.1, (service.held_answer ho.1 hc).trans ho.2⟩)
      ⟨h.working, rfl⟩
  exact h.congr both.1 both.2

omit [Seconds T] in
theorem change {o' : σ} {m' : Contents} {name : String} {found : Option Entries}
    (value : Option Bytes) (h : service.Represents o m) (working : service.working o')
    (held : ∀ other, service.held o' other = if name = other then found else service.held o other)
    (entry : ∀ other, m'.find? other = if name = other then value else m.find? other)
    (decoded : found.map Payload.decoded = value.map .ok)
    (named : value.isSome = true → name ≠ "") : service.Represents o' m' := by
  refine ⟨working, fun other => ?_, fun other hother => ?_⟩
  · rw [held, entry]
    by_cases hn : name = other
    · simp only [hn, if_true, decoded]
    · simp only [hn, if_false]
      exact h.decoded_eq other
  · rw [entry] at hother
    by_cases hn : name = other
    · rw [if_pos hn] at hother
      rw [← hn]
      exact named hother
    · rw [if_neg hn] at hother
      exact h.named other hother

omit [Seconds T] in
theorem shown_eq (h : service.Represents o m) : service.shown o = m.keys := by
  have there (name : String) : (m.find? name).isSome = (service.held o name).isSome := by
    have same := congrArg Option.isSome (h.decoded_eq name)
    rw [Option.isSome_map, Option.isSome_map] at same
    exact same.symm
  ext name
  rw [service.mem_shown h.working, Contents.mem_keys_iff, ← there]
  constructor
  · exact fun shown => shown.2
  · exact fun found => ⟨h.named name found, found⟩

end Service.Represents

/-! ## Requests -/

namespace OutsideError

theorem refused_of_code? {e : OutsideError} {code : String} (h : e.code? = some (.str code)) :
    e.isVendor = true ∧ e.isConnection = false := by
  cases e with
  | refused label response operation => exact ⟨rfl, rfl⟩
  | _ => cases h

end OutsideError

namespace RemoteStore

variable {service : Service T σ} {m : Contents} {s : RemoteStore T} {w : World T σ}

omit [Outside T σ] in
theorem reported_refused {e : OutsideError} {code : String} (h : e.code? = some (.str code))
    (plain : code ≠ "InvalidRequestException") {ctx : Context T} {moment : Moment T}
    (alive : ctx.err moment = none) (operation name : String) :
    (reported ctx operation name moment (.plain (.outside e))).failure =
      failureOf operation name e (OutsideError.kindOfCode code) := by
  obtain ⟨vendor, connected⟩ := OutsideError.refused_of_code? h
  have kind : e.kind = .ok (OutsideError.kindOfCode code) := by
    simp only [OutsideError.kind, connected, h, OutsideError.kindWithCode, CodePoints.ofString_inj,
      plain, if_false, Bool.false_eq_true]
  simp only [reported, Raised.plain, vendor, if_true, alive, kind]
  rfl

theorem mapM_nameIn {entries : List Entries} {names : List String}
    (h : entries.map (Entries.named? "Name") = names.map fun name : String => some (.str name)) :
    (entries.map Value.map).mapM nameIn =
      .ok (names.map fun name : String => if name = "" then none else some (.str name)) := by
  induction entries generalizing names with
  | nil =>
      obtain rfl : names = [] := List.map_eq_nil_iff.mp h.symm
      rfl
  | cons entry entries ih =>
      cases names with
      | nil => cases h
      | cons name names =>
          obtain ⟨hname, hrest⟩ := List.cons.inj h
          have first : nameIn (.map entry) =
              .ok (if name = "" then none else some (.str name)) := by
            by_cases named : name = ""
            · subst named
              have missing : (Value.str "").isGiven = false := by decide
              simp [nameIn, hname, missing]
            · have given : (Value.str name).isGiven = true := by
                simpa [Value.isGiven, Scalar.isGiven] using named
              simp [nameIn, hname, given, named]
          rw [List.map_cons, List.mapM_cons, first]
          simp only [bind, Except.bind, ih hrest]
          rfl

theorem namesOn_lists {page : Value} {names : List String} (h : Lists page names) :
    namesOn page = .ok ((names.filter (· ≠ "")).map fun name : String => .str name) := by
  obtain ⟨fields, entries, rfl, hlist, hnames⟩ := h
  have found : listed (.map fields) = .ok (entries.map Value.map) := by
    simp only [listed, hlist]
  simp only [namesOn, found, bind, Except.bind, mapM_nameIn hnames, pure, Except.pure]
  congr 1
  clear hnames
  induction names with
  | nil => rfl
  | cons name names ih =>
      by_cases named : name = ""
      · simpa [named] using ih
      · simpa [named] using ih

theorem nameText_map (names : List String) :
    (names.map fun name : String => Value.str name).mapM nameText = .ok names := by
  induction names with
  | nil => rfl
  | cons name names ih =>
      rw [List.map_cons, List.mapM_cons, ih, nameText, CodePoints.toString?_ofString]
      rfl

/-- All names are found, but for an empty one, unless the context is done when a page arrives. -/
theorem fetch_lists {ctx : Context T} {client : Nat} {indices : List Nat}
    {paged : List (List String)} (working : service.working w.outside)
    (hpages : indices.map (fun index => (service.pages w.outside)[index]?) = paged.map some)
    {result : Except Raised (List Value)} {s' : RemoteStore T} {w' : World T σ}
    (hfetch : (fetch ctx client indices).outcome (s, w) = (result, s', w')) :
    result = .ok ((paged.flatten.filter (· ≠ "")).map fun name : String => .str name) ∨
      ∃ err, ctx.err w'.moment = some err ∧ result = .error (.plain (.context err)) := by
  -- the world changes with each page, and the pages stay those of the vault
  induction indices generalizing w paged result with
  | nil =>
      obtain rfl : paged = [] := List.map_eq_nil_iff.mp hpages.symm
      cases hfetch
      exact .inl rfl
  | cons index rest ih =>
      cases paged with
      | nil => cases hpages
      | cons names paged =>
          obtain ⟨hfirst, hrest⟩ := List.cons.inj hpages
          obtain ⟨page, hpage, hlists⟩ := service.page_lists client working hfirst
          have arrived : (w.reply (.page client index)).result = .ok page := hpage
          rw [outcome_fetch_cons] at hfetch
          simp only [arrived] at hfetch
          cases hdone : ctx.err (w.afterCall (.page client index)).moment with
          | some err =>
              simp only [hdone] at hfetch
              cases hfetch
              exact .inr ⟨err, hdone, rfl⟩
          | none =>
              simp only [hdone, namesOn_lists hlists] at hfetch
              have pages : service.pages (w.afterCall (.page client index)).outside =
                  service.pages w.outside := service.pages_answer working rfl
              rcases hmore : (fetch ctx client rest).outcome
                  (s, w.afterCall (.page client index)) with ⟨more, s₁, w₁⟩
              rw [hmore] at hfetch
              cases hfetch
              rw [← pages] at hrest
              rcases ih (service.working_answer _ working) hrest hmore with rfl | ⟨err, late, rfl⟩
              · left
                rw [List.flatten_cons, List.filter_append, List.map_append]
                rfl
              · exact .inr ⟨err, late, rfl⟩

end RemoteStore

/-! ## Operations -/

namespace Operation

open RemoteStore

variable {service : Service T σ} {m : Contents} {s s' : RemoteStore T} {w w' : World T σ}
  {ctx : Context T}

def finished (ctx : Context T) (op : Operation) (moment : Moment T) :
    Except Raised (Except Fault Answer) → Except Failure Answer
  | .ok answer => answer.mapError .fault
  | .error raised => .error (reported ctx op.label op.subject moment raised).failure

theorem outcome_onRemote_finished {op : Operation} {result : Except Raised (Except Fault Answer)}
    (alive : ctx.err w.moment = none)
    (h : (op.work ctx (encryption s.options)).outcome (s, w) = (result, s', w')) :
    ((op.onRemote ctx).outcome (s, w)).1.mapError (·.failure) = op.finished ctx w'.moment result ∧
      ((op.onRemote ctx).outcome (s, w)).2 = (s', w') := by
  rw [outcome_onRemote, alive]
  simp only [h]
  cases result with
  | error raised => exact ⟨rfl, rfl⟩
  | ok answer =>
      refine ⟨?_, rfl⟩
      cases answer <;> rfl

theorem serve_create {name : String} {value : Bytes} {key : Option Value} {client : Client}
    (h : service.Represents w.outside m) (named : name ≠ "")
    {result : Except Raised (Except Fault Answer)}
    (hserve : ((create name value).serve ctx key client).outcome (s, w) = (result, s', w'))
    (alive : ctx.err w'.moment = none) :
    (create name value).finished ctx w'.moment result = ((create name value).onMap m).1 ∧
      service.Represents w'.outside ((create name value).onMap m).2 := by
  simp only [serve, request, outcome_bind, outcome_outward,
    World.outcome_perform w (.create client.id name (Payload.ofBytes value) key)] at hserve
  have working' := service.working_answer
    (.create client.id name (Payload.ofBytes value) key) h.working
  cases hfound : m.find? name with
  | some taken =>
      obtain ⟨fields, hheld, _⟩ := h.held_eq_some hfound
      obtain ⟨same, e, hresult, hcode⟩ :=
        service.create_taken client.id (Payload.ofBytes value) key h.working hheld
      simp only [World.reply, hresult, mapError_error] at hserve
      cases hserve
      simp only [onMap, hfound]
      exact ⟨congrArg Except.error (reported_refused hcode (by decide) alive _ _),
        h.congr working' same⟩
  | none =>
      obtain ⟨hresult, fields, carried, hheld⟩ := service.create_free client.id
        (Payload.ofBytes value) key h.working (h.held_eq_none hfound)
      simp only [World.reply, hresult, mapError_ok] at hserve
      cases hserve
      simp only [onMap, hfound]
      refine ⟨rfl, h.change (some value) working' hheld ?_ ?_ fun _ => named⟩
      · exact fun other => Contents.find?_insert m name other value
      · exact congrArg some (Payload.decoded_carried carried)

theorem serve_read {name : String} {key : Option Value} {client : Client}
    (h : service.Represents w.outside m) {result : Except Raised (Except Fault Answer)}
    (hserve : ((read name).serve ctx key client).outcome (s, w) = (result, s', w'))
    (alive : ctx.err w'.moment = none) :
    (read name).finished ctx w'.moment result = ((read name).onMap m).1 ∧
      service.Represents w'.outside ((read name).onMap m).2 := by
  simp only [serve, request, outcome_bind, outcome_outward,
    World.outcome_perform w (.get client.id name)] at hserve
  have same := h.passes (.call (.get client.id name) (.refl w) rfl)
  cases hfound : m.find? name with
  | some value =>
      obtain ⟨fields, hheld, hdecoded⟩ := h.held_eq_some hfound
      have hresult := service.get_held client.id h.working hheld
      simp only [World.reply, hresult, mapError_ok, outcome_pure] at hserve
      cases hserve
      simp only [onMap, hfound, finished]
      unfold Payload.decoded at hdecoded
      cases hpayload : Payload.ofResponse (.map fields) with
      | error f =>
          rw [hpayload] at hdecoded
          cases hdecoded
      | ok payload =>
          rw [hpayload] at hdecoded
          cases hdecoded
          exact ⟨rfl, same⟩
  | none =>
      obtain ⟨e, hresult, hcode⟩ :=
        service.get_absent client.id h.working (h.held_eq_none hfound)
      simp only [World.reply, hresult, mapError_error] at hserve
      cases hserve
      simp only [onMap, hfound]
      exact ⟨congrArg Except.error (reported_refused hcode (by decide) alive _ _), same⟩

theorem serve_delete {name : String} {key : Option Value} {client : Client}
    (h : service.Represents w.outside m) {result : Except Raised (Except Fault Answer)}
    (hserve : ((delete name).serve ctx key client).outcome (s, w) = (result, s', w'))
    (alive : ctx.err w'.moment = none) :
    (delete name).finished ctx w'.moment result = ((delete name).onMap m).1 ∧
      service.Represents w'.outside ((delete name).onMap m).2 := by
  simp only [serve, request, outcome_bind, outcome_outward,
    World.outcome_perform w (.delete client.id name)] at hserve
  have working' := service.working_answer (.delete client.id name) h.working
  cases hfound : m.find? name with
  | none =>
      obtain ⟨same, e, hresult, hcode⟩ :=
        service.delete_absent client.id h.working (h.held_eq_none hfound)
      simp only [World.reply, hresult, mapError_error] at hserve
      cases hserve
      simp only [onMap, hfound]
      exact ⟨congrArg Except.error (reported_refused hcode (by decide) alive _ _),
        h.congr working' same⟩
  | some value =>
      obtain ⟨fields, hheld, _⟩ := h.held_eq_some hfound
      obtain ⟨hresult, hheld'⟩ := service.delete_held client.id h.working hheld
      simp only [World.reply, hresult, mapError_ok] at hserve
      cases hserve
      simp only [onMap, hfound]
      refine ⟨rfl, h.change none working' hheld' (Contents.find?_erase m name) rfl ?_⟩
      intro hnone
      cases hnone

theorem serve_shown {start : String} {limit : Int} {cursor : String} {key : Option Value}
    {client : Client} (working : service.working w.outside)
    {result : Except Raised (Except Fault Answer)}
    (hserve : ((list start limit cursor).serve ctx key client).outcome (s, w) = (result, s', w')) :
    result = .ok (.ok (.page (Listing.portion (service.shown w.outside) start limit cursor))) ∨
      ∃ err, ctx.err w'.moment = some err ∧ result = .error (.plain (.context err)) := by
  have hcount : (w.reply (.paginator client.id)).result = .ok (service.pages w.outside).length :=
    service.listing_begins client.id working
  simp only [serve, request, outcome_bind, outcome_outward,
    World.outcome_perform w (.paginator client.id), hcount, mapError_ok] at hserve
  have pages : service.pages (w.afterCall (.paginator client.id)).outside =
      service.pages w.outside := service.pages_answer working rfl
  have indexed : (List.range (service.pages w.outside).length).map
      (fun index => (service.pages (w.afterCall (.paginator client.id)).outside)[index]?) =
        (service.pages w.outside).map some := by
    rw [pages]
    apply List.ext_getElem
    · simp
    · intro index _ _
      simp
  rcases hfetch : (fetch ctx client.id (List.range (service.pages w.outside).length)).outcome
      (s, w.afterCall (.paginator client.id)) with ⟨found, s₁, w₁⟩
  simp only [hfetch] at hserve
  have shown_eq : (((service.pages w.outside).flatten.filter (· ≠ "")).toFinset : Finset String) =
      service.shown w.outside := by
    ext name
    rw [Service.shown, List.mem_toFinset, List.mem_filter, Finset.mem_erase, List.mem_toFinset,
      decide_eq_true_iff]
    exact and_comm
  rcases fetch_lists (service.working_answer _ working) indexed hfetch with rfl | ⟨err, late, rfl⟩
  · cases hserve
    left
    simp only [nameText_map, ← shown_eq, ← Listing.page_eq_portion]
    rfl
  · cases hserve
    exact .inr ⟨err, late, rfl⟩

theorem unchanging_list (ctx : Context T) (key : Option Value) (client : Client) (start : String)
    (limit : Int) (cursor : String) :
    Moves (Sending fun c : Call T => c.isChange = false)
      ((list start limit cursor).serve ctx key client : RemoteStore.Op T σ _) := by
  have lasting := sending_lasting (T := T) (σ := σ) fun c => c.isChange = false
  exact lasting.bind (sending_perform rfl) fun count =>
    lasting.bind (sending_fetch _ (fun _ => rfl) ctx _) fun _ => lasting.pure _

theorem serve_list {start : String} {limit : Int} {cursor : String} {key : Option Value}
    {client : Client} (h : service.Represents w.outside m)
    {result : Except Raised (Except Fault Answer)}
    (hserve : ((list start limit cursor).serve ctx key client).outcome (s, w) = (result, s', w'))
    (alive : ctx.err w'.moment = none) :
    (list start limit cursor).finished ctx w'.moment result =
      ((list start limit cursor).onMap m).1 ∧
      service.Represents w'.outside ((list start limit cursor).onMap m).2 := by
  have sent := unchanging_list ctx key client start limit cursor (s, w)
  rw [hserve] at sent
  refine ⟨?_, h.passes sent.passes⟩
  rcases serve_shown h.working hserve with rfl | ⟨err, late, rfl⟩
  · simp only [onMap, finished, h.shown_eq]
    rfl
  · rw [alive] at late
    cases late

/-- What an operation sends brings what the operation brings on the map, and the vault goes with the
map. -/
theorem serve_refines {op : Operation} {key : Option Value} {client : Client}
    (h : service.Represents w.outside m) (named : op.IsNamed)
    {result : Except Raised (Except Fault Answer)}
    (hserve : (op.serve ctx key client).outcome (s, w) = (result, s', w'))
    (alive : ctx.err w'.moment = none) :
    op.finished ctx w'.moment result = (op.onMap m).1 ∧
      service.Represents w'.outside (op.onMap m).2 := by
  cases op with
  | create name value => exact serve_create h named hserve alive
  | put name value => exact serve_create h named hserve alive
  | read name => exact serve_read h hserve alive
  | delete name => exact serve_delete h hserve alive
  | list start limit cursor => exact serve_list h hserve alive

/-- An operation on a store in front of a working vault service gets its client, and then brings
what it sends brings. -/
theorem onRemote_served {op : Operation} (working : service.working w.outside) (ready : Ready s)
    (known : ∃ stale, s.isStale w.wall = .ok stale) (alive : ctx.err w.moment = none)
    (limited : ∃ limits?, s.options.limits.for?
      (ctx.remaining ((op.onRemote ctx).outcome (s, w)).2.2.moment) = .ok limits?) :
    ∃ client s₁ w₁ result w', Passes (fun c : Call T => c.isUpkeep = true) w w₁ ∧ Ready s₁ ∧
      (op.serve ctx (encryption s.options) client).outcome (s₁, w₁) = (result, s₁, w') ∧
      ((op.onRemote ctx).outcome (s, w)).1.mapError (·.failure) = op.finished ctx w'.moment result ∧
      ((op.onRemote ctx).outcome (s, w)).2 = (s₁, w') := by
  rcases hwork : (op.work ctx (encryption s.options)).outcome (s, w) with ⟨result, s', w'⟩
  obtain ⟨hresult, hafter⟩ := outcome_onRemote_finished alive hwork
  rw [hafter] at limited
  rw [hresult, hafter]
  rw [work_eq_serve, outcome_bind] at hwork
  have kept := kept_clientFor ctx op.label op.subject (s, w)
  rcases hpick : (clientFor ctx op.label op.subject).outcome (s, w) with ⟨picked, s₁, w₁⟩
  rw [hpick] at hwork kept
  obtain ⟨ready', hpicked⟩ := (picked_clientFor ctx _ _ s w hpick).ready working ready known
  cases picked with
  | error raised =>
      cases hwork
      rcases hpicked with ⟨c, hc⟩ | ⟨f, hf⟩
      · cases hc
      · -- the limits are computed when the operation has its client, and so when it ends
        obtain ⟨limits?, hlimits⟩ := limited
        rw [kept.options_eq, hlimits] at hf
        cases hf
  | ok c =>
      dsimp only at hwork
      have sent := sending_serve ctx (encryption s.options) op c (s₁, w₁)
      rw [hwork] at sent
      obtain rfl : s' = s₁ := sent.store_eq
      exact ⟨c, s', w₁, result, w', kept.passes, ready', hwork, rfl, rfl⟩

/-- An operation on a store in front of a working vault service brings what it brings on the map,
and the vault goes with the map. -/
theorem onRemote_refines {op : Operation} (h : service.Represents w.outside m) (ready : Ready s)
    (known : ∃ stale, s.isStale w.wall = .ok stale) (named : op.IsNamed)
    (alive : ctx.err w.moment = none)
    (outlives : ctx.err ((op.onRemote ctx).outcome (s, w)).2.2.moment = none)
    (limited : ∃ limits?, s.options.limits.for?
      (ctx.remaining ((op.onRemote ctx).outcome (s, w)).2.2.moment) = .ok limits?) :
    ((op.onRemote ctx).outcome (s, w)).1.mapError (·.failure) = (op.onMap m).1 ∧
      service.Represents ((op.onRemote ctx).outcome (s, w)).2.2.outside (op.onMap m).2 ∧
      Ready ((op.onRemote ctx).outcome (s, w)).2.1 := by
  obtain ⟨client, s₁, w₁, result, w', upkeep, ready', hserve, hresult, hafter⟩ :=
    onRemote_served h.working ready known alive limited
  rw [hafter] at outlives
  rw [hresult, hafter]
  have vault : service.Represents w₁.outside m := h.passes (upkeep.mono fun call hcall =>
    Call.not_isChange_of_not_isRequest (Call.not_isRequest_of_isUpkeep hcall))
  obtain ⟨hanswer, hvault⟩ := serve_refines vault named hserve outlives
  exact ⟨hanswer, hvault, ready'⟩

/-- An operation stops if it cannot be told whether the credentials are to be given up. -/
theorem onRemote_unknown {op : Operation} {f : Fault} (alive : ctx.err w.moment = none)
    (unknown : s.isStale w.wall = .error f) :
    ((op.onRemote ctx).outcome (s, w)).1.mapError (·.failure) = .error (.fault f) := by
  have looked : freshClient.outcome (s, w) = (.error (.plain (.fault f)), s, w) := by
    simp only [freshClient, outcome_bind, outcome_get, outcome_ofFault, unknown, mapError_error]
  have worked : (op.work ctx (encryption s.options)).outcome (s, w) =
      (.error (.plain (.fault f)), s, w) := by
    rw [work_eq_serve, outcome_bind, clientFor, outcome_bind, looked]
  obtain ⟨hresult, _⟩ := outcome_onRemote_finished alive worked
  rw [hresult, finished, reported_of_not_vendor]
  · rfl
  · intro e he
    cases he

end Operation

end SecretVault
