import SecretVault.Proofs.Listing
import SecretVault.Proofs.Remote.Serving
import SecretVault.Proofs.Remote.Translation

/-!
A listing as a stream of pages. Pages come one after the other, each into the world that the one
before it left. If all of them arrive in time, the answer depends on nothing but the set of names on
them; if one does not arrive, or arrives late, there is no answer and no page is requested after it.
-/

namespace SecretVault

variable {T σ : Type} [Seconds T] [Outside T σ]

open SecretVault.Action World

namespace RemoteStore

/-! ## Names on a page -/

/-- An entry of a page has a text for its name, or has no name. -/
def Labelled (entry : Entries) : Prop :=
  (entry.named? "Name").getD .null = .null ∨
    ∃ name : String, entry.named? "Name" = some (.str name)

/-- A page as the service answers it. The list of secrets can be missing. -/
def IsPage (page : Value) : Prop :=
  ∃ (fields : Entries) (entries : List Entries), page = .map fields ∧
    (fields.named? "SecretList").getD (.list []) = .list (entries.map Value.map) ∧
    ∀ entry ∈ entries, Labelled entry

/-- A name stands on a page. The empty one does not count. -/
def OnPage (name : String) (page : Value) : Prop :=
  name ≠ "" ∧ ∃ (fields : Entries) (items : List Value) (entry : Entries), page = .map fields ∧
    fields.named? "SecretList" = some (.list items) ∧ .map entry ∈ items ∧
    entry.named? "Name" = some (.str name)

theorem nameIn_of_labelled {entry : Entries} (h : Labelled entry) :
    ∃ name? : Option String, nameIn (.map entry) = .ok (name?.map fun name : String => .str name) ∧
      ∀ name : String, some name = name? ↔
        name ≠ "" ∧ entry.named? "Name" = some (.str name) := by
  rcases h with missing | ⟨name, found⟩
  · refine ⟨none, ?_, ?_⟩
    · have given : Value.null.isGiven = false := by decide
      simp [nameIn, missing, given]
    · intro name
      have unnamed : entry.named? "Name" ≠ some (.str name) := by
        rintro found
        simp [found] at missing
      simp [unnamed]
  · by_cases empty : name = ""
    · refine ⟨none, by simp [nameIn, found, empty, Value.isGiven, Scalar.isGiven], ?_⟩
      intro other
      simp [found, empty, eq_comm]
    · refine ⟨some name, by simp [nameIn, found, empty, Value.isGiven, Scalar.isGiven], ?_⟩
      intro other
      simp only [found, Option.some.injEq, Value.scalar.injEq, Scalar.str.injEq,
        CodePoints.ofString_inj]
      constructor
      · rintro rfl
        exact ⟨empty, rfl⟩
      · exact fun same => same.2.symm

theorem mapM_nameIn_of_labelled {entries : List Entries} (h : ∀ entry ∈ entries, Labelled entry) :
    ∃ found : List (Option String),
      (entries.map Value.map).mapM nameIn =
        .ok (found.map fun name? => name?.map fun name : String => .str name) ∧
      ∀ name : String, some name ∈ found ↔
        ∃ entry ∈ entries, name ≠ "" ∧ entry.named? "Name" = some (.str name) := by
  induction entries with
  | nil => exact ⟨[], rfl, by simp⟩
  | cons entry rest ih =>
      obtain ⟨name?, here, named⟩ := nameIn_of_labelled (h entry List.mem_cons_self)
      obtain ⟨found, later, mem_found⟩ := ih fun entry hmem => h entry (List.mem_cons_of_mem _ hmem)
      refine ⟨name? :: found, ?_, ?_⟩
      · rw [List.map_cons, List.mapM_cons, here]
        simp only [later]
        rfl
      · intro name
        rw [List.mem_cons, named, mem_found, List.exists_mem_cons_iff]

theorem namesOn_of_isPage {page : Value} (h : IsPage page) :
    ∃ names : List String, namesOn page = .ok (names.map fun name : String => .str name) ∧
      ∀ name, name ∈ names ↔ OnPage name page := by
  obtain ⟨fields, entries, rfl, hlist, labelled⟩ := h
  obtain ⟨found, read, mem_found⟩ := mapM_nameIn_of_labelled labelled
  refine ⟨found.filterMap id, ?_, fun name => ?_⟩
  · have here : listed (.map fields) = .ok (entries.map Value.map) := by
      simp only [listed, hlist]
    simp only [namesOn, here, bind, Except.bind, read, pure, Except.pure]
    simp [List.filterMap_map, List.map_filterMap]
  · simp only [List.mem_filterMap, id, exists_eq_right, mem_found]
    constructor
    · rintro ⟨entry, hmem, named, found⟩
      cases hfield : fields.named? "SecretList" with
      | none =>
          -- a page without a list of secrets has no entries
          have none_there : entries = [] := by simpa [hfield] using hlist.symm
          simp [none_there] at hmem
      | some value =>
          rw [hfield, Option.getD_some] at hlist
          exact ⟨named, fields, _, entry, rfl, by rw [hlist] at hfield; exact hfield,
            List.mem_map_of_mem hmem, found⟩
    · rintro ⟨named, fields', items, entry, same, hfield, hmem, found⟩
      cases same
      rw [hfield, Option.getD_some] at hlist
      cases hlist
      obtain ⟨entry', hmem', same⟩ := List.mem_map.mp hmem
      cases same
      exact ⟨entry, hmem', named, found⟩

/-! ## Pages that arrive -/

/-- Pages of a client arrive one after the other from a world on, none of them after the context is
done. -/
inductive Arrives (ctx : Context T) (client : Nat) :
    World T σ → List Nat → List Value → World T σ → Prop where
  | none (w : World T σ) : Arrives ctx client w [] [] w
  | next {w w' : World T σ} {index : Nat} {page : Value} {rest : List Nat} {pages : List Value}
      (here : (w.reply (.page client index)).result = .ok page)
      (time : ctx.err (w.afterCall (.page client index)).moment = none)
      (later : Arrives ctx client (w.afterCall (.page client index)) rest pages w') :
      Arrives ctx client w (index :: rest) (page :: pages) w'

variable {ctx : Context T} {client : Nat} {indices : List Nat} {pages : List Value}
  {s : RemoteStore T} {w w' : World T σ}

theorem Arrives.calls (h : Arrives ctx client w indices pages w') :
    w'.log.map (·.call) = w.log.map (·.call) ++ indices.map (Call.page client) := by
  induction h with
  | none w => simp
  | next here time later ih => simp [ih]

/-- Pages that can be read and arrive in time are fetched, with all names that stand on them. -/
theorem Arrives.fetch (h : Arrives ctx client w indices pages w')
    (readable : ∀ page ∈ pages, IsPage page) :
    ∃ names : List String,
      (fetch ctx client indices).outcome (s, w) =
          (.ok (names.map fun name : String => .str name), s, w') ∧
        ∀ name, name ∈ names ↔ ∃ page ∈ pages, OnPage name page := by
  induction h with
  | none w => exact ⟨[], rfl, by simp⟩
  | @next w w' index page rest pages here time later ih =>
      obtain ⟨first, hfirst, mem_first⟩ := namesOn_of_isPage (readable page List.mem_cons_self)
      obtain ⟨more, hmore, mem_more⟩ :=
        ih fun page hmem => readable page (List.mem_cons_of_mem _ hmem)
      refine ⟨first ++ more, ?_, ?_⟩
      · rw [outcome_fetch_cons]
        simp only [here, time, hfirst, hmore, List.map_append]
        rfl
      · intro name
        simp [mem_first, mem_more]

theorem arrives_of_fetch {names : List Value} {st : RemoteStore T × World T σ}
    (h : (RemoteStore.fetch ctx client indices).outcome (s, w) = (.ok names, st)) :
    ∃ pages, Arrives ctx client w indices pages st.2 := by
  induction indices generalizing w names with
  | nil =>
      cases h
      exact ⟨[], .none w⟩
  | cons index rest ih =>
      rw [outcome_fetch_cons] at h
      cases here : (w.reply (.page client index)).result with
      | error e => simp [here] at h
      | ok page =>
          cases time : ctx.err (w.afterCall (.page client index)).moment with
          | some err => simp [here, time] at h
          | none =>
              cases found : namesOn page with
              | error f => simp [here, time, found] at h
              | ok first =>
                  rcases hrest : (RemoteStore.fetch ctx client rest).outcome
                    (s, w.afterCall (.page client index)) with ⟨result, st'⟩
                  simp only [here, time, found, hrest] at h
                  cases result with
                  | error raised => cases h
                  | ok more =>
                      cases h
                      obtain ⟨pages, later⟩ := ih hrest
                      exact ⟨page :: pages, .next here time later⟩

end RemoteStore

namespace Operation

open RemoteStore

/-! ## Listings -/

/-- An operation has begun: its context was not done on entry, and its preparation brought a client
and the number of requests to follow. -/
structure Begun (ctx : Context T) (op : Operation) (s : RemoteStore T) (w : World T σ)
    (client : Client) (count : Nat) (s₁ : RemoteStore T) (w₁ : World T σ) : Prop where
  alive : ctx.err w.moment = none
  prepared : (op.prepare ctx).outcome (s, w) = (.ok (client, count), s₁, w₁)

variable {ctx : Context T} {start cursor : String} {limit : Int} {s s₁ : RemoteStore T}
  {w w₁ w₂ : World T σ} {client : Client} {count : Nat} {pages : List Value}

theorem Begun.complete (h : Begun ctx (list start limit cursor) s w client count s₁ w₁)
    (arrived : Arrives ctx client.id w₁ (List.range count) pages w₂)
    (readable : ∀ page ∈ pages, IsPage page) {names : List String}
    (all : ∀ name, name ∈ names ↔ ∃ page ∈ pages, OnPage name page) :
    ((list start limit cursor).onRemote ctx).outcome (s, w) =
      (.ok (.page (Listing.page names start limit cursor)), s₁, w₂) := by
  obtain ⟨found, hfetch, mem_found⟩ := arrived.fetch (s := s₁) readable
  have same : found.toFinset = names.toFinset := by
    ext name
    rw [List.mem_toFinset, List.mem_toFinset, mem_found, all]
  rw [outcome_onRemote, h.alive]
  simp only [work, outcome_bind_ok h.prepared, request, outcome_bind_ok hfetch, outcome_pure,
    nameText_map]
  rw [Listing.page_eq_portion names, ← same, ← Listing.page_eq_portion found]
  rfl

theorem Begun.stops (h : Begun ctx (list start limit cursor) s w client count s₁ w₁)
    {raised : Raised} {st : RemoteStore T × World T σ}
    (stopped : (fetch ctx client.id (List.range count)).outcome (s₁, w₁) = (.error raised, st)) :
    ((list start limit cursor).onRemote ctx).outcome (s, w) =
      (.error (reported ctx "list" start st.2.moment raised), st) := by
  have many : (list start limit cursor).sole? (T := T) (encryption s.options) client.id = none :=
    rfl
  apply onRemote_of_work h.alive
  rw [work, outcome_bind_ok h.prepared]
  exact (request_listing many).mpr stopped

/-- A listing begins with its context alive and its client at hand. It answers all or nothing, and
the answer does not depend on how the names are spread over the pages. -/
structure AllOrNothing (ctx : Context T) (start : String) (limit : Int) (cursor : String)
    (s : RemoteStore T) (w : World T σ) (client : Client) (count : Nat) (s₁ : RemoteStore T)
    (w₁ : World T σ) : Prop where
  /-- If all pages arrive in time, the answer is a page of the set of names that stand on them. -/
  complete : ∀ pages w₂ (names : List String),
    Arrives ctx client.id w₁ (List.range count) pages w₂ → (∀ page ∈ pages, IsPage page) →
      (∀ name, name ∈ names ↔ ∃ page ∈ pages, OnPage name page) →
        ((list start limit cursor).onRemote ctx).outcome (s, w) =
          (.ok (.page (Listing.page names start limit cursor)), s₁, w₂)
  /-- Another listing on whose pages the same names stand has the same answer, whatever store,
  context and outside it has. -/
  unpaged : ∀ (ctx' : Context T) s' (w' : World T σ) client' count' s₁' w₁' pages pages' w₂ w₂',
    Begun ctx' (list start limit cursor) s' w' client' count' s₁' w₁' →
      Arrives ctx client.id w₁ (List.range count) pages w₂ →
      Arrives ctx' client'.id w₁' (List.range count') pages' w₂' →
      (∀ page ∈ pages, IsPage page) → (∀ page ∈ pages', IsPage page) →
      (∀ name, (∃ page ∈ pages, OnPage name page) ↔ ∃ page ∈ pages', OnPage name page) →
        (((list start limit cursor).onRemote ctx).outcome (s, w)).1 =
          (((list start limit cursor).onRemote ctx').outcome (s', w')).1
  /-- If a page is refused after others have arrived, the operation fails there: with the error of
  the context if it is done, and otherwise with what the vendor's error is translated to. -/
  refused : ∀ k pages w₂ e, k < count → Arrives ctx client.id w₁ (List.range k) pages w₂ →
    (∀ page ∈ pages, IsPage page) → (w₂.reply (.page client.id k)).result = .error e →
    e.isVendor = true → ∃ raised,
      ((list start limit cursor).onRemote ctx).outcome (s, w) =
        (.error raised, s₁, w₂.afterCall (.page client.id k)) ∧
      (∀ err, ctx.err (w₂.afterCall (.page client.id k)).moment = some err →
        raised = .standingFor (.context err) e) ∧
      (ctx.err (w₂.afterCall (.page client.id k)).moment = none → e.IsLegible →
        ∃ failure, raised = .standingFor (.store failure) e ∧
          Translates (list start limit cursor) e failure)
  /-- If a page arrives late after others have arrived in time, the operation fails with the error
  of the context. -/
  late : ∀ k pages w₂ page err, k < count → Arrives ctx client.id w₁ (List.range k) pages w₂ →
    (∀ page ∈ pages, IsPage page) → (w₂.reply (.page client.id k)).result = .ok page →
    ctx.err (w₂.afterCall (.page client.id k)).moment = some err →
      ((list start limit cursor).onRemote ctx).outcome (s, w) =
        (.error (.plain (.context err)), s₁, w₂.afterCall (.page client.id k))
  /-- By then no page was requested but that one and those before it. -/
  requested : ∀ k pages w₂, Arrives ctx client.id w₁ (List.range k) pages w₂ →
    (w₂.afterCall (.page client.id k)).log.map (·.call) =
      w₁.log.map (·.call) ++ (List.range (k + 1)).map (Call.page client.id)
  /-- An answer comes only after all pages have arrived in time. -/
  whole : ∀ answer st,
    ((list start limit cursor).onRemote ctx).outcome (s, w) = (.ok answer, st) →
      ∃ pages, Arrives ctx client.id w₁ (List.range count) pages st.2

/-- Every listing that has begun answers all or nothing. -/
theorem Begun.allOrNothing (h : Begun ctx (list start limit cursor) s w client count s₁ w₁) :
    AllOrNothing ctx start limit cursor s w client count s₁ w₁ where
  complete pages w₂ names arrived readable all := h.complete arrived readable all
  unpaged ctx' s' w' client' count' s₁' w₁' pages pages' w₂ w₂' h' arrived arrived' readable
      readable' same := by
    obtain ⟨names, _, mem_names⟩ := arrived.fetch (s := s₁) readable
    rw [h.complete arrived readable mem_names,
      h'.complete arrived' readable' fun name => (mem_names name).trans (same name)]
  refused k pages w₂ e more arrived readable refused vendor := by
    obtain ⟨names, hfetch, _⟩ := arrived.fetch (s := s₁) readable
    have stopped := fetch_stops more hfetch (World.outcome_perform w₂ (.page client.id k))
      (.inl (by rw [refused]; rfl))
    refine ⟨_, h.stops stopped, ?_, ?_⟩
    · intro err done
      simp only [reported, Raised.plain, vendor, if_true, done]
    · intro time legible
      obtain ⟨kind, hkind, tells⟩ := legible.kind
      obtain ⟨failure, hfailure, translates⟩ :=
        translates_of_tells (list start limit cursor) tells
      refine ⟨failure, ?_, translates⟩
      simp only [label, subject] at hfailure
      simp only [reported, Raised.plain, vendor, if_true, time, hkind, hfailure]
  late k pages w₂ page err more arrived readable here done := by
    obtain ⟨names, hfetch, _⟩ := arrived.fetch (s := s₁) readable
    have stopped := fetch_stops more hfetch (World.outcome_perform w₂ (.page client.id k))
      (.inr ⟨page, err, by rw [here]; rfl, done, rfl⟩)
    rw [h.stops stopped]
    rfl
  requested k pages w₂ arrived := by
    simp [arrived.calls, List.range_succ]
  whole answer st houtcome := by
    rcases hfetch : (fetch ctx client.id (List.range count)).outcome (s₁, w₁) with ⟨result, st'⟩
    cases result with
    | error raised =>
        rw [h.stops hfetch] at houtcome
        cases houtcome
    | ok names =>
        rw [outcome_onRemote, h.alive] at houtcome
        simp only [work, outcome_bind_ok h.prepared, request, outcome_bind_ok hfetch,
          outcome_pure] at houtcome
        obtain rfl : st' = st := congrArg Prod.snd houtcome
        exact arrives_of_fetch hfetch

def pageWith (names : List (Option String)) : Value :=
  .map [(.str "SecretList", .list (names.map fun name? =>
    .map (name?.toList.map fun name : String => (.str "Name", .str name))))]

/-- A vault whose listing has three pages: names that are not in order, no list at all, and a name
again beside an entry without a name and one with an empty name. -/
def scattered : World Rat (Rehearsal Rat) :=
  .starting (60 * Calendar.minute)
    { Rehearsal.planned .empty [] [] with
      pages := some [pageWith [some "b", some "a"], .map [],
        pageWith [some "a", none, some ""]] }

/-- A listing of all names on such pages, which arrive in time. -/
theorem scattered_allOrNothing :
    ∃ s₁ w₁ pages w₂, Begun ⟨7, [], none⟩ (list "" (-1) "") (.lasting (66 * Calendar.minute))
        scattered ⟨1, true⟩ 3 s₁ w₁ ∧
      AllOrNothing ⟨7, [], none⟩ "" (-1) "" (.lasting (66 * Calendar.minute)) scattered ⟨1, true⟩ 3
        s₁ w₁ ∧
      Arrives ⟨7, [], none⟩ 1 w₁ (List.range 3) pages w₂ ∧
      (((list "" (-1) "").onRemote ⟨7, [], none⟩).outcome
        (.lasting (66 * Calendar.minute), scattered)).1 = .ok (.page ⟨["a", "b"], ""⟩) := by
  have alive : Context.err scattered.moment ⟨7, [], none⟩ = none := by decide +kernel
  have prepared : (((list "" (-1) "").prepare ⟨7, [], none⟩).outcome
      (.lasting (66 * Calendar.minute), scattered)).1 = .ok (⟨1, true⟩, 3) :=
    ok_of_toOption (by decide +kernel)
  have begun : Begun ⟨7, [], none⟩ (list "" (-1) "") _ scattered ⟨1, true⟩ 3 _ _ :=
    ⟨alive, Prod.ext prepared rfl⟩
  have answer : (((list "" (-1) "").onRemote ⟨7, [], none⟩).outcome
      (.lasting (66 * Calendar.minute), scattered)).1 = .ok (.page ⟨["a", "b"], ""⟩) :=
    ok_of_toOption (by decide +kernel)
  have whole := begun.allOrNothing
  obtain ⟨pages, arrived⟩ := whole.whole _ _ (Prod.ext answer rfl)
  exact ⟨_, _, pages, _, begun, whole, arrived, answer⟩

end Operation

end SecretVault
