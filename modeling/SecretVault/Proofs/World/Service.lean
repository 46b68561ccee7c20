import SecretVault.Proofs.Lookup
import SecretVault.Proofs.Payload
import SecretVault.Proofs.World.Rehearsing

/-!
What the library relies on in the vault service: creating is atomic and refuses names that are
taken, a secret is answered with the fields it was created with, names that are not there are
refused, and the pages of a listing together give the names that are there. A rehearsal in which
nothing is planned is such a service.
-/

namespace SecretVault

/-- A page of a listing that gives these names, in this order. -/
def Lists (page : Value) (names : List String) : Prop :=
  ∃ (fields : Entries) (entries : List Entries), page = .map fields ∧
    (fields.named? "SecretList").getD (.list []) = .list (entries.map Value.map) ∧
    entries.map (Entries.named? "Name") = names.map fun name : String => some (Value.str name)

/-- A vault service behind the outside. While it works, `held` gives the fields of the response to a
request for a secret, and `pages` the names that the pages of a listing give. -/
structure Service (T σ : Type) [Outside T σ] where
  working : σ → Prop
  held : σ → String → Option Entries
  pages : σ → List (List String)
  working_answer : ∀ (c : Call T) {o : σ}, working o → working (Outside.answer c o).state
  held_answer : ∀ {c : Call T} {o : σ}, working o → c.isChange = false →
    held (Outside.answer c o).state = held o
  pages_answer : ∀ {c : Call T} {o : σ}, working o → c.isChange = false →
    pages (Outside.answer c o).state = pages o
  session_opens : ∀ {o : σ} (number region credentials), working o →
    (Outside.answer (Call.session (T := T) number region credentials) o).result = .ok ()
  client_builds : ∀ {o : σ} (session id endpoint) (limits : Limits T), working o →
    ∃ closable, (Outside.answer (Call.client session id endpoint limits) o).result = .ok closable
  client_closes : ∀ {o : σ} (id), working o →
    (Outside.answer (Call.close (T := T) id) o).result = .ok ()
  create_free : ∀ {o : σ} {name} (id payload key), working o → held o name = none →
    (Outside.answer (Call.create (T := T) id name payload key) o).result = .ok () ∧
      ∃ fields, payload.Carried fields ∧ ∀ other,
        held (Outside.answer (Call.create (T := T) id name payload key) o).state other =
          if name = other then some fields else held o other
  create_taken : ∀ {o : σ} {name fields} (id payload key), working o → held o name = some fields →
    held (Outside.answer (Call.create (T := T) id name payload key) o).state = held o ∧
      ∃ e, (Outside.answer (Call.create (T := T) id name payload key) o).result = .error e ∧
        e.code? = some (.str "ResourceExistsException")
  get_held : ∀ {o : σ} {name fields} (id), working o → held o name = some fields →
    (Outside.answer (Call.get (T := T) id name) o).result = .ok (.map fields)
  get_absent : ∀ {o : σ} {name} (id), working o → held o name = none →
    ∃ e, (Outside.answer (Call.get (T := T) id name) o).result = .error e ∧
      e.code? = some (.str "ResourceNotFoundException")
  delete_held : ∀ {o : σ} {name fields} (id), working o → held o name = some fields →
    (Outside.answer (Call.delete (T := T) id name) o).result = .ok () ∧ ∀ other,
      held (Outside.answer (Call.delete (T := T) id name) o).state other =
        if name = other then none else held o other
  delete_absent : ∀ {o : σ} {name} (id), working o → held o name = none →
    held (Outside.answer (Call.delete (T := T) id name) o).state = held o ∧
      ∃ e, (Outside.answer (Call.delete (T := T) id name) o).result = .error e ∧
        e.code? = some (.str "ResourceNotFoundException")
  listing_begins : ∀ {o : σ} (id), working o →
    (Outside.answer (Call.paginator (T := T) id) o).result = .ok (pages o).length
  page_lists : ∀ {o : σ} {index names} (id), working o → (pages o)[index]? = some names →
    ∃ page, (Outside.answer (Call.page (T := T) id index) o).result = .ok page ∧ Lists page names
  mem_pages : ∀ {o : σ} (name), working o → (name ∈ (pages o).flatten ↔ (held o name).isSome)

/-! ## The vault of a rehearsal -/

namespace Vault

theorem find?_insert {v : Vault} {name : String} (p : Payload) (h : v.find? name = none)
    (other : String) :
    (v.insert name p).find? other = if name = other then some p else v.find? other :=
  valueUnder?_append v.secrets name other p h

theorem find?_erase (v : Vault) (name other : String) :
    (v.erase name).find? other = if name = other then none else v.find? other :=
  valueUnder?_filter v.secrets name other

theorem chunks_flatten {α : Type} {size fuel : Nat} (hsize : 0 < size) {xs : List α}
    (enough : xs.length ≤ fuel) : (chunks size fuel xs).flatten = xs := by
  induction fuel generalizing xs with
  | zero =>
      obtain rfl := List.length_eq_zero_iff.mp (Nat.le_zero.mp enough)
      rfl
  | succ fuel ih =>
      cases xs with
      | nil => rfl
      | cons x rest =>
          have shorter : ((x :: rest).drop size).length ≤ fuel := by
            rw [List.length_drop]
            simp only [List.length_cons] at enough ⊢
            omega
          rw [chunks, List.flatten_cons, ih shorter, List.take_append_drop]
          exact nofun

def paged (v : Vault) (size : Nat) : List (List String) :=
  let names := (Listing.ascending (v.secrets.map (·.1))).reverse
  match chunks (max 1 size) names.length names with
  | [] => [[]]
  | found => found

theorem pages_eq_paged (v : Vault) (size : Nat) : v.pages size = (v.paged size).map pageOf := by
  unfold pages paged
  dsimp only
  cases chunks (max 1 size) (Listing.ascending (v.secrets.map (·.1))).reverse.length
    (Listing.ascending (v.secrets.map (·.1))).reverse with
  | nil => rfl
  | cons first rest => rfl

theorem mem_paged {v : Vault} {size : Nat} {name : String} :
    name ∈ (v.paged size).flatten ↔ (v.find? name).isSome = true := by
  have all := chunks_flatten (Nat.le_max_left 1 size)
    (Nat.le_refl (Listing.ascending (v.secrets.map (·.1))).reverse.length)
  have same : (v.paged size).flatten = (Listing.ascending (v.secrets.map (·.1))).reverse := by
    unfold paged
    dsimp only
    split
    · rename_i hnone
      rw [hnone] at all
      exact all
    · exact all
  rw [same, List.mem_reverse, Listing.mem_ascending]
  exact (isSome_valueUnder? v.secrets name).symm

theorem lists_pageOf (names : List String) : Lists (pageOf names) names := by
  refine ⟨_, names.map fun name : String => [(.str "Name", .str name)], rfl, ?_, ?_⟩
  · simp [Entries.named?, Entries.find?, Scalar.key, Function.comp_def]
  · simp [Entries.named?, Entries.find?, Scalar.key]

end Vault

namespace Rehearsal

variable {T : Type} [Seconds T]

theorem answer_unplanned {r : Rehearsal T} (h : r.plan = []) (c : Call T) :
    (Outside.answer c r).result = (r.plainAnswer c).1 ∧
      (Outside.answer c r).state = (r.plainAnswer c).2 := by
  have same : { r with plan := [] } = r := by rw [← h]
  have found : r.reply c = ⟨(r.plainAnswer c).1, Seconds.ofInt 0, [], (r.plainAnswer c).2⟩ := by
    simp only [reply, h, take, same]
  exact ⟨congrArg Reply.result found, congrArg Reply.state found⟩

/-- A rehearsal in which nothing is planned is a vault service. -/
def service : Service T (Rehearsal T) where
  working r := r.plan = [] ∧ r.pages = none
  held r name := (r.vault.find? name).map fun p => (.str "Name", .str name) :: p.request
  pages r := r.vault.paged r.pageSize
  working_answer c r h := by
    rw [(answer_unplanned h.1 c).2]
    cases c with
    | create id name payload key =>
        simp only [plainAnswer, withVault]
        split <;> exact h
    | delete id name =>
        simp only [plainAnswer, withVault]
        split <;> exact h
    | _ => exact h
  held_answer h hc := by rw [vault_answer _ hc]
  pages_answer {c r} h hc := by
    have size : (r.plainAnswer c).2.pageSize = r.pageSize := by
      cases c with
      | create => cases hc
      | delete => cases hc
      | _ => rfl
    rw [vault_answer _ hc, (answer_unplanned h.1 c).2, size]
  session_opens number region credentials h := (answer_unplanned h.1 _).1
  client_builds {r} session id endpoint limits h := ⟨r.closable, (answer_unplanned h.1 _).1⟩
  client_closes id h := (answer_unplanned h.1 _).1
  create_free {r name} id payload key h free := by
    have free := Option.map_eq_none_iff.mp free
    rw [(answer_unplanned h.1 _).1, (answer_unplanned h.1 _).2]
    simp only [plainAnswer, Vault.create, free, withVault]
    refine ⟨trivial, (.str "Name", .str name) :: payload.request, ?_, ?_⟩
    · exact (payload.carried_request).cons _ (by decide) (by decide)
    · intro other
      rw [Vault.find?_insert payload free]
      by_cases hn : name = other
      · subst hn
        simp
      · simp only [hn, if_false]
  create_taken {r name fields} id payload key h taken := by
    obtain ⟨p, hp, -⟩ := Option.map_eq_some_iff.mp taken
    rw [(answer_unplanned h.1 _).1, (answer_unplanned h.1 _).2]
    simp only [plainAnswer, Vault.create, hp, withVault]
    exact ⟨trivial, _, rfl, rfl⟩
  get_held {r name fields} id h there := by
    obtain ⟨p, hp, rfl⟩ := Option.map_eq_some_iff.mp there
    rw [(answer_unplanned h.1 _).1]
    simp only [plainAnswer, Vault.get, hp]
  get_absent {r name} id h free := by
    have free := Option.map_eq_none_iff.mp free
    rw [(answer_unplanned h.1 _).1]
    simp only [plainAnswer, Vault.get, free]
    exact ⟨_, rfl, rfl⟩
  delete_held {r name fields} id h there := by
    obtain ⟨p, hp, -⟩ := Option.map_eq_some_iff.mp there
    rw [(answer_unplanned h.1 _).1, (answer_unplanned h.1 _).2]
    simp only [plainAnswer, Vault.delete, hp, withVault]
    refine ⟨trivial, fun other => ?_⟩
    rw [Vault.find?_erase]
    by_cases hn : name = other
    · simp only [hn, if_true, Option.map_none]
    · simp only [hn, if_false]
  delete_absent {r name} id h free := by
    have free := Option.map_eq_none_iff.mp free
    rw [(answer_unplanned h.1 _).1, (answer_unplanned h.1 _).2]
    simp only [plainAnswer, Vault.delete, free, withVault]
    exact ⟨trivial, _, rfl, rfl⟩
  listing_begins {r} id h := by
    rw [(answer_unplanned h.1 _).1]
    simp only [plainAnswer, listing, h.2, Option.getD_none, Vault.pages_eq_paged, List.length_map]
  page_lists {r index names} id h there := by
    rw [(answer_unplanned h.1 _).1]
    refine ⟨Vault.pageOf names, ?_, Vault.lists_pageOf names⟩
    simp only [plainAnswer, listing, h.2, Option.getD_none, Vault.pages_eq_paged,
      List.getD_eq_getElem?_getD, List.getElem?_map, there, Option.map_some, Option.getD_some]
  mem_pages {r} name h := by rw [Vault.mem_paged, Option.isSome_map]

theorem held_of_isEmpty {r : Rehearsal T} (h : r.vault.secrets.isEmpty = true) (name : String) :
    service.held r name = none := by
  simp only [service, Vault.find?, List.isEmpty_iff.mp h]
  rfl

end Rehearsal

end SecretVault
