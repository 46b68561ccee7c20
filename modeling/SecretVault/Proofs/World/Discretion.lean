import SecretVault.Proofs.Action.Abreast
import SecretVault.Proofs.Lookup
import SecretVault.Proofs.Payload
import SecretVault.Proofs.World.Rehearsing

/-!
Two worlds that differ in nothing but secrets. A discreet outside does not let the secrets that it
is given influence its answers, but for those that ask for a secret: two of them may carry the two
values that were stored under the name. A rehearsal is discreet, whatever is planned for it.
-/

namespace SecretVault

open SecretVault.Action

/-- Which two values may stand under a name in two runs. -/
abbrev Pairing := String → Bytes → Bytes → Prop

variable {T σ : Type}

/-! ## Discreet outsides -/

/-- Whether a secret travels with the call or with the answer to it. -/
def Call.isSecretive : Call T → Bool
  | .create _ _ _ _ => true
  | .get _ _ => true
  | _ => false

def Call.veiled : Call T → Call T
  | .create id name _ key => .create id name (.binary []) key
  | c => c

def Logged.veiled (e : Logged T) : Logged T :=
  { e with call := e.call.veiled }

/-- Two replies that take the same time, cancel the same contexts, and fail alike or bring related
answers. -/
structure Reply.Beside {α : Type} (A : σ → σ → Prop) (Q : α → α → Prop) (r r' : Reply T σ α) :
    Prop where
  result : Likewise Q r.result r'.result
  elapsed_eq : r'.elapsed = r.elapsed
  cancelled_eq : r'.cancelled = r.cancelled
  state : A r.state r'.state

/-- Two responses to a request for a secret: the same, or each of them carries one of two values
that may stand under the name. -/
inductive Responses (P : Pairing) (name : String) : Value → Value → Prop where
  | same (v : Value) : Responses P name v v
  | carried {b b' : Bytes} {fields fields' : Entries} (paired : P name b b')
      (left : (Payload.ofBytes b).Carried fields) (right : (Payload.ofBytes b').Carried fields') :
      Responses P name (.map fields) (.map fields')

/-- Two values that are read under a name: the same, or the two that may stand there. -/
def Pairing.Shows (P : Pairing) (name : String) (b b' : Bytes) : Prop :=
  b' = b ∨ P name b b'

/-- However the two values travelled, reading brings them back. -/
theorem Responses.toBytes {name : String} {v v' : Value} (h : Responses P name v v') :
    Likewise (P.Shows name) ((Payload.ofResponse v).map Payload.toBytes)
      ((Payload.ofResponse v').map Payload.toBytes) := by
  cases h with
  | same v => exact (Likewise.refl _).mono fun _ _ h => .inl h.symm
  | carried paired left right =>
      rw [Payload.ofResponse_carried left, Payload.ofResponse_carried right]
      exact .ok (.inr (by simpa only [Payload.toBytes_ofBytes] using paired))

/-- An outside whose faults and answers do not depend on the secrets that it is given. Two states of
it are alike if they differ in nothing but the values that may stand under the names. -/
structure Discreet (T σ : Type) [Outside T σ] where
  alike : Pairing → σ → σ → Prop
  refl : ∀ (P : Pairing) (o : σ), alike P o o
  mono : ∀ {P Q : Pairing} {o o' : σ}, (∀ name b b', P name b b' → Q name b b') → alike P o o' →
    alike Q o o'
  create : ∀ {P : Pairing} {o o' : σ} {name b b'} (client key), P name b b' → alike P o o' →
    Reply.Beside (alike P) Eq
      (Outside.answer (Call.create (T := T) client name (.ofBytes b) key) o)
      (Outside.answer (Call.create (T := T) client name (.ofBytes b') key) o')
  get : ∀ {P : Pairing} {o o' : σ} (client name), alike P o o' →
    Reply.Beside (alike P) (Responses P name) (Outside.answer (Call.get (T := T) client name) o)
      (Outside.answer (Call.get (T := T) client name) o')
  other : ∀ {P : Pairing} {o o' : σ} {c : Call T}, c.isSecretive = false → alike P o o' →
    Reply.Beside (alike P) Eq (Outside.answer c o) (Outside.answer c o')

/-! ## Worlds side by side -/

namespace World

variable [Seconds T] [Outside T σ] {d : Discreet T σ} {P Q : Pairing} {w w' : World T σ}

/-- Two worlds that differ in nothing but the secrets in the outside and in the log. -/
structure Beside (d : Discreet T σ) (P : Pairing) (w w' : World T σ) : Prop where
  moment_eq : w'.moment = w.moment
  began_eq : w'.began = w.began
  date_eq : w'.date = w.date
  host_eq : w'.host = w.host
  sessions_eq : w'.sessions = w.sessions
  clients_eq : w'.clients = w.clients
  log_eq : w'.log.map Logged.veiled = w.log.map Logged.veiled
  outside : d.alike P w.outside w'.outside

omit [Seconds T] in
theorem Beside.refl (d : Discreet T σ) (P : Pairing) (w : World T σ) : Beside d P w w :=
  ⟨rfl, rfl, rfl, rfl, rfl, rfl, rfl, d.refl P w.outside⟩

omit [Seconds T] in
theorem Beside.mono (h : Beside d P w w') (hPQ : ∀ name b b', P name b b' → Q name b b') :
    Beside d Q w w' :=
  { h with outside := d.mono hPQ h.outside }

theorem Beside.wall_eq (h : Beside d P w w') : w'.wall = w.wall := by
  simp only [wall, h.date_eq, h.moment_eq, h.began_eq]

theorem Beside.advance (h : Beside d P w w') (elapsed : T) :
    Beside d P (w.advance elapsed) (w'.advance elapsed) :=
  { h with moment_eq := congrArg (·.after elapsed) h.moment_eq }

omit [Seconds T] in
theorem Beside.cancel (h : Beside d P w w') (id : Nat) : Beside d P (w.cancel id) (w'.cancel id) :=
  { h with moment_eq := congrArg (·.cancel id) h.moment_eq }

theorem Beside.afterCall {c c' : Call T} (h : Beside d P w w') (veiled : c'.veiled = c.veiled)
    (isOk_eq : (w'.reply c').result.isOk = (w.reply c).result.isOk)
    (elapsed_eq : (w'.reply c').elapsed = (w.reply c).elapsed)
    (cancelled_eq : (w'.reply c').cancelled = (w.reply c).cancelled)
    (state : d.alike P (w.reply c).state (w'.reply c').state) :
    Beside d P (w.afterCall c) (w'.afterCall c') where
  moment_eq := by simp only [World.afterCall, h.moment_eq, elapsed_eq, cancelled_eq]
  began_eq := h.began_eq
  date_eq := h.date_eq
  host_eq := h.host_eq
  sessions_eq := h.sessions_eq
  clients_eq := h.clients_eq
  log_eq := by
    simp only [log_afterCall, List.map_append, h.log_eq, List.map_singleton, Logged.veiled,
      entryOf, veiled, isOk_eq, h.moment_eq]
  outside := state

/-! ## Calls side by side -/

/-- A call that is answered alike, wherever it is made in both worlds. -/
theorem abreast_call {c : Call T} {Q : c.Answer → c.Answer → Prop}
    (answers : ∀ o o' : σ, d.alike P o o' →
      Reply.Beside (d.alike P) Q (Outside.answer c o) (Outside.answer c o')) :
    Abreast (Beside d P) Q (perform c) (perform c) := by
  intro w w' h
  have replies : Reply.Beside (d.alike P) Q (w.reply c) (w'.reply c) := answers _ _ h.outside
  rw [outcome_perform, outcome_perform]
  exact ⟨replies.result.mapError _, h.afterCall rfl replies.result.isOk_eq replies.elapsed_eq
    replies.cancelled_eq replies.state⟩

theorem abreast_perform (c : Call T) (hc : c.isSecretive = false) :
    Abreast (Beside d P) Eq (perform c) (perform c) :=
  abreast_call fun _ _ => d.other hc

theorem abreast_get (client : Nat) (name : String) :
    Abreast (Beside d P) (Responses P name) (perform (.get client name))
      (perform (.get client name)) :=
  abreast_call (c := .get client name) fun _ _ => d.get client name

theorem abreast_create {name : String} {b b' : Bytes} (paired : P name b b') (client : Nat)
    (key : Option Value) :
    Abreast (Beside d P) Eq (perform (.create client name (.ofBytes b) key))
      (perform (.create client name (.ofBytes b') key)) := by
  intro w w' h
  have replies : Reply.Beside (d.alike P) Eq
      (w.reply (.create client name (.ofBytes b) key))
      (w'.reply (.create client name (.ofBytes b') key)) := d.create client key paired h.outside
  rw [outcome_perform, outcome_perform]
  exact ⟨replies.result.mapError _, h.afterCall rfl replies.result.isOk_eq replies.elapsed_eq
    replies.cancelled_eq replies.state⟩

omit [Seconds T] in
theorem abreast_now : Abreast (Beside d P) Eq (now : Action (World T σ) _) now :=
  Abreast.get.bind fun _ _ h => .pure h.moment_eq.symm

theorem abreast_check (ctx : Context T) : Abreast (Beside d P) Eq (check ctx) (check ctx) := by
  intro w w' h
  rw [outcome_check, outcome_check, h.moment_eq]
  exact ⟨.refl _, h⟩

theorem abreast_openSession (region : Value) (credentials : Option Credentials) :
    Abreast (Beside d P) Eq (openSession region credentials) (openSession region credentials) := by
  refine Abreast.get.bind ?_
  intro w w' h
  rw [h.sessions_eq]
  refine (abreast_perform (.session _ _ _) rfl).then_ fun _ =>
    (Abreast.change ?_).then_ fun _ => .pure rfl
  exact fun _ _ h => { h with sessions_eq := rfl }

theorem abreast_buildClient (session : Nat) (endpoint : Option Value) (limits : Limits T) :
    Abreast (Beside d P) Eq (buildClient session endpoint limits)
      (buildClient session endpoint limits) := by
  refine Abreast.get.bind ?_
  intro w w' h
  rw [h.clients_eq]
  refine (abreast_perform (.client _ _ _ _) rfl).then_ fun closable =>
    (Abreast.change ?_).then_ fun _ => .pure rfl
  exact fun _ _ h => { h with clients_eq := rfl }

theorem abreast_closeClient (c : Client) :
    Abreast (Beside d P) Eq (closeClient c) (closeClient c) := by
  unfold closeClient
  split
  · exact abreast_perform (.close c.id) rfl
  · exact .pure rfl

end World

namespace Source

variable [Seconds T] [Outside T σ] {d : Discreet T σ} {P : Pairing}

open World

theorem abreast_load (source : Source) :
    Abreast (Beside d P) Eq source.load source.load := by
  cases source with
  | login c => exact .pure rfl
  | environment start file =>
      refine Abreast.then_ ?_ fun _ => Abreast.get.bind fun w w' h => by
        rw [h.host_eq]
        exact .ofFault (.refl _)
      intro w w' h
      simp only [loadDotenv, outcome_ofOutcome, h.host_eq]
      exact ⟨.refl _, { h with host_eq := rfl }⟩
  | profile path selected =>
      refine Abreast.get.bind ?_
      intro w w' h
      rw [h.host_eq]
      exact .ofExcept (.refl _)
  | role metadata =>
      refine Abreast.then_ ?_ fun answer => .ofFault (.refl _)
      cases metadata with
      | service => exact abreast_perform .metadata rfl
      | known answer => exact .ofExcept (.refl _)
  | foreign name slot => exact abreast_perform (.load name slot) rfl

theorem abreast_resolve (sources : List Source) :
    Abreast (Beside d P) Eq (resolve sources) (resolve sources) := by
  induction sources with
  | nil => exact .pure rfl
  | cons source rest ih =>
      refine (abreast_load source).attempt.bind ?_
      intro result result' h
      rw [h.eq]
      split
      · split
        · exact ih
        · exact .pure rfl
      · exact ih

end Source

/-! ## Rehearsals -/

/-- Two payloads that are the same, or are those of two values that may stand under the name. -/
def Pairing.Stores (P : Pairing) (name : String) (p p' : Payload) : Prop :=
  p' = p ∨ ∃ b b', P name b b' ∧ p = .ofBytes b ∧ p' = .ofBytes b'

namespace Rehearsal

variable [Seconds T] {P : Pairing}

def Alike (P : Pairing) (r r' : Rehearsal T) : Prop :=
  ∃ vault, r' = { r with vault := vault } ∧ NamedBeside P.Stores r.vault.secrets vault.secrets

/-- The reply of a rehearsal, for any answer to a call and any answer with a planned response. -/
def met {α : Type} (kind : CallKind)
    (plain : Rehearsal T → Except OutsideError α × Rehearsal T)
    (planned : Value → Rehearsal T → Except OutsideError α × Rehearsal T) (r : Rehearsal T) :
    Reply T (Rehearsal T) α :=
  let (found, plan) := take kind r.plan
  let r := { r with plan := plan }
  match found with
  | none =>
    let (result, r) := plain r
    ⟨result, Seconds.ofInt 0, [], r⟩
  | some i =>
    let (result, r) :=
      match i.error, i.response with
      | some e, _ => (.error e, if kind = .load then (plain r).2 else r)
      | none, some response => planned response r
      | none, none => plain r
    ⟨result, i.elapsed.getD (Seconds.ofInt 0), i.cancelled.toList, r⟩

def Together {α : Type} (P : Pairing) (Q : α → α → Prop)
    (answer answer' : Rehearsal T → Except OutsideError α × Rehearsal T) : Prop :=
  ∀ r r', Alike P r r' →
    Likewise Q (answer r).1 (answer' r').1 ∧ Alike P (answer r).2 (answer' r').2

theorem met_beside {α : Type} {Q : α → α → Prop} {kind : CallKind}
    {plain plain' : Rehearsal T → Except OutsideError α × Rehearsal T}
    {planned planned' : Value → Rehearsal T → Except OutsideError α × Rehearsal T}
    (hplain : Together P Q plain plain')
    (hplanned : ∀ response, Together P Q (planned response) (planned' response))
    {r r' : Rehearsal T} (h : Alike P r r') :
    Reply.Beside (Alike P) Q (met kind plain planned r) (met kind plain' planned' r') := by
  obtain ⟨vault, rfl, secrets⟩ := h
  unfold met
  rcases take kind r.plan with ⟨found, plan⟩
  have left : Alike P { r with plan := plan } { r with vault := vault, plan := plan } :=
    ⟨vault, rfl, secrets⟩
  obtain ⟨results, states⟩ := hplain _ _ left
  cases found with
  | none => exact ⟨results, rfl, rfl, states⟩
  | some i =>
      dsimp only
      cases i.error with
      | some e =>
          refine ⟨.error e, rfl, rfl, ?_⟩
          dsimp only
          split
          · exact states
          · exact left
      | none =>
          cases i.response with
          | some response =>
              obtain ⟨results, states⟩ := hplanned response _ _ left
              exact ⟨results, rfl, rfl, states⟩
          | none => exact ⟨results, rfl, rfl, states⟩

/-! ### The vault -/

theorem stores_find? {v v' : Vault} (secrets : NamedBeside P.Stores v.secrets v'.secrets)
    (name : String) : Option.Rel (P.Stores name) (v.find? name) (v'.find? name) :=
  secrets.valueUnder? name

omit [Seconds T] in
/-- A change to the vault that is refused alike, or leaves vaults that differ in nothing but
values. -/
theorem together_withVault (change change' : Vault → Except OutsideError Vault)
    (h : ∀ v v', NamedBeside P.Stores v.secrets v'.secrets →
      Likewise (fun v v' => NamedBeside P.Stores v.secrets v'.secrets) (change v) (change' v')) :
    Together P Eq (fun r : Rehearsal T => r.withVault (change r.vault))
      (fun r => r.withVault (change' r.vault)) := by
  rintro r _ ⟨vault, rfl, secrets⟩
  have results := h _ _ secrets
  dsimp only [withVault]
  generalize change r.vault = result at results ⊢
  generalize change' vault = result' at results ⊢
  cases results with
  | ok changed => exact ⟨.ok rfl, _, rfl, changed⟩
  | error e => exact ⟨.error e, vault, rfl, secrets⟩

omit [Seconds T] in
theorem together_create {name : String} {b b' : Bytes} (paired : P name b b') :
    Together P Eq (fun r : Rehearsal T => r.withVault (r.vault.create name (.ofBytes b)))
      (fun r => r.withVault (r.vault.create name (.ofBytes b'))) := by
  refine together_withVault (·.create name (.ofBytes b)) (·.create name (.ofBytes b')) ?_
  intro v v' secrets
  unfold Vault.create
  refine optionRel_cases (stores_find? secrets name) ?_ fun _ _ _ => .error _
  exact .ok (secrets.append (.inr ⟨b, b', paired, rfl, rfl⟩))

omit [Seconds T] in
theorem together_delete (name : String) :
    Together P Eq (fun r : Rehearsal T => r.withVault (r.vault.delete name))
      (fun r => r.withVault (r.vault.delete name)) := by
  refine together_withVault (·.delete name) (·.delete name) ?_
  intro v v' secrets
  unfold Vault.delete
  refine optionRel_cases (stores_find? secrets name) (.error _) fun _ _ _ => ?_
  exact .ok (secrets.filter name)

omit [Seconds T] in
theorem together_get (name : String) :
    Together P (Responses P name) (fun r : Rehearsal T => (r.vault.get name, r))
      (fun r => (r.vault.get name, r)) := by
  rintro r _ ⟨vault, rfl, secrets⟩
  refine ⟨?_, vault, rfl, secrets⟩
  dsimp only
  unfold Vault.get
  refine optionRel_cases (stores_find? secrets name) (.error _) fun p p' stores => .ok ?_
  rcases stores with rfl | ⟨b, b', paired, rfl, rfl⟩
  · exact .same _
  · exact .carried paired ((Payload.carried_request _).cons _ (by decide) (by decide))
      ((Payload.carried_request _).cons _ (by decide) (by decide))

omit [Seconds T] in
theorem listing_eq {r r' : Rehearsal T} (h : Alike P r r') : r'.listing = r.listing := by
  obtain ⟨vault, rfl, secrets⟩ := h
  simp only [listing, Vault.pages, secrets.names_eq]

/-! ### Answers -/

omit [Seconds T] in
theorem together_plainAnswer {c : Call T} (hc : c.isSecretive = false) :
    Together P Eq (fun r => r.plainAnswer c) (fun r => r.plainAnswer c) := by
  cases c with
  | create => cases hc
  | get => cases hc
  | delete id name => exact together_delete name
  | paginator id =>
      intro r r' h
      exact ⟨.ok (congrArg List.length (listing_eq h).symm), h⟩
  | page id index =>
      intro r r' h
      exact ⟨.ok (congrArg (·.getD index .null) (listing_eq h).symm), h⟩
  | _ =>
      rintro r _ ⟨vault, rfl, secrets⟩
      exact ⟨.refl _, vault, rfl, secrets⟩

omit [Seconds T] in
theorem together_plannedAnswer {c : Call T} (hc : c.isSecretive = false) (response : Value) :
    Together P Eq (fun r => r.plannedAnswer response c) (fun r => r.plannedAnswer response c) := by
  cases c with
  | create => cases hc
  | get => cases hc
  | delete => exact fun _ _ h => ⟨.refl _, h⟩
  | page => exact fun _ _ h => ⟨.refl _, h⟩
  | _ => exact together_plainAnswer hc

/-- A rehearsal is a discreet outside, whatever is planned. -/
def discreet : Discreet T (Rehearsal T) where
  alike := Alike
  refl P r := ⟨r.vault, rfl, .refl (fun _ _ => .inl rfl) _⟩
  mono := by
    rintro P Q r _ hPQ ⟨vault, rfl, secrets⟩
    refine ⟨vault, rfl, secrets.mono ?_⟩
    rintro name p p' (same | ⟨b, b', paired, left, right⟩)
    · exact .inl same
    · exact .inr ⟨b, b', hPQ _ _ _ paired, left, right⟩
  create _ _ paired h := met_beside (together_create paired) (fun _ _ _ h => ⟨.ok rfl, h⟩) h
  get _ name h := met_beside (together_get name) (fun _ _ _ h => ⟨.ok (.same _), h⟩) h
  other hc h := met_beside (together_plainAnswer hc) (together_plannedAnswer hc) h

end Rehearsal

end SecretVault
