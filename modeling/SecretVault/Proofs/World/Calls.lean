import SecretVault.Credentials.Source
import SecretVault.Proofs.Action.Outcome

/-!
What calls do to the world. A call adds one entry to the log and hands the outside on; the entries
of a log are never taken back. `Passes K` relates two worlds if the library went from one to the
other by calls of kind `K` alone.
-/

namespace SecretVault

namespace Call

variable {T : Type}

def isSearch : Call T → Bool
  | .load _ _ => true
  | .metadata => true
  | _ => false

def isChange : Call T → Bool
  | .create _ _ _ _ => true
  | .delete _ _ => true
  | _ => false

/-- Whether the call keeps the clients of a store: it looks for credentials, opens a session, or
builds or closes a client. -/
def isUpkeep : Call T → Bool
  | .session _ _ _ => true
  | .client _ _ _ _ => true
  | .close _ => true
  | c => c.isSearch

/-- The client that a request or the beginning of a listing goes to. -/
def user : Call T → Option Nat
  | .create id _ _ _ => some id
  | .get id _ => some id
  | .delete id _ => some id
  | .paginator id => some id
  | .page id _ => some id
  | _ => none

def closing : Call T → Option Nat
  | .close id => some id
  | _ => none

def isQuiet : Call T → Bool
  | .client _ _ _ _ => false
  | .close _ => false
  | c => c.user.isNone

theorem isQuiet_of_isSearch {c : Call T} (h : c.isSearch = true) : c.isQuiet = true := by
  cases c <;> simp_all [isSearch, isQuiet, user]

theorem isUpkeep_of_isSearch {c : Call T} (h : c.isSearch = true) : c.isUpkeep = true := by
  cases c <;> simp_all [isSearch, isUpkeep]

theorem not_isRequest_of_isUpkeep {c : Call T} (h : c.isUpkeep = true) : c.isRequest = false := by
  cases c <;> simp_all [isSearch, isUpkeep, isRequest]

theorem user_of_isUpkeep {c : Call T} (h : c.isUpkeep = true) : c.user = none := by
  cases c <;> simp_all [isSearch, isUpkeep, user]

theorem not_isChange_of_not_isRequest {c : Call T} (h : c.isRequest = false) :
    c.isChange = false := by
  cases c <;> simp_all [isRequest, isChange]

end Call

namespace World

variable {T σ : Type} [Seconds T] [Outside T σ]

/-! ## One call -/

def reply (w : World T σ) (c : Call T) : Reply T σ c.Answer :=
  Outside.answer c w.outside

def entryOf (w : World T σ) (c : Call T) : Logged T :=
  ⟨c, w.moment, (w.reply c).result.isOk⟩

def afterCall (w : World T σ) (c : Call T) : World T σ :=
  { w with
    moment := ⟨w.moment.now + (w.reply c).elapsed, (w.reply c).cancelled ++ w.moment.cancelled⟩
    log := w.log ++ [w.entryOf c]
    outside := (w.reply c).state }

@[simp] theorem log_afterCall (w : World T σ) (c : Call T) :
    (w.afterCall c).log = w.log ++ [w.entryOf c] := rfl

@[simp] theorem outside_afterCall (w : World T σ) (c : Call T) :
    (w.afterCall c).outside = (w.reply c).state := rfl

@[simp] theorem sessions_afterCall (w : World T σ) (c : Call T) :
    (w.afterCall c).sessions = w.sessions := rfl

@[simp] theorem clients_afterCall (w : World T σ) (c : Call T) :
    (w.afterCall c).clients = w.clients := rfl

omit [Seconds T] in
@[simp] theorem call_entryOf (w : World T σ) (c : Call T) : (w.entryOf c).call = c := rfl

omit [Seconds T] in
@[simp] theorem succeeded_entryOf (w : World T σ) (c : Call T) :
    (w.entryOf c).succeeded = (w.reply c).result.isOk := rfl

/-- A call brings what the outside answers, and the world after it. -/
theorem outcome_perform (w : World T σ) (c : Call T) :
    (perform c).outcome w =
      ((w.reply c).result.mapError fun e => .plain (.outside e), w.afterCall c) := by
  unfold perform afterCall entryOf reply
  rw [Action.outcome_ofOutcome]
  rcases Outside.answer c w.outside with ⟨result, elapsed, cancelled, state⟩
  cases result with
  | ok answer => rfl
  | error e => rfl

omit [Seconds T] [Outside T σ] in
@[simp] theorem outcome_now (w : World T σ) :
    (now : Action (World T σ) _).outcome w = (.ok w.moment, w) := rfl

omit [Outside T σ] in
/-- The check of a context stops exactly if the context is done, and changes nothing. -/
theorem outcome_check (ctx : Context T) (w : World T σ) :
    (check ctx).outcome w =
      (match ctx.err w.moment with
        | some e => .error (.plain (.context e))
        | none => .ok (), w) := by
  simp only [check, Action.outcome_bind, outcome_now]
  cases ctx.err w.moment <;> rfl

theorem outcome_openSession (w : World T σ) (region : Value) (credentials : Option Credentials) :
    (openSession region credentials).outcome w =
      (let c : Call T := .session (w.sessions + 1) region credentials
      match (w.reply c).result with
      | .ok _ => (.ok (w.sessions + 1), { w.afterCall c with sessions := w.sessions + 1 })
      | .error e => (.error (.plain (.outside e)), w.afterCall c)) := by
  simp only [openSession, Action.outcome_bind, Action.outcome_get,
    outcome_perform w (.session (w.sessions + 1) region credentials)]
  cases (w.reply (.session (w.sessions + 1) region credentials)).result <;> rfl

theorem outcome_buildClient (w : World T σ) (session : Nat) (endpoint : Option Value)
    (limits : Limits T) :
    (buildClient session endpoint limits).outcome w =
      (let c : Call T := .client session (w.clients + 1) endpoint limits
      match (w.reply c).result with
      | .ok closable =>
        (.ok ⟨w.clients + 1, closable⟩, { w.afterCall c with clients := w.clients + 1 })
      | .error e => (.error (.plain (.outside e)), w.afterCall c)) := by
  simp only [buildClient, Action.outcome_bind, Action.outcome_get,
    outcome_perform w (.client session (w.clients + 1) endpoint limits)]
  cases (w.reply (.client session (w.clients + 1) endpoint limits)).result <;> rfl

theorem outcome_closeClient (w : World T σ) (c : Client) :
    (closeClient c).outcome w =
      (if c.closable then (perform (.close c.id)).outcome w else (.ok (), w)) := by
  unfold closeClient
  split <;> rfl

/-! ## Calls of a kind -/

/-- The log went on by entries of one kind. -/
def Logs (P : Logged T → Prop) (w after : World T σ) : Prop :=
  ∃ calls, after.log = w.log ++ calls ∧ ∀ e ∈ calls, P e

namespace Logs

variable {P Q : Logged T → Prop} {u v w : World T σ}

omit [Seconds T] [Outside T σ] in
theorem refl (w : World T σ) : Logs P w w :=
  ⟨[], by simp, by simp⟩

omit [Seconds T] [Outside T σ] in
theorem trans (first : Logs P u v) (second : Logs P v w) : Logs P u w := by
  obtain ⟨calls, hlog, hcalls⟩ := first
  obtain ⟨more, hmore, hmores⟩ := second
  refine ⟨calls ++ more, by rw [hmore, hlog, List.append_assoc], ?_⟩
  intro e he
  rcases List.mem_append.mp he with he | he
  · exact hcalls e he
  · exact hmores e he

omit [Seconds T] [Outside T σ] in
theorem mono (h : Logs P v w) (hPQ : ∀ e, P e → Q e) : Logs Q v w := by
  obtain ⟨calls, hlog, hcalls⟩ := h
  exact ⟨calls, hlog, fun e he => hPQ e (hcalls e he)⟩

theorem afterCall (c : Call T) (h : P (w.entryOf c)) : Logs P w (w.afterCall c) := by
  refine ⟨[w.entryOf c], rfl, ?_⟩
  intro e he
  obtain rfl := List.mem_singleton.mp he
  exact h

omit [Seconds T] [Outside T σ] in
/-- Whatever was logged from one world to the next is among the entries of the kind. -/
theorem of_log_eq {calls : List (Logged T)} (h : Logs P v w) (hlog : w.log = v.log ++ calls) :
    ∀ e ∈ calls, P e := by
  obtain ⟨found, hfound, hP⟩ := h
  obtain rfl : calls = found := List.append_cancel_left (hlog.symm.trans hfound)
  exact hP

end Logs

/-- From the first world to the second, the library made calls of kind `K` only. Apart from the
calls it may have set up the host and numbered sessions and clients. -/
inductive Passes (K : Call T → Prop) : World T σ → World T σ → Prop where
  | refl (w) : Passes K w w
  | call {w after} (c : Call T) : Passes K w after → K c → Passes K w (after.afterCall c)
  | host {w after} (host : Host) : Passes K w after → Passes K w { after with host := host }
  | number {w after} (sessions clients : Nat) : Passes K w after →
      Passes K w { after with sessions := sessions, clients := clients }

namespace Passes

variable {K L : Call T → Prop} {u v w : World T σ}

theorem trans (first : Passes K u v) (second : Passes K v w) : Passes K u w := by
  induction second with
  | refl => exact first
  | call c _ hc ih => exact ih.call c hc
  | host host _ ih => exact ih.host host
  | number sessions clients _ ih => exact ih.number sessions clients

theorem mono (h : Passes K v w) (hKL : ∀ c, K c → L c) : Passes L v w := by
  induction h with
  | refl => exact .refl _
  | call c _ hc ih => exact ih.call c (hKL c hc)
  | host host _ ih => exact ih.host host
  | number sessions clients _ ih => exact ih.number sessions clients

theorem logs (h : Passes K v w) : Logs (fun e => K e.call) v w := by
  induction h with
  | refl => exact .refl _
  | call c _ hc ih => exact ih.trans (.afterCall c hc)
  | host _ _ ih => exact ih
  | number _ _ _ ih => exact ih

/-- A view of the outside that no call of kind `K` changes stays as it is. -/
theorem view {V : Type} {view : σ → V}
    (hview : ∀ c : Call T, K c → ∀ s : σ, view (Outside.answer c s).state = view s)
    (h : Passes K v w) : view w.outside = view v.outside := by
  induction h with
  | refl => rfl
  | @call after c _ hc ih => exact (hview c hc after.outside).trans ih
  | host _ _ ih => exact ih
  | number _ _ _ ih => exact ih

theorem keeps {P : σ → Prop}
    (hkeeps : ∀ c : Call T, K c → ∀ s : σ, P s → P (Outside.answer c s).state)
    (h : Passes K v w) (hP : P v.outside) : P w.outside := by
  induction h with
  | refl => exact hP
  | @call after c _ hc ih => exact hkeeps c hc after.outside ih
  | host _ _ ih => exact ih
  | number _ _ _ ih => exact ih

end Passes

end World

/-! ## Looking for credentials -/

namespace Source

variable {T σ : Type} [Seconds T] [Outside T σ]

open World

/-- Nothing but sources was asked, and nothing was numbered meanwhile. -/
structure Searched (w after : World T σ) : Prop where
  passes : Passes (fun c => c.isSearch = true) w after
  sessions_eq : after.sessions = w.sessions
  clients_eq : after.clients = w.clients

theorem searched_lasting : Action.Lasting (Searched (T := T) (σ := σ)) where
  refl w := ⟨.refl w, rfl, rfl⟩
  trans first second := ⟨first.passes.trans second.passes,
    second.sessions_eq.trans first.sessions_eq, second.clients_eq.trans first.clients_eq⟩

theorem searched_perform {c : Call T} (hc : c.isSearch = true) :
    Action.Moves Searched (perform (T := T) (σ := σ) c) := by
  intro w
  rw [outcome_perform]
  exact ⟨(Passes.refl w).call c hc, rfl, rfl⟩

theorem searched_load (source : Source) :
    Action.Moves Searched (load (T := T) (σ := σ) source) := by
  have lasting := searched_lasting (T := T) (σ := σ)
  cases source with
  | login c => exact lasting.pure _
  | environment start file =>
      refine lasting.bind ?_ fun _ => lasting.bind lasting.refl fun _ => lasting.ofFault _
      intro w
      exact ⟨(Passes.refl w).host _, rfl, rfl⟩
  | profile path profile => exact lasting.bind lasting.refl fun _ => lasting.ofExcept _
  | role metadata =>
      refine lasting.bind ?_ fun _ => lasting.ofFault _
      cases metadata with
      | service => exact searched_perform rfl
      | known answer => exact lasting.ofExcept _
  | foreign name slot => exact searched_perform rfl

theorem searched_resolve (sources : List Source) :
    Action.Moves Searched (resolve (T := T) (σ := σ) sources) := by
  have lasting := searched_lasting (T := T) (σ := σ)
  induction sources with
  | nil => exact lasting.pure _
  | cons source rest ih =>
      refine lasting.bind (searched_load source).attempt ?_
      intro result
      split
      · split
        · exact ih
        · exact lasting.pure _
      · exact ih

/-- A source that fails is passed over, so looking for credentials never fails. -/
theorem resolve_ok (sources : List Source) (w : World T σ) :
    ∃ found after, (resolve sources).outcome w = (.ok found, after) := by
  induction sources generalizing w with
  | nil => exact ⟨none, w, rfl⟩
  | cons source rest ih =>
      rw [resolve, Action.outcome_bind, Action.outcome_attempt]
      split
      · rename_i result after h
        split
        · split
          · exact ih after
          · exact ⟨_, after, rfl⟩
        · exact ih after
      · rename_i h
        cases h

end Source

end SecretVault
