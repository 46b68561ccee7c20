import SecretVault.Proofs.Remote.Upkeep
import SecretVault.Proofs.Store.Operation

/-!
A data operation on a store in the vault, in three parts: the check of its context, the preparation
that picks a client and for a listing begins it, and the requests. An error of the vendor in the
last two is reported; the report depends on the context at the moment of the error and on nothing
else.
-/

namespace SecretVault

namespace RemoteStore

variable {T σ : Type} [Seconds T]

open SecretVault.Action

/-! ## Reports -/

/-- What a failure of vendor work at a moment is reported as. -/
def reported (ctx : Context T) (operation name : String) (m : Moment T) (raised : Raised) :
    Raised :=
  match raised.failure with
  | .outside e =>
    if e.isVendor then
      match ctx.err m with
      | some err => .standingFor (.context err) e
      | none =>
        match e.kind with
        | .ok kind => .standingFor (failureOf operation name e kind) e
        | .error f => .plain (.fault f)
    else raised
  | _ => raised

theorem outcome_reporting {α : Type} (ctx : Context T) (operation name : String) (a : Op T σ α)
    (st : RemoteStore T × World T σ) :
    (reporting ctx operation name a).outcome st =
      ((a.outcome st).1.mapError (reported ctx operation name (a.outcome st).2.2.moment),
        (a.outcome st).2) := by
  simp only [reporting, outcome_bind, outcome_attempt]
  rcases a.outcome st with ⟨result, s, w⟩
  cases result with
  | ok x => rfl
  | error raised =>
      obtain ⟨failure, chained⟩ := raised
      cases failure with
      | outside e =>
          simp only [reported, mapError_error]
          split
          · simp only [report, outcome_bind, outcome_outward, World.outcome_now]
            cases ctx.err w.moment with
            | some err => rfl
            | none =>
                simp only [outcome_bind, outcome_ofFault]
                cases e.kind <;> rfl
          · rfl
      | _ => rfl

theorem reported_of_not_vendor {ctx : Context T} {operation name : String}
    {m : Moment T} {raised : Raised}
    (h : ∀ e, raised.failure = .outside e → e.isVendor = false) :
    reported ctx operation name m raised = raised := by
  unfold reported
  split
  · rename_i e he
    rw [h e he]
    rfl
  · rfl

/-- Once the context is done, its error comes before those of the vendor. -/
theorem reported_late {ctx : Context T} {operation name : String} {m : Moment T}
    {raised : Raised} {e : OutsideError} {err : ContextError} (he : raised.failure = .outside e)
    (hv : e.isVendor = true) (hdone : ctx.err m = some err) :
    (reported ctx operation name m raised).failure = .context err := by
  simp only [reported, he, hv, hdone, if_true]
  rfl

/-! ## Pages -/

variable [Outside T σ]

/-- A page is requested, its arrival is checked against the context, and its names come before those
of the pages after it. -/
theorem outcome_fetch_cons (ctx : Context T) (client index : Nat) (rest : List Nat)
    (s : RemoteStore T) (w : World T σ) :
    (fetch ctx client (index :: rest)).outcome (s, w) =
      (let arrived := w.afterCall (.page client index)
      match (w.reply (.page client index)).result with
      | .error e => (.error (.plain (.outside e)), s, arrived)
      | .ok page =>
        match ctx.err arrived.moment with
        | some err => (.error (.plain (.context err)), s, arrived)
        | none =>
          match namesOn page with
          | .error f => (.error (.plain (.fault f)), s, arrived)
          | .ok names =>
            (((fetch ctx client rest).outcome (s, arrived)).1.map (names ++ ·),
              ((fetch ctx client rest).outcome (s, arrived)).2)) := by
  simp only [fetch, outcome_bind, outcome_outward, World.outcome_perform w (.page client index),
    RemoteStore.check, World.outcome_check]
  cases (w.reply (.page client index)).result with
  | error e => rfl
  | ok page =>
      dsimp only [mapError_ok, mapError_error]
      cases ctx.err (w.afterCall (.page client index)).moment with
      | some err => rfl
      | none =>
          dsimp only
          rw [outcome_ofFault]
          cases namesOn page with
          | error f => rfl
          | ok names =>
              dsimp only [mapError_ok, mapError_error]
              rcases (fetch ctx client rest).outcome (s, w.afterCall (.page client index)) with
                ⟨result, after⟩
              cases result <;> rfl

/-- Calls of one kind were made. The store is as before, and nothing was numbered. -/
structure Sending (K : Call T → Prop) (before after : RemoteStore T × World T σ) : Prop where
  store_eq : after.1 = before.1
  passes : World.Passes K before.2 after.2
  sessions_eq : after.2.sessions = before.2.sessions
  clients_eq : after.2.clients = before.2.clients

theorem sending_lasting (K : Call T → Prop) : Lasting (Sending (σ := σ) K) where
  refl st := ⟨rfl, .refl st.2, rfl, rfl⟩
  trans first second := ⟨second.store_eq.trans first.store_eq, first.passes.trans second.passes,
    second.sessions_eq.trans first.sessions_eq, second.clients_eq.trans first.clients_eq⟩

theorem sending_perform {K : Call T → Prop} {c : Call T} (hc : K c) :
    Moves (Sending K) (outward (World.perform c) : Op T σ _) := by
  intro st
  rw [outcome_outward, World.outcome_perform]
  exact ⟨rfl, .call c (.refl _) hc, rfl, rfl⟩

theorem sending_fetch {K : Call T → Prop} (client : Nat) (hK : ∀ index, K (.page client index))
    (ctx : Context T) (indices : List Nat) :
    Moves (Sending K) (fetch ctx client indices : Op T σ _) := by
  have lasting := sending_lasting (T := T) (σ := σ) K
  induction indices with
  | nil => exact lasting.pure _
  | cons index rest ih =>
      refine lasting.bind (sending_perform (hK index)) fun page => lasting.bind ?_ fun _ =>
        lasting.bind (lasting.ofFault _) fun _ => lasting.bind ih fun _ => lasting.pure _
      rintro ⟨s, w⟩
      rw [RemoteStore.check, outcome_outward, World.outcome_check]
      exact lasting.refl (s, w)

theorem fetch_append (ctx : Context T) (client : Nat) (first rest : List Nat) :
    (fetch ctx client (first ++ rest) : RemoteStore.Op T σ _) =
      fetch ctx client first >>= fun names => fetch ctx client rest >>= fun more =>
        pure (names ++ more) := by
  induction first with
  | nil =>
      simp only [List.nil_append, fetch, pure_bind]
      exact (bind_pure _).symm
  | cons index first ih =>
      simp only [List.cons_append, fetch, ih, bind_assoc, pure_bind, List.append_assoc]

end RemoteStore

namespace Operation

variable {T σ : Type} [Seconds T] [Outside T σ]

open SecretVault.Action RemoteStore

def label : Operation → String
  | .create _ _ => "create"
  | .put _ _ => "create"
  | .read _ => "read"
  | .delete _ => "delete"
  | .list _ _ _ => "list"

/-- The entry that reports name; for a listing what its names begin with. -/
def subject : Operation → String
  | .create name _ => name
  | .put name _ => name
  | .read name => name
  | .delete name => name
  | .list start _ _ => start

/-- What comes before the first request: the choice of a client, and for a listing its beginning.
The answer is the client and the number of requests that follow. -/
def prepare (ctx : Context T) (op : Operation) : RemoteStore.Op T σ (Client × Nat) := do
  let client ← clientFor ctx op.label op.subject
  match op with
  | .list _ _ _ => return (client, ← outward (World.perform (.paginator client.id)))
  | _ => return (client, 1)

/-- The key of its own that a new secret is encrypted with, if one is configured. -/
def encryption (options : Options T) : Option Value :=
  if options.encryptionKey.isGiven then some options.encryptionKey else none

def request (ctx : Context T) (key : Option Value) (client : Client) (count : Nat) :
    Operation → RemoteStore.Op T σ (Except Fault Answer)
  | .create name value => do
    outward (World.perform (.create client.id name (Payload.ofBytes value) key))
    return .ok .done
  | .put name value => do
    outward (World.perform (.create client.id name (Payload.ofBytes value) key))
    return .ok .done
  | .read name => do
    let response ← outward (World.perform (.get client.id name))
    return (Payload.ofResponse response).map fun payload => .value payload.toBytes
  | .delete name => do
    outward (World.perform (.delete client.id name))
    return .ok .done
  | .list start limit cursor => do
    let found ← fetch ctx client.id (List.range count)
    return (found.mapM nameText).map fun names => .page (Listing.page names start limit cursor)

theorem sending_request {K : Call T → Prop} {client : Client}
    (hK : ∀ c : Call T, c.user = some client.id → K c) (ctx : Context T) (key : Option Value)
    (count : Nat) (op : Operation) :
    Moves (Sending K) (op.request ctx key client count : RemoteStore.Op T σ _) := by
  have lasting := sending_lasting (T := T) (σ := σ) K
  cases op with
  | create name value =>
      exact lasting.bind (sending_perform (hK _ rfl)) fun _ => lasting.pure _
  | put name value =>
      exact lasting.bind (sending_perform (hK _ rfl)) fun _ => lasting.pure _
  | read name =>
      exact lasting.bind (sending_perform (hK _ rfl)) fun _ => lasting.pure _
  | delete name =>
      exact lasting.bind (sending_perform (hK _ rfl)) fun _ => lasting.pure _
  | list start limit cursor =>
      exact lasting.bind (sending_fetch _ (fun _ => hK _ rfl) ctx _) fun _ => lasting.pure _

def work (ctx : Context T) (key : Option Value) (op : Operation) :
    RemoteStore.Op T σ (Except Fault Answer) := do
  let (client, count) ← op.prepare ctx
  op.request ctx key client count

omit [Outside T σ] in
/-- An action under a check and reports whose answer is decoded last, against the same work with the
decoding inside. -/
theorem outcome_checked {α : Type} (ctx : Context T) (name subject : String)
    (inner : RemoteStore.Op T σ α) (decode : α → Except Fault Answer)
    (work : RemoteStore.Op T σ (Except Fault Answer))
    (hwork : work = inner >>= fun x => pure (decode x)) (s : RemoteStore T) (w : World T σ) :
    (do
      RemoteStore.check ctx
      let x ← reporting ctx name subject inner
      Action.ofFault (decode x) : RemoteStore.Op T σ Answer).outcome (s, w) =
      match ctx.err w.moment with
      | some e => (.error (.plain (.context e)), s, w)
      | none =>
        match work.outcome (s, w) with
        | (.ok answer, after) => (answer.mapError fun f => .plain (.fault f), after)
        | (.error raised, after) =>
          (.error (reported ctx name subject after.2.moment raised), after) := by
  simp only [RemoteStore.check, outcome_bind, outcome_outward, World.outcome_check,
    outcome_reporting, outcome_ofFault, hwork]
  cases ctx.err w.moment with
  | some e => rfl
  | none =>
      dsimp only
      rcases inner.outcome (s, w) with ⟨result, after⟩
      cases result <;> rfl

/-- An operation whose context is done stops at once. Otherwise it does its work, reports what goes
wrong there, and answers what it makes of the responses. -/
theorem outcome_onRemote (ctx : Context T) (op : Operation) (s : RemoteStore T) (w : World T σ) :
    (op.onRemote ctx).outcome (s, w) =
      match ctx.err w.moment with
      | some e => (.error (.plain (.context e)), s, w)
      | none =>
        match (op.work ctx (encryption s.options)).outcome (s, w) with
        | (.ok answer, after) => (answer.mapError fun f => .plain (.fault f), after)
        | (.error raised, after) =>
          (.error (reported ctx op.label op.subject after.2.moment raised), after) := by
  have hcreate (name : String) (value : Bytes) :=
    outcome_checked ctx "create" name
      (do
        let client ← clientFor ctx "create" name
        outward (World.perform
          (.create client.id name (Payload.ofBytes value) (encryption s.options))))
      (fun _ => .ok .done) (work ctx (encryption s.options) (.create name value))
      (by simp only [work, prepare, request, label, subject, bind_assoc, pure_bind]) s w
  cases op with
  | create name value =>
      refine Eq.trans ?_ (hcreate name value)
      simp only [onRemote, RemoteStore.create, RemoteStore.check, outcome_bind, outcome_outward,
        World.outcome_check]
      cases ctx.err w.moment <;> rfl
  | put name value =>
      refine Eq.trans ?_ (hcreate name value)
      simp only [onRemote, RemoteStore.create, RemoteStore.check, outcome_bind, outcome_outward,
        World.outcome_check]
      cases ctx.err w.moment <;> rfl
  | read name =>
      have hread := outcome_checked ctx "read" name
        (do
          let client ← clientFor ctx "read" name
          outward (World.perform (.get client.id name)))
        (fun response => (Payload.ofResponse response).map fun payload => .value payload.toBytes)
        (work ctx (encryption s.options) (.read name))
        (by simp only [work, prepare, request, label, subject, bind_assoc, pure_bind]) s w
      refine Eq.trans ?_ hread
      simp only [onRemote, RemoteStore.read, bind_assoc, pure_bind, ofFault_map]
  | delete name =>
      have hdelete := outcome_checked ctx "delete" name
        (do
          let client ← clientFor ctx "delete" name
          outward (World.perform (.delete client.id name)))
        (fun _ => .ok .done) (work ctx (encryption s.options) (.delete name))
        (by simp only [work, prepare, request, label, subject, bind_assoc, pure_bind]) s w
      refine Eq.trans ?_ hdelete
      simp only [onRemote, RemoteStore.delete, bind_assoc, ofFault_ok]
  | list start limit cursor =>
      have hlist := outcome_checked ctx "list" start
        (do
          let client ← clientFor ctx "list" start
          let count ← outward (World.perform (.paginator client.id))
          fetch ctx client.id (List.range count))
        (fun found =>
          (found.mapM nameText).map fun names => .page (Listing.page names start limit cursor))
        (work ctx (encryption s.options) (.list start limit cursor))
        (by simp only [work, prepare, request, label, subject, bind_assoc, pure_bind]) s w
      refine Eq.trans ?_ hlist
      simp only [onRemote, RemoteStore.list, bind_assoc, pure_bind, ofFault_map]

theorem outcome_onRemote_snd {ctx : Context T} {op : Operation} {s : RemoteStore T} {w : World T σ}
    (alive : ctx.err w.moment = none) :
    ((op.onRemote ctx).outcome (s, w)).2 =
      ((op.work ctx (encryption s.options)).outcome (s, w)).2 := by
  rw [outcome_onRemote, alive]
  dsimp only
  split
  · rename_i h
    rw [h]
  · rename_i h
    rw [h]

/-- What an operation sends once it has picked a client: for a listing its beginning, and the
requests. -/
def serve (ctx : Context T) (key : Option Value) (op : Operation) (client : Client) :
    RemoteStore.Op T σ (Except Fault Answer) :=
  match op with
  | .list start limit cursor => do
    let count ← outward (World.perform (.paginator client.id))
    (Operation.list start limit cursor).request ctx key client count
  | op => op.request ctx key client 1

theorem work_eq_serve (ctx : Context T) (key : Option Value) (op : Operation) :
    (op.work ctx key : RemoteStore.Op T σ _) =
      clientFor ctx op.label op.subject >>= op.serve ctx key := by
  cases op with
  | _ =>
      simp only [work, prepare, bind_assoc, pure_bind]
      rfl

theorem onRemote_ok {ctx : Context T} {op : Operation} {s : RemoteStore T} {w : World T σ}
    {answer : Answer} {st : RemoteStore T × World T σ}
    (h : (op.onRemote ctx).outcome (s, w) = (.ok answer, st)) :
    ∃ client between,
      (clientFor ctx op.label op.subject).outcome (s, w) = (.ok client, between) ∧
      (op.serve ctx (encryption s.options) client).outcome between = (.ok (.ok answer), st) := by
  rw [outcome_onRemote] at h
  cases alive : ctx.err w.moment with
  | some err =>
      rw [alive] at h
      cases h
  | none =>
      rw [alive] at h
      dsimp only at h
      rcases hwork : (op.work ctx (encryption s.options)).outcome (s, w) with ⟨result, after⟩
      rw [hwork] at h
      cases result with
      | error raised => cases h
      | ok decoded =>
          cases decoded with
          | error f => cases h
          | ok found =>
              cases h
              rw [work_eq_serve] at hwork
              exact outcome_bind_eq_ok.mp hwork

theorem sending_serve (ctx : Context T) (key : Option Value) (op : Operation) (client : Client) :
    Moves (Sending fun c : Call T => c.user = some client.id)
      (op.serve ctx key client : RemoteStore.Op T σ _) := by
  have lasting := sending_lasting (T := T) (σ := σ) fun c => c.user = some client.id
  cases op with
  | list start limit cursor =>
      exact lasting.bind (sending_perform rfl) fun count =>
        sending_request (fun _ h => h) ctx key count _
  | _ => exact sending_request (fun _ h => h) ctx key 1 _

/-! ## One request, or the pages of a listing -/

omit [Seconds T] in
/-- The one request of an operation, unless it is a listing. -/
def sole? (key : Option Value) (client : Nat) : Operation → Option (Call T)
  | .create name value => some (.create client name (Payload.ofBytes value) key)
  | .put name value => some (.create client name (Payload.ofBytes value) key)
  | .read name => some (.get client name)
  | .delete name => some (.delete client name)
  | .list _ _ _ => none

variable {ctx : Context T} {key : Option Value} {op : Operation} {client : Client}
  {s : RemoteStore T} {w : World T σ}

def answerTo : (call : Call T) → call.Answer → Except Fault Answer
  | .get _ _, response => (Payload.ofResponse response).map fun payload => .value payload.toBytes
  | _, _ => .ok .done

omit [Seconds T] in
theorem answerTo_change {call : Call T} (hc : call.isChange = true) (x : call.Answer) :
    answerTo call x = .ok .done := by
  cases call with
  | get => cases hc
  | _ => rfl

theorem outcome_serve_sole {call : Call T} (sole : op.sole? key client.id = some call) :
    (op.serve ctx key client).outcome (s, w) =
      (((w.reply call).result.mapError fun e => .plain (.outside e)).map (answerTo call), s,
        w.afterCall call) := by
  have sends {α : Type} (c : Call T) (f : c.Answer → α) :
      (outward (World.perform c) >>= fun x => pure (f x) : RemoteStore.Op T σ α).outcome (s, w) =
        (((w.reply c).result.mapError fun e => .plain (.outside e)).map f, s, w.afterCall c) := by
    rw [outcome_bind_pure, outcome_outward, World.outcome_perform]
  cases op with
  | list start limit cursor => cases sole
  | read name =>
      cases sole
      exact sends (Call.get client.id name) _
  | _ =>
      cases sole
      exact sends _ _

theorem serve_sole {call : Call T} (sole : op.sole? key client.id = some call) {raised : Raised}
    {st : RemoteStore T × World T σ} :
    (op.serve ctx key client).outcome (s, w) = (.error raised, st) ↔
      ∃ e, (w.reply call).result = .error e ∧ raised = .plain (.outside e) ∧
        st = (s, w.afterCall call) := by
  rw [outcome_serve_sole sole]
  cases (w.reply call).result with
  | ok answer => simp [Except.map]
  | error e =>
      simp only [mapError_error, Except.map, Prod.mk.injEq, Except.error.injEq]
      constructor
      · rintro ⟨rfl, rfl⟩
        exact ⟨e, rfl, rfl, rfl⟩
      · rintro ⟨_, rfl, rfl, rfl⟩
        exact ⟨rfl, rfl⟩

theorem serve_listing (many : op.sole? (T := T) key client.id = none) :
    (op.serve ctx key client : RemoteStore.Op T σ _) =
      outward (World.perform (.paginator client.id)) >>= op.request ctx key client := by
  cases op with
  | list start limit cursor => rfl
  | _ => cases many

theorem request_listing (many : op.sole? (T := T) key client.id = none) {count : Nat}
    {raised : Raised} {st : RemoteStore T × World T σ} :
    (op.request ctx key client count).outcome (s, w) = (.error raised, st) ↔
      (fetch ctx client.id (List.range count)).outcome (s, w) = (.error raised, st) := by
  cases op with
  | list start limit cursor =>
      rw [request, outcome_bind_pure]
      rcases (fetch ctx client.id (List.range count)).outcome (s, w) with ⟨result, after⟩
      cases result <;> simp [Except.map]
  | _ => cases many

end Operation

end SecretVault
