import SecretVault.Proofs.Outside.Error
import SecretVault.Proofs.Remote.Punctual

/-!
How an operation reports an error of the vendor. `Met` lists the points of its work at which an
error from outside can be met, and they are all: the work stops with such an error exactly where it
meets it. What is reported then is read off the error alone, whatever the operation and the point.
-/

namespace SecretVault

variable {T σ : Type} [Seconds T] [Outside T σ]

open SecretVault.Action RemoteStore World

namespace Operation

/-! ## Where an error is met -/

/-- The points of an operation's work at which an error from outside is met, with the store and the
world as they are then: while the credentials are refreshed, the session, the new client or the
closing of an old client fails; the client for the time that is left fails; the request fails; or
the beginning of a listing fails, or a page of it after others have arrived. -/
inductive Met (ctx : Context T) (key : Option Value) (op : Operation) (s : RemoteStore T)
    (w : World T σ) (e : OutsideError) : RemoteStore T × World T σ → Prop where
  | session {found w₁} (stale : s.isStale w.wall = .ok true)
      (search : (resolve s.resolver).outcome w = (.ok found, w₁))
      (refused : (w₁.reply (.session (w₁.sessions + 1) s.options.region found)).result = .error e) :
      Met ctx key op s w e ({ s with bounded := [], credentials := found },
        w₁.afterCall (.session (w₁.sessions + 1) s.options.region found))
  | renewal {found w₁ w₂} (stale : s.isStale w.wall = .ok true)
      (search : (resolve s.resolver).outcome w = (.ok found, w₁))
      (opened : (w₁.reply (.session (w₁.sessions + 1) s.options.region found)).result = .ok ())
      (refused : (build (w₁.sessions + 1) s.options.limits).outcome
        (({ s with bounded := [] } : RemoteStore T).renewed found (w₁.sessions + 1),
          withSession w₁ s.options.region found) =
        (.error (.plain (.outside e)),
          ({ s with bounded := [] } : RemoteStore T).renewed found (w₁.sessions + 1), w₂)) :
      Met ctx key op s w e
        (({ s with bounded := [] } : RemoteStore T).renewed found (w₁.sessions + 1), w₂)
  | closing {c s₁ w₁ w₂} (stale : s.isStale w.wall = .ok true)
      (rebuilt : newClient.outcome ({ s with bounded := [] }, w) = (.ok c, s₁, w₁))
      (refused : (closeAll s.held).outcome ({ s₁ with client := some c }, w₁) =
        (.error (.plain (.outside e)), { s₁ with client := some c }, w₂)) :
      Met ctx key op s w e ({ s₁ with client := some c }, w₂)
  | bounded {c? s₁ w₁ limits session c w₂}
      (access : freshClient.outcome (s, w) = (.ok c?, s₁, w₁))
      (limited : s₁.options.limits.for? (ctx.remaining w₁.moment) = .ok (some limits))
      (client : s₁.client = some c) (open_ : s₁.session = some session)
      (new : s₁.boundedClient? limits = none)
      (refused : (build session limits).outcome (s₁, w₁) =
        (.error (.plain (.outside e)), s₁, w₂)) :
      Met ctx key op s w e (s₁, w₂)
  | request {client s₁ w₁ call}
      (picked : (clientFor ctx op.label op.subject).outcome (s, w) = (.ok client, s₁, w₁))
      (sole : op.sole? key client.id = some call)
      (refused : (w₁.reply call).result = .error e) :
      Met ctx key op s w e (s₁, w₁.afterCall call)
  | listing {client s₁ w₁}
      (picked : (clientFor ctx op.label op.subject).outcome (s, w) = (.ok client, s₁, w₁))
      (many : op.sole? (T := T) key client.id = none)
      (refused : (w₁.reply (.paginator client.id)).result = .error e) :
      Met ctx key op s w e (s₁, w₁.afterCall (.paginator client.id))
  | page {client s₁ w₁ count index names s₂ w₂}
      (picked : (clientFor ctx op.label op.subject).outcome (s, w) = (.ok client, s₁, w₁))
      (many : op.sole? (T := T) key client.id = none)
      (begun : (w₁.reply (.paginator client.id)).result = .ok count) (more : index < count)
      (arrived : (fetch ctx client.id (List.range index)).outcome
        (s₁, w₁.afterCall (.paginator client.id)) = (.ok names, s₂, w₂))
      (refused : (w₂.reply (.page client.id index)).result = .error e) :
      Met ctx key op s w e (s₂, w₂.afterCall (.page client.id index))

variable {ctx : Context T} {key : Option Value} {op : Operation} {s s' : RemoteStore T}
  {w w' : World T σ} {e : OutsideError} {client : Client}

/-! ## The work stops where an error is met -/

/-- Fetching stops with an error from outside exactly if a page fails after those before it have
arrived. -/
theorem fetch_outside {id count : Nat} {st : RemoteStore T × World T σ}
    (h : (fetch ctx id (List.range count)).outcome (s, w) = (.error (.plain (.outside e)), st)) :
    ∃ index names s₁ w₁, index < count ∧
      (fetch ctx id (List.range index)).outcome (s, w) = (.ok names, s₁, w₁) ∧
      (w₁.reply (.page id index)).result = .error e ∧ st = (s₁, w₁.afterCall (.page id index)) := by
  induction count with
  | zero => cases h
  | succ count ih =>
      rw [List.range_succ, fetch_append, outcome_bind] at h
      rcases hbefore : (fetch ctx id (List.range count)).outcome (s, w) with ⟨result, s₁, w₁⟩
      rw [hbefore] at h
      cases result with
      | error raised =>
          cases h
          obtain ⟨index, names, s₂, w₂, hindex, found⟩ := ih hbefore
          exact ⟨index, names, s₂, w₂, Nat.lt_succ_of_lt hindex, found⟩
      | ok names =>
          simp only [outcome_bind, outcome_fetch_cons] at h
          cases hpage : (w₁.reply (.page id count)).result with
          | error e' =>
              simp only [hpage] at h
              cases h
              exact ⟨count, names, s₁, w₁, Nat.lt_succ_self count, hbefore, hpage, rfl⟩
          | ok page =>
              simp only [hpage] at h
              -- the last page has arrived, and what can go wrong with it is no error from outside
              cases hdone : ctx.err (w₁.afterCall (.page id count)).moment with
              | some err =>
                  simp only [hdone] at h
                  cases h
              | none =>
                  simp only [hdone] at h
                  cases hnames : namesOn page with
                  | error f =>
                      simp only [hnames] at h
                      cases h
                  | ok more =>
                      simp only [hnames] at h
                      cases h

theorem Met.stops {st : RemoteStore T × World T σ} (h : Met ctx key op s w e st) :
    (op.work ctx key).outcome (s, w) = (.error (.plain (.outside e)), st) := by
  -- an error met while a client is picked is what the choice of a client fails with
  have unpicked {st : RemoteStore T × World T σ}
      (failed : (clientFor ctx op.label op.subject).outcome (s, w) =
        (.error (.plain (.outside e)), st)) :
      (op.work ctx key).outcome (s, w) = (.error (.plain (.outside e)), st) := by
    rw [work_eq_serve, outcome_bind_error failed]
  rw [work_eq_serve] at unpicked ⊢
  cases h with
  | session stale search refused =>
      have access := (Accessed.failed stale (.noSession search refused)).outcome
      exact unpicked (Picked.refused access).outcome
  | renewal stale search opened refused =>
      have access := (Accessed.failed stale (.noClient search opened refused)).outcome
      exact unpicked (Picked.refused access).outcome
  | closing stale rebuilt refused =>
      have access := (Accessed.unclosed stale (rebuilt_newClient _ _ rebuilt) refused).outcome
      exact unpicked (Picked.refused access).outcome
  | bounded access limited client open_ new refused =>
      exact unpicked (Picked.unbuilt access limited client open_ new refused).outcome
  | request picked sole refused =>
      rw [outcome_bind_ok picked]
      exact (serve_sole sole).mpr ⟨e, refused, rfl, rfl⟩
  | @listing client s₁ w₁ picked many refused =>
      rw [outcome_bind_ok picked, serve_listing many, outcome_bind, outcome_outward,
        World.outcome_perform w₁ (.paginator client.id), refused]
      rfl
  | @page client s₁ w₁ count index names s₂ w₂ picked many begun more arrived refused =>
      have stopped := fetch_stops more arrived (World.outcome_perform w₂ (.page client.id index))
        (.inl (by rw [refused]; rfl))
      rw [outcome_bind_ok picked, serve_listing many, outcome_bind, outcome_outward,
        World.outcome_perform w₁ (.paginator client.id), begun]
      exact (request_listing many).mpr stopped

theorem Met.of_stops {st : RemoteStore T × World T σ}
    (h : (op.work ctx key).outcome (s, w) = (.error (.plain (.outside e)), st)) :
    Met ctx key op s w e st := by
  obtain ⟨s', w'⟩ := st
  rw [work_eq_serve, outcome_bind] at h
  rcases hpicked : (clientFor ctx op.label op.subject).outcome (s, w) with ⟨picked, s₁, w₁⟩
  rw [hpicked] at h
  cases picked with
  | error raised =>
      cases h
      cases picked_clientFor ctx _ _ s w hpicked with
      | refused access =>
          cases accessed_freshClient s w access with
          | failed stale rebuilt =>
              cases rebuilt with
              | noSession search refused => exact .session stale search refused
              | noClient search opened failed => exact .renewal stale search opened failed
          | unclosed stale rebuilt closing => exact .closing stale rebuilt.outcome closing
      | unbuilt access limited client open_ new failed =>
          exact .bounded access limited client open_ new failed
  | ok client =>
      dsimp only at h
      cases hsole : op.sole? (T := T) key client.id with
      | some call =>
          obtain ⟨e', refused, same, hst⟩ := (serve_sole hsole).mp h
          cases same
          rw [hst]
          exact .request hpicked hsole refused
      | none =>
          rw [serve_listing hsole, outcome_bind, outcome_outward,
            World.outcome_perform w₁ (.paginator client.id)] at h
          cases hbegun : (w₁.reply (.paginator client.id)).result with
          | error e' =>
              rw [hbegun] at h
              cases h
              exact .listing hpicked hsole hbegun
          | ok count =>
              rw [hbegun] at h
              obtain ⟨index, names, s₂, w₂, more, arrived, refused, hst⟩ :=
                fetch_outside ((request_listing hsole).mp h)
              rw [hst]
              exact .page hpicked hsole hbegun more arrived refused

/-- The work stops with an error from outside exactly where the error is met. -/
theorem work_stops_iff {st : RemoteStore T × World T σ} :
    (op.work ctx key).outcome (s, w) = (.error (.plain (.outside e)), st) ↔
      Met ctx key op s w e st :=
  ⟨Met.of_stops, Met.stops⟩

/-! ## What an error is reported as -/

/-- What an operation fails with for an error of the vendor: one of four failures, and which one is
read off the fields of the response that a refusal came with. -/
structure Translates (op : Operation) (e : OutsideError) (failure : StoreError) : Prop where
  keyExists : failure = .keyExists ↔ e.HasField "Code" (.str "ResourceExistsException")
  keyNotFound : failure = .keyNotFound ↔
    e.HasField "Code" (.str "ResourceNotFoundException") ∨ e.IsDeletion
  accessDenied : failure = .accessDenied op.subject e ↔ e.IsDenial
  others : failure = .unknown op.label op.subject (.error e) "aws" ↔
    ¬ e.HasField "Code" (.str "ResourceExistsException") ∧
      ¬ (e.HasField "Code" (.str "ResourceNotFoundException") ∨ e.IsDeletion) ∧ ¬ e.IsDenial
  /-- What is no refusal is nothing in particular, failed connections among it. -/
  unrefused : (∀ label response operation, e ≠ .refused label response operation) →
    failure = .unknown op.label op.subject (.error e) "aws"

omit [Seconds T] [Outside T σ] in
/-- Each kind has a failure of its own, but for the two that are nothing in particular. -/
theorem failureOf_store (operation name : String) (e : OutsideError) (kind : ErrorKind) :
    ∃ failure, failureOf operation name e kind = .store failure ∧
      (failure = .keyExists ↔ kind = .alreadyExists) ∧
      (failure = .keyNotFound ↔ kind = .notFound) ∧
      (failure = .accessDenied name e ↔ kind = .accessDenied) ∧
      (failure = .unknown operation name (.error e) "aws" ↔
        ¬ kind = .alreadyExists ∧ ¬ kind = .notFound ∧ ¬ kind = .accessDenied) := by
  cases kind with
  | _ => exact ⟨_, rfl, by simp⟩

omit [Seconds T] [Outside T σ] in
theorem translates_of_tells (op : Operation) {kind : ErrorKind} (tells : e.Tells kind) :
    ∃ failure, failureOf op.label op.subject e kind = .store failure ∧
      Translates op e failure := by
  obtain ⟨failure, hfailure, keyExists, keyNotFound, accessDenied, others⟩ :=
    failureOf_store op.label op.subject e kind
  rw [tells.alreadyExists] at keyExists others
  rw [tells.notFound] at keyNotFound others
  rw [tells.accessDenied] at accessDenied others
  refine ⟨failure, hfailure, keyExists, keyNotFound, accessDenied, others, ?_⟩
  intro unrefused
  have fieldless (field : String) (value : Value) : ¬ e.HasField field value := by
    rintro ⟨⟩
    exact unrefused _ _ _ rfl
  apply others.mpr
  simp [OutsideError.IsDeletion, OutsideError.IsDenial, fieldless]

omit [Outside T σ] in
/-- No report is an error of the vendor itself. -/
theorem reported_hides {operation name : String} {m : Moment T} {raised : Raised}
    (h : (reported ctx operation name m raised).failure = .outside e) : e.isVendor = false := by
  unfold reported at h
  split at h
  · rename_i e' he
    split at h
    · -- what an error of the vendor becomes is another failure
      split at h
      · cases h
      · split at h
        · rename_i kind _
          obtain ⟨failure, hfailure, -⟩ := failureOf_store operation name e' kind
          rw [Raised.standingFor, hfailure] at h
          cases h
        · cases h
    · rename_i hvendor
      rw [he] at h
      cases h
      simpa using hvendor
  · rename_i hother
    exact absurd h (hother e)

/-- An error of the vendor that an operation meets is reported as what its code and message say,
wherever it is met; if the context is done by then, as the error of the context. The report is
chained to it, and nothing else lets an error of the vendor out. -/
theorem vendor_errors_translated (ctx : Context T) (op : Operation) (s : RemoteStore T)
    (w : World T σ) (alive : ctx.err w.moment = none) :
    (∀ e st, Met ctx (encryption s.options) op s w e st → e.FromVendor → e.IsLegible →
      ctx.err st.2.moment = none → ∃ failure,
        (op.onRemote ctx).outcome (s, w) = (.error (.standingFor (.store failure) e), st) ∧
          Translates op e failure) ∧
    (∀ e st err, Met ctx (encryption s.options) op s w e st → e.FromVendor →
      ctx.err st.2.moment = some err →
        (op.onRemote ctx).outcome (s, w) = (.error (.standingFor (.context err) e), st)) ∧
    ∀ e st raised, (op.onRemote ctx).outcome (s, w) = (.error raised, st) →
      raised.failure = .outside e → ¬ e.FromVendor := by
  simp only [← OutsideError.isVendor_iff]
  refine ⟨?_, ?_, ?_⟩
  · intro e st met vendor legible time
    obtain ⟨kind, hkind, tells⟩ := legible.kind
    obtain ⟨failure, hfailure, translates⟩ := translates_of_tells op tells
    refine ⟨failure, ?_, translates⟩
    rw [onRemote_of_work alive met.stops]
    simp only [reported, Raised.plain, vendor, if_true, time, hkind, hfailure]
  · intro e st err met vendor late
    rw [onRemote_of_work alive met.stops]
    simp only [reported, Raised.plain, vendor, if_true, late]
  · intro e st raised houtcome hraised
    rw [outcome_onRemote, alive] at houtcome
    dsimp only at houtcome
    split at houtcome
    · rename_i answer after _
      cases answer with
      | ok answer => cases houtcome
      | error f =>
          cases houtcome
          cases hraised
    · cases houtcome
      simpa using reported_hides hraised

def endlessly : Context Rat :=
  ⟨7, [], none⟩

/-- A vault with two pages of secrets, and calls that go well or fail in turn, by their kinds. -/
def failing (turns : List (CallKind × Option OutsideError)) : World Rat (Rehearsal Rat) :=
  .starting (60 * Calendar.minute)
    (.planned ⟨[("a", .binary [0]), ("b", .binary [0]), ("c", .binary [0])]⟩ []
      (turns.map fun (kind, e) => ⟨kind, none, none, e, none⟩))

/-- An operation meets an error of the vendor that can be read, and its context is not done. -/
structure MeetsInTime (op : Operation) (s : RemoteStore Rat) (w : World Rat (Rehearsal Rat))
    (e : OutsideError) (st : RemoteStore Rat × World Rat (Rehearsal Rat)) : Prop where
  alive : endlessly.err w.moment = none
  met : Met endlessly (encryption s.options) op s w e st
  vendor : e.FromVendor
  legible : e.IsLegible
  time : endlessly.err st.2.moment = none

def denied : OutsideError :=
  Vault.refusal "AccessDeniedException" "not authorized" "ListSecrets"

/-- A secret that is deleted, but still there. -/
def doomed : OutsideError :=
  Vault.refusal "InvalidRequestException"
    "You can't perform this operation: the secret was Marked for Deletion." "GetSecretValue"

def unreached : OutsideError :=
  .endpoint "https://sts.amazonaws.com"

section

variable (code message operation : String)

theorem code_refusal : (Vault.refusal code message operation).HasField "Code" (.str code) :=
  .intro rfl rfl

theorem message_refusal :
    (Vault.refusal code message operation).HasField "Message" (.str message) :=
  .intro rfl rfl

theorem isLegible_refusal : (Vault.refusal code message operation).IsLegible where
  code _ h := .inr ⟨code, OutsideError.hasField_unique h (code_refusal code message operation)⟩
  message _ _ h :=
    .inr ⟨message, OutsideError.hasField_unique h (message_refusal code message operation)⟩

end

/-- A denied second page is denied access to what was to be listed, a doomed secret is not there,
and a session that cannot be opened while credentials are refreshed is a failed deletion. -/
theorem denied_doomed_unreached_translated :
    (∃ st, MeetsInTime (list "a" 1 "") (.lasting (66 * Calendar.minute))
        (failing [(.page, none), (.page, some denied)]) denied st ∧
      ((list "a" 1 "").onRemote endlessly).outcome (.lasting (66 * Calendar.minute),
          failing [(.page, none), (.page, some denied)]) =
        (.error (.standingFor (.store (.accessDenied "a" denied)) denied), st)) ∧
    (∃ st, MeetsInTime (read "a") (.lasting (66 * Calendar.minute)) (failing [(.get, some doomed)])
        doomed st ∧
      ((read "a").onRemote endlessly).outcome (.lasting (66 * Calendar.minute),
          failing [(.get, some doomed)]) =
        (.error (.standingFor (.store .keyNotFound) doomed), st)) ∧
    ∃ st, MeetsInTime (delete "a") (.lasting (64 * Calendar.minute))
        (failing [(.session, some unreached)]) unreached st ∧
      ((delete "a").onRemote endlessly).outcome (.lasting (64 * Calendar.minute),
          failing [(.session, some unreached)]) =
        (.error (.standingFor (.store (.unknown "delete" "a" (.error unreached) "aws")) unreached),
          st) := by
  have translated {op : Operation} {s : RemoteStore Rat} {w : World Rat (Rehearsal Rat)}
      {e : OutsideError} {st} (h : MeetsInTime op s w e st) :
      ∃ failure, (op.onRemote endlessly).outcome (s, w) =
        (.error (.standingFor (.store failure) e), st) ∧ Translates op e failure :=
    (vendor_errors_translated endlessly op s w h.alive).1 e st h.met h.vendor h.legible h.time
  refine ⟨?_, ?_, ?_⟩
  · have stops : (((list "a" 1 "").work endlessly none).outcome (.lasting (66 * Calendar.minute),
        failing [(.page, none), (.page, some denied)])).1 = .error (.plain (.outside denied)) := by
      with_unfolding_all rfl
    have meets : MeetsInTime (list "a" 1 "") (.lasting (66 * Calendar.minute))
        (failing [(.page, none), (.page, some denied)]) denied _ :=
      ⟨by decide +kernel, work_stops_iff.mp (Prod.ext stops rfl), .refused _ _ _,
        isLegible_refusal _ _ _, by decide +kernel⟩
    obtain ⟨failure, houtcome, translates⟩ := translated meets
    obtain rfl := translates.accessDenied.mpr
      ⟨"AccessDeniedException", by decide, code_refusal _ _ _⟩
    exact ⟨_, meets, houtcome⟩
  · have stops : (((read "a").work endlessly none).outcome (.lasting (66 * Calendar.minute),
        failing [(.get, some doomed)])).1 = .error (.plain (.outside doomed)) := by
      with_unfolding_all rfl
    have meets : MeetsInTime (read "a") (.lasting (66 * Calendar.minute))
        (failing [(.get, some doomed)]) doomed _ :=
      ⟨by decide +kernel, work_stops_iff.mp (Prod.ext stops rfl), .refused _ _ _,
        isLegible_refusal _ _ _, by decide +kernel⟩
    obtain ⟨failure, houtcome, translates⟩ := translated meets
    obtain rfl := translates.keyNotFound.mpr (.inr ⟨code_refusal _ _ _, _, message_refusal _ _ _,
      OutsideError.isDeletionMessage_iff.mp (by decide +kernel)⟩)
    exact ⟨_, meets, houtcome⟩
  · have stops : (((delete "a").work endlessly none).outcome (.lasting (64 * Calendar.minute),
        failing [(.session, some unreached)])).1 = .error (.plain (.outside unreached)) := by
      with_unfolding_all rfl
    have meets : MeetsInTime (delete "a") (.lasting (64 * Calendar.minute))
        (failing [(.session, some unreached)]) unreached _ :=
      ⟨by decide +kernel, work_stops_iff.mp (Prod.ext stops rfl), .endpoint _,
        ⟨by rintro _ ⟨⟩, by rintro ⟨⟩⟩, by decide +kernel⟩
    obtain ⟨failure, houtcome, translates⟩ := translated meets
    obtain rfl := translates.unrefused (by rintro _ _ _ ⟨⟩)
    exact ⟨_, meets, houtcome⟩

end Operation

end SecretVault
