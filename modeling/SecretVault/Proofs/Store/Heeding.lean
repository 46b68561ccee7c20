import SecretVault.Store.Registry
import SecretVault.Proofs.Remote.Heeding

/-!
How stores of every kind heed contexts, connecting from a section of the configuration included: the
section is looked at before the context.
-/

namespace SecretVault

open SecretVault.Action
open SecretVault.World (momentBeside outcome_check_beside)

/-! ## Stores in memory -/

namespace MemoryStore

variable {T σ : Type} [Seconds T]

theorem heeds_create (ctx : Context T) (name : String) (value : Bytes) :
    Heeds momentBeside ctx (create ctx name value : Op T σ Unit) := by
  refine .of_check (outcome_check_beside ctx) ?_
  rintro ⟨s, w⟩ raised after alive h
  simp only [outcome_bind, outcome_get] at h
  cases hfound : s.find? name with
  | some taken =>
      simp only [hfound] at h
      cases h
      exact .of_alive alive nofun
  | none =>
      simp only [hfound] at h
      cases h

theorem heeds_read (ctx : Context T) (name : String) :
    Heeds momentBeside ctx (read ctx name : Op T σ Bytes) := by
  refine .of_check (outcome_check_beside ctx) ?_
  rintro ⟨s, w⟩ raised after alive h
  simp only [outcome_bind, outcome_get] at h
  cases hfound : s.find? name with
  | some value =>
      simp only [hfound] at h
      cases h
  | none =>
      simp only [hfound] at h
      cases h
      exact .of_alive alive nofun

theorem heeds_delete (ctx : Context T) (name : String) :
    Heeds momentBeside ctx (delete ctx name : Op T σ Unit) := by
  refine .of_check (outcome_check_beside ctx) ?_
  rintro ⟨s, w⟩ raised after alive h
  simp only [outcome_bind, outcome_get] at h
  cases hfound : s.find? name with
  | some there =>
      simp only [hfound] at h
      cases h
  | none =>
      simp only [hfound] at h
      cases h
      exact .of_alive alive nofun

theorem heeds_list (ctx : Context T) (start : String) (limit : Int) (cursor : String) :
    Heeds momentBeside ctx (list ctx start limit cursor : Op T σ Page) := by
  refine .of_check (outcome_check_beside ctx) ?_
  rintro ⟨s, w⟩ raised after alive h
  cases h

theorem heeds_status (ctx : Context T) : Heeds momentBeside ctx (status ctx : Op T σ T) := by
  refine .of_check (outcome_check_beside ctx) ?_
  rintro ⟨s, w⟩ raised after alive h
  cases h

theorem heeds_connect (ctx : Context T) :
    Heeds World.moment ctx (connect ctx : Action (World T σ) MemoryStore) := by
  refine .of_check (World.outcome_check ctx) ?_
  rintro w raised after alive h
  cases h

theorem heeds_onMemory (ctx : Context T) (op : Operation) :
    Heeds momentBeside ctx (op.onMemory ctx : Op T σ Answer) := by
  cases op with
  | create name value => exact (heeds_create ctx name value).map fun _ => Answer.done
  | put name value => exact (heeds_create ctx name value).map fun _ => Answer.done
  | read name => exact (heeds_read ctx name).map Answer.value
  | delete name => exact (heeds_delete ctx name).map fun _ => Answer.done
  | list start limit cursor => exact (heeds_list ctx start limit cursor).map Answer.page

end MemoryStore

/-! ## Key stores of either kind -/

namespace Options

/-- What can be wrong with a section is one of its values, or that the region is missing. -/
theorem ofSection_error {options : Value} {failure : Failure}
    (h : ofSection options = .error failure) :
    (∃ f, failure = .fault f) ∨ failure = .settings .regionRequired := by
  have faulty {α β : Type} {x : Except Fault α} {next : α → Except Failure β}
      (h : (ofFault x >>= next) = .error failure) :
      (∃ f, failure = .fault f) ∨ ∃ a, next a = .error failure := by
    cases x with
    | ok a => exact .inr ⟨a, h⟩
    | error f =>
        cases h
        exact .inl ⟨f, rfl⟩
  cases options with
  | map fields =>
      rcases faulty h with found | ⟨login, h⟩
      · exact .inl found
      rcases faulty h with found | ⟨connect, h⟩
      · exact .inl found
      rcases faulty h with found | ⟨read, h⟩
      · exact .inl found
      rcases faulty h with found | ⟨attempts, h⟩
      · exact .inl found
      dsimp only at h
      split at h
      · cases h
      · cases h
        exact .inr rfl
  | _ =>
      cases h
      exact .inl ⟨_, rfl⟩

end Options

namespace KeyStore

variable {T σ : Type} [Seconds T] [Outside T σ]

omit [Outside T σ] in
theorem heeds_dispatch {α : Type} {ctx : Context T} {memory : MemoryStore.Op T σ α}
    {remote : RemoteStore.Op T σ α} (hmemory : Heeds momentBeside ctx memory)
    (hremote : Heeds momentBeside ctx remote) :
    Heeds momentBeside ctx (dispatch memory remote) := by
  constructor
  · rintro ⟨store, w⟩ err done
    cases store with
    | memory label s => simp only [dispatch, outcome_ofOutcome, hmemory.stops (s, w) err done]
    | remote label s => simp only [dispatch, outcome_ofOutcome, hremote.stops (s, w) err done]
  · rintro ⟨store, w⟩ raised after h
    cases store with
    | memory label s =>
        rcases houtcome : memory.outcome (s, w) with ⟨result, s', w'⟩
        simp only [dispatch, outcome_ofOutcome, houtcome] at h
        cases h
        exact hmemory.honest _ _ _ houtcome
    | remote label s =>
        rcases houtcome : remote.outcome (s, w) with ⟨result, s', w'⟩
        simp only [dispatch, outcome_ofOutcome, houtcome] at h
        cases h
        exact hremote.honest _ _ _ houtcome

theorem heeds_perform (ctx : Context T) (op : Operation) :
    Heeds momentBeside ctx (op.perform ctx : Op T σ Answer) :=
  (heeds_dispatch (MemoryStore.heeds_onMemory ctx op) (RemoteStore.heeds_onRemote ctx op)).congr
    (Operation.outcome_perform ctx op)

theorem heeds_status (ctx : Context T) : Heeds momentBeside ctx (status ctx : Op T σ T) :=
  heeds_dispatch (MemoryStore.heeds_status ctx) (RemoteStore.heeds_status ctx)

/-! ### Connecting from a section -/

/-- The section is valid for the provider: a store in the vault takes its options from it, unless it
holds a configuration object, and a store in memory takes none. -/
def Accepts (p : Provider) (options : Entries) : Prop :=
  p.kind = .remote → ((options.named? "config").getD .null).isNull = true →
    ∃ o, Options.ofSection (.map options) = .ok o

section

variable {τ : Type} [Outside Float τ]

theorem connectRemote_of_options {ctx : Context Float} {options : Entries} {o : Options Float}
    (plain : ((options.named? "config").getD .null).isNull = true)
    (valid : Options.ofSection (.map options) = .ok o) :
    (connectRemote ctx options : Action (World Float τ) (RemoteStore Float)) =
      RemoteStore.connect ctx o (resolverIn options o.login) := by
  rw [connectRemote, if_pos plain, valid]
  rfl

/-- With a configuration object, which is no value, the context is checked all the same. -/
theorem heeds_connectRemote_object {ctx : Context Float} {options : Entries}
    (object : ¬ ((options.named? "config").getD .null).isNull = true) :
    Heeds World.moment ctx
      (connectRemote ctx options : Action (World Float τ) (RemoteStore Float)) := by
  rw [connectRemote, if_neg object]
  refine .of_check (World.outcome_check ctx) ?_
  intro w raised after _ h
  cases h
  exact RemoteStore.Foreign.honest (.inr ⟨_, rfl⟩)

theorem stopsAtOnce_connect (ctx : Context Float) {p : Provider} {options : Entries}
    (accepts : Accepts p options) :
    StopsAtOnce World.moment ctx
      (connect ctx p options : Action (World Float τ) (KeyStore Float)) := by
  unfold connect
  cases hkind : p.kind with
  | memory => exact (MemoryStore.heeds_connect ctx).stops.bind _
  | remote =>
      refine StopsAtOnce.bind ?_ _
      by_cases plain : ((options.named? "config").getD .null).isNull = true
      · obtain ⟨o, valid⟩ := accepts hkind plain
        rw [connectRemote_of_options plain valid]
        exact (RemoteStore.connectsHeeding ctx o _).stops
      · exact (heeds_connectRemote_object plain).stops

omit [Outside Float τ] in
theorem truthful_ofSection (ctx : Context Float) (options : Value) :
    Truthful World.moment ctx
      (Action.ofExcept (Options.ofSection options) : Action (World Float τ) (Options Float)) := by
  intro w raised after h
  rw [outcome_ofExcept] at h
  cases hoptions : Options.ofSection options with
  | ok o =>
      rw [hoptions] at h
      cases h
  | error failure =>
      rw [hoptions] at h
      cases h
      rcases Options.ofSection_error hoptions with ⟨f, rfl⟩ | rfl
      · exact RemoteStore.Foreign.honest (.inr ⟨f, rfl⟩)
      · exact honest_iff.mpr ⟨nofun, nofun⟩

theorem truthful_connect (ctx : Context Float) (p : Provider) (options : Entries)
    (still : RemoteStore.ClosesStill Float τ) :
    Truthful World.moment ctx
      (connect ctx p options : Action (World Float τ) (KeyStore Float)) := by
  unfold connect
  cases p.kind with
  | memory => exact (MemoryStore.heeds_connect ctx).honest.bind fun _ => .pure _
  | remote =>
      refine Truthful.bind ?_ fun _ => .pure _
      by_cases plain : ((options.named? "config").getD .null).isNull = true
      · rw [connectRemote, if_pos plain]
        refine (truthful_ofSection ctx _).bind ?_
        intro o
        exact ((RemoteStore.connectsHeeding ctx o _).still still).honest
      · exact (heeds_connectRemote_object plain).honest

end

/-! ### All operations -/

/-- A creation, a reading or a deletion whose request went through reports what it brought, a change
as done, even if the context is done by then. -/
def ReportsRequests (σ : Type) [Outside T σ] (ctx : Context T) : Prop :=
  ∀ (label : String) (s : RemoteStore T) (w : World T σ) (op : Operation) calls e,
    (∀ start limit cursor, op ≠ .list start limit cursor) →
    ((op.perform ctx).outcome (.remote label s, w)).2.2.log = w.log ++ calls → e ∈ calls →
    e.call.isRequest = true → e.succeeded = true →
    ∃ (u : World T σ) (x : e.call.Answer), (u.reply e.call).result = .ok x ∧
      ((op.perform ctx).outcome (.remote label s, w)).2.2 = u.afterCall e.call ∧
      ((op.perform ctx).outcome (.remote label s, w)).1 =
        ((Operation.answerTo e.call x).mapError fun f => .plain (.fault f)) ∧
      (e.call.isChange = true → ((op.perform ctx).outcome (.remote label s, w)).1 = .ok .done)

theorem reportsRequests (ctx : Context T) : ReportsRequests σ ctx := by
  intro label s w op calls e single hlog he request succeeded
  rw [Operation.outcome_perform_remote] at hlog ⊢
  obtain ⟨u, x, hx, hafter, hresult⟩ :=
    RemoteStore.onRemote_reports single hlog he request succeeded
  refine ⟨u, x, hx, hafter, hresult, ?_⟩
  intro change
  rw [hresult, Operation.answerTo_change change]
  rfl

/-- Every operation of every store heeds its context, in whatever state the store is. -/
theorem contexts_heeded {τ : Type} [Outside Float τ] (ctx : Context T) (ctx' : Context Float) :
    (∀ op : Operation, Heeds momentBeside ctx (op.perform ctx : Op T σ Answer)) ∧
    Heeds momentBeside ctx (status ctx : Op T σ T) ∧
    Heeds World.moment ctx (MemoryStore.connect ctx : Action (World T σ) MemoryStore) ∧
    (∀ options resolver, RemoteStore.ConnectsHeeding σ ctx options resolver) ∧
    (∀ p options, Accepts p options → StopsAtOnce World.moment ctx'
      (connect ctx' p options : Action (World Float τ) (KeyStore Float))) ∧
    (∀ p options, RemoteStore.ClosesStill Float τ → Truthful World.moment ctx'
      (connect ctx' p options : Action (World Float τ) (KeyStore Float))) ∧
    ReportsRequests σ ctx :=
  ⟨heeds_perform ctx, heeds_status ctx, MemoryStore.heeds_connect ctx,
    RemoteStore.connectsHeeding ctx, fun _ _ => stopsAtOnce_connect ctx',
    truthful_connect ctx', reportsRequests ctx⟩

/-- A vault with one secret, where a context is cancelled while a deletion is awaited. -/
def cancelling : World Rat (Rehearsal Rat) :=
  .starting (60 * Calendar.minute)
    (.planned ⟨[("k", .binary [0])]⟩ [] [⟨.delete, none, some 7, none, none⟩])

/-- A deletion that is cancelled when it has gone through is reported as done; the one after it
stops at once. -/
theorem deletion_reported_done :
    let first := ((Operation.delete "k").perform ⟨7, [], none⟩).outcome
      (.remote "SecretsManagerStore" (.lasting (66 * Calendar.minute)), cancelling)
    let second := ((Operation.delete "k").perform ⟨7, [], none⟩).outcome first.2
    Context.err first.2.2.moment ⟨7, [], none⟩ = some .canceled ∧
      (first.2.2.outside.vault.find? "k").isNone = true ∧ first.1 = .ok .done ∧
      second = (.error (.plain (.context .canceled)), first.2) := by
  intro first second
  obtain ⟨heeds, _, _, _, _, _, reports⟩ :=
    contexts_heeded (T := Rat) (σ := Rehearsal Rat) (τ := Rehearsal Float) ⟨7, [], none⟩
      ⟨7, [], none⟩
  have canceled : Context.err first.2.2.moment ⟨7, [], none⟩ = some .canceled := by
    decide +kernel
  have deleted : first.2.2.log.any (fun e => e.call.isChange && (e.call.isRequest && e.succeeded)) =
      true := by
    decide +kernel
  obtain ⟨e, he, hdeleted⟩ := List.any_eq_true.mp deleted
  obtain ⟨change, hrequest⟩ := Bool.and_eq_true_iff.mp hdeleted
  obtain ⟨request, succeeded⟩ := Bool.and_eq_true_iff.mp hrequest
  obtain ⟨_, _, _, _, _, done⟩ := reports "SecretsManagerStore" (.lasting (66 * Calendar.minute))
    cancelling (.delete "k") _ e nofun (List.nil_append _).symm he request succeeded
  exact ⟨canceled, by decide +kernel, done change, (heeds (.delete "k")).stops _ _ canceled⟩

end KeyStore

end SecretVault
