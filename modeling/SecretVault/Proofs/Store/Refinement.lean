import SecretVault.Proofs.Remote.Serving

/-!
Both kinds of key stores are one finite map. A run of operations brings the same on a store in
memory, on a store in front of a working vault service and on the map, and the entries of the one,
the decoded secrets of the other and the map stay the same after every operation.
-/

namespace SecretVault

variable {T σ : Type} [Seconds T] [Outside T σ]

open SecretVault.Action

/-! ## Runs -/

/-- The world later: the clock has gone on, contexts may have been cancelled, and host and outside
may have changed. -/
def World.later (w : World T σ) (moment : Moment T) (host : Host) (outside : σ) : World T σ :=
  { w with moment := moment, host := host, outside := outside }

/-- The service works on, and the vault holds what it held. -/
def Service.Calm (service : Service T σ) (before after : σ) : Prop :=
  (service.working before → service.working after) ∧ service.held after = service.held before

namespace KeyStore

def remote? : KeyStore T → Option (RemoteStore T)
  | .memory _ _ => none
  | .remote _ s => some s

def step (st : KeyStore T × World T σ) (ctx : Context T) (op : Operation) :
    Except Failure Answer × KeyStore T × World T σ :=
  (((op.perform ctx).outcome st).1.mapError (·.failure), ((op.perform ctx).outcome st).2)

/-- The operation stores under no empty name, and its context is done neither when it begins nor
when it ends. On a store in the vault it can be told whether the credentials are to be given up, and
limits for the remaining time can be computed. -/
structure Permitted (st : KeyStore T × World T σ) (ctx : Context T) (op : Operation) : Prop where
  named : op.IsNamed
  alive : ctx.err st.2.moment = none
  outlives : ctx.err (step st ctx op).2.2.moment = none
  known : ∀ s ∈ st.1.remote?, ∃ stale, s.isStale st.2.wall = .ok stale
  limited : ∀ s ∈ st.1.remote?,
    ∃ limits?, s.options.limits.for? (ctx.remaining (step st ctx op).2.2.moment) = .ok limits?

/-- With exact seconds and positive timeouts, limits can always be computed. -/
theorem Permitted.of_positive {σ : Type} [Outside Rat σ] {st : KeyStore Rat × World Rat σ}
    {ctx : Context Rat} {op : Operation} (named : op.IsNamed) (alive : ctx.err st.2.moment = none)
    (outlives : ctx.err (step st ctx op).2.2.moment = none)
    (known : ∀ s ∈ st.1.remote?, ∃ stale, s.isStale st.2.wall = .ok stale)
    (positive : ∀ s ∈ st.1.remote?, 0 < s.options.limits.connect ∧ 0 < s.options.limits.read) :
    Permitted st ctx op := by
  refine ⟨named, alive, outlives, known, ?_⟩
  intro s hs
  obtain ⟨hconnect, hread⟩ := positive s hs
  exact Limits.for?_positive hconnect hread _

/-- A run of permitted operations, one after the other: its history and what it leads to. Between
two of them anything may happen that is calm for the outside. -/
inductive Runs (calm : σ → σ → Prop) (start : KeyStore T × World T σ) :
    History → KeyStore T × World T σ → Prop where
  | start : Runs calm start [] start
  | step {history st} (before : Runs calm start history st) (moment : Moment T) (host : Host)
      {outside : σ} (quiet : calm st.2.outside outside) {ctx : Context T} {op : Operation}
      (permitted : Permitted (st.1, st.2.later moment host outside) ctx op) :
      Runs calm start
        (history ++ [(op, (step (st.1, st.2.later moment host outside) ctx op).1)])
        (step (st.1, st.2.later moment host outside) ctx op).2

/-! ## One step -/

theorem step_memory (label : String) {s : MemoryStore} {w : World T σ} {m : Contents}
    (h : s.Represents m) {ctx : Context T} (alive : ctx.err w.moment = none) (op : Operation) :
    ∃ s', step (.memory label s, w) ctx op = ((op.onMap m).1, .memory label s', w) ∧
      s'.Represents (op.onMap m).2 := by
  obtain ⟨s', houtcome, hrepresents⟩ := MemoryStore.outcome_onMemory h alive op
  refine ⟨s', ?_, hrepresents⟩
  rw [step, Operation.outcome_perform_memory, houtcome]
  cases (op.onMap m).1 <;> rfl

theorem step_remote {service : Service T σ} {label : String} {s : RemoteStore T} {w : World T σ}
    {m : Contents} (h : service.Represents w.outside m) (ready : s.Ready) {ctx : Context T}
    {op : Operation} (permitted : Permitted (.remote label s, w) ctx op) :
    ∃ s' w', step (.remote label s, w) ctx op = ((op.onMap m).1, .remote label s', w') ∧
      service.Represents w'.outside (op.onMap m).2 ∧ s'.Ready := by
  have outlives := permitted.outlives
  have limited := permitted.limited s rfl
  rw [step, Operation.outcome_perform_remote] at outlives limited
  obtain ⟨hanswer, hvault, hready⟩ := Operation.onRemote_refines h ready
    (permitted.known s rfl) permitted.named permitted.alive outlives limited
  refine ⟨_, _, ?_, hvault, hready⟩
  rw [step, Operation.outcome_perform_remote, hanswer]

/-! ## Whole runs -/

theorem Runs.memory {label : String} {calm : σ → σ → Prop} {w₀ : World T σ} {history : History}
    {st : KeyStore T × World T σ} (run : Runs calm (.memory label .empty, w₀) history st) :
    ∃ s, st.1 = .memory label s ∧ history = (Operation.traced (history.map (·.1))).1 ∧
      s.Represents (Operation.traced (history.map (·.1))).2 := by
  induction run with
  | start => exact ⟨.empty, rfl, rfl, MemoryStore.represents_empty⟩
  | @step history st before moment host outside quiet ctx op permitted ih =>
      obtain ⟨s, hs, htraced, hrepresents⟩ := ih
      obtain ⟨store, w⟩ := st
      obtain rfl : store = .memory label s := hs
      obtain ⟨s', hstep, hrepresents'⟩ := step_memory label
        (w := w.later moment host outside) hrepresents permitted.alive op
      refine ⟨s', ?_, ?_, ?_⟩
      · rw [hstep]
      · rw [hstep, List.map_append, List.map_singleton, Operation.traced_concat, ← htraced]
      · rw [List.map_append, List.map_singleton, Operation.traced_concat]
        exact hrepresents'

theorem Runs.remote {service : Service T σ} {label : String} {s₀ : RemoteStore T} {w₀ : World T σ}
    (ready : s₀.Ready) (vault : service.Represents w₀.outside ∅) {history : History}
    {st : KeyStore T × World T σ} (run : Runs service.Calm (.remote label s₀, w₀) history st) :
    ∃ s, st.1 = .remote label s ∧ history = (Operation.traced (history.map (·.1))).1 ∧
      service.Represents st.2.outside (Operation.traced (history.map (·.1))).2 ∧ s.Ready := by
  induction run with
  | start => exact ⟨s₀, rfl, rfl, vault, ready⟩
  | @step history st before moment host outside quiet ctx op permitted ih =>
      obtain ⟨s, hs, htraced, hvault, hready⟩ := ih
      obtain ⟨store, w⟩ := st
      obtain rfl : store = .remote label s := hs
      have vault' : service.Represents (w.later moment host outside).outside
          (Operation.traced (history.map (·.1))).2 :=
        hvault.congr (quiet.1 hvault.working) quiet.2
      obtain ⟨s', w', hstep, hvault', hready'⟩ := step_remote vault' hready permitted
      refine ⟨s', ?_, ?_, ?_, hready'⟩
      · rw [hstep]
      · rw [hstep, List.map_append, List.map_singleton, Operation.traced_concat, ← htraced]
      · rw [hstep, List.map_append, List.map_singleton, Operation.traced_concat]
        exact hvault'

/-- What a history has led to: a store in memory and a vault with the entries of one map, each
operation having brought what it brings on the map. -/
structure Refined (service : Service T σ) (history : History) (memory : MemoryStore) (o : σ) :
    Prop where
  traced : history = (Operation.traced (history.map (·.1))).1
  entries : ∀ name,
    memory.find? name = (Operation.traced (history.map (·.1))).2.find? name
  decoded : ∀ name, (service.held o name).map Payload.decoded =
    (memory.find? name).map .ok
  /-- Under each name stands the value of the last successful creation, unless a deletion succeeded
  since. -/
  stored : ∀ name, memory.find? name = history.stored name
  /-- Nothing is overwritten, and what is read is what was stored. -/
  follows : ∀ before op brought rest, history = before ++ (op, brought) :: rest →
    op.Follows before brought
  /-- An operation that fails changes nothing. -/
  unchanged : ∀ before op e rest, history = before ++ (op, .error e) :: rest →
    (Operation.traced (before.map (·.1) ++ [op])).2 = (Operation.traced (before.map (·.1))).2

/-- A store in memory and a store in front of a working vault service, both empty at first, bring
the same whatever permitted operations are carried out on both, and both hold the entries of the
map on which these bring the same. -/
theorem runs_refine (service : Service T σ) {label label' : String} {s₀ : RemoteStore T}
    {v₀ w₀ : World T σ} (opened : s₀.Opened w₀) (working : service.working w₀.outside)
    (vacant : ∀ name, service.held w₀.outside name = none) {history history' : History}
    {v w : KeyStore T × World T σ}
    (inMemory : Runs (fun _ _ => True) (.memory label .empty, v₀) history v)
    (inVault : Runs service.Calm (.remote label' s₀, w₀) history' w)
    (same : history'.map (·.1) = history.map (·.1)) :
    history' = history ∧ ∃ memory remote, v.1 = .memory label memory ∧
      w.1 = .remote label' remote ∧ Refined service history memory w.2.outside := by
  have vault : service.Represents w₀.outside ∅ := by
    refine ⟨working, fun name => ?_, fun name h => ?_⟩
    · rw [vacant, Contents.find?_empty]
      rfl
    · rw [Contents.find?_empty] at h
      cases h
  obtain ⟨memory, hmemory, htraced, hentries⟩ := inMemory.memory
  obtain ⟨remote, hremote, htraced', hvault, _⟩ := inVault.remote opened.ready vault
  rw [same] at htraced' hvault
  -- each run is what the same operations bring on the map
  refine ⟨htraced'.trans htraced.symm, memory, remote, hmemory, hremote, htraced, hentries, ?_, ?_,
    ?_, ?_⟩
  · intro name
    rw [hvault.decoded_eq name, hentries name]
  · intro name
    rw [hentries name, Operation.find?_traced, ← htraced]
  · intro before op brought rest hsplit
    exact Operation.follows_traced (htraced.symm.trans hsplit)
  · intro before op e rest hsplit
    exact Operation.traced_error (htraced.symm.trans hsplit)

/-! ## Concrete runs -/

def endless : Context Rat := ⟨0, [], none⟩

/-- A context whose deadline is ten seconds after the time at which credentials are given up that
are good for an hour. -/
def tight : Context Rat := ⟨1, [], some 3310⟩

def connected (w : World Rat (Rehearsal Rat)) : KeyStore Rat × World Rat (Rehearsal Rat) :=
  (.remote "SecretsManagerStore" (RemoteStore.opened endless (.ofRegion "us-east-1") .foreign w).1,
    (RemoteStore.opened endless (.ofRegion "us-east-1") .foreign w).2)

def inMemory (w : World Rat (Rehearsal Rat)) : KeyStore Rat × World Rat (Rehearsal Rat) :=
  (.memory "MemoryKeyStore" .empty, w)

def anHourOn (st : KeyStore Rat × World Rat (Rehearsal Rat)) :
    KeyStore Rat × World Rat (Rehearsal Rat) :=
  (st.1, st.2.later ⟨3300, []⟩ st.2.host st.2.outside)

theorem Permitted.of_checks {st : KeyStore Rat × World Rat (Rehearsal Rat)} {ctx : Context Rat}
    {op : Operation} (named : op.IsNamed) (alive : ctx.err st.2.moment = none)
    (outlives : ctx.err (step st ctx op).2.2.moment = none)
    (known : (st.1.remote?.all fun s => (s.isStale st.2.wall).isOk) = true)
    (positive : (st.1.remote?.all fun s =>
      decide (0 < s.options.limits.connect ∧ 0 < s.options.limits.read)) = true) :
    Permitted st ctx op := by
  refine .of_positive named alive outlives ?_ ?_
  · intro s hs
    rw [Option.mem_def] at hs
    rw [hs] at known
    exact ok_of_isOk known
  · intro s hs
    rw [Option.mem_def] at hs
    rw [hs] at positive
    exact of_decide_eq_true positive

theorem runs_create_read (calm : Rehearsal Rat → Rehearsal Rat → Prop) (refl : ∀ o, calm o o)
    (st : KeyStore Rat × World Rat (Rehearsal Rat))
    (first : Permitted st endless (.create "k" [255]))
    (second : Permitted (anHourOn (step st endless (.create "k" [255])).2) tight (.read "k")) :
    Runs calm st
      [(.create "k" [255], (step st endless (.create "k" [255])).1),
        (.read "k", (step (anHourOn (step st endless (.create "k" [255])).2) tight (.read "k")).1)]
      (step (anHourOn (step st endless (.create "k" [255])).2) tight (.read "k")).2 :=
  .step (.step .start st.2.moment st.2.host (refl st.2.outside) first) ⟨3300, []⟩ _ (refl _) second

/-- Bytes that are no text are created, and read again when the credentials have been given up and
ten seconds are left. -/
theorem bytes_read_again :
    ∃ history v w memory,
      Runs (fun _ _ => True) (inMemory World.firstHour) history v ∧
      Runs Rehearsal.service.Calm (connected World.firstHour) history w ∧
      Refined Rehearsal.service history memory w.2.outside ∧
      history.map (·.1) = [.create "k" [255], .read "k"] ∧
      history.map (·.2.toOption) = [some .done, some (.value [255])] := by
  have run_memory := runs_create_read (fun _ _ => True) (fun _ => trivial)
    (inMemory World.firstHour)
    (.of_checks (show "k" ≠ "" by decide) (by decide +kernel) (by decide +kernel) rfl rfl)
    (.of_checks trivial (by decide +kernel) (by decide +kernel) (by decide +kernel)
      (by decide +kernel))
  have run_vault := runs_create_read Rehearsal.service.Calm (fun _ => ⟨id, rfl⟩)
    (connected World.firstHour)
    (.of_checks (show "k" ≠ "" by decide) (by decide +kernel) (by decide +kernel)
      (by decide +kernel) (by decide +kernel))
    (.of_checks trivial (by decide +kernel) (by decide +kernel) (by decide +kernel)
      (by decide +kernel))
  have opened : (RemoteStore.opened endless (.ofRegion "us-east-1") .foreign
      World.firstHour).1.Opened (connected World.firstHour).2 :=
    .connected (RemoteStore.connect_opened (by decide +kernel))
  have plain : (connected World.firstHour).2.outside.plan.isEmpty = true ∧
      (connected World.firstHour).2.outside.pages.isNone = true ∧
      (connected World.firstHour).2.outside.vault.secrets.isEmpty = true := by
    decide +kernel
  obtain ⟨same, memory, remote, _, _, refined⟩ := runs_refine Rehearsal.service opened
    ⟨List.isEmpty_iff.mp plain.1, Option.isNone_iff_eq_none.mp plain.2.1⟩
    (Rehearsal.held_of_isEmpty plain.2.2) run_memory run_vault rfl
  rw [same] at run_vault
  exact ⟨_, _, _, memory, run_memory, run_vault, refined, rfl, by decide +kernel⟩

/-- A world in which the credentials end four minutes after the calendar begins. -/
def earlyEnd : World Rat (Rehearsal Rat) :=
  .starting (60 * Calendar.minute)
    (.planned .empty [.ok (some (.lasting (4 * Calendar.minute)))] [])

/-- With credentials that end so early, reading brings an overflow from a connected store with an
empty vault, where a store in memory has no such key. -/
theorem read_overflows :
    ((RemoteStore.connect endless (.ofRegion "us-east-1") .foreign).outcome earlyEnd).1.isOk =
        true ∧
      Rehearsal.service.working (connected earlyEnd).2.outside ∧
      (∀ name, Rehearsal.service.held (connected earlyEnd).2.outside name = none) ∧
      endless.err (connected earlyEnd).2.moment = none ∧
      endless.err (step (connected earlyEnd) endless (.read "k")).2.2.moment = none ∧
      (step (inMemory earlyEnd) endless (.read "k")).1 = .error (.store .keyNotFound) ∧
      (step (connected earlyEnd) endless (.read "k")).1 = .error (.fault .overflow) := by
  have plain : (connected earlyEnd).2.outside.plan.isEmpty = true ∧
      (connected earlyEnd).2.outside.pages.isNone = true ∧
      (connected earlyEnd).2.outside.vault.secrets.isEmpty = true := by
    decide +kernel
  have alive : endless.err (connected earlyEnd).2.moment = none := by decide +kernel
  have opened : (RemoteStore.opened endless (.ofRegion "us-east-1") .foreign
        earlyEnd).1.client.isSome = true ∧
      (RemoteStore.opened endless (.ofRegion "us-east-1") .foreign
        earlyEnd).1.credentials.map (·.expiresAt) = some (some (4 * Calendar.minute)) ∧
      (connected earlyEnd).2.wall.isOk = true := by
    decide +kernel
  obtain ⟨client, held, clock⟩ := opened
  obtain ⟨credentials, hcredentials, ends⟩ := Option.map_eq_some_iff.mp held
  obtain ⟨now, hnow⟩ := ok_of_isOk clock
  have unknown := RemoteStore.isStale_early client hcredentials ends (by decide) hnow
  refine ⟨by decide +kernel, ⟨List.isEmpty_iff.mp plain.1, Option.isNone_iff_eq_none.mp plain.2.1⟩,
    Rehearsal.held_of_isEmpty plain.2.2, alive, by decide +kernel, ?_, ?_⟩
  · have alive' : endless.err earlyEnd.moment = none := by decide +kernel
    obtain ⟨s, hstep, _⟩ :=
      step_memory "MemoryKeyStore" MemoryStore.represents_empty alive' (.read "k")
    rw [inMemory, hstep]
    rfl
  · rw [connected, step, Operation.outcome_perform_remote]
    exact Operation.onRemote_unknown alive unknown

end KeyStore

end SecretVault
