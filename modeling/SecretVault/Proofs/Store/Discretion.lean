import SecretVault.Proofs.Remote.Discretion
import SecretVault.Proofs.Store.Operation
import SecretVault.Proofs.Store.Refinement

/-!
Secrets influence nothing but what is read. Two runs take the same turns on a store of either kind
and differ in nothing but the values that they store. At every turn they fail with the same error or
bring the same answer, and they make the same calls; only what is read may differ, and then one
turn before stored the two values under the name.
-/

namespace SecretVault

open SecretVault.Action

variable {T σ : Type}

/-! ## Turns -/

def Operation.veiled : Operation → Operation
  | .create name _ => .create name []
  | .put name _ => .put name []
  | op => op

def Operation.stored? : Operation → Option (String × Bytes)
  | .create name value => some (name, value)
  | .put name value => some (name, value)
  | _ => none

/-- What can happen in a run: an operation on the store, or its end, or time passes, or a context is
cancelled. -/
inductive Turn (T : Type) where
  | operate (ctx : Context T) (op : Operation)
  | close
  | advance (elapsed : T)
  | cancel (id : Nat)

namespace Turn

def veiled : Turn T → Turn T
  | .operate ctx op => .operate ctx op.veiled
  | turn => turn

def stored? : Turn T → Option (String × Bytes)
  | .operate _ op => op.stored?
  | _ => none

variable [Seconds T] [Outside T σ]

def act : Turn T → KeyStore.Op T σ Answer
  | .operate ctx op => op.perform ctx
  | .close => do
    KeyStore.close
    return .done
  | .advance elapsed => do
    Action.onSecond (modify fun w => w.advance elapsed)
    return .done
  | .cancel id => do
    Action.onSecond (modify fun w => w.cancel id)
    return .done

/-- Takes turns one after the other, whether or not they succeed: what each of them brings, and the
state at the end. -/
def run : List (Turn T) → KeyStore T × World T σ →
    List (Except Raised Answer) × KeyStore T × World T σ
  | [], st => ([], st)
  | turn :: rest, st =>
    let (result, after) := turn.act.outcome st
    let (results, last) := run rest after
    (result :: results, last)

end Turn

/-! ## Stores side by side -/

namespace MemoryStore

variable [Outside T σ] {d : Discreet T σ} {P : Pairing}

def Beside (d : Discreet T σ) (P : Pairing) (st st' : MemoryStore × World T σ) : Prop :=
  NamedBeside P.Shows st.1.entries st'.1.entries ∧ World.Beside d P st.2 st'.2

theorem Beside.find? {st st' : MemoryStore × World T σ} (h : Beside d P st st') (name : String) :
    Option.Rel (P.Shows name) (st.1.find? name) (st'.1.find? name) :=
  h.1.valueUnder? name

variable [Seconds T]

theorem abreast_check (ctx : Context T) :
    Abreast (Beside d P) Eq (check ctx : Op T σ Unit) (check ctx) :=
  (World.abreast_check ctx).onSecond
    (F := fun s s' : MemoryStore => NamedBeside P.Shows s.entries s'.entries)

theorem abreast_create {name : String} {b b' : Bytes} (ctx : Context T) (paired : P name b b') :
    Abreast (Beside d P) Eq (create ctx name b : Op T σ Unit) (create ctx name b') := by
  refine (abreast_check ctx).then_ fun _ => Abreast.get.bind fun st st' h => ?_
  dsimp only
  refine optionRel_cases (h.find? name) ?_ fun _ _ _ => .throw _
  exact .set ⟨h.1.append (.inr paired), h.2⟩

theorem abreast_read (ctx : Context T) (name : String) :
    Abreast (Beside d P) (P.Shows name) (read ctx name : Op T σ Bytes) (read ctx name) := by
  refine (abreast_check ctx).then_ fun _ => Abreast.get.bind fun st st' h => ?_
  dsimp only
  exact optionRel_cases (h.find? name) (.throw _) fun _ _ values => .pure values

theorem abreast_delete (ctx : Context T) (name : String) :
    Abreast (Beside d P) Eq (delete ctx name : Op T σ Unit) (delete ctx name) := by
  refine (abreast_check ctx).then_ fun _ => Abreast.get.bind fun st st' h => ?_
  dsimp only
  refine optionRel_cases (h.find? name) (.throw _) fun _ _ _ => ?_
  exact .set ⟨h.1.filter name, h.2⟩

theorem abreast_list (ctx : Context T) (start : String) (limit : Int) (cursor : String) :
    Abreast (Beside d P) Eq (list ctx start limit cursor : Op T σ Page)
      (list ctx start limit cursor) := by
  refine (abreast_check ctx).then_ fun _ => Abreast.get.bind fun st st' h => .pure ?_
  simp only [names, h.1.names_eq]

end MemoryStore

namespace KeyStore

variable [Outside T σ] {α : Type} {d : Discreet T σ} {P R : Pairing} {Q : α → α → Prop}

/-- Two stores of one kind that differ in nothing but values. -/
inductive Alike (P : Pairing) : KeyStore T → KeyStore T → Prop where
  | memory (label : String) {s s' : MemoryStore}
      (entries : NamedBeside P.Shows s.entries s'.entries) :
      Alike P (.memory label s) (.memory label s')
  | remote (label : String) (s : RemoteStore T) : Alike P (.remote label s) (.remote label s)

def Beside (d : Discreet T σ) (P : Pairing) (st st' : KeyStore T × World T σ) : Prop :=
  Alike P st.1 st'.1 ∧ World.Beside d P st.2 st'.2

theorem Beside.refl (d : Discreet T σ) (P : Pairing) (st : KeyStore T × World T σ) :
    Beside d P st st := by
  obtain ⟨store, world⟩ := st
  refine ⟨?_, .refl d P world⟩
  cases store with
  | memory label s => exact .memory label (.refl (fun _ _ => .inl rfl) _)
  | remote label s => exact .remote label s

theorem Alike.mono {store store' : KeyStore T} (h : Alike P store store')
    (hPR : ∀ name b b', P name b b' → R name b b') : Alike R store store' := by
  cases h with
  | memory label entries => exact .memory label (entries.mono fun _ _ _ => .imp_right (hPR _ _ _))
  | remote label s => exact .remote label s

theorem Beside.mono {st st' : KeyStore T × World T σ} (h : Beside d P st st')
    (hPR : ∀ name b b', P name b b' → R name b b') : Beside d R st st' :=
  ⟨h.1.mono hPR, h.2.mono hPR⟩

/-- What both kinds of stores have for an operation keeps stores of either kind side by side. -/
theorem abreast_dispatch {memory memory' : MemoryStore.Op T σ α}
    {remote remote' : RemoteStore.Op T σ α}
    (hmemory : Abreast (MemoryStore.Beside d P) Q memory memory')
    (hremote : Abreast (RemoteStore.Beside d P) Q remote remote') :
    Abreast (Beside d P) Q (dispatch memory remote) (dispatch memory' remote') := by
  rintro ⟨store, w⟩ ⟨store', w'⟩ ⟨stores, worlds⟩
  dsimp only at stores worlds
  cases stores with
  | memory label entries =>
      obtain ⟨results, entries, worlds⟩ := @hmemory (_, w) (_, w') ⟨entries, worlds⟩
      exact ⟨results, .memory label entries, worlds⟩
  | remote label s =>
      obtain ⟨results, same, worlds⟩ := @hremote (s, w) (s, w') ⟨rfl, worlds⟩
      refine ⟨results, ?_, worlds⟩
      dsimp only [dispatch, outcome_ofOutcome]
      rw [same]
      exact .remote label _

/-- What happens around the store keeps the worlds side by side. -/
theorem abreast_passing {g : World T σ → World T σ}
    (hg : ∀ w w', World.Beside d P w w' → World.Beside d P (g w) (g w')) :
    Abreast (Beside d P) Eq (Action.onSecond (modify g) : Op T σ PUnit)
      (Action.onSecond (modify g)) :=
  (Abreast.change hg).onSecond (F := Alike P)

variable [Seconds T]

theorem abreast_create {name : String} {b b' : Bytes} (ctx : Context T) (paired : P name b b') :
    Abreast (Beside d P) Eq (create ctx name b : Op T σ Unit) (create ctx name b') :=
  abreast_dispatch (MemoryStore.abreast_create ctx paired) (RemoteStore.abreast_create ctx paired)

theorem abreast_read (ctx : Context T) (name : String) :
    Abreast (Beside d P) (P.Shows name) (read ctx name : Op T σ Bytes) (read ctx name) :=
  abreast_dispatch (MemoryStore.abreast_read ctx name) (RemoteStore.abreast_read ctx name)

theorem abreast_delete (ctx : Context T) (name : String) :
    Abreast (Beside d P) Eq (delete ctx name : Op T σ Unit) (delete ctx name) :=
  abreast_dispatch (MemoryStore.abreast_delete ctx name) (RemoteStore.abreast_delete ctx name)

theorem abreast_list (ctx : Context T) (start : String) (limit : Int) (cursor : String) :
    Abreast (Beside d P) Eq (list ctx start limit cursor : Op T σ Page)
      (list ctx start limit cursor) :=
  abreast_dispatch (MemoryStore.abreast_list ctx start limit cursor)
    (RemoteStore.abreast_list ctx start limit cursor)

theorem abreast_close : Abreast (Beside d P) Eq (close : Op T σ Unit) close :=
  abreast_dispatch (.pure rfl) RemoteStore.abreast_close

end KeyStore

/-! ## One turn -/

/-- The pairs of values so far, and the two that two turns store at once. -/
def Pairing.after (P : Pairing) (turn turn' : Turn T) : Pairing := fun name b b' =>
  P name b b' ∨ turn.stored? = some (name, b) ∧ turn'.stored? = some (name, b')

/-- Two answers to a turn: the same, or the two values of a pair under the name that it reads. -/
inductive Turn.Answers (P : Pairing) : Turn T → Answer → Answer → Prop where
  | same (turn : Turn T) (a : Answer) : Answers P turn a a
  | read (ctx : Context T) {name : String} {b b' : Bytes} (paired : P name b b') :
      Answers P (.operate ctx (.read name)) (.value b) (.value b')

namespace Turn

variable [Seconds T] [Outside T σ] {d : Discreet T σ} {P : Pairing}

theorem abreast_operate (ctx : Context T) {op op' : Operation} (h : op'.veiled = op.veiled) :
    Abreast (KeyStore.Beside d (P.after (.operate ctx op) (.operate ctx op')))
      (Answers P (.operate ctx op)) (op.perform ctx) (op'.perform ctx) := by
  cases op with
  | create name b =>
      cases op' with
      | create name' b' =>
          cases h
          exact (KeyStore.abreast_create ctx (.inr ⟨rfl, rfl⟩)).then_ fun _ => .pure (.same _ _)
      | _ => cases h
  | put name b =>
      cases op' with
      | put name' b' =>
          cases h
          exact (KeyStore.abreast_create ctx (.inr ⟨rfl, rfl⟩)).then_ fun _ => .pure (.same _ _)
      | _ => cases h
  | read name =>
      cases op' with
      | read name' =>
          cases h
          refine (KeyStore.abreast_read ctx name).bind fun b b' shows => .pure ?_
          rcases shows with rfl | paired | ⟨stored, _⟩
          · exact .same _ _
          · exact .read ctx paired
          · cases stored
      | _ => cases h
  | delete name =>
      cases op' with
      | delete name' =>
          cases h
          exact (KeyStore.abreast_delete ctx name).then_ fun _ => .pure (.same _ _)
      | _ => cases h
  | list start limit cursor =>
      cases op' with
      | list start' limit' cursor' =>
          cases h
          exact (KeyStore.abreast_list ctx start limit cursor).then_ fun _ => .pure (.same _ _)
      | _ => cases h

theorem abreast_act {turn turn' : Turn T} (h : turn'.veiled = turn.veiled) :
    Abreast (KeyStore.Beside d (P.after turn turn')) (turn.Answers P) turn.act turn'.act := by
  cases turn with
  | operate ctx op =>
      cases turn' with
      | operate ctx' op' =>
          obtain ⟨rfl, hop⟩ := Turn.operate.inj h
          exact abreast_operate ctx' hop
      | _ => cases h
  | close =>
      cases turn' with
      | close => exact KeyStore.abreast_close.then_ fun _ => .pure (.same _ _)
      | _ => cases h
  | advance elapsed =>
      cases turn' with
      | advance elapsed' =>
          cases h
          refine (KeyStore.abreast_passing ?_).then_ fun _ => .pure (.same _ _)
          exact fun w w' h => h.advance elapsed
      | _ => cases h
  | cancel id =>
      cases turn' with
      | cancel id' =>
          cases h
          refine (KeyStore.abreast_passing ?_).then_ fun _ => .pure (.same _ _)
          exact fun w w' h => h.cancel id
      | _ => cases h

/-! ## Runs -/

/-- One turn before the given one is to store two values under the name, one in each run. -/
def Stored (turns turns' : List (Turn T)) (i : Nat) : Pairing := fun name b b' =>
  ∃ j < i, turns[j]?.bind stored? = some (name, b) ∧ turns'[j]?.bind stored? = some (name, b')

/-- Two answers at a place in two runs: the same, or two values of the name that the turn reads,
which stood there before or were stored at one turn. -/
inductive AnswersAt (P : Pairing) (turns turns' : List (Turn T)) (i : Nat) :
    Answer → Answer → Prop where
  | same (a : Answer) : AnswersAt P turns turns' i a a
  | read {ctx : Context T} {name : String} {b b' : Bytes}
      (reads : turns[i]? = some (.operate ctx (.read name)))
      (paired : P name b b' ∨ Stored turns turns' i name b b') :
      AnswersAt P turns turns' i (.value b) (.value b')

omit [Seconds T] in
theorem AnswersAt.zero {turn : Turn T} {rest rest' : List (Turn T)} {a a' : Answer}
    (h : turn.Answers P a a') : AnswersAt P (turn :: rest) rest' 0 a a' := by
  cases h with
  | same => exact .same a
  | read ctx paired => exact .read rfl (.inl paired)

omit [Seconds T] in
theorem AnswersAt.succ {turn turn' : Turn T} {rest rest' : List (Turn T)} {i : Nat} {a a' : Answer}
    (h : AnswersAt (P.after turn turn') rest rest' i a a') :
    AnswersAt P (turn :: rest) (turn' :: rest') (i + 1) a a' := by
  cases h with
  | same => exact .same a
  | read reads paired =>
      refine .read reads ?_
      rcases paired with (before | ⟨left, right⟩) | ⟨j, hj, left, right⟩
      · exact .inl before
      · exact .inr ⟨0, i.succ_pos, left, right⟩
      · exact .inr ⟨j + 1, Nat.succ_lt_succ hj, left, right⟩

/-- Runs of the same turns but for the values stored bring the same at every place, but for the
values read, and keep the stores and the worlds side by side. -/
theorem abreast_run {turns turns' : List (Turn T)} (h : turns'.map veiled = turns.map veiled)
    {st st' : KeyStore T × World T σ} (beside : KeyStore.Beside d P st st') :
    (∀ i, Option.Rel (Likewise (AnswersAt P turns turns' i)) (run turns st).1[i]?
      (run turns' st').1[i]?) ∧
    ∃ R, KeyStore.Beside d R (run turns st).2 (run turns' st').2 := by
  induction turns generalizing turns' P st st' with
  | nil =>
      rw [List.map_nil, List.map_eq_nil_iff] at h
      subst h
      exact ⟨fun i => .none, P, beside⟩
  | cons turn rest ih =>
      cases turns' with
      | nil => cases h
      | cons turn' rest' =>
          obtain ⟨hturn, hrest⟩ := List.cons.inj h
          obtain ⟨results, states⟩ := abreast_act hturn (beside.mono fun _ _ _ => .inl)
          obtain ⟨later, last⟩ := ih hrest states
          refine ⟨fun i => ?_, last⟩
          cases i with
          | zero => exact .some (results.mono fun _ _ => .zero)
          | succ i =>
              exact optionRel_mono (later i) fun _ _ h => h.mono fun _ _ => .succ

omit [Seconds T] in
theorem eq_some_iff_of_valueless {turns turns' : List (Turn T)} {i : Nat}
    {x x' : Option (Except Raised Answer)}
    (h : Option.Rel (Likewise (AnswersAt P turns turns' i)) x x') {result : Except Raised Answer}
    (valueless : ∀ b, result ≠ .ok (.value b)) : x' = some result ↔ x = some result := by
  cases h with
  | none => exact .rfl
  | some related =>
      cases related with
      | error e => exact .rfl
      | ok answers =>
          cases answers with
          | same a => exact .rfl
          | read reads paired =>
              constructor <;> intro h <;> exact absurd (Option.some.inj h).symm (valueless _)

/-- Two runs in which nothing differs but what is read. What both of them read at a turn are two
values that one turn before stored under the name, one in each run. -/
structure OnlyReadsDiffer (turns turns' : List (Turn T))
    (out out' : List (Except Raised Answer) × KeyStore T × World T σ) : Prop where
  succeeded_eq : out'.1.map (·.isOk) = out.1.map (·.isOk)
  /-- A turn that fails raises the same error: the same wording, operation, name and cause. -/
  raised : ∀ (i : Nat) e, out'.1[i]? = some (.error e) ↔ out.1[i]? = some (.error e)
  done : ∀ i : Nat, out'.1[i]? = some (.ok .done) ↔ out.1[i]? = some (.ok .done)
  /-- A listing brings the same names and the same cursor. -/
  listed : ∀ (i : Nat) page,
    out'.1[i]? = some (.ok (.page page)) ↔ out.1[i]? = some (.ok (.page page))
  read : ∀ (i : Nat) b b',
    out.1[i]? = some (.ok (.value b)) → out'.1[i]? = some (.ok (.value b')) → b' ≠ b →
    ∃ ctx name, turns[i]? = some (.operate ctx (.read name)) ∧ Stored turns turns' i name b b'
  /-- The runs take the same time, and the same contexts are cancelled. -/
  moment_eq : out'.2.2.moment = out.2.2.moment
  /-- The same calls are made at the same times, but for the values that creations carry. -/
  calls_eq : out'.2.2.log.map Logged.veiled = out.2.2.log.map Logged.veiled

/-- With a discreet outside, secrets influence nothing but what is read: neither which turns fail
and how, nor what is listed, when, and which calls are made. -/
theorem onlyReadsDiffer_run (d : Discreet T σ) {turns turns' : List (Turn T)}
    (same : turns'.map veiled = turns.map veiled) (st : KeyStore T × World T σ) :
    OnlyReadsDiffer turns turns' (run turns st) (run turns' st) := by
  obtain ⟨results, R, _, worlds⟩ := abreast_run same (.refl d (fun _ _ _ => False) st)
  refine ⟨?_, fun i e => ?_, fun i => ?_, fun i page => ?_, fun i b b' left right differ => ?_,
    worlds.moment_eq, worlds.log_eq⟩
  · apply List.ext_getElem?
    intro i
    rw [List.getElem?_map, List.getElem?_map]
    refine optionRel_cases (results i) rfl ?_
    exact fun _ _ related => congrArg some related.isOk_eq
  · exact eq_some_iff_of_valueless (results i) nofun
  · exact eq_some_iff_of_valueless (results i) nofun
  · exact eq_some_iff_of_valueless (results i) nofun
  · have related := results i
    rw [left, right] at related
    cases related with
    | some related =>
        cases related with
        | ok answers =>
            cases answers with
            | same => exact absurd rfl differ
            | read reads paired => exact ⟨_, _, reads, paired.resolve_left id⟩

/-- A run that stores a value twice, reads it 55 minutes later when ten seconds are left, lists the
names, and closes the store before reading again. -/
def storing (value : Bytes) : List (Turn Rat) :=
  [.operate KeyStore.endless (.create "k" value),
    .operate KeyStore.endless (.put "k" value),
    .advance 3300,
    .operate KeyStore.tight (.read "k"),
    .operate KeyStore.endless (.list "" (-1) ""),
    .close,
    .operate KeyStore.endless (.read "k")]

/-- One run stores a text and the other raw bytes, and nothing differs but what is read. -/
theorem onlyReadsDiffer_storing :
    OnlyReadsDiffer (storing [97]) (storing [255])
      (run (storing [97]) (KeyStore.connected World.firstHour))
      (run (storing [255]) (KeyStore.connected World.firstHour)) ∧
    (run (storing [97]) (KeyStore.connected World.firstHour)).2.2.outside.vault.secrets =
      [("k", .text "a")] ∧
    (run (storing [255]) (KeyStore.connected World.firstHour)).2.2.outside.vault.secrets =
      [("k", .binary [255])] ∧
    (run (storing [97]) (KeyStore.connected World.firstHour)).1.map (·.toOption) =
      [some .done, none, some .done, some (.value [97]), some (.page ⟨["k"], ""⟩), some .done,
        none] ∧
    (run (storing [255]) (KeyStore.connected World.firstHour)).1.map (·.toOption) =
      [some .done, none, some .done, some (.value [255]), some (.page ⟨["k"], ""⟩), some .done,
        none] :=
  ⟨onlyReadsDiffer_run Rehearsal.discreet
    (show (storing [255]).map veiled = (storing [97]).map veiled from rfl) _,
    by decide +kernel, by decide +kernel, by decide +kernel, by decide +kernel⟩

end Turn

end SecretVault
