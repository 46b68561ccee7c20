import Mathlib.Data.Rat.Floor
import Mathlib.Logic.Relation
import Mathlib.Order.Bounds.Basic
import SecretVault.Proofs.Context
import SecretVault.Proofs.Limits

/-!
Families of contexts. Contexts are made one after the other, with or without a timeout and a parent,
and meanwhile contexts are cancelled and time passes. A context keeps its deadline from the moment
at which it is made, while cancellation is looked for along its lineage whenever it is asked about;
`inherits_of_run` says that the two come to one law of inheritance in every state of every run.
-/

namespace SecretVault

/-- A context of a family: the timeout and the parent that it was made with, the time at which it
was made, and the context itself. -/
structure Member where
  timeout : Option Rat
  parent : Option Nat
  born : Rat
  context : Context Rat

/-- The contexts made so far, each known by its place, and the moment that they are looked at. -/
structure Family where
  moment : Moment Rat
  members : List Member

namespace Family

/-- What may happen to a family. A context derived from another one has that one as its parent. -/
inductive Event where
  | make (timeout : Option Rat) (parent : Option Nat)
  | cancel (id : Nat)
  | wait (elapsed : Rat)

def founded (now : Rat) : Family :=
  ⟨⟨now, []⟩, []⟩

def context? (f : Family) (id : Nat) : Option (Context Rat) :=
  f.members[id]?.map (·.context)

def newborn (f : Family) (timeout : Option Rat) (parent : Option Nat) : Member where
  timeout := timeout
  parent := parent
  born := f.moment.now
  context := .start f.moment f.members.length timeout (parent.bind f.context?)

def after (f : Family) : Event → Family
  | .make timeout parent => { f with members := f.members ++ [f.newborn timeout parent] }
  | .cancel id => { f with moment := f.moment.cancel id }
  | .wait elapsed => { f with moment := f.moment.after elapsed }

/-- Whether the event can happen: parents and cancelled contexts have been made, and the clock does
not go back. -/
def Allows (f : Family) : Event → Prop
  | .make _ parent => ∀ p ∈ parent, p < f.members.length
  | .cancel id => id < f.members.length
  | .wait elapsed => 0 ≤ elapsed

instance (f : Family) (event : Event) : Decidable (f.Allows event) :=
  match event with
  | .make _ parent => inferInstanceAs (Decidable (∀ p ∈ parent, p < f.members.length))
  | .cancel id => inferInstanceAs (Decidable (id < f.members.length))
  | .wait elapsed => inferInstanceAs (Decidable ((0 : Rat) ≤ elapsed))

inductive Run (start : Family) : List Event → Family → Prop where
  | start : Run start [] start
  | step {events f} (event : Event) (before : Run start events f) (may : f.Allows event) :
      Run start (events ++ [event]) (f.after event)

/-! ## Descent -/

def IsParent (f : Family) (p c : Nat) : Prop :=
  ∃ m, f.members[c]? = some m ∧ m.parent = some p

/-- A context descends from itself, from its parent, and from all that its parent descends from. -/
def Descends (f : Family) (a c : Nat) : Prop :=
  Relation.ReflTransGen f.IsParent a c

/-- The times at which the timeouts of a context and of those that it descends from run out. -/
def limits (f : Family) (c : Nat) : Set Rat :=
  {x | ∃ a m t, f.Descends a c ∧ f.members[a]? = some m ∧ m.timeout = some t ∧ x = m.born + t}

/-- The deadline is the first of the times, and missing only if there is none. -/
def IsFirst : Option Rat → Set Rat → Prop
  | none, times => times = ∅
  | some d, times => IsLeast times d

variable {f g : Family} {i p : Nat} {m n : Member}

theorem descends_of_root (hi : f.members[i]? = some m) (root : m.parent = none) (a : Nat) :
    f.Descends a i ↔ a = i := by
  rw [Descends, Relation.ReflTransGen.cases_tail_iff]
  constructor
  · rintro (rfl | ⟨p, _, m', hm', hp⟩)
    · rfl
    · rw [hi, Option.some.injEq] at hm'
      rw [← hm', root] at hp
      cases hp
  · exact fun h => .inl h.symm

theorem descends_of_child (hi : f.members[i]? = some m) (child : m.parent = some p) (a : Nat) :
    f.Descends a i ↔ a = i ∨ f.Descends a p := by
  rw [Descends, Relation.ReflTransGen.cases_tail_iff]
  constructor
  · rintro (rfl | ⟨p', descends, m', hm', hp⟩)
    · exact .inl rfl
    · rw [hi, Option.some.injEq] at hm'
      rw [← hm', child, Option.some.injEq] at hp
      rw [hp]
      exact .inr descends
  · rintro (rfl | descends)
    · exact .inl rfl
    · exact .inr ⟨p, descends, m, hi, child⟩

/-! ## How a family grows -/

/-- Every context stands as it was made: its number is its place, and its lineage and its deadline
come from its parent, which was made before it. -/
structure Grown (f : Family) : Prop where
  id_eq : ∀ (i : Nat) (m : Member), f.members[i]? = some m → m.context.id = i
  root : ∀ (i : Nat) (m : Member), f.members[i]? = some m → m.parent = none →
    m.context.lineage = [] ∧ m.context.deadline = m.timeout.map (m.born + ·)
  child : ∀ (i p : Nat) (m : Member), f.members[i]? = some m → m.parent = some p →
    ∃ n, f.members[p]? = some n ∧ p < i ∧ m.context.lineage = p :: n.context.lineage ∧
      m.context.deadline = Context.earlier (m.timeout.map (m.born + ·)) n.context.deadline

theorem members_make {timeout : Option Rat} {parent : Option Nat}
    (h : (f.after (.make timeout parent)).members[i]? = some m) :
    f.members[i]? = some m ∨ i = f.members.length ∧ m = f.newborn timeout parent := by
  rw [after, List.getElem?_append] at h
  split at h
  · exact .inl h
  · rename_i late
    obtain ⟨place, hm⟩ := List.getElem?_eq_some_iff.mp h
    rw [List.length_singleton] at place
    exact .inr ⟨by omega, by simpa using hm.symm⟩

theorem members_after (event : Event) (hi : f.members[i]? = some m) :
    (f.after event).members[i]? = some m := by
  cases event with
  | make timeout parent =>
      obtain ⟨place, _⟩ := List.getElem?_eq_some_iff.mp hi
      rw [after, List.getElem?_append_left place]
      exact hi
  | cancel id => exact hi
  | wait elapsed => exact hi

theorem Grown.newborn_child (grown : f.Grown) {timeout : Option Rat} (hp : f.members[p]? = some n) :
    (f.newborn timeout (some p)).context.lineage = p :: n.context.lineage ∧
      (f.newborn timeout (some p)).context.deadline =
        Context.earlier (timeout.map (f.moment.now + ·)) n.context.deadline := by
  have parent : (some p).bind f.context? = some n.context := by
    simp [context?, hp]
  rw [newborn, parent]
  exact ⟨congrArg (· :: n.context.lineage) (grown.id_eq p n hp), rfl⟩

theorem Grown.after (grown : f.Grown) {event : Event} (may : f.Allows event) :
    (f.after event).Grown := by
  cases event with
  | cancel id => exact ⟨grown.id_eq, grown.root, grown.child⟩
  | wait elapsed => exact ⟨grown.id_eq, grown.root, grown.child⟩
  | make timeout parent =>
      refine ⟨?_, ?_, ?_⟩
      · intro i m hi
        rcases members_make hi with old | ⟨rfl, rfl⟩
        · exact grown.id_eq i m old
        · rfl
      · intro i m hi hroot
        rcases members_make hi with old | ⟨rfl, rfl⟩
        · exact grown.root i m old hroot
        · obtain rfl : parent = none := hroot
          exact ⟨rfl, by cases timeout <;> rfl⟩
      · intro i p m hi hchild
        rcases members_make hi with old | ⟨rfl, rfl⟩
        · obtain ⟨n, hp, before, hlineage⟩ := grown.child i p m old hchild
          exact ⟨n, members_after _ hp, before, hlineage⟩
        · obtain rfl : parent = some p := hchild
          have made := may p rfl
          have hp : f.members[p]? = some f.members[p] := List.getElem?_eq_getElem made
          exact ⟨_, members_after _ hp, made, grown.newborn_child hp⟩

theorem Run.grown {now : Rat} {events : List Event} (run : Run (founded now) events f) :
    f.Grown := by
  induction run with
  | start =>
      refine ⟨?_, ?_, ?_⟩
      · intro i m hi
        cases hi
      · intro i m hi
        cases hi
      · intro i p m hi
        cases hi
  | step event _ may ih => exact ih.after may

/-! ## What is inherited -/

theorem Grown.mem_lineage (grown : f.Grown) (a : Nat) (hi : f.members[i]? = some m) :
    a ∈ m.context.id :: m.context.lineage ↔ f.Descends a i := by
  -- parents are made before their children
  induction i using Nat.strong_induction_on generalizing m with
  | _ i ih =>
      rw [grown.id_eq i m hi, List.mem_cons]
      cases hparent : m.parent with
      | none => simp [grown.root i m hi hparent, descends_of_root hi hparent]
      | some p =>
          obtain ⟨n, hp, before, hlineage, _⟩ := grown.child i p m hi hparent
          rw [descends_of_child hi hparent, ← ih p before hp, grown.id_eq p n hp, hlineage]

theorem limits_of_root (hi : f.members[i]? = some m) (root : m.parent = none) :
    f.limits i = {x | ∃ t, m.timeout = some t ∧ x = m.born + t} := by
  ext x
  constructor
  · rintro ⟨a, m', t, descends, ha, ht, rfl⟩
    obtain rfl := (descends_of_root hi root a).mp descends
    rw [hi, Option.some.injEq] at ha
    subst ha
    exact ⟨t, ht, rfl⟩
  · rintro ⟨t, ht, rfl⟩
    exact ⟨i, m, t, .refl, hi, ht, rfl⟩

theorem limits_of_child (hi : f.members[i]? = some m) (child : m.parent = some p) :
    f.limits i = {x | ∃ t, m.timeout = some t ∧ x = m.born + t} ∪ f.limits p := by
  ext x
  constructor
  · rintro ⟨a, m', t, descends, ha, ht, rfl⟩
    rcases (descends_of_child hi child a).mp descends with rfl | descends
    · rw [hi, Option.some.injEq] at ha
      subst ha
      exact .inl ⟨t, ht, rfl⟩
    · exact .inr ⟨a, m', t, descends, ha, ht, rfl⟩
  · rintro (⟨t, ht, rfl⟩ | ⟨a, m', t, descends, ha, ht, rfl⟩)
    · exact ⟨i, m, t, .refl, hi, ht, rfl⟩
    · exact ⟨a, m', t, (descends_of_child hi child a).mpr (.inr descends), ha, ht, rfl⟩

theorem isFirst_timeout (timeout : Option Rat) (born : Rat) :
    IsFirst (timeout.map (born + ·)) {x | ∃ t, timeout = some t ∧ x = born + t} := by
  cases timeout with
  | none => simp [IsFirst]
  | some t => simp [IsFirst]

/-- The earlier of the first times of two sets is the first time of both. -/
theorem IsFirst.earlier {d d' : Option Rat} {times times' : Set Rat} (h : IsFirst d times)
    (h' : IsFirst d' times') : IsFirst (Context.earlier d d') (times ∪ times') := by
  cases d with
  | none =>
      obtain rfl : times = ∅ := h
      rw [Set.empty_union]
      exact h'
  | some d =>
      cases d' with
      | none =>
          obtain rfl : times' = ∅ := h'
          rw [Set.union_empty]
          exact h
      | some d' =>
          rw [Context.earlier, Seconds.least_eq_min]
          exact IsLeast.union h h'

/-- The deadline of a context is the first time at which its timeout or one of those that it
inherits runs out. -/
theorem Grown.isFirst_deadline (grown : f.Grown) (hi : f.members[i]? = some m) :
    IsFirst m.context.deadline (f.limits i) := by
  induction i using Nat.strong_induction_on generalizing m with
  | _ i ih =>
      have own := isFirst_timeout m.timeout m.born
      cases hparent : m.parent with
      | none =>
          rw [(grown.root i m hi hparent).2, limits_of_root hi hparent]
          exact own
      | some p =>
          obtain ⟨n, hp, before, _, hdeadline⟩ := grown.child i p m hi hparent
          rw [hdeadline, limits_of_child hi hparent]
          exact own.earlier (ih p before hp)

/-! ## What is left, and when a context is done -/

theorem remaining_eq (moment : Moment Rat) (c : Context Rat) :
    c.remaining moment = c.deadline.map fun d => max 0 (d - moment.now) := by
  cases hd : c.deadline with
  | none => simp [Context.remaining, hd]
  | some d =>
      simp only [Context.remaining, hd, Option.map_some]
      exact congrArg some (Seconds.greatest_eq_max _ _)

/-- The time left is never negative, and there is none left exactly if the deadline was reached. -/
theorem left_of_remaining {moment : Moment Rat} {c : Context Rat} {r : Rat}
    (h : c.remaining moment = some r) :
    0 ≤ r ∧ (r = 0 ↔ ∃ d, c.deadline = some d ∧ d ≤ moment.now) := by
  rw [remaining_eq] at h
  obtain ⟨d, hd, rfl⟩ := Option.map_eq_some_iff.mp h
  refine ⟨le_max_left _ _, ?_⟩
  rw [max_eq_left_iff, sub_nonpos, hd]
  simp

theorem Descends.limits_subset {a : Nat} (h : f.Descends a i) : f.limits a ⊆ f.limits i := by
  rintro x ⟨b, m, t, descends, hb⟩
  exact ⟨b, m, t, descends.trans h, hb⟩

theorem Grown.deadline_le (grown : f.Grown) {a : Nat} {d : Rat} (h : f.Descends a i)
    (ha : f.members[a]? = some n) (hi : f.members[i]? = some m) (hd : n.context.deadline = some d) :
    ∃ d' ≤ d, m.context.deadline = some d' := by
  have first := grown.isFirst_deadline ha
  have first' := grown.isFirst_deadline hi
  rw [hd] at first
  have inherited := h.limits_subset first.1
  cases hd' : m.context.deadline with
  | none =>
      rw [hd'] at first'
      have none_runs_out : f.limits i = ∅ := first'
      rw [none_runs_out] at inherited
      cases inherited
  | some d' =>
      rw [hd'] at first'
      exact ⟨d', first'.2 inherited, rfl⟩

theorem Grown.remaining_le (grown : f.Grown) {r : Rat} (hi : f.members[i]? = some m)
    (child : m.parent = some p) (hp : f.members[p]? = some n)
    (hr : n.context.remaining f.moment = some r) :
    ∃ r' ≤ r, m.context.remaining f.moment = some r' := by
  rw [remaining_eq] at hr ⊢
  obtain ⟨d, hd, rfl⟩ := Option.map_eq_some_iff.mp hr
  have descends : f.Descends p i := .single ⟨m, hi, child⟩
  obtain ⟨d', hle, hd'⟩ := grown.deadline_le descends hp hi hd
  rw [hd']
  exact ⟨_, max_le_max_left 0 (sub_le_sub_right hle f.moment.now), rfl⟩

theorem Grown.isCancelled_iff (grown : f.Grown) (hi : f.members[i]? = some m)
    (moment : Moment Rat) : m.context.isCancelled moment = true ↔
      ∃ a, f.Descends a i ∧ a ∈ moment.cancelled := by
  rw [Context.isCancelled_iff]
  constructor
  · rintro ⟨a, ha, hcancelled⟩
    exact ⟨a, (grown.mem_lineage a hi).mp ha, hcancelled⟩
  · rintro ⟨a, ha, hcancelled⟩
    exact ⟨a, (grown.mem_lineage a hi).mpr ha, hcancelled⟩

theorem Grown.isDone_of_descends (grown : f.Grown) {a : Nat} (h : f.Descends a i)
    (ha : f.members[a]? = some n) (hi : f.members[i]? = some m)
    (done : n.context.isDone f.moment = true) : m.context.isDone f.moment = true := by
  rw [Context.isDone_iff] at done ⊢
  rcases done with cancelled | ⟨d, hd, late⟩
  · obtain ⟨b, descends, hb⟩ := (grown.isCancelled_iff ha f.moment).mp cancelled
    exact .inl ((grown.isCancelled_iff hi f.moment).mpr ⟨b, descends.trans h, hb⟩)
  · obtain ⟨d', hle, hd'⟩ := grown.deadline_le h ha hi hd
    exact .inr ⟨d', hd', hle.trans late⟩

/-! ## Later families -/

/-- The family went on: the clock did not go back, no cancellation was taken back, and the contexts
are where they were. -/
structure Later (f g : Family) : Prop where
  now_le : f.moment.now ≤ g.moment.now
  cancelled_subset : f.moment.cancelled ⊆ g.moment.cancelled
  members : ∀ (i : Nat) (m : Member), f.members[i]? = some m → g.members[i]? = some m

theorem Run.later {events : List Event} (run : Run f events g) : Later f g := by
  induction run with
  | start => exact ⟨le_refl _, List.Subset.refl _, fun _ _ h => h⟩
  | @step events g event _ may ih =>
      have members (i : Nat) (m : Member) (hi : f.members[i]? = some m) :=
        members_after event (ih.members i m hi)
      cases event with
      | make timeout parent => exact ⟨ih.now_le, ih.cancelled_subset, members⟩
      | cancel id =>
          exact ⟨ih.now_le, List.subset_cons_of_subset id ih.cancelled_subset, members⟩
      | wait elapsed =>
          refine ⟨ih.now_le.trans ?_, ih.cancelled_subset, members⟩
          exact le_add_of_nonneg_right may

theorem Run.mem_cancelled {now : Rat} {events : List Event} (run : Run (founded now) events f)
    (id : Nat) : id ∈ f.moment.cancelled ↔ .cancel id ∈ events := by
  induction run with
  | start => simp [founded]
  | step event _ _ ih =>
      rw [List.mem_append, ← ih, List.mem_singleton]
      cases event with
      | make timeout parent => simp [after]
      | cancel other => simp [after, Moment.cancel, or_comm]
      | wait elapsed => simp [after, Moment.after]

/-- A context that is done stays done, and a canceled one stays canceled. -/
theorem Later.err {c : Context Rat} (later : Later f g) :
    (c.err f.moment ≠ none → c.err g.moment ≠ none) ∧
      (c.err f.moment = some .canceled → c.err g.moment = some .canceled) := by
  have cancelled (h : c.isCancelled f.moment = true) : c.isCancelled g.moment = true := by
    obtain ⟨id, hid, hcancelled⟩ := Context.isCancelled_iff.mp h
    exact Context.isCancelled_iff.mpr ⟨id, hid, later.cancelled_subset hcancelled⟩
  constructor
  · rw [← Option.isSome_iff_ne_none, ← Option.isSome_iff_ne_none]
    change c.isDone f.moment = true → c.isDone g.moment = true
    rw [Context.isDone_iff, Context.isDone_iff]
    rintro (h | ⟨d, hd, late⟩)
    · exact .inl (cancelled h)
    · exact .inr ⟨d, hd, le_trans late later.now_le⟩
  · rw [Context.err_eq_canceled_iff, Context.err_eq_canceled_iff, ← Context.isCancelled_iff,
      ← Context.isCancelled_iff]
    exact cancelled

/-- A cancellation reaches the context itself and its descendants, and leaves all others as they
were. -/
theorem Grown.err_cancel (grown : f.Grown) (id : Nat) (hi : f.members[i]? = some m) :
    (f.Descends id i → m.context.err (f.after (.cancel id)).moment = some .canceled) ∧
      (¬ f.Descends id i →
        m.context.err (f.after (.cancel id)).moment = m.context.err f.moment) := by
  constructor
  · intro descends
    rw [Context.err_eq_canceled_iff, ← Context.isCancelled_iff, grown.isCancelled_iff hi]
    exact ⟨id, descends, List.mem_cons_self⟩
  · intro apart
    have same : m.context.isCancelled (f.after (.cancel id)).moment =
        m.context.isCancelled f.moment := by
      rw [Bool.eq_iff_iff, grown.isCancelled_iff hi, grown.isCancelled_iff hi]
      constructor
      · rintro ⟨a, descends, ha⟩
        rcases List.mem_cons.mp ha with rfl | ha
        · exact absurd descends apart
        · exact ⟨a, descends, ha⟩
      · rintro ⟨a, descends, ha⟩
        exact ⟨a, descends, List.mem_cons_of_mem id ha⟩
    rw [Context.err, same]
    rfl

/-! ## The law -/

/-- The law of inheritance, in the state that a run has led to. -/
structure Inherits (events : List Event) (f : Family) : Prop where
  cancelled_iff : ∀ (i : Nat) (m : Member), f.members[i]? = some m →
    (m.context.isCancelled f.moment = true ↔ ∃ a, f.Descends a i ∧ .cancel a ∈ events)
  /-- A cancellation would reach the context itself and its descendants and no others. -/
  cancel : ∀ (id i : Nat) (m : Member), f.members[i]? = some m →
    (f.Descends id i → m.context.err (f.after (.cancel id)).moment = some .canceled) ∧
      (¬ f.Descends id i → m.context.err (f.after (.cancel id)).moment = m.context.err f.moment)
  deadline : ∀ (i : Nat) (m : Member), f.members[i]? = some m →
    IsFirst m.context.deadline (f.limits i)
  unlimited : ∀ (i : Nat) (m : Member), f.members[i]? = some m →
    (m.context.remaining f.moment = none ↔ m.context.deadline = none)
  left : ∀ (i : Nat) (m : Member) (r : Rat), f.members[i]? = some m →
    m.context.remaining f.moment = some r →
    0 ≤ r ∧ (r = 0 ↔ ∃ d, m.context.deadline = some d ∧ d ≤ f.moment.now)
  left_le : ∀ (i p : Nat) (m n : Member) (r : Rat), f.members[i]? = some m → m.parent = some p →
    f.members[p]? = some n → n.context.remaining f.moment = some r →
    ∃ r' ≤ r, m.context.remaining f.moment = some r'
  done : ∀ (a i : Nat) (n m : Member), f.Descends a i → f.members[a]? = some n →
    f.members[i]? = some m → n.context.isDone f.moment = true →
    m.context.isDone f.moment = true
  /-- Whatever happens next, a context is still there, done if it was done, and canceled if it was
  canceled. -/
  lasting : ∀ (more : List Event) (g : Family) (i : Nat) (m : Member), Run f more g →
    f.members[i]? = some m → g.members[i]? = some m ∧
      (m.context.err f.moment ≠ none → m.context.err g.moment ≠ none) ∧
      (m.context.err f.moment = some .canceled → m.context.err g.moment = some .canceled)

/-- The law of inheritance holds in every state of every run. -/
theorem inherits_of_run {now : Rat} {events : List Event} (run : Run (founded now) events f) :
    Inherits events f where
  cancelled_iff i m hi := by
    simp only [run.grown.isCancelled_iff hi, run.mem_cancelled]
  cancel id i m hi := run.grown.err_cancel id hi
  deadline i m hi := run.grown.isFirst_deadline hi
  unlimited i m hi := by
    rw [remaining_eq, Option.map_eq_none_iff]
  left i m r hi hr := left_of_remaining hr
  left_le i p m n r hi child hp hr := run.grown.remaining_le hi child hp hr
  done a i n m descends ha hi done := run.grown.isDone_of_descends descends ha hi done
  lasting more g i m next hi := ⟨next.later.members i m hi, next.later.err⟩

/-- Three generations. The second has ten seconds, and the third is derived from it three seconds
later with a minute; then the second is cancelled. -/
def threeGenerations : List Event :=
  [.make none none, .make (some 10) (some 0), .wait 3, .make (some 60) (some 1), .cancel 1]

/-- The third generation keeps the deadline of the second and is canceled with it, unlike the
first. -/
theorem threeGenerations_inherit : ∃ f, Run (founded 0) threeGenerations f ∧
    Inherits threeGenerations f ∧
    f.members.map (fun m => (m.context.deadline, m.context.remaining f.moment)) =
      [(none, none), (some 10, some 7), (some 10, some 7)] ∧
    f.members.map (·.context.err f.moment) = [none, some .canceled, some .canceled] := by
  have run : Run (founded 0) threeGenerations (threeGenerations.foldl after (founded 0)) := by
    refine .step (.cancel 1) (.step (.make (some 60) (some 1)) (.step (.wait 3)
      (.step (.make (some 10) (some 0)) (.step (.make none none) .start ?_) ?_) ?_) ?_) ?_
    all_goals decide +kernel
  exact ⟨_, run, inherits_of_run run, by decide +kernel, by decide +kernel⟩

end Family

end SecretVault
