import Mathlib.Order.Bounds.Basic
import SecretVault.Proofs.Limits.Deadline

/-!
How limits grow with the time left, in exact seconds. More time is never rounded down to less, and
where an attempt fits at all neither timeout is cut, so from there on the time of one attempt stays
the same and more time only makes room for more of them. The attempts are as many as fit.
-/

namespace SecretVault.Limits

variable {configured : Limits Rat} {remaining budget more : Rat}

/-! ## Rounding more time -/

theorem rounded_lt_one (short : remaining < 1) : rounded remaining < 1 := by
  unfold rounded
  rw [if_pos short]
  have tenths := Int.floor_le (remaining * 10)
  exact max_lt (by norm_num) (by linarith)

theorem one_le_rounded (long : 1 ≤ remaining) : 1 ≤ rounded remaining := by
  unfold rounded
  rw [if_neg (not_lt.mpr long)]
  have whole : (1 : Int) ≤ ⌊remaining⌋ := by
    rw [Int.le_floor]
    exact_mod_cast long
  exact_mod_cast whole

/-- More time is never rounded down to less, also where tenths give way to whole seconds. -/
theorem rounded_mono : Monotone rounded := by
  intro less more grows
  rcases lt_or_ge more 1 with short | long
  · unfold rounded
    rw [if_pos (grows.trans_lt short), if_pos short]
    have tenths : ⌊less * 10⌋ ≤ ⌊more * 10⌋ := Int.floor_mono (by linarith)
    have tenths' : (⌊less * 10⌋ : Rat) ≤ ⌊more * 10⌋ := by exact_mod_cast tenths
    exact max_le_max_left _ (by linarith)
  · rcases lt_or_ge less 1 with short | long'
    · exact (rounded_lt_one short).le.trans (one_le_rounded long)
    · unfold rounded
      rw [if_neg (not_lt.mpr long'), if_neg (not_lt.mpr long)]
      exact_mod_cast Int.floor_mono grows

/-! ## As many attempts as fit -/

/-- The numbers of attempts that are configured and that fit into a budget with these limits. -/
def fitting (configured limits : Limits Rat) (budget : Rat) : Set Int :=
  {a | 1 ≤ a ∧ a ≤ configured.attempts ∧ a * limits.perAttempt ≤ budget}

theorem isGreatest_attempts (hattempts : 1 ≤ configured.attempts)
    (positive : 0 < (configured.cut budget).perAttempt)
    (fits : (configured.cut budget).perAttempt ≤ budget) :
    IsGreatest (fitting configured (configured.cut budget) budget)
      (configured.cut budget).attempts := by
  have one_fits := one_le_floor positive fits
  have attempts_eq : (configured.cut budget).attempts =
      min configured.attempts ⌊budget / (configured.cut budget).perAttempt⌋ :=
    max_eq_right (le_min hattempts one_fits)
  rw [attempts_eq]
  constructor
  · refine ⟨le_min hattempts one_fits, min_le_left _ _, ?_⟩
    exact (le_floor_iff positive _).mp (min_le_right _ _)
  · rintro a ⟨-, allowed, fit⟩
    exact le_min allowed ((le_floor_iff positive a).mpr fit)

theorem fitting_eq_empty (positive : 0 < (configured.cut budget).perAttempt)
    (exceeds : budget < (configured.cut budget).perAttempt) :
    fitting configured (configured.cut budget) budget = ∅ := by
  refine Set.eq_empty_iff_forall_notMem.mpr ?_
  rintro a ⟨one_le, -, fit⟩
  have one_le' : (1 : Rat) ≤ a := by exact_mod_cast one_le
  have longer := le_mul_of_one_le_left positive.le one_le'
  linarith

/-! ## More time, more attempts -/

/-- Where an attempt fits into a budget, its timeouts are the configured ones: a timeout that was
cut would take the whole budget by itself. -/
theorem uncut_of_fits (hconnect : 0 < configured.connect) (hread : 0 < configured.read)
    (positive : 0 < budget) (fits : (configured.cut budget).perAttempt ≤ budget) :
    configured.connect ≤ budget ∧ configured.read ≤ budget := by
  have sum : min configured.connect budget + min configured.read budget ≤ budget := fits
  have connect_pos : 0 < min configured.connect budget := lt_min hconnect positive
  have read_pos : 0 < min configured.read budget := lt_min hread positive
  constructor
  · by_contra cut
    rw [min_eq_right (le_of_not_ge cut)] at sum
    linarith
  · by_contra cut
    rw [min_eq_right (le_of_not_ge cut)] at sum
    linarith

theorem perAttempt_cut_of_le (connect_fits : configured.connect ≤ budget)
    (read_fits : configured.read ≤ budget) :
    (configured.cut budget).perAttempt = configured.perAttempt := by
  unfold perAttempt cut
  rw [min_eq_left connect_fits, min_eq_left read_fits]

theorem attempts_cut_mono (hconnect : 0 < configured.connect) (hread : 0 < configured.read)
    (positive : 0 < budget) (grows : budget ≤ more) :
    (configured.cut budget).attempts ≤ (configured.cut more).attempts := by
  have one_takes : 0 < (configured.cut budget).perAttempt :=
    add_pos (lt_min hconnect positive) (lt_min hread positive)
  rcases le_or_gt (configured.cut budget).perAttempt budget with fits | exceeds
  · -- from here on an attempt takes the same time, so the quotient grows with the budget
    obtain ⟨connect_fits, read_fits⟩ := uncut_of_fits hconnect hread positive fits
    have same := perAttempt_cut_of_le connect_fits read_fits
    have same' := perAttempt_cut_of_le (connect_fits.trans grows) (read_fits.trans grows)
    have quotients : ⌊budget / (configured.cut budget).perAttempt⌋ ≤
        ⌊more / (configured.cut more).perAttempt⌋ := by
      rw [same', ← same]
      exact Int.floor_mono (div_le_div_of_nonneg_right grows one_takes.le)
    exact max_le_max_left 1 (min_le_min_left _ quotients)
  · rw [attempts_cut_of_lt one_takes exceeds]
    exact le_max_left 1 _

theorem cut_mono (hconnect : 0 < configured.connect) (hread : 0 < configured.read)
    (positive : 0 < budget) (grows : budget ≤ more) :
    (configured.cut budget).AtMost (configured.cut more) where
  connect_le := min_le_min_left _ grows
  read_le := min_le_min_left _ grows
  attempts_le := attempts_cut_mono hconnect hread positive grows

/-! ## Limits for the time left -/

/-- The limits make the most of a budget: each timeout is the configured one or the whole budget,
and there are as many attempts as are configured and fit, or a single one if none fits. -/
structure MakesMost (configured limits : Limits Rat) (budget : Rat) : Prop where
  connect_eq : limits.connect = min configured.connect budget
  read_eq : limits.read = min configured.read budget
  attempts : IsGreatest (fitting configured limits budget) limits.attempts ∨
    fitting configured limits budget = ∅ ∧ limits.attempts = 1

theorem makesMost_cut (hattempts : 1 ≤ configured.attempts)
    (positive : 0 < (configured.cut budget).perAttempt) :
    configured.MakesMost (configured.cut budget) budget where
  connect_eq := rfl
  read_eq := rfl
  attempts := by
    rcases le_or_gt (configured.cut budget).perAttempt budget with fits | exceeds
    · exact .inl (isGreatest_attempts hattempts positive fits)
    · exact .inr ⟨fitting_eq_empty positive exceeds, attempts_cut_of_lt positive exceeds⟩

theorem for?_eq_none_iff (positive : 0 < (configured.cut (rounded remaining)).perAttempt) :
    configured.for? (some remaining) = .ok none ↔
      configured.cut (rounded remaining) = configured := by
  rw [for?, within?_eq, if_neg (ne_of_gt positive)]
  by_cases fits : configured.cut (rounded remaining) = configured
  · simp [fits]
  · simp [fits]

/-- With positive timeouts and at least one attempt, limits can be computed for every time left.
They grow with it in each of their parts, up to those without a deadline, and they make the most of
the time rounded down. The configured limits are kept exactly if they are the limits that result. -/
theorem effective_grows (hconnect : 0 < configured.connect) (hread : 0 < configured.read)
    (hattempts : 1 ≤ configured.attempts) :
    (∀ less more : Rat, less ≤ more → ∃ limits limits',
      configured.effective (some less) = .ok limits ∧
        configured.effective (some more) = .ok limits' ∧
        limits.AtMost limits' ∧ limits'.AtMost configured) ∧
    configured.effective none = .ok configured ∧
    ∀ remaining : Rat, ∃ limits, configured.effective (some remaining) = .ok limits ∧
      configured.MakesMost limits (rounded remaining) ∧
      (configured.for? (some remaining) = .ok none ↔ limits = configured) := by
  have computed (remaining : Rat) : configured.effective (some remaining) =
      .ok (configured.cut (rounded remaining)) := by
    rw [effective_eq, if_neg (ne_of_gt (perAttempt_cut_pos hconnect hread remaining))]
  refine ⟨?_, rfl, ?_⟩
  · intro less more grows
    refine ⟨_, _, computed less, computed more, ?_, (atMost_cut_iff configured _).mpr hattempts⟩
    exact cut_mono hconnect hread (rounded_pos less) (rounded_mono grows)
  · intro remaining
    have positive := perAttempt_cut_pos hconnect hread remaining
    exact ⟨_, computed remaining, makesMost_cut hattempts positive, for?_eq_none_iff positive⟩

/-- The limits of a plain section are nowhere looser with 0.95 seconds left than with 80.5, and into
these two attempts fit and no third. -/
theorem plain_grows :
    ofSection? plainSection = some ⟨5, 30, 3⟩ ∧
      (∃ limits limits', effective ⟨5, 30, 3⟩ (some (19 / 20)) = .ok limits ∧
        effective ⟨5, 30, 3⟩ (some (161 / 2)) = .ok limits' ∧ limits.AtMost limits') ∧
      ∃ limits, effective ⟨5, 30, 3⟩ (some (161 / 2)) = .ok limits ∧ limits.attempts = 2 ∧
        MakesMost ⟨5, 30, 3⟩ limits 80 := by
  obtain ⟨grows, -, most⟩ := @effective_grows ⟨5, 30, 3⟩ (by decide +kernel) (by decide +kernel)
    (by decide +kernel)
  obtain ⟨limits, limits', first, second, tight, -⟩ := grows (19 / 20) (161 / 2) (by norm_num)
  refine ⟨by decide +kernel, ⟨limits, limits', first, second, tight⟩, limits', second, ?_, ?_⟩
  · have two : (effective ⟨5, 30, 3⟩ (some (161 / 2 : Rat))).map attempts = .ok 2 := by
      decide +kernel
    rw [second] at two
    exact Except.ok.inj two
  · obtain ⟨found, hfound, makes, -⟩ := most (161 / 2)
    obtain rfl : found = limits' := Except.ok.inj (hfound.symm.trans second)
    have down : rounded (161 / 2) = 80 := by decide +kernel
    rwa [down] at makes

end SecretVault.Limits
