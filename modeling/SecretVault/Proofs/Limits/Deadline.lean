import Mathlib.Tactic.Linarith
import SecretVault.Decimal.Exact
import SecretVault.Options
import SecretVault.Proofs.Limits

/-!
How the limits of an operation keep to its deadline and to the configured limits, in exact seconds.
Each timeout is cut to the whole budget by itself, so one attempt may take up to twice the time that
is left; where one attempt fits, all attempts do.
-/

namespace SecretVault.Limits

/-- The limits of an operation: those that fit into the time left, or the configured ones if these
fit. -/
def effective {T : Type} [Seconds T] (configured : Limits T) (remaining : Option T) :
    Except Fault (Limits T) :=
  (configured.for? remaining).map fun limits? => limits?.getD configured

structure AtMost (limits others : Limits Rat) : Prop where
  connect_le : limits.connect ≤ others.connect
  read_le : limits.read ≤ others.read
  attempts_le : limits.attempts ≤ others.attempts

variable {configured : Limits Rat} {remaining : Rat}

/-- Under a deadline the limits are the configured ones, cut to the time left, also where these fit
as they are. They cannot be computed if the timeouts that are cut cancel each other. -/
theorem effective_eq (configured : Limits Rat) (remaining : Rat) :
    configured.effective (some remaining) =
      if (configured.cut (rounded remaining)).perAttempt = 0 then .error .divisionByZero
      else .ok (configured.cut (rounded remaining)) := by
  rw [effective, for?, within?_eq]
  by_cases cancelling : (configured.cut (rounded remaining)).perAttempt = 0
  · rw [if_pos cancelling, if_pos cancelling]
    rfl
  · rw [if_neg cancelling, if_neg cancelling]
    by_cases fits : configured.cut (rounded remaining) = configured
    · rw [if_pos fits, fits]
      rfl
    · rw [if_neg fits]
      rfl

/-! ## Rounding -/

theorem rounded_le (enough : 1 / 10 ≤ remaining) : rounded remaining ≤ remaining := by
  unfold rounded
  by_cases short : remaining < 1
  · rw [if_pos short]
    have tenths := Int.floor_le (remaining * 10)
    exact max_le enough (by linarith)
  · rw [if_neg short]
    exact Int.floor_le remaining

theorem lt_two_mul_rounded (enough : 1 / 10 ≤ remaining) :
    remaining < 2 * rounded remaining := by
  unfold rounded
  by_cases short : remaining < 1
  · rw [if_pos short]
    have one : (1 : Int) ≤ ⌊remaining * 10⌋ := by
      rw [Int.le_floor]
      push_cast
      linarith
    have one' : (1 : Rat) ≤ ⌊remaining * 10⌋ := by exact_mod_cast one
    have next := Int.lt_floor_add_one (remaining * 10)
    have tenths := le_max_right (1 / 10 : Rat) (⌊remaining * 10⌋ / 10)
    linarith
  · rw [if_neg short]
    have one : (1 : Int) ≤ ⌊remaining⌋ := by
      rw [Int.le_floor]
      push_cast
      linarith
    have one' : (1 : Rat) ≤ ⌊remaining⌋ := by exact_mod_cast one
    have next := Int.lt_floor_add_one remaining
    linarith

/-! ## Attempts -/

variable {budget : Rat}

/-- So many attempts fit into a budget as whole times that one of them fits into it. -/
theorem le_floor_iff (positive : 0 < (configured.cut budget).perAttempt) (a : Int) :
    a ≤ ⌊budget / (configured.cut budget).perAttempt⌋ ↔
      a * (configured.cut budget).perAttempt ≤ budget := by
  rw [Int.le_floor, le_div_iff₀ positive]

theorem one_le_floor (positive : 0 < (configured.cut budget).perAttempt)
    (fits : (configured.cut budget).perAttempt ≤ budget) :
    1 ≤ ⌊budget / (configured.cut budget).perAttempt⌋ := by
  rw [le_floor_iff positive, Int.cast_one, one_mul]
  exact fits

theorem total_cut_le (positive : 0 < (configured.cut budget).perAttempt)
    (fits : (configured.cut budget).perAttempt ≤ budget) :
    (configured.cut budget).total ≤ budget := by
  have as_many : (configured.cut budget).attempts ≤
      ⌊budget / (configured.cut budget).perAttempt⌋ :=
    max_le (one_le_floor positive fits) (min_le_right _ _)
  exact (le_floor_iff positive _).mp as_many

theorem attempts_cut_of_lt (positive : 0 < (configured.cut budget).perAttempt)
    (exceeds : budget < (configured.cut budget).perAttempt) :
    (configured.cut budget).attempts = 1 := by
  have none_fits : ⌊budget / (configured.cut budget).perAttempt⌋ < 1 := by
    rw [Int.floor_lt, Int.cast_one, div_lt_one positive]
    exact exceeds
  exact max_eq_left ((min_le_right _ _).trans none_fits.le)

theorem total_cut_of_lt (positive : 0 < (configured.cut budget).perAttempt)
    (exceeds : budget < (configured.cut budget).perAttempt) :
    (configured.cut budget).total = (configured.cut budget).perAttempt := by
  rw [total, attempts_cut_of_lt positive exceeds, Int.cast_one, one_mul]

theorem perAttempt_cut_le (configured : Limits Rat) (budget : Rat) :
    (configured.cut budget).perAttempt ≤ configured.perAttempt :=
  add_le_add (min_le_left _ _) (min_le_left _ _)

/-- Each timeout is cut to the budget by itself, so both together may take twice as long. -/
theorem perAttempt_cut_le_two_mul (configured : Limits Rat) (budget : Rat) :
    (configured.cut budget).perAttempt ≤ 2 * budget := by
  rw [two_mul]
  exact add_le_add (min_le_right _ _) (min_le_right _ _)

/-! ## Keeping to the deadline -/

theorem total_cut_le_iff (positive : 0 < (configured.cut (rounded remaining)).perAttempt)
    (enough : 1 / 10 ≤ remaining) :
    (configured.cut (rounded remaining)).total ≤ remaining ↔
      (configured.cut (rounded remaining)).perAttempt ≤ remaining := by
  have down := rounded_le enough
  rcases le_or_gt (configured.cut (rounded remaining)).perAttempt (rounded remaining) with
    fits | exceeds
  · exact iff_of_true ((total_cut_le positive fits).trans down) (fits.trans down)
  · rw [total_cut_of_lt positive exceeds]

theorem total_cut_le_two_mul (positive : 0 < (configured.cut (rounded remaining)).perAttempt)
    (enough : 1 / 10 ≤ remaining) :
    (configured.cut (rounded remaining)).total ≤ 2 * remaining := by
  have down := rounded_le enough
  rcases le_or_gt (configured.cut (rounded remaining)).perAttempt (rounded remaining) with
    fits | exceeds
  · have within := total_cut_le positive fits
    linarith
  · rw [total_cut_of_lt positive exceeds]
    have twice := perAttempt_cut_le_two_mul configured (rounded remaining)
    linarith

/-- With positive timeouts, the limits for a remaining time end within it exactly if one attempt
does, each timeout cut to the time rounded down. So they do if the configured timeouts fit one after
the other, and they do not if neither is shorter than the time rounded down. They never take more
than twice the time that is left. -/
theorem ends_in_time_iff (hconnect : 0 < configured.connect) (hread : 0 < configured.read)
    (enough : 1 / 10 ≤ remaining) :
    ∃ limits, configured.effective (some remaining) = .ok limits ∧
      (limits.total ≤ remaining ↔
        min configured.connect (rounded remaining) + min configured.read (rounded remaining) ≤
          remaining) ∧
      (configured.connect + configured.read ≤ remaining → limits.total ≤ remaining) ∧
      (rounded remaining ≤ configured.connect → rounded remaining ≤ configured.read →
        remaining < limits.total) ∧
      limits.total ≤ 2 * remaining := by
  have positive := perAttempt_cut_pos hconnect hread remaining
  have one_does := total_cut_le_iff positive enough
  refine ⟨configured.cut (rounded remaining), ?_, one_does, ?_, ?_,
    total_cut_le_two_mul positive enough⟩
  · rw [effective_eq, if_neg (ne_of_gt positive)]
  · intro fits
    exact one_does.mpr ((perAttempt_cut_le configured _).trans fits)
  · intro long_connect long_read
    -- each of the two timeouts takes the whole budget, which is more than half of the time
    have twice : (configured.cut (rounded remaining)).perAttempt = 2 * rounded remaining := by
      change min _ _ + min _ _ = _
      rw [min_eq_right long_connect, min_eq_right long_read, two_mul]
    have late : remaining < (configured.cut (rounded remaining)).perAttempt := by
      rw [twice]
      exact lt_two_mul_rounded enough
    exact lt_of_not_ge fun in_time => absurd (one_does.mp in_time) (not_le.mpr late)

/-- The limits that a section of the configuration gives, as exact numbers, if it is accepted and
both timeouts are finite. -/
def ofSection? (fields : Value) : Option (Limits Rat) :=
  (Options.ofSection fields).toOption.bind fun options => do
    let connect ← Decimal.toRat? options.limits.connect
    let read ← Decimal.toRat? options.limits.read
    return ⟨connect, read, options.limits.attempts⟩

def plainSection : Value :=
  .map [(.str "region", .str "us-east-1")]

/-- The limits of a plain section are five seconds, thirty seconds and three attempts. With 80.5
seconds left, two of them are made and end in time. -/
theorem plain_ends_in_time :
    ofSection? plainSection = some ⟨5, 30, 3⟩ ∧
      ∃ limits, effective ⟨5, 30, 3⟩ (some (161 / 2)) = .ok limits ∧ limits.attempts = 2 ∧
        limits.total ≤ 161 / 2 := by
  refine ⟨by decide +kernel, ?_⟩
  obtain ⟨limits, heffective, -, in_time, -, -⟩ :=
    @ends_in_time_iff ⟨5, 30, 3⟩ (161 / 2) (by decide +kernel) (by decide +kernel)
      (by decide +kernel)
  have two : (effective ⟨5, 30, 3⟩ (some (161 / 2 : Rat))).map attempts = .ok 2 := by
    decide +kernel
  rw [heffective] at two
  exact ⟨limits, heffective, Except.ok.inj two, in_time (by decide +kernel)⟩

/-- With ten seconds left, the one attempt that is made may take fifteen. -/
theorem plain_ends_late :
    ofSection? plainSection = some ⟨5, 30, 3⟩ ∧
      effective ⟨(5 : Rat), 30, 3⟩ (some 10) = .ok ⟨5, 10, 1⟩ ∧ ¬ total ⟨5, 10, 1⟩ ≤ 10 := by
  refine ⟨by decide +kernel, by decide +kernel, by decide +kernel⟩

/-! ## Keeping to the configured limits -/

theorem atMost_cut (configured : Limits Rat) (budget : Rat) :
    (configured.cut budget).AtMost { configured with attempts := max 1 configured.attempts } where
  connect_le := min_le_left _ _
  read_le := min_le_left _ _
  attempts_le := max_le_max_left 1 (min_le_left _ _)

theorem atMost_cut_iff (configured : Limits Rat) (budget : Rat) :
    (configured.cut budget).AtMost configured ↔ 1 ≤ configured.attempts := by
  constructor
  · intro tight
    exact (le_max_left 1 _).trans tight.attempts_le
  · intro attempts
    have tight := atMost_cut configured budget
    rwa [max_eq_right attempts] at tight

/-- Whatever the configured limits are, a deadline gives an operation limits that are nowhere looser
exactly if the timeouts, each cut to the time rounded down, do not cancel each other, and at least
one attempt is configured. Otherwise it meets a division by zero, or it makes one attempt with
timeouts that are no longer than the configured ones. -/
theorem effective_atMost_iff (configured : Limits Rat) (remaining : Rat) :
    ((∃ limits, configured.effective (some remaining) = .ok limits ∧ limits.AtMost configured) ↔
      min configured.connect (rounded remaining) + min configured.read (rounded remaining) ≠ 0 ∧
        1 ≤ configured.attempts) ∧
    (configured.effective (some remaining) = .error .divisionByZero ∨
      ∃ limits, configured.effective (some remaining) = .ok limits ∧
        limits.AtMost { configured with attempts := max 1 configured.attempts }) := by
  rw [effective_eq]
  by_cases cancelling : (configured.cut (rounded remaining)).perAttempt = 0
  · rw [if_pos cancelling]
    refine ⟨iff_of_false ?_ ?_, .inl rfl⟩
    · rintro ⟨limits, none_found, -⟩
      cases none_found
    · rintro ⟨apart, -⟩
      exact apart cancelling
  · rw [if_neg cancelling]
    refine ⟨?_, .inr ⟨_, rfl, atMost_cut configured _⟩⟩
    constructor
    · rintro ⟨limits, found, tight⟩
      obtain rfl := Except.ok.inj found
      exact ⟨cancelling, (atMost_cut_iff configured _).mp tight⟩
    · rintro ⟨-, attempts⟩
      exact ⟨_, rfl, (atMost_cut_iff configured _).mpr attempts⟩

/-- Sections are accepted with timeouts of zero, and with no attempts. With ten seconds left the
first meets a division by zero; with a hundred seconds left the second makes an attempt. -/
theorem deadline_breaks_and_loosens :
    (ofSection? (.map [(.str "region", .str "us-east-1"), (.str "connect_timeout", .int 0),
        (.str "read_timeout", .int 0)]) = some ⟨0, 0, 3⟩ ∧
      effective ⟨(0 : Rat), 0, 3⟩ (some 10) = .error .divisionByZero) ∧
    ofSection? (.map [(.str "region", .str "us-east-1"), (.str "max_attempts", .int 0)]) =
        some ⟨5, 30, 0⟩ ∧
      effective ⟨(5 : Rat), 30, 0⟩ (some 100) = .ok ⟨5, 30, 1⟩ := by
  refine ⟨⟨by decide +kernel, by decide +kernel⟩, by decide +kernel, by decide +kernel⟩

end SecretVault.Limits
