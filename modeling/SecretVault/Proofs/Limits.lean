import Mathlib.Data.Rat.Floor
import SecretVault.Limits

/-!
Limits for a remaining time. Where they can be computed they leave at least one attempt. With exact
seconds they are a plain function of the time rounded down, and they can be computed unless the two
timeouts cancel each other, so whenever the configured timeouts are positive.
-/

namespace SecretVault

/-! ## Exact seconds -/

namespace Seconds

theorem least_eq_min (a b : Rat) : least a b = min a b := by
  unfold least
  rcases lt_or_ge b a with h | h
  · rw [if_pos h, min_eq_right (le_of_lt h)]
  · rw [if_neg (not_lt.mpr h), min_eq_left h]

theorem greatest_eq_max (a b : Rat) : greatest a b = max a b := by
  unfold greatest
  rcases lt_or_ge a b with h | h
  · rw [if_pos h, max_eq_right (le_of_lt h)]
  · rw [if_neg (not_lt.mpr h), max_eq_left h]

end Seconds

namespace Limits

theorem attempts_of_for? {T : Type} [Seconds T] {configured limits : Limits T}
    {remaining : Option T} (h : configured.for? remaining = .ok (some limits)) :
    1 ≤ limits.attempts := by
  cases remaining with
  | none => cases h
  | some left =>
      simp only [for?, within?, bind, Except.bind] at h
      cases hbudget : budget left with
      | error f =>
          rw [hbudget] at h
          cases h
      | ok budget =>
          simp only [hbudget, fitted, bind, Except.bind] at h
          cases htimes : Seconds.wholeTimes budget
              (Seconds.least configured.connect budget + Seconds.least configured.read budget) with
          | error f =>
              rw [htimes] at h
              cases h
          | ok times =>
              simp only [htimes, pure, Except.pure] at h
              split at h
              · cases h
              · cases h
                exact Int.le_max_left 1 _

/-- The longest that one attempt can take: both of its timeouts. -/
def perAttempt (limits : Limits Rat) : Rat :=
  limits.connect + limits.read

/-- The longest that all attempts can take, one after the other. -/
def total (limits : Limits Rat) : Rat :=
  limits.attempts * limits.perAttempt

def rounded (remaining : Rat) : Rat :=
  if remaining < 1 then max (1 / 10) (⌊remaining * 10⌋ / 10) else ⌊remaining⌋

/-- What a budget leaves of the configured limits. -/
def cut (configured : Limits Rat) (budget : Rat) : Limits Rat where
  connect := min configured.connect budget
  read := min configured.read budget
  attempts := max 1 (min configured.attempts
    ⌊budget / (min configured.connect budget + min configured.read budget)⌋)

theorem budget_eq (remaining : Rat) : budget remaining = .ok (rounded remaining) := by
  unfold rounded
  by_cases hshort : remaining < 1
  · rw [if_pos hshort, ← Seconds.greatest_eq_max]
    exact if_pos hshort
  · rw [if_neg hshort]
    exact if_neg hshort

theorem same_iff {a b : Limits Rat} : a.same b = true ↔ a = b := by
  obtain ⟨connect, read, attempts⟩ := a
  obtain ⟨connect', read', attempts'⟩ := b
  simp only [same, Bool.and_eq_true, beq_iff_eq, mk.injEq, and_assoc]

instance : DecidableEq (Limits Rat) :=
  fun a b => decidable_of_iff (a.same b = true) same_iff

theorem fitted_eq (configured : Limits Rat) (b : Rat) :
    configured.fitted b =
      if (configured.cut b).perAttempt = 0 then .error .divisionByZero
      else .ok (configured.cut b) := by
  have times : Seconds.wholeTimes b (min configured.connect b + min configured.read b) =
      if (configured.cut b).perAttempt = 0 then .error .divisionByZero
      else .ok ⌊b / (min configured.connect b + min configured.read b)⌋ := rfl
  simp only [fitted, Seconds.least_eq_min, times, bind, Except.bind]
  by_cases cancelling : (configured.cut b).perAttempt = 0
  · rw [if_pos cancelling, if_pos cancelling]
  · rw [if_neg cancelling, if_neg cancelling]
    rfl

theorem within?_eq (configured : Limits Rat) (remaining : Rat) :
    configured.within? remaining =
      if (configured.cut (rounded remaining)).perAttempt = 0 then .error .divisionByZero
      else .ok (if configured.cut (rounded remaining) = configured then none
        else some (configured.cut (rounded remaining))) := by
  simp only [within?, budget_eq, fitted_eq, same_iff, bind, Except.bind]
  by_cases cancelling : (configured.cut (rounded remaining)).perAttempt = 0
  · rw [if_pos cancelling, if_pos cancelling]
  · rw [if_neg cancelling, if_neg cancelling]
    rfl

/-! ## Positive timeouts -/

theorem rounded_pos (remaining : Rat) : 0 < rounded remaining := by
  unfold rounded
  by_cases hshort : remaining < 1
  · rw [if_pos hshort]
    exact lt_max_of_lt_left (by norm_num)
  · rw [if_neg hshort]
    have whole : (1 : Int) ≤ ⌊remaining⌋ := by
      rw [Int.le_floor]
      exact_mod_cast not_lt.mp hshort
    exact_mod_cast lt_of_lt_of_le Int.one_pos whole

theorem perAttempt_cut_pos {configured : Limits Rat} (hconnect : 0 < configured.connect)
    (hread : 0 < configured.read) (remaining : Rat) :
    0 < (configured.cut (rounded remaining)).perAttempt :=
  add_pos (lt_min hconnect (rounded_pos remaining)) (lt_min hread (rounded_pos remaining))

/-- With positive timeouts, limits for every remaining time can be computed. -/
theorem for?_positive {configured : Limits Rat} (hconnect : 0 < configured.connect)
    (hread : 0 < configured.read) (remaining : Option Rat) :
    ∃ limits?, configured.for? remaining = .ok limits? := by
  cases remaining with
  | none => exact ⟨none, rfl⟩
  | some left =>
      rw [for?, within?_eq, if_neg (ne_of_gt (perAttempt_cut_pos hconnect hread left))]
      exact ⟨_, rfl⟩

end Limits

end SecretVault
