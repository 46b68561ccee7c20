import Mathlib.Data.List.Perm.Subperm
import SecretVault.Proofs.Limits

/-!
How many limits occur, in exact seconds. A time that holds all configured attempts leaves the
configured limits as they are, and below it there are few budgets: nine tenths of a second, and
whole seconds. So few limits occur besides the configured ones, whatever times are left.
-/

namespace SecretVault.Limits

variable {configured limits : Limits Rat} {remaining budget : Rat} {seconds : Nat}

theorem within?_eq_some_iff : configured.within? remaining = .ok (some limits) ↔
    (configured.cut (rounded remaining)).perAttempt ≠ 0 ∧
      configured.cut (rounded remaining) ≠ configured ∧
      configured.cut (rounded remaining) = limits := by
  rw [within?_eq]
  by_cases cancelling : (configured.cut (rounded remaining)).perAttempt = 0
  · simp [cancelling]
  · rw [if_neg cancelling]
    by_cases fits : configured.cut (rounded remaining) = configured <;> simp [cancelling, fits]

/-- Times that are rounded down to the same budget ask for the same limits. -/
theorem for?_congr {left left' : Option Rat} (configured : Limits Rat)
    (same : left.map rounded = left'.map rounded) :
    configured.for? left = configured.for? left' := by
  cases left with
  | none =>
      cases left' with
      | none => rfl
      | some time' => cases same
  | some time =>
      cases left' with
      | none => cases same
      | some time' => rw [for?, for?, within?_eq, within?_eq, Option.some.inj same]

/-- A budget that holds all configured attempts leaves the configured limits as they are. -/
theorem cut_eq_self (hconnect : 0 < configured.connect) (hread : 0 < configured.read)
    (hattempts : 1 ≤ configured.attempts) (enough : configured.total ≤ budget) :
    configured.cut budget = configured := by
  have positive : 0 < configured.perAttempt := add_pos hconnect hread
  have one_fits : configured.perAttempt ≤ budget := by
    refine le_trans ?_ enough
    exact le_mul_of_one_le_left (le_of_lt positive) (by exact_mod_cast hattempts)
  have connect_fits : configured.connect ≤ budget :=
    (le_add_of_nonneg_right (le_of_lt hread)).trans one_fits
  have read_fits : configured.read ≤ budget :=
    (le_add_of_nonneg_left (le_of_lt hconnect)).trans one_fits
  have all_fit : configured.attempts ≤ ⌊budget / configured.perAttempt⌋ := by
    rw [Int.le_floor, le_div_iff₀ positive]
    exact enough
  rw [perAttempt] at all_fit
  simp only [cut, min_eq_left connect_fits, min_eq_left read_fits, min_eq_left all_fit,
    max_eq_right hattempts]

def budgets (seconds : Nat) : List Rat :=
  (List.range 9).map (fun k => ((k + 1 : Nat) : Rat) / 10) ++
    (List.range (seconds - 1)).map fun k => ((k + 1 : Nat) : Rat)

theorem length_budgets (positive : 0 < seconds) : (budgets seconds).length = 8 + seconds := by
  simp only [budgets, List.length_append, List.length_map, List.length_range]
  omega

/-- Tenths are rounded down like seconds, but not below one of them. -/
theorem max_tenth_eq (tenths : Int) :
    max (1 / 10 : Rat) (tenths / 10) = (max 1 tenths : Int) / 10 := by
  rw [max_div_div_right (by norm_num), Int.cast_max, Int.cast_one]

theorem rounded_mem_budgets (short : rounded remaining < seconds) :
    rounded remaining ∈ budgets seconds := by
  unfold rounded at short ⊢
  by_cases below : remaining < 1
  · rw [if_pos below, max_tenth_eq]
    have tenths_lt : ⌊remaining * 10⌋ < 10 := by
      rw [Int.floor_lt]
      push_cast
      linarith
    obtain ⟨k, hk⟩ : ∃ k : Nat, max 1 ⌊remaining * 10⌋ = ((k + 1 : Nat) : Int) :=
      ⟨(max 1 ⌊remaining * 10⌋ - 1).toNat, by omega⟩
    apply List.mem_append_left
    refine List.mem_map.mpr ⟨k, List.mem_range.mpr (by omega), ?_⟩
    rw [hk, Int.cast_natCast]
  · rw [if_neg below] at short ⊢
    have one_le : 1 ≤ ⌊remaining⌋ := by
      rw [Int.le_floor]
      exact_mod_cast not_lt.mp below
    have floor_lt : ⌊remaining⌋ < seconds := by exact_mod_cast short
    obtain ⟨k, hk⟩ : ∃ k : Nat, ⌊remaining⌋ = ((k + 1 : Nat) : Int) :=
      ⟨(⌊remaining⌋ - 1).toNat, by omega⟩
    apply List.mem_append_right
    refine List.mem_map.mpr ⟨k, List.mem_range.mpr (by omega), ?_⟩
    rw [hk, Int.cast_natCast]

/-- With positive timeouts and at least one attempt, the limits that occur besides the configured
ones are at most eight more than the seconds that all attempts can take. -/
theorem length_le_of_within {occurring : List (Limits Rat)} (hconnect : 0 < configured.connect)
    (hread : 0 < configured.read) (hattempts : 1 ≤ configured.attempts)
    (distinct : occurring.Nodup) (within : ∀ limits ∈ occurring, ∃ remaining,
      configured.within? remaining = .ok (some limits)) :
    occurring.length ≤ 8 + ⌈configured.total⌉₊ := by
  have positive : 0 < configured.total :=
    mul_pos (by exact_mod_cast hattempts) (add_pos hconnect hread)
  have among : occurring ⊆ (budgets ⌈configured.total⌉₊).map configured.cut := by
    intro limits hlimits
    obtain ⟨remaining, hremaining⟩ := within limits hlimits
    obtain ⟨-, differs, rfl⟩ := within?_eq_some_iff.mp hremaining
    have short : rounded remaining < configured.total :=
      lt_of_not_ge fun enough => differs (cut_eq_self hconnect hread hattempts enough)
    exact List.mem_map_of_mem (rounded_mem_budgets (short.trans_le (Nat.le_ceil _)))
  calc occurring.length
      ≤ ((budgets ⌈configured.total⌉₊).map configured.cut).length :=
        (List.subperm_of_subset distinct among).length_le
    _ = 8 + ⌈configured.total⌉₊ := by
        rw [List.length_map, length_budgets (Nat.ceil_pos.mpr positive)]

end SecretVault.Limits
