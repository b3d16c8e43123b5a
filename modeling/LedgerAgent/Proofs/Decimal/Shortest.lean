/-
Module: LedgerAgent.Proofs.Decimal.Shortest
Purpose: The fewest digits that read back as a floating-point number: that seventeen do, how
  far they are from what was rounded to the number, and that fifteen come through unchanged.
Main exports: Decimal.Scientific.value, Decimal.readsBack_shortest, Decimal.shortest_of_readsBack,
  Decimal.Binary64.sub_le_of_readsBack
-/
import LedgerAgent.Decimal.Shortest
import LedgerAgent.Proofs.Decimal.Rounding

namespace LedgerAgent.Decimal

open Binary64

def Scientific.value (d : Scientific) : ℚ :=
  d.digits * 10 ^ d.exponent

/-- Zeros at the end are no part of a decimal's value. -/
theorem Scientific.value_strip (fuel : Nat) (d : Scientific) : (d.strip fuel).value = d.value := by
  induction fuel generalizing d with
  | zero => rfl
  | succ fuel inductionHypothesis =>
      rw [strip]
      split
      · rename_i round
        have whole : d.digits / 10 * 10 = d.digits := by omega
        have cast : (d.digits : ℚ) = (d.digits / 10 : Nat) * 10 := by exact_mod_cast whole.symm
        rw [inductionHypothesis, value, value, cast, zpow_add_one₀ (by norm_num)]
        ring
      · rfl

/-! ### The interval of a number -/

/-- An interval holds what reads back as a number. -/
structure Interval.Describes (i : Interval) (x : Binary64) : Prop where
  scaled : 0 < i.den
  value : (i.value : ℚ) / i.den = x.magnitude
  low : (i.low : ℚ) / i.den = x.magnitude - x.gapBelow
  high : (i.high : ℚ) / i.den = x.magnitude + x.gapAbove
  closed : i.closed = decide (x.mantissa % 2 = 0)

/-- A quarter of a number's unit, as a quotient of natural numbers. -/
theorem quarter_unit_eq (x : Binary64) :
    ((if 0 ≤ x.exponent then Nat.pow 2 x.exponent.toNat else 1 : Nat) : ℚ) /
      (4 * (if 0 ≤ x.exponent then 1 else Nat.pow 2 (-x.exponent).toNat) : Nat) =
        2 ^ x.exponent / 4 := by
  split
  · rename_i nonneg
    obtain ⟨n, same⟩ := Int.eq_ofNat_of_zero_le nonneg
    simp [same]
  · rename_i negative
    obtain ⟨n, same⟩ : ∃ n : Nat, x.exponent = -(n : Int) := ⟨(-x.exponent).toNat, by omega⟩
    simp [same]
    ring

/-- The interval that is computed for a number holds what reads back as it. -/
theorem Interval.describes_of {x : Binary64} (positive : 0 < x.mantissa) :
    (Interval.of x).Describes x := by
  have part (n : Nat) :
      ((n * (if 0 ≤ x.exponent then Nat.pow 2 x.exponent.toNat else 1) : Nat) : ℚ) /
          (4 * (if 0 ≤ x.exponent then 1 else Nat.pow 2 (-x.exponent).toNat) : Nat) =
        n * (2 ^ x.exponent / 4) := by
    rw [Nat.cast_mul, mul_div_assoc, quarter_unit_eq]
  refine ⟨?_, ?_, ?_, ?_, rfl⟩
  · rw [Interval.of]
    dsimp only
    split
    · exact Nat.zero_lt_succ _
    · exact Nat.mul_pos (by decide) (Nat.pow_pos (by decide))
  · rw [Interval.of]
    dsimp only
    rw [part, magnitude]
    push_cast
    ring
  · rw [Interval.of]
    dsimp only
    rw [part, magnitude, gapBelow]
    split
    · rename_i power
      rw [if_pos (show _ = 2 ^ 52 ∧ _ from power), Nat.cast_sub (by omega)]
      push_cast
      ring
    · rename_i other
      rw [if_neg (show ¬(_ = 2 ^ 52 ∧ _) from other), Nat.cast_sub (by omega)]
      push_cast
      ring
  · rw [Interval.of]
    dsimp only
    rw [part, magnitude, gapAbove]
    push_cast
    ring

/-- A positive number lies between the powers of ten that the length of its digits gives. -/
theorem toDigits_length_bounds {n : Nat} (positive : 0 < n) :
    10 ^ ((Nat.toDigits 10 n).length - 1) ≤ n ∧ n < 10 ^ (Nat.toDigits 10 n).length := by
  have some_digit := Nat.length_toDigits_pos (b := 10) (n := n)
  refine ⟨?_, (Nat.length_toDigits_le_iff (by decide) some_digit).1 (Nat.le_refl _)⟩
  by_cases single : (Nat.toDigits 10 n).length = 1
  · rw [single]
    exact positive
  · by_contra less
    have := (Nat.length_toDigits_le_iff (b := 10) (n := n) (by decide)
      (k := (Nat.toDigits 10 n).length - 1) (by omega)).2 (by omega)
    omega

section Neighbours

variable {i : Interval} {x : Binary64} (describes : i.Describes x)
include describes

/-- A decimal is found in the interval exactly if it reads back as the number. -/
theorem Interval.contains_iff {n : Nat} {e : Int} :
    i.contains n e = true ↔ x.ReadsBack (n * 10 ^ e) := by
  obtain ⟨positive, power⟩ := powerOfTen_eq e
  have den_pos : (0 : ℚ) < i.den := by exact_mod_cast describes.scaled
  have ten_pos : (0 : ℚ) < (powerOfTen e).2 := by exact_mod_cast positive
  -- Both sides are compared over the common denominator.
  have point : (n : ℚ) * 10 ^ e = n * (powerOfTen e).1 * i.den / ((powerOfTen e).2 * i.den) := by
    rw [← power]
    field_simp
  have cross (a : Nat) : (a : ℚ) / i.den = a * (powerOfTen e).2 / ((powerOfTen e).2 * i.den) := by
    field_simp
  have den_pos' : (0 : ℚ) < (powerOfTen e).2 * i.den := by positivity
  rw [contains, ReadsBack, ← describes.low, ← describes.high, ← describes.closed, point, cross,
    cross]
  dsimp only
  generalize (powerOfTen e).1 = num at *
  generalize (powerOfTen e).2 = den at *
  constructor
  · intro found
    split at found
    · rename_i closed
      simp only [Bool.and_eq_true, decide_eq_true_eq] at found
      refine ⟨?_, ?_, fun opened => by simp [closed] at opened⟩
      · exact div_le_div_of_nonneg_right (by exact_mod_cast found.1) den_pos'.le
      · exact div_le_div_of_nonneg_right (by exact_mod_cast found.2) den_pos'.le
    · simp only [Bool.and_eq_true, decide_eq_true_eq] at found
      refine .of_lt ?_ ?_
      · exact div_lt_div_of_pos_right (by exact_mod_cast found.1) den_pos'
      · exact div_lt_div_of_pos_right (by exact_mod_cast found.2) den_pos'
  · intro within
    split
    · simp only [Bool.and_eq_true, decide_eq_true_eq]
      have above := (div_le_div_iff_of_pos_right den_pos').1 within.above
      have below := (div_le_div_iff_of_pos_right den_pos').1 within.below
      exact ⟨by exact_mod_cast above, by exact_mod_cast below⟩
    · rename_i opened
      simp only [Bool.and_eq_true, decide_eq_true_eq]
      obtain ⟨above, below⟩ := within.inside (by simpa using opened)
      rw [div_lt_div_iff_of_pos_right den_pos'] at above below
      exact ⟨by exact_mod_cast above, by exact_mod_cast below⟩

theorem Interval.value_pos (positive : 0 < x.mantissa) : 0 < i.value := by
  have magnitude_pos : 0 < x.magnitude :=
    mul_pos (by exact_mod_cast positive) x.unit_pos
  rw [← describes.value] at magnitude_pos
  by_contra nothing
  have : i.value = 0 := by omega
  simp [this] at magnitude_pos

/-- The value's decimal form begins with its leading power of ten. -/
theorem Interval.leading_spec (positive : 0 < x.mantissa) :
    (10 : ℚ) ^ i.leading ≤ x.magnitude ∧ x.magnitude ≤ 10 ^ (i.leading + 1) := by
  have value_pos := value_pos describes positive
  have den_pos : (0 : ℚ) < i.den := by exact_mod_cast describes.scaled
  rw [leading, ← describes.value]
  split
  · rename_i large
    have whole_pos : 0 < i.value / i.den := Nat.div_pos large describes.scaled
    obtain ⟨low, high⟩ := toDigits_length_bounds whole_pos
    have some_digit := Nat.length_toDigits_pos (b := 10) (n := i.value / i.den)
    have exponent : ((Nat.toDigits 10 (i.value / i.den)).length : Int) - 1 =
        ((Nat.toDigits 10 (i.value / i.den)).length - 1 : Nat) := by omega
    rw [sub_add_cancel, exponent, zpow_natCast, zpow_natCast, le_div_iff₀ den_pos,
      div_le_iff₀ den_pos]
    have floor_low := (Nat.le_div_iff_mul_le describes.scaled).1 low
    have floor_high := Nat.le_of_lt ((Nat.div_lt_iff_lt_mul describes.scaled).1 high)
    exact ⟨by exact_mod_cast floor_low, by exact_mod_cast floor_high⟩
  · rename_i small
    have whole_pos : 0 < i.den / i.value := Nat.div_pos (by omega) value_pos
    obtain ⟨low, high⟩ := toDigits_length_bounds whole_pos
    have some_digit := Nat.length_toDigits_pos (b := 10) (n := i.den / i.value)
    have exponent : -((Nat.toDigits 10 (i.den / i.value)).length : Int) + 1 =
        -((Nat.toDigits 10 (i.den / i.value)).length - 1 : Nat) := by omega
    have floor_low := (Nat.le_div_iff_mul_le value_pos).1 low
    have floor_high := Nat.le_of_lt ((Nat.div_lt_iff_lt_mul value_pos).1 high)
    rw [exponent, zpow_neg, zpow_neg, zpow_natCast, zpow_natCast, inv_eq_one_div, inv_eq_one_div,
      le_div_iff₀ den_pos, div_le_iff₀ den_pos, div_mul_eq_mul_div, one_mul, div_mul_eq_mul_div,
      one_mul, div_le_iff₀ (by positivity), le_div_iff₀ (by positivity)]
    rw [mul_comm] at floor_low floor_high
    constructor
    · rw [mul_comm]
      exact_mod_cast (mul_comm i.value _ ▸ floor_high)
    · rw [mul_comm]
      exact_mod_cast (mul_comm i.value _ ▸ floor_low)

/-- The whole number of steps below the value, which is less than one step farther up. -/
theorem Interval.below_spec (e : Int) :
    ((i.value * (powerOfTen e).2 / (i.den * (powerOfTen e).1) : Nat) : ℚ) * 10 ^ e ≤ x.magnitude ∧
      x.magnitude <
        ((i.value * (powerOfTen e).2 / (i.den * (powerOfTen e).1) + 1 : Nat) : ℚ) * 10 ^ e := by
  obtain ⟨positive, power⟩ := powerOfTen_eq e
  have den_pos : (0 : ℚ) < i.den := by exact_mod_cast describes.scaled
  have ten_pos : (0 : ℚ) < (powerOfTen e).2 := by exact_mod_cast positive
  have step_pos : (0 : ℚ) < 10 ^ e := by positivity
  have num_pos : 0 < (powerOfTen e).1 := by
    by_contra nothing
    have : (powerOfTen e).1 = 0 := by omega
    rw [← power, this] at step_pos
    simp at step_pos
  have unit_pos : 0 < i.den * (powerOfTen e).1 := Nat.mul_pos describes.scaled num_pos
  have unit_pos' : (0 : ℚ) < i.den * (powerOfTen e).1 := by exact_mod_cast unit_pos
  have steps : x.magnitude =
      (i.value * (powerOfTen e).2 : Nat) / (i.den * (powerOfTen e).1 : Nat) * 10 ^ e := by
    rw [← describes.value, ← power]
    push_cast
    have : ((powerOfTen e).1 : ℚ) ≠ 0 := by exact_mod_cast num_pos.ne'
    field_simp
  rw [steps]
  generalize i.value * (powerOfTen e).2 = a
  generalize i.den * (powerOfTen e).1 = b at *
  constructor
  · refine mul_le_mul_of_nonneg_right ?_ step_pos.le
    rw [le_div_iff₀ (by exact_mod_cast unit_pos)]
    exact_mod_cast Nat.div_mul_le_self a b
  · refine mul_lt_mul_of_pos_right ?_ step_pos
    rw [div_lt_iff₀ (by exact_mod_cast unit_pos)]
    exact_mod_cast Nat.lt_of_lt_of_le (Nat.lt_succ_self _) (Nat.succ_le_of_lt
      ((Nat.div_lt_iff_lt_mul unit_pos).1 (Nat.lt_succ_self (a / b))))

/-- A neighbour that is found has as many digits as were wanted, and reads back as the number. -/
theorem Interval.readsBack_of_neighbour? {count : Nat} {d : Scientific}
    (found : i.neighbour? count = some d) :
    d.exponent = i.leading + 1 - count ∧ x.ReadsBack d.value := by
  rw [neighbour?] at found
  dsimp only at found
  split at found
  · rename_i below _
    cases found
    exact ⟨rfl, (contains_iff describes).1 below⟩
  · rename_i _ above
    cases found
    exact ⟨rfl, (contains_iff describes).1 above⟩
  · cases found
  · rename_i below above
    split at found
    · cases found
      exact ⟨rfl, (contains_iff describes).1 below⟩
    · cases found
      exact ⟨rfl, (contains_iff describes).1 above⟩

/-- If any multiple of the step reads back, a neighbour of the value does. -/
theorem Interval.exists_neighbour {count n : Nat}
    (reads : x.ReadsBack (n * 10 ^ (i.leading + 1 - count))) :
    ∃ d, i.neighbour? count = some d := by
  obtain ⟨below, above⟩ := below_spec describes (i.leading + 1 - count)
  have step_pos : (0 : ℚ) < 10 ^ (i.leading + 1 - (count : Int)) := by positivity
  rw [neighbour?]
  dsimp only
  generalize i.value * _ / (i.den * _) = floor at *
  -- The value lies between the two neighbours, and one of them between it and the multiple.
  have either : i.contains floor (i.leading + 1 - count) = true ∨
      i.contains (floor + 1) (i.leading + 1 - count) = true := by
    rw [contains_iff describes, contains_iff describes]
    by_cases low : n ≤ floor
    · left
      refine reads.between x.readsBack_magnitude ?_ below
      exact mul_le_mul_of_nonneg_right (by exact_mod_cast low) step_pos.le
    · right
      refine x.readsBack_magnitude.between reads above.le ?_
      exact mul_le_mul_of_nonneg_right (by exact_mod_cast Nat.lt_of_not_le low) step_pos.le
  split
  · exact ⟨_, rfl⟩
  · exact ⟨_, rfl⟩
  · rename_i notBelow notAbove
    simp [notBelow, notAbove] at either
  · split
    · exact ⟨_, rfl⟩
    · exact ⟨_, rfl⟩

end Neighbours

/-! ### Seventeen digits -/

/-- Steps of seventeen digits are finer than the interval of a number on one of its sides. -/
theorem exists_readsBack_seventeen {x : Binary64} (normalized : x.Normalized)
    (positive : 0 < x.mantissa) :
    ∃ n : Nat, x.ReadsBack (n * 10 ^ ((Interval.of x).leading + 1 - (17 : Nat))) := by
  have describes := Interval.describes_of positive
  obtain ⟨leads, -⟩ := Interval.leading_spec describes positive
  obtain ⟨below, above⟩ := Interval.below_spec describes ((Interval.of x).leading + 1 - (17 : Nat))
  have unit_pos := x.unit_pos
  have sixteen : (10 : ℚ) ^ (Interval.of x).leading =
      10 ^ 16 * 10 ^ ((Interval.of x).leading + 1 - (17 : Nat)) := by
    rw [← zpow_natCast, ← zpow_add₀ (by norm_num)]
    congr 1
    push_cast
    ring
  rw [sixteen] at leads
  have step_pos : (0 : ℚ) < 10 ^ ((Interval.of x).leading + 1 - ((17 : Nat) : Int)) := by positivity
  clear sixteen
  generalize (10 : ℚ) ^ ((Interval.of x).leading + 1 - ((17 : Nat) : Int)) = step at *
  generalize (Interval.of x).value * _ / ((Interval.of x).den * _) = floor at *
  rw [magnitude] at leads below above
  push_cast at above
  have short : (x.mantissa : ℚ) ≤ 2 ^ 53 := by exact_mod_cast normalized.short.le
  have size := mul_le_mul_of_nonneg_right short unit_pos.le
  by_cases power : x.mantissa = 2 ^ 52 ∧ x.exponent ≠ minExponent
  · -- Above a power of two there is room for a whole step.
    refine ⟨floor + 1, .of_lt ?_ ?_⟩
    · have := x.gapBelow_pos
      rw [magnitude]
      push_cast
      linarith
    · rw [power.1] at leads below above
      rw [magnitude, gapAbove, power.1]
      push_cast at *
      linarith
  · have gap : x.gapBelow = 2 ^ x.exponent / 2 := by rw [gapBelow, if_neg power]
    by_cases near : (x.mantissa : ℚ) * 2 ^ x.exponent - floor * step < step / 2
    · refine ⟨floor, .of_lt ?_ ?_⟩
      · rw [magnitude, gap]
        linarith
      · rw [magnitude, gapAbove]
        linarith
    · refine ⟨floor + 1, .of_lt ?_ ?_⟩
      · rw [magnitude, gap]
        push_cast
        linarith
      · rw [magnitude, gapAbove]
        push_cast
        linarith

/-- The shortest digits are the neighbour at the least count that has one. -/
theorem exists_shortest {x : Binary64} (normalized : x.Normalized) (positive : 0 < x.mantissa) :
    ∃ count d, (Interval.of x).neighbour? (count + 1) = some d ∧ (shortest x).value = d.value ∧
      ∀ fewer < count, (Interval.of x).neighbour? (fewer + 1) = none := by
  have describes := Interval.describes_of positive
  obtain ⟨n, reads⟩ := exists_readsBack_seventeen normalized positive
  obtain ⟨last, found⟩ := Interval.exists_neighbour describes reads
  rw [shortest, if_neg (Nat.ne_of_gt positive)]
  dsimp only
  split
  · rename_i d first
    obtain ⟨before, count, after, range, here, none_before⟩ := List.findSome?_eq_some_iff.1 first
    refine ⟨count, d, here, d.value_strip 20, fun fewer less => ?_⟩
    -- What stands before a number in a range is all that is smaller.
    have place : before.length = count := by
      have there : (List.range 17)[before.length]? = some count := by
        rw [range, List.getElem?_append_right (Nat.le_refl _), Nat.sub_self,
          List.getElem?_cons_zero]
      obtain ⟨_, same⟩ := List.getElem?_eq_some_iff.1 there
      rwa [List.getElem_range] at same
    refine none_before fewer (List.mem_of_getElem? (i := fewer) ?_)
    have short : fewer < (List.range 17).length := by
      rw [range, List.length_append]
      omega
    have inFront : (before ++ count :: after)[fewer]? = before[fewer]? :=
      List.getElem?_append_left (by omega)
    rw [← inFront, ← range, List.getElem?_eq_getElem short, List.getElem_range]
  · rename_i nothing
    rw [List.findSome?_eq_none_iff] at nothing
    have := nothing 16 (by decide)
    simp [found] at this

/-- The shortest digits read back as the number. -/
theorem readsBack_shortest {x : Binary64} (normalized : x.Normalized) :
    x.ReadsBack (shortest x).value := by
  by_cases nothing : x.mantissa = 0
  · have zero : x.magnitude = 0 := by rw [magnitude, nothing, Nat.cast_zero, zero_mul]
    have none : (shortest x).value = 0 := by
      rw [shortest, if_pos nothing, Scientific.value, Nat.cast_zero, zero_mul]
    rw [none, ← zero]
    exact x.readsBack_magnitude
  · have positive := Nat.pos_of_ne_zero nothing
    obtain ⟨count, d, found, same, -⟩ := exists_shortest normalized positive
    rw [same]
    exact (Interval.readsBack_of_neighbour? (Interval.describes_of positive) found).2

/-! ### How far apart what reads back may lie -/

/-- What reads back as one number differs by a unit of it at most. -/
theorem Binary64.sub_le_unit {x : Binary64} {v w : ℚ} (reads : x.ReadsBack v)
    (reads' : x.ReadsBack w) : |v - w| ≤ 2 ^ x.exponent := by
  refine (reads.sub_le reads').trans ?_
  have := x.gapBelow_le
  rw [gapAbove]
  linarith

/-- What reads back as one number lies within a unit of the last of 53 bits, or within the
least unit. -/
theorem Binary64.sub_le_of_readsBack {x : Binary64} {v w : ℚ} (normalized : x.Normalized)
    (reads : x.ReadsBack v) (reads' : x.ReadsBack w) :
    |w - v| ≤ max (v / 2 ^ 52) (2 ^ minExponent) := by
  by_cases least : x.exponent = minExponent
  · exact le_max_of_le_right (least ▸ sub_le_unit reads' reads)
  · refine le_max_of_le_left ?_
    have full := normalized.full.resolve_right least
    have unit_pos := x.unit_pos
    have low := reads.above
    rw [le_div_iff₀ (by norm_num)]
    by_cases power : x.mantissa = 2 ^ 52
    · have apart := reads'.sub_le reads
      rw [gapBelow, if_pos ⟨power, least⟩, magnitude, power] at low apart
      rw [gapAbove] at apart
      push_cast at low apart
      linarith
    · have apart := sub_le_unit reads' reads
      rw [magnitude, gapBelow, if_neg (fun both => power both.1)] at low
      have more : ((2 ^ 52 + 1 : Nat) : ℚ) ≤ x.mantissa := by
        exact_mod_cast Nat.lt_of_le_of_ne full (Ne.symm power)
      have size := mul_le_mul_of_nonneg_right more unit_pos.le
      push_cast at size
      linarith

/-- What is at least the least number with all bits reads back as such a number. -/
theorem Binary64.full_of_readsBack {x : Binary64} {v : ℚ} (normalized : x.Normalized)
    (reads : x.ReadsBack v) (large : 2 ^ 52 * 2 ^ minExponent ≤ v) : 2 ^ 52 ≤ x.mantissa := by
  by_contra short
  have least := normalized.full.resolve_left short
  have unit_pos := x.unit_pos
  have high := reads.below
  have less : (x.mantissa : ℚ) ≤ (2 ^ 52 - 1 : Nat) := by
    exact_mod_cast (by omega : x.mantissa ≤ 2 ^ 52 - 1)
  have size := mul_le_mul_of_nonneg_right less unit_pos.le
  rw [magnitude, gapAbove] at high
  rw [← least] at large
  push_cast at size
  linarith

/-! ### Fifteen digits -/

/-- A decimal is a multiple of every smaller power of ten. -/
theorem mul_pow_of_le {g k : Int} (n : Nat) (finer : g ≤ k) :
    (n : ℚ) * 10 ^ k = (n * 10 ^ (k - g).toNat : Nat) * 10 ^ g := by
  have split : k = ((k - g).toNat : Int) + g := by omega
  conv_lhs => rw [split, zpow_add₀ (by norm_num), zpow_natCast]
  push_cast
  ring

/-- Multiples of a step that lie less than a step apart are the same. -/
theorem eq_of_sub_lt_step {g k k' : Int} {n m : Nat} (low : g ≤ k) (low' : g ≤ k')
    (near : |(n : ℚ) * 10 ^ k - m * 10 ^ k'| < 10 ^ g) : (n : ℚ) * 10 ^ k = m * 10 ^ k' := by
  have step_pos : (0 : ℚ) < 10 ^ g := by positivity
  rw [mul_pow_of_le n low, mul_pow_of_le m low'] at near ⊢
  generalize n * 10 ^ (k - g).toNat = a at *
  generalize m * 10 ^ (k' - g).toNat = b at *
  rw [← sub_mul, abs_mul, abs_of_pos step_pos, mul_lt_iff_lt_one_left step_pos] at near
  have same : |(a : Int) - b| < 1 := by exact_mod_cast near
  rw [Int.abs_lt_one_iff, sub_eq_zero] at same
  rw [Int.ofNat_inj.1 same]

/-- What fifteen digits suffice for is what the shortest digits of its number denote. -/
theorem shortest_of_readsBack {x : Binary64} {n : Nat} {k : Int} (normalized : x.Normalized)
    (full : 2 ^ 52 ≤ x.mantissa) (short : n < 10 ^ 15) (reads : x.ReadsBack (n * 10 ^ k)) :
    (shortest x).value = n * 10 ^ k := by
  have positive : 0 < x.mantissa := Nat.lt_of_lt_of_le (by decide) full
  have describes := Interval.describes_of positive
  obtain ⟨count, d, found, same, first⟩ := exists_shortest normalized positive
  obtain ⟨exponent, reads'⟩ := Interval.readsBack_of_neighbour? describes found
  have unit_pos := x.unit_pos
  have full' : ((2 ^ 52 : Nat) : ℚ) ≤ x.mantissa := by exact_mod_cast full
  have size := mul_le_mul_of_nonneg_right full' unit_pos.le
  have near := sub_le_unit reads' reads
  rw [same, Scientific.value] at *
  by_cases coarse : k ≤ d.exponent
  · -- A step of the digits is larger than the interval, since fifteen digits reach the number.
    have step_pos : (0 : ℚ) < 10 ^ k := by positivity
    have digits : (n : ℚ) ≤ 10 ^ 15 := by exact_mod_cast short.le
    have reach := mul_le_mul_of_nonneg_right digits step_pos.le
    have low := reads.above
    have gap := x.gapBelow_le
    rw [magnitude] at low
    push_cast at size
    exact eq_of_sub_lt_step coarse (Int.le_refl k) (near.trans_lt (by linarith))
  · cases count with
    | zero =>
        -- A single digit is as coarse as the number is large.
        obtain ⟨-, high⟩ := Interval.leading_spec describes positive
        have leading : d.exponent = (Interval.of x).leading := by omega
        rw [zpow_add_one₀ (by norm_num), ← leading, magnitude] at high
        push_cast at size
        exact eq_of_sub_lt_step (Int.le_refl _) (by omega) (near.trans_lt (by linarith))
    | succ count =>
        -- With one digit less there would have been a neighbour.
        have finer : (Interval.of x).leading + 1 - (count + 1 : Nat) ≤ k := by omega
        rw [mul_pow_of_le n finer] at reads
        obtain ⟨fewer, found'⟩ := Interval.exists_neighbour describes reads
        rw [first count (Nat.lt_succ_self count)] at found'
        cases found'

end LedgerAgent.Decimal
