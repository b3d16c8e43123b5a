/-
Module: LedgerAgent.Proofs.Decimal.Rounding
Purpose: Binary floating-point numbers as rationals, the interval of rationals that round to
  each, and that the number nearest to a decimal is found.
Main exports: Decimal.Within, Decimal.Binary64.magnitude, Decimal.Binary64.Normalized,
  Decimal.Binary64.ReadsBack, Decimal.Binary64.readsBack_of_ofDecimal?
-/
import LedgerAgent.Decimal.Binary64
import LedgerAgent.Proofs.Numeral
import Mathlib.Algebra.Order.Field.Power
import Mathlib.Data.Rat.Cast.Order
import Mathlib.Tactic.FieldSimp
import Mathlib.Tactic.Linarith
import Mathlib.Tactic.NormNum
import Mathlib.Tactic.Positivity
import Mathlib.Tactic.Ring

namespace LedgerAgent.Decimal

/-- Between two ends, which count where the interval is closed. -/
structure Within (closed : Bool) (low high v : ℚ) : Prop where
  above : low ≤ v
  below : v ≤ high
  inside : closed = false → low < v ∧ v < high

namespace Within

variable {closed : Bool} {low high v w m : ℚ}

theorem of_lt (above : low < v) (below : v < high) : Within closed low high v :=
  ⟨above.le, below.le, fun _ => ⟨above, below⟩⟩

/-- An interval holds all that lies between two points of it. -/
theorem between (within : Within closed low high v) (within' : Within closed low high w)
    (above : v ≤ m) (below : m ≤ w) : Within closed low high m :=
  ⟨within.above.trans above, below.trans within'.below, fun opened =>
    ⟨(within.inside opened).1.trans_le above, below.trans_lt (within'.inside opened).2⟩⟩

/-- No two points of an interval are farther apart than its ends. -/
theorem sub_le (within : Within closed low high v) (within' : Within closed low high w) :
    |v - w| ≤ high - low := by
  have := within.above
  have := within.below
  have := within'.above
  have := within'.below
  rw [abs_le]
  constructor <;> linarith

/-- An interval that is moved and stretched. -/
theorem scale {c : ℚ} (within : Within closed low high v) (positive : 0 < c) :
    Within closed (low * c) (high * c) (v * c) :=
  ⟨mul_le_mul_of_nonneg_right within.above positive.le,
    mul_le_mul_of_nonneg_right within.below positive.le, fun opened =>
      ⟨mul_lt_mul_of_pos_right (within.inside opened).1 positive,
        mul_lt_mul_of_pos_right (within.inside opened).2 positive⟩⟩

end Within

/-! ### Rounding to integers -/

/-- What rounds to a natural number: nothing farther away than a half, and what is just that
far away only if the number is even. -/
def Nearest (n : Nat) (v : ℚ) : Prop :=
  Within (n % 2 = 0) (n - 1 / 2) (n + 1 / 2) v

/-- Rounded division gives an integer nearest to the quotient. -/
theorem nearest_roundDiv (num : Nat) {den : Nat} (positive : 0 < den) :
    Nearest (roundDiv num den) (num / den) := by
  have whole : (num : ℚ) / den = (num / den : Nat) + (num % den : Nat) / den := by
    have split : ((num / den : Nat) : ℚ) * den + (num % den : Nat) = num := by
      exact_mod_cast Nat.div_add_mod' num den
    rw [← split]
    field_simp
  have less : num % den < den := Nat.mod_lt _ positive
  have den_pos : (0 : ℚ) < den := by exact_mod_cast positive
  -- The remainder is compared with half of the divisor.
  have half_lt : 2 * (num % den) < den ↔ ((num % den : Nat) : ℚ) / den < 1 / 2 := by
    rw [div_lt_iff₀ den_pos, ← Nat.cast_lt (α := ℚ)]
    push_cast
    constructor <;> intro h <;> linarith
  have lt_half : den < 2 * (num % den) ↔ 1 / 2 < ((num % den : Nat) : ℚ) / den := by
    rw [lt_div_iff₀ den_pos, ← Nat.cast_lt (α := ℚ)]
    push_cast
    constructor <;> intro h <;> linarith
  have fraction_lt : ((num % den : Nat) : ℚ) / den < 1 := by
    rw [div_lt_one den_pos]
    exact_mod_cast less
  have fraction_nonneg : (0 : ℚ) ≤ ((num % den : Nat) : ℚ) / den := by positivity
  rw [roundDiv, Nearest, whole]
  generalize ((num % den : Nat) : ℚ) / den = fraction at *
  split
  · rename_i small
    rw [half_lt] at small
    exact .of_lt (by linarith) (by linarith)
  · rename_i notSmall
    rw [half_lt, not_lt] at notSmall
    split
    · rename_i large
      rw [lt_half] at large
      push_cast
      exact .of_lt (by linarith) (by linarith)
    · rename_i notLarge
      rw [lt_half, not_lt] at notLarge
      split
      · rename_i even
        exact ⟨by linarith, by linarith, fun odd => by simp [even] at odd⟩
      · rename_i odd
        push_cast
        refine ⟨by linarith, by linarith, fun opened => ?_⟩
        have even : (num / den + 1) % 2 = 0 := by omega
        simp [even] at opened

namespace Binary64

/-! ### Numbers and what reads back as them -/

/-- The number without its sign. -/
def magnitude (x : Binary64) : ℚ :=
  x.mantissa * 2 ^ x.exponent

/-- The mantissa has at most 53 bits, and all of them where the exponent is not the least. -/
structure Normalized (x : Binary64) : Prop where
  short : x.mantissa < 2 ^ 53
  least : minExponent ≤ x.exponent
  full : 2 ^ 52 ≤ x.mantissa ∨ x.exponent = minExponent

/-- How far down a number's interval reaches: halfway to the neighbour, which is closer below
a power of two. -/
def gapBelow (x : Binary64) : ℚ :=
  if x.mantissa = 2 ^ 52 ∧ x.exponent ≠ minExponent then 2 ^ x.exponent / 4 else 2 ^ x.exponent / 2

/-- How far up a number's interval reaches. -/
def gapAbove (x : Binary64) : ℚ :=
  2 ^ x.exponent / 2

/-- What is rounded to a number, signs set aside: halfway cases are where its mantissa is
even. -/
def ReadsBack (x : Binary64) (v : ℚ) : Prop :=
  Within (x.mantissa % 2 = 0) (x.magnitude - x.gapBelow) (x.magnitude + x.gapAbove) v

theorem unit_pos (x : Binary64) : (0 : ℚ) < 2 ^ x.exponent := by positivity

theorem gapBelow_pos (x : Binary64) : 0 < x.gapBelow := by
  have := x.unit_pos
  rw [gapBelow]
  split <;> linarith

/-- The interval below a number is half a unit wide at most. -/
theorem gapBelow_le (x : Binary64) : x.gapBelow ≤ 2 ^ x.exponent / 2 := by
  have := x.unit_pos
  rw [gapBelow]
  split <;> linarith

/-- A number reads back as itself. -/
theorem readsBack_magnitude (x : Binary64) : x.ReadsBack x.magnitude := by
  have := x.unit_pos
  have := x.gapBelow_pos
  exact .of_lt (by linarith) (by rw [gapAbove]; linarith)

/-! ### The nearest number -/

theorem powerOfTen_eq (e : Int) :
    0 < (powerOfTen e).2 ∧ ((powerOfTen e).1 : ℚ) / (powerOfTen e).2 = 10 ^ e := by
  rw [powerOfTen]
  split
  · rename_i nonneg
    obtain ⟨n, rfl⟩ := Int.eq_ofNat_of_zero_le nonneg
    exact ⟨Nat.one_pos, by simp⟩
  · rename_i negative
    obtain ⟨n, rfl⟩ : ∃ n : Nat, e = -(n : Int) := ⟨(-e).toNat, by omega⟩
    exact ⟨Nat.pow_pos (by decide), by simp⟩

/-- A quotient that is divided by a power of two is a quotient, whose rounding and whole part
are the scaled ones. -/
theorem exists_scaled_eq (num : Nat) {den : Nat} (positive : 0 < den) (e : Int) :
    ∃ a b : Nat, 0 < b ∧ (a : ℚ) / b = num / den / 2 ^ e ∧ scaled num den e = roundDiv a b ∧
      scaledFloor num den e = a / b := by
  rw [scaled, scaledFloor]
  split
  · rename_i nonneg
    obtain ⟨n, rfl⟩ := Int.eq_ofNat_of_zero_le nonneg
    refine ⟨num, _, Nat.mul_pos positive (Nat.pow_pos (by decide)), ?_, rfl, rfl⟩
    simp [div_div]
  · rename_i negative
    obtain ⟨n, rfl⟩ : ∃ n : Nat, e = -(n : Int) := ⟨(-e).toNat, by omega⟩
    refine ⟨_, den, positive, ?_, rfl, rfl⟩
    simp [div_mul_eq_mul_div]

theorem nearest_scaled (num : Nat) {den : Nat} (positive : 0 < den) (e : Int) :
    Nearest (scaled num den e) (num / den / 2 ^ e) := by
  obtain ⟨a, b, room, same, rounded, -⟩ := exists_scaled_eq num positive e
  rw [← same, rounded]
  exact nearest_roundDiv a room

/-- The whole part of a scaled quotient is below a number exactly if the quotient is. -/
theorem scaledFloor_lt_iff (num : Nat) {den : Nat} (positive : 0 < den) (e : Int) (n : Nat) :
    scaledFloor num den e < n ↔ (num : ℚ) / den / 2 ^ e < n := by
  obtain ⟨a, b, room, same, -, floor⟩ := exists_scaled_eq num positive e
  rw [← same, floor, Nat.div_lt_iff_lt_mul room, div_lt_iff₀ (by exact_mod_cast room)]
  exact_mod_cast Iff.rfl

/-- A positive quotient lies between the powers of two that the sizes of its parts give. -/
theorem quotient_bounds {num den : Nat} (num_pos : 0 < num) (den_pos : 0 < den) :
    (2 : ℚ) ^ ((num.log2 : Int) - den.log2 - 1) < num / den ∧
      (num : ℚ) / den < 2 ^ ((num.log2 : Int) - den.log2 + 1) := by
  have num_low : (2 : ℚ) ^ num.log2 ≤ num := by
    exact_mod_cast Nat.log2_self_le (Nat.ne_of_gt num_pos)
  have num_high : (num : ℚ) < 2 ^ (num.log2 + 1) := by exact_mod_cast Nat.lt_log2_self
  have den_low : (2 : ℚ) ^ den.log2 ≤ den := by
    exact_mod_cast Nat.log2_self_le (Nat.ne_of_gt den_pos)
  have den_high : (den : ℚ) < 2 ^ (den.log2 + 1) := by exact_mod_cast Nat.lt_log2_self
  have low : (2 : ℚ) ^ ((num.log2 : Int) - den.log2 - 1) = 2 ^ num.log2 / 2 ^ (den.log2 + 1) := by
    rw [sub_sub, zpow_sub₀ (by norm_num)]
    norm_cast
  have high : (2 : ℚ) ^ ((num.log2 : Int) - den.log2 + 1) = 2 ^ (num.log2 + 1) / 2 ^ den.log2 := by
    rw [sub_add_eq_add_sub, zpow_sub₀ (by norm_num)]
    norm_cast
  rw [low, high]
  have den_pos' : (0 : ℚ) < den := by exact_mod_cast den_pos
  constructor
  · exact div_lt_div₀' num_low den_high (by positivity) den_pos'
  · exact div_lt_div₀ num_high den_low (by positivity) (by positivity)

/-- The exponent that a positive quotient is rounded at. -/
def roundingExponent (num den : Nat) : Int :=
  let guess := max ((Nat.log2 num : Int) - (Nat.log2 den : Int) - 53) minExponent
  if scaledFloor num den guess < Nat.pow 2 53 then guess else guess + 1

/-- At its exponent a positive quotient has 53 bits before the point, or fewer at the least
exponent. -/
theorem roundingExponent_spec {num den : Nat} (num_pos : 0 < num) (den_pos : 0 < den) :
    minExponent ≤ roundingExponent num den ∧
      (num : ℚ) / den / 2 ^ roundingExponent num den < 2 ^ 53 ∧
      (2 ^ 52 ≤ (num : ℚ) / den / 2 ^ roundingExponent num den ∨
        roundingExponent num den = minExponent) := by
  obtain ⟨low, high⟩ := quotient_bounds num_pos den_pos
  rw [roundingExponent]
  generalize scale : (num.log2 : Int) - den.log2 = bits at low high ⊢
  generalize chosen : max (bits - 53) minExponent = guess
  have unit_pos : (0 : ℚ) < 2 ^ guess := by positivity
  have least : minExponent ≤ guess := by omega
  -- The guess leaves at most 54 bits before the point, and at least 53 unless it is the least.
  have below : (num : ℚ) / den / 2 ^ guess < 2 ^ 54 := by
    rw [div_lt_iff₀ unit_pos]
    refine high.trans_le ?_
    have : (2 : ℚ) ^ 54 * 2 ^ guess = 2 ^ (54 + guess) := by
      rw [zpow_add₀ (by norm_num)]
      norm_cast
    rw [this]
    exact zpow_le_zpow_right₀ (by norm_num) (by omega)
  have above : 2 ^ 52 ≤ (num : ℚ) / den / 2 ^ guess ∨ guess = minExponent := by
    by_cases raised : guess = minExponent
    · exact .inr raised
    · left
      rw [le_div_iff₀ unit_pos]
      refine le_trans ?_ low.le
      have : (2 : ℚ) ^ 52 * 2 ^ guess = 2 ^ (52 + guess) := by
        rw [zpow_add₀ (by norm_num)]
        norm_cast
      rw [this]
      exact zpow_le_zpow_right₀ (by norm_num) (by omega)
  split
  · rename_i fits
    rw [scaledFloor_lt_iff num den_pos] at fits
    exact ⟨least, by exact_mod_cast fits, above⟩
  · rename_i tooLong
    rw [scaledFloor_lt_iff num den_pos, not_lt] at tooLong
    have halved : (num : ℚ) / den / 2 ^ (guess + 1) = num / den / 2 ^ guess / 2 := by
      rw [zpow_add_one₀ (by norm_num), div_mul_eq_div_div]
    have full : (2 : ℚ) ^ 53 ≤ num / den / 2 ^ guess := by exact_mod_cast tooLong
    rw [halved]
    exact ⟨by omega, by linarith, .inl (by linarith)⟩

/-- The number with a mantissa, or with half of it at the next exponent where it has grown
past 53 bits. -/
def carried (negative : Bool) (m : Nat) (e : Int) : Binary64 :=
  if m < 2 ^ 53 then ⟨negative, m, e⟩ else ⟨negative, 2 ^ 52, e + 1⟩

/-- A quotient that has a number has the rounded one, carried where it grew too long. -/
theorem eq_carried_of_ofQuotient? {negative : Bool} {num den : Nat} {x : Binary64}
    (found : ofQuotient? negative num den = some x) :
    x = carried negative (scaled num den (roundingExponent num den))
      (roundingExponent num den) := by
  have unfolded : ofQuotient? negative num den =
      let e := roundingExponent num den
      let m := scaled num den e
      let rounded := if m < Nat.pow 2 53 then (m, e) else (Nat.pow 2 52, e + 1)
      if rounded.2 ≤ maxExponent then some ⟨negative, rounded.1, rounded.2⟩ else none :=
    rfl
  rw [unfolded] at found
  dsimp only at found
  rw [carried]
  split at found <;> rename_i fits
  · rw [if_pos (show _ < 2 ^ 53 from fits)]
    split at found
    · exact (Option.some.inj found).symm
    · cases found
  · rw [if_neg (show ¬ _ < 2 ^ 53 from fits)]
    split at found
    · exact (Option.some.inj found).symm
    · cases found

/-- What a mantissa of at most 53 bits is nearest to, in units of its exponent, is rounded to
it. -/
theorem readsBack_fitting (negative : Bool) {m : Nat} {e : Int} {q : ℚ} (least : minExponent ≤ e)
    (full : 2 ^ 52 ≤ q ∨ e = minExponent) (nearest : Nearest m q) (fits : m < 2 ^ 53) :
    Normalized ⟨negative, m, e⟩ ∧ ReadsBack ⟨negative, m, e⟩ (q * 2 ^ e) := by
  have unit_pos : (0 : ℚ) < 2 ^ e := by positivity
  have stretched := nearest.scale unit_pos
  have high := nearest.below
  refine ⟨⟨fits, least, full.imp_left fun full => ?_⟩, ?_⟩
  · have : ((2 ^ 52 : Nat) : ℚ) < (m + 1 : Nat) := by
      push_cast
      linarith
    exact Nat.le_of_lt_succ (by exact_mod_cast this)
  · rw [ReadsBack, magnitude, gapBelow, gapAbove]
    dsimp only
    split
    · rename_i power
      -- A quotient with all bits lies above the power of two that it is rounded to.
      obtain ⟨rfl, large⟩ := power
      have full := full.resolve_right large
      have := mul_le_mul_of_nonneg_right full unit_pos.le
      push_cast
      refine ⟨by linarith, ?_, fun odd => by simp at odd⟩
      have := stretched.below
      push_cast at this
      linarith
    · rwa [sub_mul, add_mul, one_div_mul_eq_div] at stretched

/-- What is rounded past 53 bits is rounded to the power of two there. -/
theorem readsBack_grown (negative : Bool) {m : Nat} {e : Int} {q : ℚ} (least : minExponent ≤ e)
    (short : q < 2 ^ 53) (nearest : Nearest m q) (long : ¬ m < 2 ^ 53) :
    Normalized ⟨negative, 2 ^ 52, e + 1⟩ ∧
      ReadsBack ⟨negative, 2 ^ 52, e + 1⟩ (q * 2 ^ e) := by
  have unit_pos : (0 : ℚ) < 2 ^ e := by positivity
  have low := nearest.above
  have grown : m = 2 ^ 53 := by
    have : (m : ℚ) < (2 ^ 53 + 1 : Nat) := by
      push_cast
      linarith
    have : m < 2 ^ 53 + 1 := by exact_mod_cast this
    omega
  subst grown
  refine ⟨⟨by norm_num, Int.le_add_one least, .inl (Nat.le_refl _)⟩, ?_⟩
  have power : (2 : ℚ) ^ (e + 1) = 2 * 2 ^ e := by
    rw [zpow_add_one₀ (by norm_num), mul_comm]
  have above := (nearest.scale unit_pos).above
  have below := mul_lt_mul_of_pos_right short unit_pos
  rw [ReadsBack, magnitude, gapBelow, gapAbove]
  dsimp only
  rw [if_pos ⟨rfl, by omega⟩, power]
  push_cast at above ⊢
  exact ⟨by linarith, by linarith, fun odd => by simp at odd⟩

/-- What a mantissa is nearest to, in units of its exponent, is rounded to the number that it
makes. -/
theorem readsBack_carried (negative : Bool) {m : Nat} {e : Int} {q : ℚ} (least : minExponent ≤ e)
    (short : q < 2 ^ 53) (full : 2 ^ 52 ≤ q ∨ e = minExponent) (nearest : Nearest m q) :
    (carried negative m e).negative = negative ∧ (carried negative m e).Normalized ∧
      (carried negative m e).ReadsBack (q * 2 ^ e) := by
  rw [carried]
  split
  · rename_i fits
    exact ⟨rfl, readsBack_fitting negative least full nearest fits⟩
  · rename_i long
    exact ⟨rfl, readsBack_grown negative least short nearest long⟩

/-- The number found for a positive quotient is normalized, and the quotient is rounded
to it. -/
theorem readsBack_of_ofQuotient? {negative : Bool} {num den : Nat} {x : Binary64}
    (num_pos : 0 < num) (den_pos : 0 < den) (found : ofQuotient? negative num den = some x) :
    x.negative = negative ∧ x.Normalized ∧ x.ReadsBack (num / den) := by
  obtain ⟨least, short, full⟩ := roundingExponent_spec num_pos den_pos
  have nearest := nearest_scaled num den_pos (roundingExponent num den)
  rw [eq_carried_of_ofQuotient? found]
  generalize roundingExponent num den = e at *
  generalize scaled num den e = m at *
  have unit_pos : (0 : ℚ) < 2 ^ e := by positivity
  have whole : (num : ℚ) / den = num / den / 2 ^ e * 2 ^ e := by field_simp
  generalize (num : ℚ) / den / 2 ^ e = q at *
  rw [whole]
  exact readsBack_carried negative least short full nearest

theorem normalized_zero (negative : Bool) : (zero negative).Normalized :=
  ⟨by norm_num [zero], Int.le_refl _, .inr rfl⟩

/-- Whatever is no larger than half of the least number is rounded to zero. -/
theorem readsBack_zero {negative : Bool} {v : ℚ} (nonneg : 0 ≤ v)
    (small : v ≤ 2 ^ minExponent / 2) :
    (zero negative).ReadsBack v := by
  have unit_pos : (0 : ℚ) < 2 ^ minExponent := by positivity
  rw [ReadsBack, magnitude, gapBelow, gapAbove, zero]
  simp only [Nat.cast_zero, zero_mul, zero_add, zero_sub, ne_eq, not_true_eq_false, and_false,
    if_false]
  exact ⟨by linarith, small, fun odd => by simp at odd⟩

/-- A decimal with `digits` before the exponent's places is less than ten to that many. -/
theorem lt_pow_places {digits : Nat} (exponent : Int) :
    (digits : ℚ) * 10 ^ exponent <
      10 ^ (((Nat.toDigits 10 digits).length : Int) + exponent) := by
  have short : digits < 10 ^ (Nat.toDigits 10 digits).length :=
    (Nat.length_toDigits_le_iff (by decide) (Nat.length_toDigits_pos)).1 (Nat.le_refl _)
  rw [zpow_add₀ (by norm_num), zpow_natCast]
  have : (digits : ℚ) < 10 ^ (Nat.toDigits 10 digits).length := by exact_mod_cast short
  exact mul_lt_mul_of_pos_right this (by positivity)

/-- The number found for a decimal has its sign, is normalized, and the decimal is rounded
to it. -/
theorem readsBack_of_ofDecimal? {negative : Bool} {digits : Nat} {exponent : Int} {x : Binary64}
    (found : ofDecimal? negative digits exponent = some x) :
    x.negative = negative ∧ x.Normalized ∧ x.ReadsBack (digits * 10 ^ exponent) := by
  rw [ofDecimal?] at found
  split at found
  · rename_i nothing
    cases found
    refine ⟨rfl, normalized_zero negative, readsBack_zero (by positivity) ?_⟩
    rw [nothing, Nat.cast_zero, zero_mul]
    positivity
  · rename_i something
    dsimp only at found
    split at found
    · rename_i tiny
      cases found
      refine ⟨rfl, normalized_zero negative, readsBack_zero (by positivity) ?_⟩
      have small : (10 : ℚ) ^ (((Nat.toDigits 10 digits).length : Int) + exponent) ≤
          10 ^ (-400 : Int) :=
        zpow_le_zpow_right₀ (by norm_num) (by omega)
      have least : (10 : ℚ) ^ (-400 : Int) ≤ 2 ^ minExponent / 2 := by
        have wide : (2 : ℚ) ^ 1075 ≤ 10 ^ 400 :=
          calc (2 : ℚ) ^ 1075 ≤ (2 ^ 3) ^ 400 := by
                rw [← pow_mul]
                exact pow_le_pow_right₀ (by norm_num) (by norm_num)
            _ ≤ 10 ^ 400 := pow_le_pow_left₀ (by norm_num) (by norm_num) _
        rw [minExponent, zpow_neg, zpow_neg, inv_eq_one_div, inv_eq_one_div, div_div,
          ← zpow_add_one₀ (by norm_num)]
        exact one_div_le_one_div_of_le (by positivity) wide
      exact (lt_pow_places exponent).le.trans (small.trans least)
    · split at found
      · cases found
      · obtain ⟨positive, power⟩ := powerOfTen_eq exponent
        have numerator : 0 < (powerOfTen exponent).1 := by
          rw [powerOfTen]
          split
          · exact Nat.pow_pos (by decide)
          · exact Nat.one_pos
        have read := readsBack_of_ofQuotient?
          (Nat.mul_pos (Nat.pos_of_ne_zero something) numerator) positive found
        rwa [Nat.cast_mul, mul_div_assoc, power] at read

end Binary64

end LedgerAgent.Decimal
