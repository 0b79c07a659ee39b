import Mathlib.Algebra.Order.Field.Rat
import Mathlib.Order.Monotone.Basic
import Mathlib.Tactic.Linarith
import Mathlib.Tactic.Ring
import QueryDefaults.Binary64

/-!
# The nearest magnitude

To round correctly is to take the magnitude whose value is nearest, and of two as near the even one,
as if the exponent field had no bound (`IsNearest`). No value has two such magnitudes
(`IsNearest.unique`), since values grow with magnitudes and of two neighbours only one is even.
`magnitudeOf` gives it (`isNearest_magnitudeOf`): the value lies between the magnitude with its
significand cut off and the next one, and rounding takes the right one of these two.
-/

set_option autoImplicit false

namespace QueryDefaults.Binary64

attribute [local instance (2000)] instPowNat

/-! ## Values of magnitudes -/

/-- A significand of 53 bits is twice as large as the fraction field. -/
theorem two_pow_significand : 2 ^ (fractionBits + 1) = 2 ^ fractionBits + 2 ^ fractionBits := by
  rw [Nat.pow_add_one, Nat.mul_two]

/-- The value of a normal magnitude by its exponent field and its fraction field. -/
theorem unitsOf_fields (shift : Nat) {fraction : Nat} (small : fraction < 2 ^ fractionBits) :
    unitsOf ((shift + 1) * 2 ^ fractionBits + fraction) =
      (2 ^ fractionBits + fraction) * 2 ^ shift := by
  have pos := Nat.two_pow_pos fractionBits
  have normal : ¬ (shift + 1) * 2 ^ fractionBits + fraction < 2 ^ fractionBits := by
    rw [Nat.succ_mul]
    omega
  have field : ((shift + 1) * 2 ^ fractionBits + fraction) / 2 ^ fractionBits = shift + 1 := by
    rw [Nat.add_comm, Nat.add_mul_div_right _ _ pos, Nat.div_eq_of_lt small, Nat.zero_add]
  have low : ((shift + 1) * 2 ^ fractionBits + fraction) % 2 ^ fractionBits = fraction := by
    rw [Nat.add_comm, Nat.add_mul_mod_self_right, Nat.mod_eq_of_lt small]
  rw [unitsOf, if_neg normal, field, low, Nat.add_sub_cancel]

/-- The value of a significand of at most 53 bits at some shift. The significand may also be the
power of two above its range, which is carried into the exponent field. -/
theorem unitsOf_scaled {shift significand : Nat} (fits : significand ≤ 2 ^ (fractionBits + 1))
    (normal : shift = 0 ∨ 2 ^ fractionBits ≤ significand) :
    unitsOf (shift * 2 ^ fractionBits + significand) = significand * 2 ^ shift := by
  rcases Nat.lt_or_ge significand (2 ^ fractionBits) with subnormal | large
  · obtain rfl : shift = 0 := normal.resolve_right (Nat.not_le_of_lt subnormal)
    rw [Nat.zero_mul, Nat.zero_add, unitsOf, if_pos subnormal, Nat.pow_zero, Nat.mul_one]
  obtain ⟨fraction, rfl⟩ := Nat.exists_eq_add_of_le large
  have fraction_le : fraction ≤ 2 ^ fractionBits := by
    rw [two_pow_significand] at fits
    exact Nat.le_of_add_le_add_left fits
  rcases Nat.lt_or_eq_of_le fraction_le with small | rfl
  · rw [← Nat.add_assoc, ← Nat.succ_mul, unitsOf_fields shift small]
  · calc unitsOf (shift * 2 ^ fractionBits + (2 ^ fractionBits + 2 ^ fractionBits))
        = unitsOf ((shift + 1 + 1) * 2 ^ fractionBits + 0) := by
          rw [Nat.add_zero, Nat.succ_mul, Nat.succ_mul, Nat.add_assoc]
      _ = (2 ^ fractionBits + 0) * 2 ^ (shift + 1) :=
          unitsOf_fields (shift + 1) (Nat.two_pow_pos fractionBits)
      _ = (2 ^ fractionBits + 2 ^ fractionBits) * 2 ^ shift := by
          rw [Nat.add_zero, Nat.pow_add_one 2 shift, Nat.mul_comm (2 ^ shift), ← Nat.mul_assoc,
            Nat.mul_two]

/-- Every magnitude is a significand of at most 53 bits at some shift. -/
theorem exists_scaled (magnitude : Nat) : ∃ shift significand,
    magnitude = shift * 2 ^ fractionBits + significand ∧ significand < 2 ^ (fractionBits + 1) ∧
      (shift = 0 ∨ 2 ^ fractionBits ≤ significand) := by
  have pos := Nat.two_pow_pos fractionBits
  rw [two_pow_significand]
  rcases Nat.lt_or_ge magnitude (2 ^ fractionBits) with subnormal | normal
  · exact ⟨0, magnitude, by omega, by omega, .inl rfl⟩
  · obtain ⟨shift, field⟩ := Nat.exists_eq_add_of_le' ((Nat.one_le_div_iff pos).2 normal)
    refine ⟨shift, 2 ^ fractionBits + magnitude % 2 ^ fractionBits, ?_,
      Nat.add_lt_add_left (Nat.mod_lt magnitude pos) _, .inr (Nat.le_add_right _ _)⟩
    rw [← Nat.add_assoc, ← Nat.succ_mul, Nat.succ_eq_add_one, ← field, Nat.mul_comm,
      Nat.div_add_mod]

theorem unitsOf_lt_succ (magnitude : Nat) : unitsOf magnitude < unitsOf (magnitude + 1) := by
  obtain ⟨shift, significand, rfl, fits, normal⟩ := exists_scaled magnitude
  rw [Nat.add_assoc, unitsOf_scaled (Nat.le_of_lt fits) normal,
    unitsOf_scaled fits (normal.imp_right Nat.le_succ_of_le), Nat.succ_mul]
  exact Nat.lt_add_of_pos_right (Nat.two_pow_pos shift)

theorem unitsOf_strictMono : StrictMono unitsOf := strictMono_nat_of_lt_succ unitsOf_lt_succ

/-! ## Correct rounding -/

/-- Correct rounding of a value that is given in multiples of `2 ^ -1074`, where no bound is put on
the exponent field. -/
structure IsNearest (value : ℚ) (magnitude : Nat) : Prop where
  /-- No magnitude is nearer. -/
  le (other : Nat) : |value - unitsOf magnitude| ≤ |value - unitsOf other|
  /-- Of two magnitudes as near, it is the even one. -/
  even (other : Nat) : |value - unitsOf other| = |value - unitsOf magnitude| →
    other = magnitude ∨ magnitude % 2 = 0

namespace IsNearest

variable {value : ℚ} {magnitude : Nat}

theorem not_lt {other : Nat} (here : IsNearest value magnitude) (there : IsNearest value other) :
    ¬ magnitude < other := by
  intro below
  have same : |value - unitsOf other| = |value - unitsOf magnitude| :=
    le_antisymm (there.le magnitude) (here.le other)
  have even : magnitude % 2 = 0 := (here.even other same).resolve_left (by omega)
  have even_other : other % 2 = 0 := (there.even magnitude same.symm).resolve_left (by omega)
  -- between two even magnitudes there is another one, and it is nearer
  have first : (unitsOf magnitude : ℚ) < unitsOf (magnitude + 1) := by
    exact_mod_cast unitsOf_lt_succ magnitude
  have second : (unitsOf (magnitude + 1) : ℚ) < unitsOf other := by
    exact_mod_cast unitsOf_strictMono (by omega : magnitude + 1 < other)
  have between := here.le (magnitude + 1)
  rcases abs_cases (value - unitsOf magnitude) with h | h <;>
    rcases abs_cases (value - unitsOf other) with h' | h' <;>
    rcases abs_cases (value - unitsOf (magnitude + 1)) with h'' | h'' <;> linarith

/-- A value has one nearest magnitude. -/
theorem unique {other : Nat} (here : IsNearest value magnitude) (there : IsNearest value other) :
    magnitude = other :=
  Nat.le_antisymm (Nat.le_of_not_lt (there.not_lt here)) (Nat.le_of_not_lt (here.not_lt there))

/-- What is nearest to a value is at least every magnitude whose value is below it. -/
theorem le_of_unitsOf_le {other : Nat} (here : IsNearest value magnitude)
    (low : unitsOf other ≤ value) : other ≤ magnitude := by
  by_contra below
  have less : (unitsOf magnitude : ℚ) < unitsOf other := by
    exact_mod_cast unitsOf_strictMono (Nat.lt_of_not_le below)
  have nearer := here.le other
  rw [abs_of_nonneg (by linarith), abs_of_nonneg (by linarith)] at nearer
  linarith

/-- A magnitude is nearest to its own value. -/
theorem self (magnitude : Nat) : IsNearest (unitsOf magnitude) magnitude where
  le other := by
    rw [sub_self, abs_zero]
    exact abs_nonneg _
  even other same := by
    rw [sub_self, abs_zero, abs_eq_zero, sub_eq_zero, Nat.cast_inj] at same
    exact .inl (unitsOf_strictMono.injective same.symm)

theorem of_ne (others : ∀ other, other ≠ magnitude →
      |value - unitsOf magnitude| ≤ |value - unitsOf other| ∧
        (|value - unitsOf other| = |value - unitsOf magnitude| → magnitude % 2 = 0)) :
    IsNearest value magnitude := by
  constructor
  · intro other
    rcases eq_or_ne other magnitude with rfl | ne
    · exact le_rfl
    · exact (others other ne).1
  · intro other same
    exact or_iff_not_imp_left.2 fun ne => (others other ne).2 same

/-- The lower one of two neighbours is nearest to what lies between it and the middle. -/
theorem lower (low : unitsOf magnitude ≤ value)
    (half : 2 * value ≤ unitsOf magnitude + unitsOf (magnitude + 1))
    (tie : 2 * value = unitsOf magnitude + unitsOf (magnitude + 1) → magnitude % 2 = 0) :
    IsNearest value magnitude := by
  refine of_ne fun other ne => ?_
  rw [abs_of_nonneg (sub_nonneg.2 low)]
  rcases Nat.lt_or_gt_of_ne ne with below | above
  · have less : (unitsOf other : ℚ) < unitsOf magnitude := by
      exact_mod_cast unitsOf_strictMono below
    have far : value - unitsOf magnitude < |value - unitsOf other| := by
      linarith [le_abs_self (value - unitsOf other)]
    exact ⟨far.le, fun same => absurd same far.ne'⟩
  · have more : (unitsOf (magnitude + 1) : ℚ) ≤ unitsOf other := by
      exact_mod_cast unitsOf_strictMono.monotone above
    have far : unitsOf (magnitude + 1) - value ≤ |value - unitsOf other| := by
      linarith [neg_abs_le (value - unitsOf other)]
    exact ⟨by linarith, fun same => tie (by linarith)⟩

/-- The upper one of two neighbours is nearest to what lies between the middle and it. -/
theorem upper (high : value ≤ unitsOf (magnitude + 1))
    (half : unitsOf magnitude + unitsOf (magnitude + 1) ≤ 2 * value)
    (tie : 2 * value = unitsOf magnitude + unitsOf (magnitude + 1) → (magnitude + 1) % 2 = 0) :
    IsNearest value (magnitude + 1) := by
  refine of_ne fun other ne => ?_
  rw [abs_sub_comm value (unitsOf (magnitude + 1)), abs_of_nonneg (sub_nonneg.2 high)]
  rcases Nat.lt_or_gt_of_ne ne with below | above
  · have less : (unitsOf other : ℚ) ≤ unitsOf magnitude := by
      exact_mod_cast unitsOf_strictMono.monotone (Nat.le_of_lt_succ below)
    have far : value - unitsOf magnitude ≤ |value - unitsOf other| := by
      linarith [le_abs_self (value - unitsOf other)]
    exact ⟨by linarith, fun same => tie (by linarith)⟩
  · have more : (unitsOf (magnitude + 1) : ℚ) < unitsOf other := by
      exact_mod_cast unitsOf_strictMono above
    have far : unitsOf (magnitude + 1) - value < |value - unitsOf other| := by
      linarith [neg_abs_le (value - unitsOf other)]
    exact ⟨far.le, fun same => absurd same far.ne'⟩

/-- `lower` for a quotient, without division. -/
theorem lower_div (magnitude num : Nat) {den : Nat} (pos : 0 < den)
    (low : unitsOf magnitude * den ≤ num)
    (half : 2 * num ≤ unitsOf magnitude * den + unitsOf (magnitude + 1) * den)
    (tie : 2 * num = unitsOf magnitude * den + unitsOf (magnitude + 1) * den →
      magnitude % 2 = 0) :
    IsNearest ((num : ℚ) / den) magnitude := by
  have den_pos : (0 : ℚ) < den := Nat.cast_pos.2 pos
  refine lower ?_ ?_ fun middle => tie ?_
  · rw [le_div_iff₀ den_pos]
    exact_mod_cast low
  · rw [← mul_div_assoc, div_le_iff₀ den_pos, add_mul]
    exact_mod_cast half
  · rw [← mul_div_assoc, div_eq_iff den_pos.ne', add_mul] at middle
    exact_mod_cast middle

/-- `upper` for a quotient, without division. -/
theorem upper_div (magnitude num : Nat) {den : Nat} (pos : 0 < den)
    (high : num ≤ unitsOf (magnitude + 1) * den)
    (half : unitsOf magnitude * den + unitsOf (magnitude + 1) * den ≤ 2 * num)
    (tie : 2 * num = unitsOf magnitude * den + unitsOf (magnitude + 1) * den →
      (magnitude + 1) % 2 = 0) :
    IsNearest ((num : ℚ) / den) (magnitude + 1) := by
  have den_pos : (0 : ℚ) < den := Nat.cast_pos.2 pos
  refine upper ?_ ?_ fun middle => tie ?_
  · rw [div_le_iff₀ den_pos]
    exact_mod_cast high
  · rw [← mul_div_assoc, le_div_iff₀ den_pos, add_mul]
    exact_mod_cast half
  · rw [← mul_div_assoc, div_eq_iff den_pos.ne', add_mul] at middle
    exact_mod_cast middle

end IsNearest

/-! ## Rounding a quotient -/

/-- The significand that is left of a quotient at the shift that keeps 53 bits: it has 53 bits, or
fewer when nothing was shifted. -/
theorem significand_bounds (num den : Nat) :
    let shift := Nat.log2 (num / den) - fractionBits
    num / (den * 2 ^ shift) < 2 ^ (fractionBits + 1) ∧
      (shift = 0 ∨ 2 ^ fractionBits ≤ num / (den * 2 ^ shift)) := by
  intro shift
  rw [← Nat.div_div_eq_div_mul]
  rcases Nat.eq_zero_or_pos (num / den) with zero | pos
  · rw [zero, Nat.zero_div]
    exact ⟨Nat.two_pow_pos _, .inl (by simp only [shift, zero]; rfl)⟩
  have top : num / den < 2 ^ (Nat.log2 (num / den) + 1) := Nat.lt_log2_self
  have bottom : 2 ^ Nat.log2 (num / den) ≤ num / den := Nat.log2_self_le (Nat.ne_of_gt pos)
  constructor
  · rw [Nat.div_lt_iff_lt_mul (Nat.two_pow_pos shift), ← Nat.pow_add]
    exact Nat.lt_of_lt_of_le top (Nat.pow_le_pow_right (by decide) (by omega))
  · by_cases unshifted : shift = 0
    · exact .inl unshifted
    · have exponent : fractionBits + shift = Nat.log2 (num / den) := by omega
      rw [Nat.le_div_iff_mul_le (Nat.two_pow_pos shift), ← Nat.pow_add, exponent]
      exact .inr bottom

/-- Rounding a quotient gives the nearest magnitude. -/
theorem isNearest_magnitudeOf {num den : Nat} (pos : 0 < den) :
    IsNearest ((num : ℚ) / den) (magnitudeOf num den) := by
  obtain ⟨fits, normal⟩ := significand_bounds num den
  simp only [magnitudeOf, roundHalfEven]
  generalize Nat.log2 (num / den) - fractionBits = shift at *
  have split := Nat.div_add_mod num (den * 2 ^ shift)
  have rest := Nat.mod_lt num (Nat.mul_pos pos (Nat.two_pow_pos shift))
  have here := unitsOf_scaled (Nat.le_of_lt fits) normal
  have next := unitsOf_scaled fits (normal.imp_right Nat.le_succ_of_le)
  generalize num / (den * 2 ^ shift) = low at *
  generalize num % (den * 2 ^ shift) = remainder at *
  have even (n : Nat) : (shift * 2 ^ fractionBits + n) % 2 = n % 2 := by
    simp only [fractionBits, Nat.reducePow]
    omega
  -- both neighbours in multiples of the last kept bit
  have low_units : unitsOf (shift * 2 ^ fractionBits + low) * den = den * 2 ^ shift * low := by
    rw [here]
    ac_rfl
  have next_units : unitsOf (shift * 2 ^ fractionBits + low + 1) * den =
      den * 2 ^ shift * low + den * 2 ^ shift := by
    rw [Nat.add_assoc, next, Nat.succ_mul, Nat.add_mul]
    ac_rfl
  generalize den * 2 ^ shift * low = units at *
  generalize den * 2 ^ shift = step at *
  have lower := IsNearest.lower_div (shift * 2 ^ fractionBits + low) num pos
  have upper := IsNearest.upper_div (shift * 2 ^ fractionBits + low) num pos
  rw [low_units, next_units] at lower
  rw [low_units, next_units, Nat.add_assoc] at upper
  rw [even] at lower upper
  split_ifs with below above
  · exact lower (by omega) (by omega) (by omega)
  · exact upper (by omega) (by omega) (by omega)
  · rcases Nat.mod_two_eq_zero_or_one low with zero | one
    · rw [zero]
      exact lower (by omega) (by omega) fun _ => zero
    · rw [one]
      exact upper (by omega) (by omega) (by omega)

end QueryDefaults.Binary64
