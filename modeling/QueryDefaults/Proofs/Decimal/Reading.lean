import Mathlib.Algebra.Order.Field.Basic
import Mathlib.Tactic.FieldSimp
import QueryDefaults.Decimal
import QueryDefaults.Proofs.Decimal.Nearest

/-!
# Reading decimals

A decimal is read as the magnitude nearest to its value, when this is finite, and otherwise not at
all (`magnitude?_eq_some_iff`); the bounds that reading checks first only save work. So it is read
by its value, wherever its zeros stand (`units_shift`). The exact decimal of a finite magnitude is
read as this magnitude, and so is the shortest one, which is chosen among decimals that read back
(`magnitude?_shortest`).
-/

set_option autoImplicit false

namespace QueryDefaults

attribute [local instance (2000)] instPowNat

namespace Binary64

/-- A float is put together again from its sign and its magnitude. -/
theorem ofParts_self (x : Binary64) : ofParts x.isNegative x.magnitude = x := by
  obtain ⟨bits⟩ := x
  have range := bits.toNat_lt
  have parts : (if (mk bits).isNegative = true then 2 ^ signPlace + (mk bits).magnitude
      else (mk bits).magnitude) = bits.toNat := by
    simp only [isNegative, magnitude, signPlace, decide_eq_true_eq]
    split <;> omega
  rw [ofParts, parts, UInt64.ofNat_toNat]

theorem magnitude_ofParts (negative : Bool) {magnitude : Nat} (small : magnitude < 2 ^ signPlace) :
    (ofParts negative magnitude).magnitude = magnitude := by
  cases negative <;> simp [ofParts, Binary64.magnitude, signPlace] at * <;> omega

theorem isNegative_ofParts (negative : Bool) {magnitude : Nat} (small : magnitude < 2 ^ signPlace) :
    (ofParts negative magnitude).isNegative = negative := by
  cases negative <;> simp [ofParts, isNegative, signPlace] at * <;> omega

theorem lt_signPlace_of_lt_infinity {magnitude : Nat} (finite : magnitude < infinity) :
    magnitude < 2 ^ signPlace :=
  Nat.lt_trans finite (by decide)

end Binary64

namespace Decimal

theorem width_pos (n : Nat) : 0 < width n := Nat.length_toDigits_pos

/-- A number has at most `k` digits when it is below `10 ^ k`. -/
theorem width_le_iff {n k : Nat} (pos : 0 < k) : width n ≤ k ↔ n < 10 ^ k :=
  Nat.length_toDigits_le_iff (by decide) pos

/-! ## Values -/

/-- The value of a decimal in multiples of `2 ^ -1074`. -/
def units (d : Decimal) : ℚ := d.digits * 10 ^ d.exponent * 2 ^ Binary64.unitPlace

/-- Zeros may stand in the digits of a decimal as well as in its exponent. -/
theorem units_shift (digits : Nat) (exponent : Int) (zeros : Nat) :
    units ⟨digits * 10 ^ zeros, exponent - zeros⟩ = units ⟨digits, exponent⟩ := by
  have ten : (10 : ℚ) ≠ 0 := by norm_num
  have power : (10 : ℚ) ^ zeros * 10 ^ (exponent - zeros) = 10 ^ exponent := by
    rw [← zpow_natCast, ← zpow_add₀ ten, add_sub_cancel]
  rw [units, units, Nat.cast_mul, Nat.cast_pow, Nat.cast_ofNat, mul_assoc (digits : ℚ), power]

/-- The value of a decimal as a quotient. -/
theorem units_eq_div (d : Decimal) :
    d.units = ((d.digits * 10 ^ d.exponent.toNat * 2 ^ Binary64.unitPlace : Nat) : ℚ) /
      (10 ^ (-d.exponent).toNat : Nat) := by
  have power : (10 : ℚ) ^ d.exponent = 10 ^ d.exponent.toNat / 10 ^ (-d.exponent).toNat := by
    rw [← zpow_natCast, ← zpow_natCast, ← zpow_sub₀ (by norm_num)]
    congr 1
    omega
  rw [units, power]
  generalize Binary64.unitPlace = place
  push_cast
  ring

/-- A decimal is below the power of ten at its point. -/
theorem units_lt {d : Decimal} {place : Int} (bound : d.point ≤ place) :
    d.units < 10 ^ place * 2 ^ Binary64.unitPlace := by
  have digits : (d.digits : ℚ) < 10 ^ width d.digits := by
    exact_mod_cast (width_le_iff (width_pos d.digits)).1 (Nat.le_refl _)
  have power : (0 : ℚ) < 10 ^ d.exponent := zpow_pos (by norm_num) _
  have scale : (0 : ℚ) < 2 ^ Binary64.unitPlace := pow_pos (by norm_num) _
  calc d.units
      < 10 ^ width d.digits * 10 ^ d.exponent * 2 ^ Binary64.unitPlace :=
        mul_lt_mul_of_pos_right (mul_lt_mul_of_pos_right digits power) scale
    _ = 10 ^ d.point * 2 ^ Binary64.unitPlace := by
        rw [← zpow_natCast, ← zpow_add₀ (by norm_num), point]
    _ ≤ 10 ^ place * 2 ^ Binary64.unitPlace :=
        mul_le_mul_of_nonneg_right (zpow_le_zpow_right₀ (by norm_num) bound) scale.le

/-- A decimal that is not zero is at least the power of ten below its point. -/
theorem le_units {d : Decimal} {place : Int} (nonzero : d.digits ≠ 0) (bound : place < d.point) :
    10 ^ place * 2 ^ Binary64.unitPlace ≤ d.units := by
  obtain ⟨below, width_eq⟩ := Nat.exists_eq_add_of_le' (width_pos d.digits)
  have least : 10 ^ below ≤ d.digits := by
    rcases Nat.eq_zero_or_pos below with rfl | pos
    · exact Nat.pos_of_ne_zero nonzero
    · exact Nat.le_of_not_lt fun small => by
        have := (width_le_iff pos).2 small
        omega
  have digits : (10 : ℚ) ^ below ≤ d.digits := by exact_mod_cast least
  have power : (0 : ℚ) < 10 ^ d.exponent := zpow_pos (by norm_num) _
  have scale : (0 : ℚ) < 2 ^ Binary64.unitPlace := pow_pos (by norm_num) _
  have exponents : place ≤ below + d.exponent := by
    rw [point, width_eq] at bound
    omega
  calc 10 ^ place * 2 ^ Binary64.unitPlace
      ≤ 10 ^ ((below : Int) + d.exponent) * 2 ^ Binary64.unitPlace :=
        mul_le_mul_of_nonneg_right (zpow_le_zpow_right₀ (by norm_num) exponents) scale.le
    _ = 10 ^ below * 10 ^ d.exponent * 2 ^ Binary64.unitPlace := by
        rw [zpow_add₀ (by norm_num), zpow_natCast]
    _ ≤ d.units :=
        mul_le_mul_of_nonneg_right (mul_le_mul_of_nonneg_right digits power.le) scale.le

/-! ## Reading -/

/-- The magnitude nearest to a decimal, however large. -/
def nearest (d : Decimal) : Nat :=
  Binary64.magnitudeOf (d.digits * 10 ^ d.exponent.toNat * 2 ^ Binary64.unitPlace)
    (10 ^ (-d.exponent).toNat)

theorem isNearest_nearest (d : Decimal) : Binary64.IsNearest d.units d.nearest := by
  rw [units_eq_div]
  exact Binary64.isNearest_magnitudeOf (Nat.pow_pos (by decide))

/-- A decimal from `10 ^ 310` on is above every finite number. -/
theorem infinity_le_nearest {d : Decimal} (nonzero : d.digits ≠ 0) (large : 310 < d.point) :
    Binary64.infinity ≤ d.nearest := by
  have infinite : Binary64.unitsOf Binary64.infinity = 2 ^ 1024 * 2 ^ Binary64.unitPlace := by
    decide +kernel
  have bound : ((2 ^ 1024 : Nat) : ℚ) ≤ (10 ^ 310 : Nat) := Nat.cast_le.2 (by decide +kernel)
  have scale : (0 : ℚ) < 2 ^ Binary64.unitPlace := pow_pos (by norm_num) _
  have power : (10 : ℚ) ^ (310 : Int) = (10 ^ 310 : Nat) := by
    rw [Nat.cast_pow, ← zpow_natCast]
    rfl
  refine d.isNearest_nearest.le_of_unitsOf_le ?_
  calc ((Binary64.unitsOf Binary64.infinity : Nat) : ℚ)
      = (2 ^ 1024 : Nat) * 2 ^ Binary64.unitPlace := by
        rw [infinite, Nat.cast_mul, Nat.cast_pow 2 Binary64.unitPlace, Nat.cast_ofNat]
    _ ≤ (10 ^ 310 : Nat) * 2 ^ Binary64.unitPlace := mul_le_mul_of_nonneg_right bound scale.le
    _ ≤ d.units := by
        rw [← power]
        exact le_units nonzero large

/-- A decimal below `10 ^ -330` is under half of the smallest number. -/
theorem nearest_eq_zero {d : Decimal} (small : d.point < -330) : d.nearest = 0 := by
  have bound : 2 * 2 ^ Binary64.unitPlace ≤ 10 ^ 330 := by decide +kernel
  have below : d.units < 10 ^ (-330 : Int) * 2 ^ Binary64.unitPlace := units_lt (Int.le_of_lt small)
  have power : (10 : ℚ) ^ (-330 : Int) = ((10 ^ 330 : Nat) : ℚ)⁻¹ := by
    rw [Nat.cast_pow, ← zpow_natCast, ← zpow_neg]
    rfl
  have half : 2 * d.units ≤ 1 := by
    calc 2 * d.units
        ≤ 2 * (10 ^ (-330 : Int) * 2 ^ Binary64.unitPlace) :=
          mul_le_mul_of_nonneg_left below.le zero_le_two
      _ = (2 * 2 ^ Binary64.unitPlace : Nat) / (10 ^ 330 : Nat) := by
          rw [power, Nat.cast_mul, Nat.cast_pow 2 Binary64.unitPlace, Nat.cast_ofNat,
            mul_comm _ (2 ^ Binary64.unitPlace), ← mul_assoc, div_eq_mul_inv]
      _ ≤ 1 := div_le_one_of_le₀ (Nat.cast_le.2 bound) (Nat.cast_nonneg _)
  have least : 0 ≤ d.units := by
    rw [units_eq_div]
    exact div_nonneg (Nat.cast_nonneg _) (Nat.cast_nonneg _)
  have zero : Binary64.IsNearest d.units 0 :=
    .lower (by simpa [Binary64.unitsOf] using least) (by simpa [Binary64.unitsOf] using half)
      fun _ => rfl
  exact d.isNearest_nearest.unique zero

/-- The early answers of reading agree with the last one. -/
theorem magnitude?_eq (d : Decimal) :
    d.magnitude? = if d.nearest < Binary64.infinity then some d.nearest else none := by
  by_cases zero : d.digits = 0
  · have value : d.units = Binary64.unitsOf 0 := by simp [units, zero, Binary64.unitsOf]
    have nearest : d.nearest = 0 :=
      d.isNearest_nearest.unique (value ▸ Binary64.IsNearest.self 0)
    rw [magnitude?, if_pos zero, nearest]
    rfl
  by_cases large : 310 < d.point
  · have infinite := Nat.not_lt.2 (infinity_le_nearest zero large)
    rw [magnitude?, if_neg zero, if_pos large, if_neg infinite]
  by_cases small : d.point < -330
  · rw [magnitude?, if_neg zero, if_neg large, if_pos small, nearest_eq_zero small]
    rfl
  · rw [magnitude?, if_neg zero, if_neg large, if_neg small]
    rfl

/-- A decimal is read as the magnitude nearest to it, unless this is not finite. -/
theorem magnitude?_eq_some_iff {d : Decimal} {magnitude : Nat} :
    d.magnitude? = some magnitude ↔
      magnitude < Binary64.infinity ∧ Binary64.IsNearest d.units magnitude := by
  rw [magnitude?_eq, Option.ite_none_right_eq_some, Option.some.injEq]
  constructor
  · rintro ⟨finite, rfl⟩
    exact ⟨finite, d.isNearest_nearest⟩
  · rintro ⟨finite, nearest⟩
    obtain rfl := nearest.unique d.isNearest_nearest
    exact ⟨finite, rfl⟩

/-! ## Writing -/

theorem units_exact (magnitude : Nat) : (exact magnitude).units = Binary64.unitsOf magnitude := by
  have ten : (10 : ℚ) = 5 * 2 := by norm_num
  rw [units, exact, zpow_neg, zpow_natCast, ten, mul_pow]
  generalize Binary64.unitPlace = place
  push_cast
  field_simp

/-- The shortest decimal of a finite magnitude reads back: a decimal is taken only if it does, and
the exact one does. -/
theorem magnitude?_shortest (tie : Tie) {magnitude : Nat} (finite : magnitude < Binary64.infinity) :
    (shortest tie magnitude).magnitude? = some magnitude := by
  simp only [shortest]
  split
  · rename_i zero
    rw [zero]
    rfl
  · generalize found : List.findSome? _ _ = onGrid
    cases onGrid with
    | none =>
      exact magnitude?_eq_some_iff.2 ⟨finite, units_exact magnitude ▸ Binary64.IsNearest.self _⟩
    | some d =>
      obtain ⟨count, -, hit⟩ := List.exists_of_findSome?_eq_some found
      have back : readsAs magnitude d = true := List.find?_some hit
      exact eq_of_beq back

/-- The shortest decimal is nearest to its magnitude. -/
theorem isNearest_shortest (tie : Tie) {magnitude : Nat} (finite : magnitude < Binary64.infinity) :
    Binary64.IsNearest (shortest tie magnitude).units magnitude :=
  (magnitude?_eq_some_iff.1 (magnitude?_shortest tie finite)).2

/-- The shortest decimal has no digits but for zero, which it writes without an exponent. -/
theorem shortest_zero {magnitude : Nat} (finite : magnitude < Binary64.infinity)
    (absent : (shortest .even magnitude).digits = 0) :
    (shortest .even magnitude).exponent = 0 := by
  have reads := magnitude?_shortest .even finite
  rw [magnitude?, if_pos absent, Option.some.injEq] at reads
  rw [← reads]
  rfl

end Decimal

end QueryDefaults
