import QueryDefaults.Json.Parse
import QueryDefaults.Json.Print
import QueryDefaults.Proofs.Decimal.Reading

/-!
# Numerals

A numeral that is well formed is read back from its text, when nothing follows that would go on with
it (`parse?_print`). The numerals of integers and of finite floats are well formed. An integer is
spelled exactly (`toInt64?_ofInt64`). A float is spelled as a decimal that it is nearest to
(`ofBinary64?_isNearest`), so every reader that rounds correctly reads it bit by bit
(`RoundsCorrectly.bind_ofBinary64?`). `toBinary64?` is such a reader.
-/

set_option autoImplicit false

namespace QueryDefaults

attribute [local instance (2000)] instPowNat

/-! ## Digits -/

theorem isDigit_toDigits (n : Nat) : ∀ c ∈ Nat.toDigits 10 n, c.isDigit = true :=
  fun _ => Nat.isDigit_of_mem_toDigits (by decide) (by decide)

/-- Only zero is written with a zero in front. -/
theorem eq_zero_of_head?_toDigits {n : Nat} (h : (Nat.toDigits 10 n).head? = some '0') : n = 0 := by
  induction n using Nat.strongRecOn with
  | ind n ih =>
    rw [Nat.toDigits_eq_if (by decide)] at h
    split at h
    · rw [List.head?_cons, Option.some.injEq, Nat.digitChar_eq_zero] at h
      exact h
    · rename_i large
      have next : n / 10 < n := by omega
      cases front : Nat.toDigits 10 (n / 10) with
      | nil => exact absurd front Nat.toDigits_ne_nil
      | cons c rest =>
        have low := ih (n / 10) next
        rw [front] at h low
        have := low h
        omega

namespace Numeral

@[simp] theorem digitsValue_toDigits (n : Nat) : digitsValue (Nat.toDigits 10 n) = n :=
  Nat.ofDigitChars_ten_toDigits

theorem digitsValue_zeros_append (zeros : Nat) (digits : List Char) :
    digitsValue (List.replicate zeros '0' ++ digits) = digitsValue digits := by
  rw [digitsValue, Nat.ofDigitChars_append, Nat.ofDigitChars_replicate_zero, Nat.mul_zero,
    digitsValue]

theorem digitsValue_append_zeros (digits : List Char) (zeros : Nat) :
    digitsValue (digits ++ List.replicate zeros '0') = digitsValue digits * 10 ^ zeros := by
  rw [digitsValue, Nat.ofDigitChars_append, Nat.ofDigitChars_replicate_zero, Nat.mul_comm,
    digitsValue]

/-! ## Spelling -/

/-- What a numeral of JSON looks like. -/
structure WellFormed (n : Numeral) : Prop where
  whole_ne_nil : n.whole ≠ []
  whole : ∀ c ∈ n.whole, c.isDigit = true
  /-- No digit follows a zero in front. -/
  leading : n.whole.head? = some '0' → n.whole.length = 1
  fraction : ∀ c ∈ n.fraction, c.isDigit = true
  exponent_ne_nil : ∀ power ∈ n.exponent, power.2 ≠ []
  exponent : ∀ power ∈ n.exponent, ∀ c ∈ power.2, c.isDigit = true

/-- Whether nothing in front goes on with the digits of a numeral. -/
def EndsDigits (rest : List Char) : Prop := ∀ c ∈ rest.head?, c.isDigit = false

/-- Whether nothing in front goes on with a numeral. -/
def Ends (rest : List Char) : Prop :=
  ∀ c ∈ rest.head?, c.isDigit = false ∧ c ≠ '.' ∧ c ≠ 'e' ∧ c ≠ 'E'

theorem spanDigits_append {digits rest : List Char} (all : ∀ c ∈ digits, c.isDigit = true)
    (ends : EndsDigits rest) : spanDigits (digits ++ rest) = (digits, rest) := by
  have none : rest.takeWhile Char.isDigit = [] ∧ rest.dropWhile Char.isDigit = rest := by
    cases rest with
    | nil => exact ⟨rfl, rfl⟩
    | cons c rest =>
      have other : c.isDigit = false := ends c rfl
      simp [other]
  rw [spanDigits, List.takeWhile_append_of_pos all, List.dropWhile_append_of_pos all, none.1,
    none.2, List.append_nil]

/-- The exponent of a numeral as it is written. -/
def printExponent : Option (Bool × List Char) → List Char
  | none => []
  | some (true, digits) => 'e' :: '-' :: digits
  | some (false, digits) => 'e' :: '+' :: digits

/-- The fraction of a numeral as it is written. -/
def printFraction (fraction : List Char) : List Char :=
  if fraction.isEmpty then [] else '.' :: fraction

theorem print_eq (n : Numeral) :
    n.print = (if n.negative then ['-'] else []) ++ n.whole ++ printFraction n.fraction ++
      printExponent n.exponent := rfl

theorem spanExponent_of_ends {rest : List Char} (ends : Ends rest) :
    spanExponent rest = some (none, rest) := by
  unfold spanExponent
  split
  · exact absurd rfl (ends _ rfl).2.2.1
  · exact absurd rfl (ends _ rfl).2.2.2
  · rfl

theorem spanExponent_print {exponent : Option (Bool × List Char)} {rest : List Char}
    (nonempty : ∀ power ∈ exponent, power.2 ≠ [])
    (digits : ∀ power ∈ exponent, ∀ c ∈ power.2, c.isDigit = true) (ends : Ends rest) :
    spanExponent (printExponent exponent ++ rest) = some (exponent, rest) := by
  match exponent with
  | none => exact spanExponent_of_ends ends
  | some (negative, power) =>
    have full : ¬ power.isEmpty = true := fun empty => nonempty _ rfl (List.isEmpty_iff.1 empty)
    have span := spanDigits_append (digits _ rfl) fun c hc => (ends c hc).1
    cases negative <;>
      simp only [printExponent, List.cons_append, spanExponent, span, full, Bool.false_eq_true,
        if_false]

theorem spanFraction_of_other {tail : List Char} (other : tail.head? ≠ some '.') :
    spanFraction tail = some ([], tail) := by
  unfold spanFraction
  split
  · exact absurd rfl other
  · rfl

theorem spanFraction_print {fraction tail : List Char} (digits : ∀ c ∈ fraction, c.isDigit = true)
    (stops : EndsDigits tail) (other : tail.head? ≠ some '.') :
    spanFraction (printFraction fraction ++ tail) = some (fraction, tail) := by
  cases fraction with
  | nil => exact spanFraction_of_other other
  | cons c fraction =>
    have span := spanDigits_append digits stops
    simp only [printFraction, List.isEmpty_cons, Bool.false_eq_true, if_false, List.cons_append,
      spanFraction] at span ⊢
    rw [span]
    rfl

/-- Behind its whole part, a numeral goes on with neither a digit nor, without a fraction, a
point. -/
theorem printExponent_head (exponent : Option (Bool × List Char)) {rest : List Char}
    (ends : Ends rest) :
    ∀ c ∈ (printExponent exponent ++ rest).head?, c.isDigit = false ∧ c ≠ '.' := by
  intro c hc
  match exponent with
  | none => exact ⟨(ends c hc).1, (ends c hc).2.1⟩
  | some (true, _) | some (false, _) =>
    cases hc
    decide

theorem printFraction_head (fraction : List Char) {tail : List Char} (stops : EndsDigits tail) :
    EndsDigits (printFraction fraction ++ tail) := by
  intro c hc
  cases fraction with
  | nil => exact stops c hc
  | cons d ds =>
    cases hc
    rfl

/-- A well-formed numeral is read from its text, with nothing that follows it. -/
theorem parse?_print {n : Numeral} (formed : n.WellFormed) {rest : List Char} (ends : Ends rest) :
    parse? (n.print ++ rest) = some (n, rest) := by
  obtain ⟨negative, whole, fraction, exponent⟩ := n
  have powers := printExponent_head exponent ends
  have stops := printFraction_head fraction fun c hc => (powers c hc).1
  have spanned_fraction := spanFraction_print formed.fraction (fun c hc => (powers c hc).1)
    fun point => (powers _ point).2 rfl
  have spanned_exponent := spanExponent_print formed.exponent_ne_nil formed.exponent ends
  have spanned_whole := spanDigits_append formed.whole stops
  have front : ¬ (whole.isEmpty || (whole.head? == some '0' && whole.length != 1)) = true := by
    simpa [formed.whole_ne_nil] using formed.leading
  have unsigned : ∀ cs, whole ++ (printFraction fraction ++ (printExponent exponent ++ rest)) ≠
      '-' :: cs := by
    intro cs sign
    cases whole with
    | nil => exact formed.whole_ne_nil rfl
    | cons c digits =>
      obtain ⟨rfl, -⟩ := List.cons.inj sign
      cases formed.whole '-' List.mem_cons_self
  simp only [print_eq, List.append_assoc]
  generalize printFraction fraction ++ (printExponent exponent ++ rest) = tail at *
  unfold parse?
  cases negative with
  | true =>
    simp only [if_true, List.cons_append, List.nil_append, spanned_whole, front,
      Bool.false_eq_true, if_false, spanned_fraction, Option.bind_eq_bind, Option.bind_some,
      spanned_exponent, Option.pure_def]
  | false =>
    simp only [Bool.false_eq_true, if_false, List.nil_append, spanned_whole, front,
      spanned_fraction, Option.bind_eq_bind, Option.bind_some, spanned_exponent, Option.pure_def]

/-! ## Integers -/

theorem ofInt64_wellFormed (n : Int64) : (ofInt64 n).WellFormed where
  whole_ne_nil := Nat.toDigits_ne_nil
  whole := isDigit_toDigits _
  leading := fun zero => by
    have absent : n.toInt.natAbs = 0 := eq_zero_of_head?_toDigits zero
    simp only [ofInt64, absent]
    rfl
  fraction := nofun
  exponent_ne_nil := nofun
  exponent := nofun

theorem int64OfInt?_toInt (n : Int64) : int64OfInt? n.toInt = some n := by
  have range : Int64.minValue.toInt ≤ n.toInt ∧ n.toInt ≤ Int64.maxValue.toInt :=
    ⟨Int64.minValue_le_toInt n, Int64.toInt_le n⟩
  rw [int64OfInt?, if_pos range, Int64.ofInt_toInt]

/-- An integer is spelled by its numeral, the least one too. -/
theorem toInt64?_ofInt64 (n : Int64) : (ofInt64 n).toInt64? = some n := by
  have spelled := int64OfInt?_toInt n
  simp only [toInt64?, ofInt64, digitsValue_toDigits, List.isEmpty_nil, Option.isNone_none,
    Bool.and_self, if_true]
  by_cases negative : n.toInt < 0
  · have nonzero : ¬ (n.toInt.natAbs : Int) = 0 := by omega
    have value : -(n.toInt.natAbs : Int) = n.toInt := by omega
    rw [decide_eq_true negative, Bool.not_true, if_neg Bool.false_ne_true, if_neg nonzero, value,
      spelled]
  · have value : (n.toInt.natAbs : Int) = n.toInt := by omega
    rw [decide_eq_false negative, Bool.not_false, if_pos rfl, value, spelled]

/-! ## Floats -/

theorem length_digitChars (d : Decimal) : d.digitChars.length = Decimal.width d.digits := rfl

theorem digitsValue_digitChars (d : Decimal) : digitsValue d.digitChars = d.digits :=
  digitsValue_toDigits d.digits

/-- The exponent of a numeral is read with its sign. -/
theorem exponentValue_toDigits (negative : Bool) (whole fraction : List Char) (power : Int) :
    exponentValue ⟨negative, whole, fraction, some (power < 0, Nat.toDigits 10 power.natAbs)⟩ =
      power := by
  rcases Int.lt_or_le power 0 with below | above
  · rw [decide_eq_true below]
    simp only [exponentValue, digitsValue_toDigits]
    omega
  · rw [decide_eq_false (Int.not_lt.2 above)]
    simp only [exponentValue, digitsValue_toDigits]
    omega

/-- A decimal is written below one, as a whole number, with the point among its digits, or with an
exponent. -/
theorem ofDecimal_cases (negative : Bool) (d : Decimal) :
    (d.point ≤ 0 ∧ ofDecimal negative d =
        ⟨negative, ['0'], List.replicate (-d.point).toNat '0' ++ d.digitChars, none⟩) ∨
      (0 ≤ d.exponent ∧ ofDecimal negative d =
        ⟨negative, d.digitChars ++ List.replicate d.exponent.toNat '0', ['0'], none⟩) ∨
      (0 < d.point ∧ d.exponent < 0 ∧ ofDecimal negative d =
        ⟨negative, d.digitChars.take d.point.toNat, d.digitChars.drop d.point.toNat, none⟩) ∨
      ofDecimal negative d =
        ⟨negative, d.digitChars.take 1, d.digitChars.drop 1,
          some (d.point - 1 < 0, Nat.toDigits 10 (d.point - 1).natAbs)⟩ := by
  have digits := length_digitChars d
  have full := Decimal.width_pos d.digits
  have place : d.point = Decimal.width d.digits + d.exponent := rfl
  unfold ofDecimal
  split
  · unfold Decimal.positional
    by_cases small : d.point ≤ 0
    · have nonempty : ¬ (List.replicate (-d.point).toNat '0' ++ d.digitChars).isEmpty = true := by
        rw [List.isEmpty_iff_length_eq_zero, List.length_append]
        omega
      refine .inl ⟨small, ?_⟩
      simp only [small, nonempty, if_true, Bool.false_eq_true, if_false]
    by_cases whole : 0 ≤ d.exponent
    · have reached : d.digitChars.length ≤ d.point.toNat := by omega
      have zeros : d.point.toNat - d.digitChars.length = d.exponent.toNat := by omega
      refine .inr (.inl ⟨whole, ?_⟩)
      simp only [small, if_false, List.take_of_length_le reached, List.drop_of_length_le reached,
        zeros, List.isEmpty_nil, if_true]
    · have zeros : d.point.toNat - d.digitChars.length = 0 := by omega
      have nonempty : ¬ (d.digitChars.drop d.point.toNat).isEmpty = true := by
        rw [List.isEmpty_iff_length_eq_zero, List.length_drop]
        omega
      refine .inr (.inr (.inl ⟨by omega, by omega, ?_⟩))
      simp only [small, if_false, zeros, List.replicate_zero, List.append_nil, nonempty,
        Bool.false_eq_true]
  · exact .inr (.inr (.inr rfl))

/-- The numeral of a decimal has its value: at most some zeros are moved from the exponent to the
digits. -/
theorem toDecimal_ofDecimal (negative : Bool) (d : Decimal) :
    ∃ zeros : Nat, (ofDecimal negative d).toDecimal =
      ⟨d.digits * 10 ^ zeros, d.exponent - zeros⟩ := by
  have digits := length_digitChars d
  have full := Decimal.width_pos d.digits
  have place : d.point = Decimal.width d.digits + d.exponent := rfl
  obtain ⟨small, written⟩ | ⟨whole, written⟩ | ⟨large, part, written⟩ | written :=
    ofDecimal_cases negative d <;> rw [written]
  · have value : digitsValue (['0'] ++ (List.replicate (-d.point).toNat '0' ++ d.digitChars)) =
        d.digits := by
      rw [← List.append_assoc, ← List.replicate_one, List.replicate_append_replicate,
        digitsValue_zeros_append, digitsValue_digitChars]
    refine ⟨0, ?_⟩
    simp only [toDecimal, exponentValue, value, List.length_append, List.length_replicate,
      Nat.pow_zero, Nat.mul_one]
    congr 1
    omega
  · have value : digitsValue (d.digitChars ++ List.replicate d.exponent.toNat '0' ++ ['0']) =
        d.digits * 10 ^ (d.exponent.toNat + 1) := by
      rw [List.append_assoc, ← List.replicate_one, List.replicate_append_replicate,
        digitsValue_append_zeros, digitsValue_digitChars]
    refine ⟨d.exponent.toNat + 1, ?_⟩
    simp only [toDecimal, exponentValue, value, List.length_singleton]
    congr 1
    omega
  · refine ⟨0, ?_⟩
    simp only [toDecimal, exponentValue, List.take_append_drop, digitsValue_digitChars,
      List.length_drop, Nat.pow_zero, Nat.mul_one]
    congr 1
    omega
  · refine ⟨0, ?_⟩
    simp only [toDecimal, exponentValue_toDigits, List.take_append_drop, digitsValue_digitChars,
      List.length_drop, Nat.pow_zero, Nat.mul_one]
    congr 1
    omega

/-- The numeral of a decimal is well formed, when zero is written without an exponent. -/
theorem ofDecimal_wellFormed (negative : Bool) {d : Decimal}
    (zero : d.digits = 0 → d.exponent = 0) : (ofDecimal negative d).WellFormed := by
  have all : ∀ c ∈ d.digitChars, c.isDigit = true := isDigit_toDigits d.digits
  have zeros (count : Nat) : ∀ c ∈ List.replicate count '0', c.isDigit = true := fun c hc => by
    rw [List.eq_of_mem_replicate hc]
    rfl
  obtain ⟨first, rest, front⟩ : ∃ first rest, d.digitChars = first :: rest :=
    List.exists_cons_of_ne_nil Nat.toDigits_ne_nil
  have leading : some first = some '0' → d.digits = 0 := fun is =>
    eq_zero_of_head?_toDigits ((congrArg List.head? front).trans is)
  obtain ⟨small, written⟩ | ⟨whole, written⟩ | ⟨large, part, written⟩ | written :=
    ofDecimal_cases negative d <;> rw [written]
  · refine ⟨by simp, zeros 1, fun _ => rfl, fun c hc => ?_, nofun, nofun⟩
    exact (List.mem_append.1 hc).elim (zeros _ c) (all c)
  · refine ⟨by simp [front], fun c hc => ?_, fun is => ?_, zeros 1, nofun, nofun⟩
    · exact (List.mem_append.1 hc).elim (all c) (zeros _ c)
    · rw [front] at is
      have absent := leading is
      simp [Decimal.digitChars, absent, zero absent]
  · obtain ⟨before, point⟩ : ∃ before, d.point.toNat = before + 1 :=
      Nat.exists_eq_add_of_le' (by omega)
    refine ⟨by simp [front, point], fun c hc => all c (List.mem_of_mem_take hc), fun is => ?_,
      fun c hc => all c (List.mem_of_mem_drop hc), nofun, nofun⟩
    rw [front, point] at is
    have := zero (leading is)
    omega
  · refine ⟨by simp [front], fun c hc => all c (List.mem_of_mem_take hc), fun _ => by simp [front],
      fun c hc => all c (List.mem_of_mem_drop hc), ?_, ?_⟩
    · rintro power ⟨⟩
      exact Nat.toDigits_ne_nil
    · rintro power ⟨⟩
      exact isDigit_toDigits _

theorem negative_ofDecimal (negative : Bool) (d : Decimal) :
    (ofDecimal negative d).negative = negative := by
  unfold ofDecimal
  split <;> rfl

/-- The numeral of a float is well formed, and it is a numeral of this sign that this float is
nearest to. -/
theorem ofBinary64?_isNearest {x : Binary64} (finite : x.isFinite = true) :
    ∃ n, ofBinary64? x = some n ∧ n.WellFormed ∧ n.negative = x.isNegative ∧
      Binary64.IsNearest n.toDecimal.units x.magnitude := by
  have below : x.magnitude < Binary64.infinity := of_decide_eq_true finite
  obtain ⟨zeros, value⟩ := toDecimal_ofDecimal x.isNegative (.shortest .even x.magnitude)
  refine ⟨_, if_pos finite, ofDecimal_wellFormed _ (Decimal.shortest_zero below),
    negative_ofDecimal _ _, ?_⟩
  rw [value, Decimal.units_shift]
  exact Decimal.isNearest_shortest .even below

/-! ## Reading floats -/

/-- A reader of floats rounds correctly: it reads a numeral as the float of its sign that is nearest
to its value, of two as near as the even one, and it rejects a numeral when this float is not
finite. -/
def RoundsCorrectly (float? : Numeral → Option Binary64) : Prop :=
  ∀ n x, float? n = some x ↔ x.isFinite = true ∧ x.isNegative = n.negative ∧
    Binary64.IsNearest n.toDecimal.units x.magnitude

/-- `toBinary64?` rounds once, from the exact value, and correctly. -/
theorem roundsCorrectly_toBinary64? : RoundsCorrectly toBinary64? := by
  intro n x
  rw [toBinary64?, Option.map_eq_some_iff]
  constructor
  · rintro ⟨magnitude, reads, rfl⟩
    obtain ⟨finite, nearest⟩ := Decimal.magnitude?_eq_some_iff.1 reads
    have small := Binary64.lt_signPlace_of_lt_infinity finite
    rw [Binary64.isFinite, Binary64.magnitude_ofParts _ small, Binary64.isNegative_ofParts _ small]
    exact ⟨decide_eq_true finite, rfl, nearest⟩
  · rintro ⟨finite, sign, nearest⟩
    have below : x.magnitude < Binary64.infinity := of_decide_eq_true finite
    refine ⟨x.magnitude, Decimal.magnitude?_eq_some_iff.2 ⟨below, nearest⟩, ?_⟩
    rw [← sign, Binary64.ofParts_self]

variable {float? : Numeral → Option Binary64}

/-- No numeral is read as an infinity or a NaN. -/
theorem RoundsCorrectly.isFinite (rounds : RoundsCorrectly float?) {n : Numeral} {x : Binary64}
    (reads : float? n = some x) : x.isFinite = true :=
  ((rounds n x).1 reads).1

/-- A float is read from its own numeral, bit by bit. -/
theorem RoundsCorrectly.bind_ofBinary64? (rounds : RoundsCorrectly float?) {x : Binary64}
    (finite : x.isFinite = true) : (Numeral.ofBinary64? x).bind float? = some x := by
  obtain ⟨n, spelled, -, sign, nearest⟩ := ofBinary64?_isNearest finite
  rw [spelled, Option.bind_some]
  exact (rounds n x).2 ⟨finite, sign.symm, nearest⟩

end Numeral

end QueryDefaults
