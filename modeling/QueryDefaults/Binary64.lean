/-!
# Binary64 numbers

A 64-bit floating-point number of IEEE 754 is kept as its bit pattern: the sign in the top bit,
below it the exponent field and the fraction field. The two fields together, read as one natural
number, are the *magnitude*; magnitudes are ordered as the absolute values they stand for, and the
value of a finite magnitude is an exact multiple of the smallest subnormal, `2 ^ -1074`.
-/

set_option autoImplicit false

namespace QueryDefaults

/-- A binary64 number, given by its 64 bits. -/
structure Binary64 where
  bits : UInt64
deriving DecidableEq

namespace Binary64

attribute [local instance (2000)] instPowNat

/-- The fraction field is this many bits wide. -/
abbrev fractionBits : Nat := 52

/-- The place of the sign bit, and the width of the magnitude below it. -/
abbrev signPlace : Nat := 63

/-- The smallest subnormal is two to the power of minus this. -/
abbrev unitPlace : Nat := 1074

/-- The number with the given sign and magnitude. -/
def ofParts (negative : Bool) (magnitude : Nat) : Binary64 :=
  ⟨UInt64.ofNat (if negative then 2 ^ signPlace + magnitude else magnitude)⟩

/-- Positive zero. -/
def zero : Binary64 := ⟨0⟩

/-- The sign bit. -/
def isNegative (x : Binary64) : Bool := 2 ^ signPlace ≤ x.bits.toNat

/-- The exponent field over the fraction field. -/
def magnitude (x : Binary64) : Nat := x.bits.toNat % 2 ^ signPlace

/-- The magnitude of the infinities: all exponent bits set and no fraction bit. -/
def infinity : Nat := 0x7FF * 2 ^ fractionBits

/-- Magnitudes above infinity are no numbers. -/
def isNaN (x : Binary64) : Bool := infinity < x.magnitude

/-- Neither infinite nor a NaN. -/
def isFinite (x : Binary64) : Bool := x.magnitude < infinity

/-- The value of a finite magnitude in multiples of `2 ^ -1074`: below the first normal number the
magnitude itself, and from there on 53 bits scaled by the exponent field. -/
def unitsOf (magnitude : Nat) : Nat :=
  if magnitude < 2 ^ fractionBits then magnitude
  else (2 ^ fractionBits + magnitude % 2 ^ fractionBits) * 2 ^ (magnitude / 2 ^ fractionBits - 1)

/-- The nearest natural number to `num / den`; a half goes to the even neighbour. -/
def roundHalfEven (num den : Nat) : Nat :=
  let low := num / den
  let twice := 2 * (num % den)
  if twice < den then low
  else if den < twice then low + 1
  else low + low % 2

/-- The magnitude nearest to `num / den` multiples of `2 ^ -1074`, where 53 bits are kept and no
bound is put on the exponent field. A carry out of the fraction moves into the exponent field by
itself, because the two are adjacent. -/
def magnitudeOf (num den : Nat) : Nat :=
  let shift := Nat.log2 (num / den) - fractionBits
  shift * 2 ^ fractionBits + roundHalfEven num (den * 2 ^ shift)

/-- Equality of numbers: the two zeros are equal, and so are all NaNs. -/
def same (x y : Binary64) : Bool :=
  x.bits == y.bits || (x.magnitude == 0 && y.magnitude == 0) || (x.isNaN && y.isNaN)

instance : BEq Binary64 := ⟨same⟩

theorem beq_def (x y : Binary64) : (x == y) = same x y := rfl

example : (ofParts true 0 == zero) = true := by decide
example : (ofParts false (infinity + 1) == ofParts true (infinity + 2)) = true := by decide
example : (ofParts true 1 == ofParts false 1) = false := by decide

end Binary64

end QueryDefaults
