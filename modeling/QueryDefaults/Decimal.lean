import QueryDefaults.Binary64

/-!
# Decimals and binary64

Reading rounds a decimal to the nearest binary64 number, a half to the even neighbour. Writing
looks for the fewest digits that read back: on each decimal grid it tries the two neighbours of the
value, and the first grid with a hit wins. Both work on exact natural numbers; no step rounds but
the last one of reading.
-/

set_option autoImplicit false

namespace QueryDefaults

/-- The number `digits * 10 ^ exponent`. -/
structure Decimal where
  digits : Nat
  exponent : Int
deriving DecidableEq

namespace Decimal

attribute [local instance (2000)] instPowNat

/-- How many decimal digits a number is written with. -/
def width (n : Nat) : Nat := (Nat.toDigits 10 n).length

/-- The digits of a decimal as characters. -/
def digitChars (d : Decimal) : List Char := Nat.toDigits 10 d.digits

/-- Where the decimal point stands, counted from before the first digit. -/
def point (d : Decimal) : Int := width d.digits + d.exponent

/-- The magnitude nearest to a decimal, or `none` when it reaches infinity. A decimal from
`10 ^ 310` on is above every finite number and one below `10 ^ -330` is under half of the smallest,
so only exponents between these bounds are ever raised to a power. -/
def magnitude? (d : Decimal) : Option Nat :=
  if d.digits = 0 then some 0
  else if 310 < d.point then none
  else if d.point < -330 then some 0
  else
    let magnitude :=
      Binary64.magnitudeOf (d.digits * 10 ^ d.exponent.toNat * 2 ^ Binary64.unitPlace)
        (10 ^ (-d.exponent).toNat)
    if magnitude < Binary64.infinity then some magnitude else none

/-- The exact decimal of a finite magnitude: a multiple of `2 ^ -1074` is a multiple of
`10 ^ -1074`. -/
def exact (magnitude : Nat) : Decimal :=
  ⟨Binary64.unitsOf magnitude * 5 ^ Binary64.unitPlace, -(Binary64.unitPlace : Int)⟩

/-- Which of two neighbours is taken when both are as near. -/
inductive Tie where
  | upper
  /-- The neighbour whose last digit is even. -/
  | even
deriving DecidableEq

/-- The two neighbours of `d` among the numbers with `count` digits, the preferred one first: the
nearer one, and of two as near the one that `tie` names. The digits of `d` beyond the grid are
`drop` in number. -/
def neighbours (tie : Tie) (d : Decimal) (count drop : Nat) : List Decimal :=
  let step := 10 ^ drop
  let low := d.digits / step
  let twice := 2 * (d.digits % step)
  let exponent := d.exponent + drop
  let below : Decimal := ⟨low, exponent⟩
  let above : Decimal :=
    if low + 1 = 10 ^ count then ⟨10 ^ (count - 1), exponent + 1⟩ else ⟨low + 1, exponent⟩
  if twice < step || (twice == step && tie == .even && low % 2 == 0) then [below, above]
  else [above, below]

/-- Whether a decimal is read as the given magnitude. -/
def readsAs (magnitude : Nat) (d : Decimal) : Bool := d.magnitude? == some magnitude

/-- The decimal with the fewest digits that is read as the given finite magnitude, and of two such
the preferred one. Seventeen digits always suffice. -/
def shortest (tie : Tie) (magnitude : Nat) : Decimal :=
  let whole := exact magnitude
  let total := width whole.digits
  let onGrid (count : Nat) : Option Decimal :=
    (neighbours tie whole count (total - count)).find? (readsAs magnitude)
  if magnitude = 0 then ⟨0, 0⟩ else ((List.range' 1 17).findSome? onGrid).getD whole

/-- The digits before and after the point in positional notation. The whole part has at least one
digit; the fraction is empty for a whole number. -/
def positional (d : Decimal) : List Char × List Char :=
  let digits := d.digitChars
  let before := d.point.toNat
  if d.point ≤ 0 then (['0'], List.replicate (-d.point).toNat '0' ++ digits)
  else (digits.take before ++ List.replicate (before - digits.length) '0', digits.drop before)

end Decimal

end QueryDefaults
