import QueryDefaults.Decimal
import QueryDefaults.Integer

/-!
# JSON values

A JSON value as it is written. Numbers keep their spelling, because whether a numeral is an integer
is a question of spelling and how a float is rounded is up to its reader; objects keep the order and
the repetitions of their members. A string that holds half of a surrogate pair is no text, but it
may stand where nobody reads it.
-/

set_option autoImplicit false

namespace QueryDefaults

/-- A JSON numeral: the sign, the digits before and after the point, and the exponent with its
sign. An empty fraction stands for a numeral without a point. -/
structure Numeral where
  negative : Bool
  whole : List Char
  fraction : List Char := []
  exponent : Option (Bool × List Char) := none
deriving DecidableEq

/-- A JSON value. -/
inductive Json where
  | null
  | bool (b : Bool)
  | number (numeral : Numeral)
  /-- A string; without a text when a surrogate in it is unpaired. -/
  | string (text : Option String)
  | array (items : List Json)
  | object (members : List (Option String × Json))
deriving Inhabited

namespace Numeral

/-- The value of decimal digits. -/
def digitsValue (digits : List Char) : Nat := Nat.ofDigitChars 10 digits 0

/-- The exponent as an integer. -/
def exponentValue (n : Numeral) : Int :=
  match n.exponent with
  | none => 0
  | some (true, digits) => -(digitsValue digits : Int)
  | some (false, digits) => digitsValue digits

/-- The absolute value of a numeral. -/
def toDecimal (n : Numeral) : Decimal :=
  ⟨digitsValue (n.whole ++ n.fraction), n.exponentValue - n.fraction.length⟩

/-- The number nearest to a numeral, unless it is too large to be finite. -/
def toBinary64? (n : Numeral) : Option Binary64 :=
  n.toDecimal.magnitude?.map (Binary64.ofParts n.negative)

/-- The 64-bit integer that a numeral spells; one with a point or an exponent spells none, and
neither does `-0`. -/
def toInt64? (n : Numeral) : Option Int64 :=
  if n.fraction.isEmpty && n.exponent.isNone then
    let magnitude : Int := digitsValue n.whole
    if !n.negative then int64OfInt? magnitude
    else if magnitude = 0 then none
    else int64OfInt? (-magnitude)
  else none

/-- The numeral of an integer. -/
def ofInt64 (n : Int64) : Numeral := ⟨n.toInt < 0, Nat.toDigits 10 n.toInt.natAbs, [], none⟩

/-- The numeral of a decimal. Up to 16 digits before the point, and up to four zeros between the
point and the first digit, it is positional with at least one digit after the point; beyond that the
point stands behind the first digit, and an exponent follows. -/
def ofDecimal (negative : Bool) (d : Decimal) : Numeral :=
  if -5 < d.point ∧ d.point ≤ 16 then
    let (whole, fraction) := d.positional
    ⟨negative, whole, if fraction.isEmpty then ['0'] else fraction, none⟩
  else
    let power := d.point - 1
    ⟨negative, d.digitChars.take 1, d.digitChars.drop 1,
      some (power < 0, Nat.toDigits 10 power.natAbs)⟩

/-- The numeral of a finite number, with the fewest digits that read back; of two as short and as
near, the one whose last digit is even. -/
def ofBinary64? (x : Binary64) : Option Numeral :=
  if x.isFinite then some (ofDecimal x.isNegative (.shortest .even x.magnitude)) else none

end Numeral

namespace Json

/-- The text of a string. -/
def text? : Json → Option String
  | .string text => text
  | _ => none

/-- The items of an array. -/
def items? : Json → Option (List Json)
  | .array items => some items
  | _ => none

mutual

/-- How many arrays and objects a value nests. -/
def depth : Json → Nat
  | .null | .bool _ | .number _ | .string _ => 0
  | .array items => 1 + depthAll items
  | .object members => 1 + depthMembers members

/-- How many arrays and objects any of several values nests. -/
def depthAll : List Json → Nat
  | [] => 0
  | item :: items => max item.depth (depthAll items)

/-- How many arrays and objects any member of an object nests. -/
def depthMembers : List (Option String × Json) → Nat
  | [] => 0
  | (_, value) :: members => max value.depth (depthMembers members)

end

end Json

end QueryDefaults
