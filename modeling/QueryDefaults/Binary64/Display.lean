import QueryDefaults.Decimal

/-!
# The text of a binary64 number

Numbers are shown in positional notation at every size, with the fewest digits that read back and
no point after a whole number. Of two texts as short and as near, the one away from zero is shown.
-/

set_option autoImplicit false

namespace QueryDefaults

/-- Positional notation of a decimal; a whole number has no point. -/
def Decimal.display (d : Decimal) : String :=
  let (whole, fraction) := d.positional
  String.ofList (if fraction.isEmpty then whole else whole ++ '.' :: fraction)

/-- The shown form of a number: `NaN` without a sign, `inf`, or the shortest decimal. -/
def Binary64.display (x : Binary64) : String :=
  if x.isNaN then "NaN"
  else
    let sign := if x.isNegative then "-" else ""
    sign ++ if x.isFinite then (Decimal.shortest .upper x.magnitude).display else "inf"

example : (Binary64.mk 0x3FB999999999999A).display = "0.1" := by decide +kernel
example : (Binary64.mk 0x8000000000000000).display = "-0" := by decide +kernel
example : (Binary64.mk 0x44B52D02C7E14AF6).display = "1" ++ String.ofList (.replicate 23 '0') := by
  decide +kernel

end QueryDefaults
