import QueryDefaults.Text.Unprintable
import QueryDefaults.Text.GraphemeExtend

/-!
# Quoted text

A string is shown between double quotes, with escapes for what could not be told apart on paper: the
quote, the backslash, a few controls by name, and every other character that has no visible form of
its own by its code point.
-/

set_option autoImplicit false

namespace QueryDefaults.Text

/-- Whether a code point lies in one of the inclusive ranges. -/
def inRanges (ranges : List (Nat × Nat)) (code : Nat) : Bool :=
  ranges.any fun (low, high) => low ≤ code && code ≤ high

theorem inRanges_iff {ranges : List (Nat × Nat)} {code : Nat} :
    inRanges ranges code = true ↔ ∃ r ∈ ranges, r.1 ≤ code ∧ code ≤ r.2 := by
  simp [inRanges]

/-- Whether a character stands for itself inside quotes: it is printable and does not combine with
the character before it. -/
def isVisible (c : Char) : Bool :=
  if c.toNat < 0x7F then 0x20 ≤ c.toNat
  else !inRanges graphemeExtendRanges c.toNat && !inRanges unprintableRanges c.toNat

/-- A code point in lower-case hexadecimal without padding, between braces. -/
def codePointEscape (c : Char) : List Char :=
  '\\' :: 'u' :: '\x7b' :: Nat.toDigits 16 c.toNat ++ ['\x7d']

/-- How one character is written between double quotes. -/
def escape (c : Char) : List Char :=
  match c with
  | '\x00' => ['\\', '0']
  | '\t' => ['\\', 't']
  | '\r' => ['\\', 'r']
  | '\n' => ['\\', 'n']
  | '"' => ['\\', '"']
  | '\\' => ['\\', '\\']
  | c => if isVisible c then [c] else codePointEscape c

/-- The text between double quotes, with escapes. -/
def quoted (s : String) : String :=
  String.ofList ('"' :: s.toList.flatMap escape ++ ['"'])

example : quoted "a\x7f\n" = "\"a\\u\x7b7f\x7d\\n\"" := by decide +kernel

example : [0x301, 0x1160, 0xFF9E].map (isVisible ∘ Char.ofNat) = [false, false, true] := by
  decide +kernel

end QueryDefaults.Text
