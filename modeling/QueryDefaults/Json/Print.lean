import QueryDefaults.Json

/-!
# Writing JSON

JSON is written without blanks. In strings the quote, the backslash and the characters below
`U+0020` are escaped, and all others stand for themselves. The exponent of a number carries its
sign.
-/

set_option autoImplicit false

namespace QueryDefaults

/-- A numeral as it is written. -/
def Numeral.print (n : Numeral) : List Char :=
  let sign := if n.negative then ['-'] else []
  let fraction := if n.fraction.isEmpty then [] else '.' :: n.fraction
  let exponent :=
    match n.exponent with
    | none => []
    | some (true, digits) => 'e' :: '-' :: digits
    | some (false, digits) => 'e' :: '+' :: digits
  sign ++ n.whole ++ fraction ++ exponent

example : (Numeral.ofBinary64? ⟨0x44B52D02C7E14AF6⟩).map Numeral.print =
    some ['1', 'e', '+', '2', '3'] := by
  decide +kernel

namespace Json

/-- One character inside a string. -/
def printChar (c : Char) : List Char :=
  match c with
  | '"' => ['\\', '"']
  | '\\' => ['\\', '\\']
  | '\x08' => ['\\', 'b']
  | '\x0c' => ['\\', 'f']
  | '\n' => ['\\', 'n']
  | '\r' => ['\\', 'r']
  | '\t' => ['\\', 't']
  | c =>
    if c.toNat < 0x20 then
      ['\\', 'u', '0', '0', Nat.digitChar (c.toNat / 16), Nat.digitChar (c.toNat % 16)]
    else [c]

/-- A string between quotes. -/
def printText (text : String) : List Char := '"' :: text.toList.flatMap printChar ++ ['"']

mutual

/-- A JSON value as it is written. -/
def print : Json → List Char
  | .null => ['n', 'u', 'l', 'l']
  | .bool true => ['t', 'r', 'u', 'e']
  | .bool false => ['f', 'a', 'l', 's', 'e']
  | .number numeral => numeral.print
  | .string text => printText (text.getD "")
  | .array items => '[' :: printItems items ++ [']']
  | .object members => '\x7b' :: printMembers members ++ ['\x7d']

/-- Items with commas between them. -/
def printItems : List Json → List Char
  | [] => []
  | [item] => item.print
  | item :: items => item.print ++ ',' :: printItems items

/-- Members with commas between them. -/
def printMembers : List (Option String × Json) → List Char
  | [] => []
  | [(name, value)] => printText (name.getD "") ++ ':' :: value.print
  | (name, value) :: members =>
    printText (name.getD "") ++ ':' :: value.print ++ ',' :: printMembers members

end

/-- The text of a JSON value. -/
def render (j : Json) : String := String.ofList j.print

end Json

end QueryDefaults
