import QueryDefaults.Json

/-!
# Reading JSON

The grammar of JSON and nothing beyond it: blanks may stand around values and signs, numerals have
no superfluous zeros, strings hold no bare control characters, and after the value only blanks may
follow.
-/

set_option autoImplicit false

namespace QueryDefaults

/-- Splits off the digits at the front. -/
def Numeral.spanDigits (cs : List Char) : List Char × List Char :=
  (cs.takeWhile Char.isDigit, cs.dropWhile Char.isDigit)

/-- Splits off a point and the digits behind it, of which there must be some. -/
def Numeral.spanFraction : List Char → Option (List Char × List Char)
  | '.' :: cs =>
    let (digits, rest) := spanDigits cs
    if digits.isEmpty then none else some (digits, rest)
  | cs => some ([], cs)

/-- Splits off an exponent with its sign. -/
def Numeral.spanExponent (cs : List Char) : Option (Option (Bool × List Char) × List Char) :=
  match cs with
  | 'e' :: cs | 'E' :: cs =>
    let (negative, cs) :=
      match cs with
      | '-' :: cs => (true, cs)
      | '+' :: cs => (false, cs)
      | cs => (false, cs)
    let (digits, rest) := spanDigits cs
    if digits.isEmpty then none else some (some (negative, digits), rest)
  | cs => some (none, cs)

/-- Reads a numeral at the front. -/
def Numeral.parse? (cs : List Char) : Option (Numeral × List Char) := do
  let (negative, cs) :=
    match cs with
    | '-' :: cs => (true, cs)
    | cs => (false, cs)
  let (whole, cs) := spanDigits cs
  if whole.isEmpty || (whole.head? == some '0' && whole.length != 1) then none
  else do
    let (fraction, cs) ← spanFraction cs
    let (exponent, cs) ← spanExponent cs
    return (⟨negative, whole, fraction, exponent⟩, cs)

namespace Json

/-- A piece of a string as it is written: a character, or one half of a surrogate pair. -/
inductive Piece where
  | char (c : Char)
  | surrogate (unit : Nat)

/-- The piece that a 16-bit unit stands for. -/
def Piece.ofUnit (unit : Nat) : Piece :=
  if 0xD800 ≤ unit ∧ unit < 0xE000 then .surrogate unit else .char (Char.ofNat unit)

/-- The characters of a string; a surrogate counts only together with its other half. -/
def Piece.join? : List Piece → Option (List Char)
  | [] => some []
  | .char c :: pieces => (c :: ·) <$> join? pieces
  | .surrogate high :: .surrogate low :: pieces =>
    if high < 0xDC00 ∧ 0xDC00 ≤ low then
      (Char.ofNat (0x10000 + (high - 0xD800) * 0x400 + (low - 0xDC00)) :: ·) <$> join? pieces
    else none
  | .surrogate _ :: _ => none

/-- The value of a hexadecimal digit of either case. -/
def hexValue? (c : Char) : Option Nat :=
  if '0' ≤ c ∧ c ≤ '9' then some (c.toNat - '0'.toNat)
  else if 'a' ≤ c ∧ c ≤ 'f' then some (c.toNat - 'a'.toNat + 10)
  else if 'A' ≤ c ∧ c ≤ 'F' then some (c.toNat - 'A'.toNat + 10)
  else none

/-- The unit that four hexadecimal digits spell. -/
def hexUnit? (a b c d : Char) : Option Nat := do
  return ((← hexValue? a) * 16 + (← hexValue? b)) * 256 + (← hexValue? c) * 16 + (← hexValue? d)

/-- The character that a backslash and one more character stand for. -/
def unescape? : Char → Option Char
  | '"' => some '"'
  | '\\' => some '\\'
  | '/' => some '/'
  | 'b' => some '\x08'
  | 'f' => some '\x0c'
  | 'n' => some '\n'
  | 'r' => some '\r'
  | 't' => some '\t'
  | _ => none

/-- Reads the pieces of a string up to and with its closing quote. -/
def parsePieces? : List Char → Option (List Piece × List Char)
  | [] => none
  | '"' :: cs => some ([], cs)
  | '\\' :: 'u' :: a :: b :: c :: d :: cs => do
    let unit ← hexUnit? a b c d
    let (pieces, rest) ← parsePieces? cs
    return (.ofUnit unit :: pieces, rest)
  | '\\' :: c :: cs => do
    let c ← unescape? c
    let (pieces, rest) ← parsePieces? cs
    return (.char c :: pieces, rest)
  | c :: cs =>
    if c.toNat < 0x20 then none
    else do
      let (pieces, rest) ← parsePieces? cs
      return (.char c :: pieces, rest)

/-- Reads a string behind its opening quote. -/
def parseText? (cs : List Char) : Option (Option String × List Char) := do
  let (pieces, rest) ← parsePieces? cs
  return ((Piece.join? pieces).map String.ofList, rest)

/-- The blanks of JSON. -/
def isBlank (c : Char) : Bool := c == ' ' || c == '\t' || c == '\n' || c == '\r'

/-- Passes over blanks. -/
def skipBlanks (cs : List Char) : List Char := cs.dropWhile isBlank

mutual

/-- Reads a value at the front, with blanks before it. -/
def parseValue? : Nat → List Char → Option (Json × List Char)
  | 0, _ => none
  | fuel + 1, cs =>
    match skipBlanks cs with
    | 'n' :: 'u' :: 'l' :: 'l' :: cs => some (.null, cs)
    | 't' :: 'r' :: 'u' :: 'e' :: cs => some (.bool true, cs)
    | 'f' :: 'a' :: 'l' :: 's' :: 'e' :: cs => some (.bool false, cs)
    | '"' :: cs => do
      let (text, cs) ← parseText? cs
      return (.string text, cs)
    | '[' :: cs =>
      match skipBlanks cs with
      | ']' :: cs => some (.array [], cs)
      | cs => do
        let (items, cs) ← parseItems? fuel cs
        return (.array items, cs)
    | '\x7b' :: cs =>
      match skipBlanks cs with
      | '\x7d' :: cs => some (.object [], cs)
      | cs => do
        let (members, cs) ← parseMembers? fuel cs
        return (.object members, cs)
    | cs => do
      let (numeral, cs) ← Numeral.parse? cs
      return (.number numeral, cs)

/-- Reads at least one item, up to and with the closing bracket. -/
def parseItems? : Nat → List Char → Option (List Json × List Char)
  | 0, _ => none
  | fuel + 1, cs => do
    let (item, cs) ← parseValue? fuel cs
    match skipBlanks cs with
    | ',' :: cs => do
      let (items, cs) ← parseItems? fuel cs
      return (item :: items, cs)
    | ']' :: cs => some ([item], cs)
    | _ => none

/-- Reads at least one member, up to and with the closing brace. -/
def parseMembers? : Nat → List Char → Option (List (Option String × Json) × List Char)
  | 0, _ => none
  | fuel + 1, cs =>
    match skipBlanks cs with
    | '"' :: cs => do
      let (name, cs) ← parseText? cs
      match skipBlanks cs with
      | ':' :: cs => do
        let (value, cs) ← parseValue? fuel cs
        match skipBlanks cs with
        | ',' :: cs => do
          let (members, cs) ← parseMembers? fuel cs
          return ((name, value) :: members, cs)
        | '\x7d' :: cs => some ([(name, value)], cs)
        | _ => none
      | _ => none
    | _ => none

end

/-- Reads a text as one JSON value. Two steps for each character are more than the reader ever
takes. -/
def parse? (text : String) : Option Json := do
  let cs := text.toList
  let (value, rest) ← parseValue? (2 * cs.length + 2) cs
  if (skipBlanks rest).isEmpty then some value else none

end Json

end QueryDefaults
