import QueryDefaults.Codec
import QueryDefaults.Value

/-!
# Values in JSON

A value is a variant of its sort. A float that is not finite has no numeral. It is written as
`null`, which no reader takes for a float.

Number parsers differ in how exactly they round, and JSON leaves it to them. So which float a
numeral is read as is a parameter of reading; `decode?` rounds correctly.
-/

set_option autoImplicit false

namespace QueryDefaults.Value

mutual

/-- The JSON form of a value. -/
def toJson : Value → Json
  | .null => .ofText "Null"
  | .bool b => .variant "Bool" (.bool b)
  | .int64 n => .variant "Int64" (.number (.ofInt64 n))
  | .float64 x => .variant "Float64" (((Numeral.ofBinary64? x).map Json.number).getD .null)
  | .utf8 text => .variant "Utf8" (.ofText text)
  | .record typeName fields =>
    .variantParts "Record"
      [("type_name", .ofText typeName), ("fields", .array (toJsonFields fields))]
  | .wrapped family payload =>
    .variantParts "Wrapped" [("wrapper", .ofText family), ("payload", payload.toJson)]
  | .sequence items => .variant "Sequence" (.array (toJsonAll items))

/-- Each field as an array of its name and its value. -/
def toJsonFields : List (String × Value) → List Json
  | [] => []
  | (name, v) :: fields => .array [.ofText name, v.toJson] :: toJsonFields fields

/-- The JSON forms of several values. -/
def toJsonAll : List Value → List Json
  | [] => []
  | v :: vs => v.toJson :: toJsonAll vs

end

/-- The content of a variant that nests nothing. -/
def ofScalar? (float? : Numeral → Option Binary64) (tag : String) (content : Json) :
    Option Value :=
  match tag, content with
  | "Bool", .bool b => some (.bool b)
  | "Int64", .number n => .int64 <$> n.toInt64?
  | "Float64", .number n => .float64 <$> float? n
  | "Utf8", .string text => .utf8 <$> text
  | _, _ => none

mutual

/-- Reads a value within a budget of levels. -/
def ofJson? (float? : Numeral → Option Binary64) : Nat → Json → Option Value
  | budget + 2, .object [(some "Sequence", content)] => do
    return .sequence (← (← content.items?).mapM (ofJson? float? budget))
  | budget + 2, .object [(some "Wrapped", content)] => do
    match ← content.parts? ["wrapper", "payload"] with
    | [family, payload] => return .wrapped (← family.text?) (← ofJson? float? budget payload)
    | _ => none
  | budget + 3, .object [(some "Record", content)] => do
    match ← content.parts? ["type_name", "fields"] with
    | [typeName, fields] =>
      return .record (← typeName.text?) (← (← fields.items?).mapM (fieldOfJson? float? budget))
    | _ => none
  | _, .string (some "Null") => some .null
  | _ + 1, .object [(some "Null", .null)] => some .null
  | _ + 1, .object [(some tag, content)] => ofScalar? float? tag content
  | _, _ => none

/-- Reads a field, which is an array of its name and its value. -/
def fieldOfJson? (float? : Numeral → Option Binary64) : Nat → Json → Option (String × Value)
  | budget + 1, .array [name, value] => do return (← name.text?, ← ofJson? float? budget value)
  | _, _ => none

end

/-- The JSON text of a value. -/
def encode (v : Value) : String := v.toJson.render

/-- The value that a JSON text spells, by the way in which floats are read. -/
def decodeBy? (float? : Numeral → Option Binary64) (text : String) : Option Value :=
  Json.parse? text >>= ofJson? float? Json.maxDepth

/-- The value that a JSON text spells, with floats rounded correctly. -/
def decode? (text : String) : Option Value := decodeBy? Numeral.toBinary64? text

end QueryDefaults.Value
