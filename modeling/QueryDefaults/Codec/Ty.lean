import QueryDefaults.Codec
import QueryDefaults.Ty

/-!
# Types in JSON

The primitive types are bare tags; every other type is a variant with content.
-/

set_option autoImplicit false

namespace QueryDefaults.Ty

mutual

/-- The JSON form of a type. -/
def toJson : Ty → Json
  | .bool => .ofText "Bool"
  | .int64 => .ofText "Int64"
  | .float64 => .ofText "Float64"
  | .utf8 => .ofText "Utf8"
  | .record name => .variant "Record" (.ofText name)
  | .optional family inner =>
    .variantParts "Optional" [("wrapper", .ofText family), ("inner", inner.toJson)]
  | .sequence elem => .variant "Sequence" elem.toJson
  | .function params result =>
    .variantParts "Function" [("params", .array (toJsonAll params)), ("ret", result.toJson)]

/-- The JSON forms of several types. -/
def toJsonAll : List Ty → List Json
  | [] => []
  | ty :: tys => ty.toJson :: toJsonAll tys

end

/-- The type of a tag without content. -/
def ofTag? : String → Option Ty
  | "Bool" => some .bool
  | "Int64" => some .int64
  | "Float64" => some .float64
  | "Utf8" => some .utf8
  | _ => none

/-- Reads a type within a budget of levels. -/
def ofJson? : Nat → Json → Option Ty
  | _ + 1, .object [(some "Record", content)] => .record <$> content.text?
  | budget + 1, .object [(some "Sequence", content)] => .sequence <$> ofJson? budget content
  | budget + 2, .object [(some "Optional", content)] => do
    match ← content.parts? ["wrapper", "inner"] with
    | [family, inner] => return .optional (← family.text?) (← ofJson? budget inner)
    | _ => none
  | budget + 3, .object [(some "Function", content)] => do
    match ← content.parts? ["params", "ret"] with
    | [params, result] =>
      return .function (← (← params.items?).mapM (ofJson? budget)) (← ofJson? (budget + 1) result)
    | _ => none
  | budget, j => j.unitTag? budget >>= ofTag?

/-- The JSON text of a type. -/
def encode (ty : Ty) : String := ty.toJson.render

/-- The type that a JSON text spells. -/
def decode? (text : String) : Option Ty := Json.parse? text >>= ofJson? Json.maxDepth

end QueryDefaults.Ty
