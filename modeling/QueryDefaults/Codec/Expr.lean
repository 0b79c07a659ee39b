import QueryDefaults.Codec.Ty
import QueryDefaults.Codec.Value
import QueryDefaults.Expr

/-!
# Trees in JSON

A tree is a variant of its sort of node. Operators are written by their names.
-/

set_option autoImplicit false

namespace QueryDefaults

/-- The JSON form of what a plain node does. -/
def PlainKind.toJson : PlainKind → Json
  | .source name => .variantParts "Source" [("name", .ofText name)]
  | .parameter name => .variantParts "Parameter" [("name", .ofText name)]
  | .lambda params => .variantParts "Lambda" [("params", .array (params.map .ofText))]
  | .field name => .variantParts "Field" [("name", .ofText name)]
  | .newArray => .ofText "NewArray"
  | .not => .ofText "Not"

/-- Reads a record whose only part is a name. -/
def PlainKind.named? (make : String → PlainKind) (content : Json) : Option PlainKind := do
  match ← content.parts? ["name"] with
  | [name] => return make (← name.text?)
  | _ => none

/-- Reads what a plain node does within a budget of levels. -/
def PlainKind.ofJson? : Nat → Json → Option PlainKind
  | _ + 2, .object [(some "Source", content)] => named? .source content
  | _ + 2, .object [(some "Parameter", content)] => named? .parameter content
  | _ + 2, .object [(some "Field", content)] => named? .field content
  | _ + 3, .object [(some "Lambda", content)] => do
    match ← content.parts? ["params"] with
    | [params] => return .lambda (← (← params.items?).mapM Json.text?)
    | _ => none
  | budget, j =>
    match j.unitTag? budget with
    | some "NewArray" => some .newArray
    | some "Not" => some .not
    | _ => none

namespace Expr

mutual

/-- The JSON form of a tree. -/
def toJson : Expr → Json
  | .call op typeArgs args ty =>
    .variantParts "MethodCall"
      [("operator", .ofText op.name), ("type_args", .array (Ty.toJsonAll typeArgs)),
        ("args", .array (toJsonAll args)), ("ty", ty.toJson)]
  | .binary op left right ty =>
    .variantParts "Binary"
      [("op", .ofText op.name), ("left", left.toJson), ("right", right.toJson), ("ty", ty.toJson)]
  | .constant value ty =>
    .variantParts "Constant" [("value", value.toJson), ("ty", ty.toJson)]
  | .plain kind children ty =>
    .variantParts "Opaque"
      [("kind", kind.toJson), ("children", .array (toJsonAll children)), ("ty", ty.toJson)]

/-- The JSON forms of several trees. -/
def toJsonAll : List Expr → List Json
  | [] => []
  | e :: es => e.toJson :: toJsonAll es

end

/-- Reads a tree within a budget of levels. -/
def ofJson? (float? : Numeral → Option Binary64) : Nat → Json → Option Expr
  | budget + 3, .object [(some "MethodCall", content)] => do
    match ← content.parts? ["operator", "type_args", "args", "ty"] with
    | [op, typeArgs, args, ty] =>
      return .call (← op.unitTag? (budget + 1) >>= Operator.ofName?)
        (← (← typeArgs.items?).mapM (Ty.ofJson? budget))
        (← (← args.items?).mapM (ofJson? float? budget))
        (← Ty.ofJson? (budget + 1) ty)
    | _ => none
  | budget + 2, .object [(some "Binary", content)] => do
    match ← content.parts? ["op", "left", "right", "ty"] with
    | [op, left, right, ty] =>
      return .binary (← op.unitTag? budget >>= BinaryOp.ofName?)
        (← ofJson? float? budget left) (← ofJson? float? budget right) (← Ty.ofJson? budget ty)
    | _ => none
  | budget + 2, .object [(some "Constant", content)] => do
    match ← content.parts? ["value", "ty"] with
    | [value, ty] =>
      return .constant (← Value.ofJson? float? budget value) (← Ty.ofJson? budget ty)
    | _ => none
  | budget + 3, .object [(some "Opaque", content)] => do
    match ← content.parts? ["kind", "children", "ty"] with
    | [kind, children, ty] =>
      return .plain (← PlainKind.ofJson? (budget + 1) kind)
        (← (← children.items?).mapM (ofJson? float? budget)) (← Ty.ofJson? (budget + 1) ty)
    | _ => none
  | _, _ => none

/-- The JSON text of a tree. -/
def encode (e : Expr) : String := e.toJson.render

/-- The tree that a JSON text spells, by the way in which floats are read. -/
def decodeBy? (float? : Numeral → Option Binary64) (text : String) : Option Expr :=
  Json.parse? text >>= ofJson? float? Json.maxDepth

/-- The tree that a JSON text spells, with floats rounded correctly. -/
def decode? (text : String) : Option Expr := decodeBy? Numeral.toBinary64? text

end Expr

end QueryDefaults
