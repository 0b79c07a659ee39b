import QueryDefaults.Expr

/-!
# The text of a query tree

Calls show their type arguments only when they have some, binary operations stand between
parentheses, and constants show their value without its type.
-/

set_option autoImplicit false

namespace QueryDefaults.Expr

/-- A call from the shown forms of its arguments. -/
def displayCall (op : Operator) (typeArgs : List Ty) (args : List String) : String :=
  let types :=
    if typeArgs.isEmpty then "" else "<" ++ ", ".intercalate (typeArgs.map Ty.display) ++ ">"
  op.name ++ types ++ "(" ++ ", ".intercalate args ++ ")"

/-- A plain node from the shown forms of its operands; sources and parameters show only their
name. -/
def displayPlain (kind : PlainKind) (children : List String) : String :=
  let listed := ", ".intercalate children
  match kind with
  | .source name => "$" ++ name
  | .parameter name => name
  | .lambda params => "|" ++ ", ".intercalate params ++ "| " ++ listed
  | .field name => listed ++ "." ++ name
  | .newArray => "[" ++ listed ++ "]"
  | .not => "!" ++ listed

mutual

/-- The shown form of a tree. -/
def display : Expr → String
  | .call op typeArgs args _ => displayCall op typeArgs (displayAll args)
  | .binary op left right _ => "(" ++ left.display ++ " " ++ op.symbol ++ " " ++ right.display ++ ")"
  | .constant value _ => value.display
  | .plain kind children _ => displayPlain kind (displayAll children)

/-- The shown forms of several trees. -/
def displayAll : List Expr → List String
  | [] => []
  | e :: es => e.display :: displayAll es

end

end QueryDefaults.Expr
