/-!
# Operators

The query operators that a method call names, and the binary operators between two operands.
-/

set_option autoImplicit false

namespace QueryDefaults

/-- A query operator. -/
inductive Operator where
  | filter
  | select
  | defaultIfEmpty
  | firstOrDefault
  | first
  | concat
  | count
  | any
  /-- The first row of the source, or the given fallback when there is none. -/
  | firstOrFallback
deriving DecidableEq

/-- The name of a query operator. -/
def Operator.name : Operator → String
  | .filter => "Where"
  | .select => "Select"
  | .defaultIfEmpty => "DefaultIfEmpty"
  | .firstOrDefault => "FirstOrDefault"
  | .first => "First"
  | .concat => "Concat"
  | .count => "Count"
  | .any => "Any"
  | .firstOrFallback => "FirstOrFallback"

/-- Every query operator. -/
def Operator.all : List Operator :=
  [.filter, .select, .defaultIfEmpty, .firstOrDefault, .first, .concat, .count, .any,
    .firstOrFallback]

/-- A binary operator. -/
inductive BinaryOp where
  /-- The left operand, or the right one when the left one is absent. -/
  | coalesce
  | equal
  | notEqual
  | lessThan
  | lessThanOrEqual
  | greaterThan
  | greaterThanOrEqual
  | andAlso
  | orElse
  | add
  | subtract
  | multiply
deriving DecidableEq

/-- The name of a binary operator. -/
def BinaryOp.name : BinaryOp → String
  | .coalesce => "Coalesce"
  | .equal => "Equal"
  | .notEqual => "NotEqual"
  | .lessThan => "LessThan"
  | .lessThanOrEqual => "LessThanOrEqual"
  | .greaterThan => "GreaterThan"
  | .greaterThanOrEqual => "GreaterThanOrEqual"
  | .andAlso => "AndAlso"
  | .orElse => "OrElse"
  | .add => "Add"
  | .subtract => "Subtract"
  | .multiply => "Multiply"

/-- The sign written between the operands. -/
def BinaryOp.symbol : BinaryOp → String
  | .coalesce => "??"
  | .equal => "=="
  | .notEqual => "!="
  | .lessThan => "<"
  | .lessThanOrEqual => "<="
  | .greaterThan => ">"
  | .greaterThanOrEqual => ">="
  | .andAlso => "&&"
  | .orElse => "||"
  | .add => "+"
  | .subtract => "-"
  | .multiply => "*"

/-- Every binary operator. -/
def BinaryOp.all : List BinaryOp :=
  [.coalesce, .equal, .notEqual, .lessThan, .lessThanOrEqual, .greaterThan, .greaterThanOrEqual,
    .andAlso, .orElse, .add, .subtract, .multiply]

theorem Operator.mem_all (op : Operator) : op ∈ all := by cases op <;> decide

theorem BinaryOp.mem_all (op : BinaryOp) : op ∈ all := by cases op <;> decide

/-- The query operator of the given name. -/
def Operator.ofName? (name : String) : Option Operator := Operator.all.find? (·.name == name)

/-- The binary operator of the given name. -/
def BinaryOp.ofName? (name : String) : Option BinaryOp := BinaryOp.all.find? (·.name == name)

theorem Operator.ofName?_name (op : Operator) : ofName? op.name = some op := by
  cases op <;> decide +kernel

theorem BinaryOp.ofName?_name (op : BinaryOp) : ofName? op.name = some op := by
  cases op <;> decide +kernel

end QueryDefaults
