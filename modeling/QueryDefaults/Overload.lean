import QueryDefaults.Expr
import QueryDefaults.QueryError

/-!
# Overloads of the query operators

The table says which arities each operator has and what each parameter is for. A call built through
`Expr.call?` names an overload of the table; a call built with the constructor need not.
-/

set_option autoImplicit false

namespace QueryDefaults

/-- What a parameter of an overload is for. -/
inductive Parameter where
  /-- An input sequence. -/
  | source
  /-- A Boolean lambda over the rows. -/
  | predicate
  /-- A projection lambda. -/
  | selector
  /-- A value that stands in for a missing row. -/
  | fallback
deriving DecidableEq

/-- One overload of a query operator. -/
structure Overload where
  op : Operator
  params : List Parameter
deriving DecidableEq

namespace Overload

/-- How many arguments an overload takes. -/
def arity (o : Overload) : Nat := o.params.length

/-- Every overload. An operator has at most one for each arity. -/
def table : List Overload :=
  [⟨.filter, [.source, .predicate]⟩,
   ⟨.select, [.source, .selector]⟩,
   ⟨.defaultIfEmpty, [.source]⟩,
   ⟨.defaultIfEmpty, [.source, .fallback]⟩,
   ⟨.firstOrDefault, [.source]⟩,
   ⟨.firstOrDefault, [.source, .predicate]⟩,
   ⟨.first, [.source]⟩,
   ⟨.first, [.source, .predicate]⟩,
   ⟨.concat, [.source, .source]⟩,
   ⟨.count, [.source]⟩,
   ⟨.count, [.source, .predicate]⟩,
   ⟨.any, [.source]⟩,
   ⟨.any, [.source, .predicate]⟩,
   ⟨.firstOrFallback, [.source, .fallback]⟩,
   ⟨.firstOrFallback, [.source, .predicate, .fallback]⟩]

/-- The overload of an operator for a number of arguments. -/
def resolve (op : Operator) (arity : Nat) : Except QueryError Overload :=
  match table.find? fun o => o.op == op && o.arity == arity with
  | some o => .ok o
  | none => .error (.unknownOverload op arity)

/-- No two overloads of the table share operator and arity. -/
theorem nodup_keys : (table.map fun o => (o.op, o.arity)).Nodup := by decide

end Overload

/-- A method call, checked against the table. -/
def Expr.call? (op : Operator) (typeArgs : List Ty) (args : List Expr) (ty : Ty) :
    Except QueryError Expr := do
  let _ ← Overload.resolve op args.length
  return .call op typeArgs args ty

end QueryDefaults
