import QueryDefaults.Overload
import QueryDefaults.Event
import QueryDefaults.Provider

/-!
# Shapes

A shape is what a rule looks for: a node whose meaning on absent data is left open. It is recognised
on the node alone, from static types, constants and switches, and it says which type has to be built
without arguments for the rule to apply. A shape whose type can be built is a *site*.
-/

set_option autoImplicit false

namespace QueryDefaults

/-- A shape, with the types that matter to its rule. -/
inductive Shape where
  /-- A one-argument `DefaultIfEmpty` over the given element type. -/
  | emptyFallback (elem : Ty)
  /-- A one- or two-argument `FirstOrDefault` over the given element type. -/
  | firstFallback (elem : Ty)
  /-- A `??` of the given type whose right operand is no constant. -/
  | openCoalesce (ty : Ty)
  /-- A comparison of an optional wrapper of the given type with the null literal. -/
  | nullComparison (wrapper inner : Ty)
deriving DecidableEq

namespace Shape

/-- The rule that looks for a shape. -/
def rule : Shape → Rule
  | .emptyFallback _ => .defaultIfEmpty
  | .firstFallback _ => .firstOrDefault
  | .openCoalesce _ => .coalesce
  | .nullComparison _ _ => .optionalCompare

/-- The type that has to be built without arguments. -/
def governing : Shape → Ty
  | .emptyFallback elem | .firstFallback elem => elem
  | .openCoalesce ty => ty
  | .nullComparison _ inner => inner

/-- The shape of a comparison: exactly one operand is the null literal, and the other has the type
of an optional wrapper. -/
def ofComparison? (p : Provider) (left right : Expr) : Option Shape :=
  if left.isNullLiteral = right.isNullLiteral then none
  else
    let wrapper := (if left.isNullLiteral then right else left).staticType
    (p.innerOfOptional? wrapper).map (.nullComparison wrapper)

/-- The shape of a node. Every other node is left to its operands, and so is a call whose element
type is not known. -/
def of? (p : Provider) : Expr → Option Shape
  | .call .defaultIfEmpty typeArgs [source] _ =>
    (Expr.elementTypeOf? typeArgs [source]).map .emptyFallback
  | .call .firstOrDefault typeArgs [source] _ =>
    (Expr.elementTypeOf? typeArgs [source]).map .firstFallback
  | .call .firstOrDefault typeArgs [source, predicate] _ =>
    (Expr.elementTypeOf? typeArgs [source, predicate]).map .firstFallback
  | .binary .coalesce _ right ty => if right.isConstant then none else some (.openCoalesce ty)
  | .binary .equal left right _ | .binary .notEqual left right _ => ofComparison? p left right
  | _ => none

/-- The shape of a node whose rule is switched on. -/
def find? (p : Provider) (rules : RuleSet) (e : Expr) : Option Shape :=
  (of? p e).filter fun shape => rules.has shape.rule

/-- The constant that settles a shape: the default of its governing type, inside the wrapper when
the shape is a comparison. -/
def settle (p : Provider) (shape : Shape) : Except QueryError Expr := do
  let value ← p.constructDefault shape.governing
  match shape with
  | .nullComparison wrapper _ => return .constant (← p.constructWrapper wrapper value) wrapper
  | shape => return .constant value shape.governing

/-- Looks up the overload of the call that takes the place of a node with so many operands. Where no
call does, there is nothing to look up. -/
def lookUp (shape : Shape) (operands : Nat) : Except QueryError Unit :=
  match shape with
  | .emptyFallback _ => discard (Overload.resolve .defaultIfEmpty 2)
  | .firstFallback _ => discard (Overload.resolve .firstOrFallback (operands + 1))
  | .openCoalesce _ | .nullComparison _ _ => .ok ()

/-- What is logged when a rule is applied to a node of so many operands. -/
def applied (shape : Shape) (operands : Nat) : Event :=
  match shape with
  | .emptyFallback elem => .suppliedDefault elem
  | .firstFallback elem => .routedCall operands elem
  | .openCoalesce ty => .terminatedCoalesce ty
  | .nullComparison wrapper _ => .replacedLiteral wrapper

/-- The node that takes the place of `e`, from its settling constant and its visited operands. -/
def replacement (shape : Shape) (settled : Expr) (e : Expr) (operands : List Expr) :
    Except QueryError Expr :=
  match shape, e, operands with
  | .emptyFallback _, .call _ typeArgs _ ty, args =>
    Expr.call? .defaultIfEmpty typeArgs (args ++ [settled]) ty
  | .firstFallback _, .call _ typeArgs _ ty, args =>
    Expr.call? .firstOrFallback typeArgs (args ++ [settled]) ty
  | .openCoalesce _, .binary _ _ _ ty, [left, right] =>
    .ok (.binary .coalesce (.binary .coalesce left right ty) settled ty)
  | .nullComparison _ _, .binary op literal _ ty, [left, right] =>
    .ok (if literal.isNullLiteral then .binary op settled right ty else .binary op left settled ty)
  | _, e, _ => .ok e

theorem rule_applied (shape : Shape) (operands : Nat) :
    (shape.applied operands).appliedRule? = some shape.rule := by
  cases shape <;> rfl

end Shape

end QueryDefaults
