import QueryDefaults.Operator
import QueryDefaults.Ty
import QueryDefaults.Value

/-!
# Query trees

A query is a tree of four sorts of nodes: method calls on query operators, binary operations,
constants, and plain nodes, which are all the rest: sources, lambda parameters and bodies, field
access, arrays and negation. Every node carries its static type. A call may hold any number of
arguments and a plain node any number of operands; which arities mean something is for the overload
table and the evaluator to say.
-/

set_option autoImplicit false

namespace QueryDefaults

/-- What a plain node does with its operands. -/
inductive PlainKind where
  /-- A named sequence that the host supplies. -/
  | source (name : String)
  /-- A reference to a lambda parameter. -/
  | parameter (name : String)
  /-- A lambda over the operand. -/
  | lambda (params : List String)
  /-- Access to a field of the operand. -/
  | field (name : String)
  /-- An array of the operands. -/
  | newArray
  /-- The negation of the operand. -/
  | not
deriving DecidableEq

/-- A query tree. -/
inductive Expr where
  | call (op : Operator) (typeArgs : List Ty) (args : List Expr) (ty : Ty)
  | binary (op : BinaryOp) (left right : Expr) (ty : Ty)
  | constant (value : Value) (ty : Ty)
  | plain (kind : PlainKind) (children : List Expr) (ty : Ty)
deriving Inhabited

namespace Expr

/-- The type that a node evaluates to. -/
def staticType : Expr → Ty
  | .call _ _ _ ty | .binary _ _ _ ty | .constant _ ty | .plain _ _ ty => ty

/-- The operands of a node, in evaluation order. -/
def operands : Expr → List Expr
  | .call _ _ args _ => args
  | .binary _ left right _ => [left, right]
  | .constant _ _ => []
  | .plain _ children _ => children

/-- The same node over other operands. A binary node takes exactly two and a constant none; any
other number leaves it as it is. -/
def withOperands (e : Expr) (operands : List Expr) : Expr :=
  match e, operands with
  | .call op typeArgs _ ty, args => .call op typeArgs args ty
  | .binary op _ _ ty, [left, right] => .binary op left right ty
  | .plain kind _ ty, children => .plain kind children ty
  | e, _ => e

/-- The value and type of a constant. -/
def asConstant? : Expr → Option (Value × Ty)
  | .constant value ty => some (value, ty)
  | _ => none

/-- Whether a node is a constant. -/
def isConstant (e : Expr) : Bool := e.asConstant?.isSome

/-- Whether a node is the null literal: a constant that holds the absent value. -/
def isNullLiteral : Expr → Bool
  | .constant .null _ => true
  | _ => false

mutual

/-- How many nodes a tree has. -/
def nodeCount : Expr → Nat
  | .call _ _ args _ => 1 + nodeCountAll args
  | .binary _ left right _ => 1 + (left.nodeCount + right.nodeCount)
  | .constant _ _ => 1
  | .plain _ children _ => 1 + nodeCountAll children

/-- How many nodes several trees have together. -/
def nodeCountAll : List Expr → Nat
  | [] => 0
  | e :: es => e.nodeCount + nodeCountAll es

end

/-- The type that a call works over: its first type argument, and without one the element type of
the first argument. -/
def elementTypeOf? (typeArgs : List Ty) (args : List Expr) : Option Ty :=
  typeArgs.head? <|> (args.head?.bind fun a => a.staticType.elementType?)

/-- The type that a method call works over; other nodes have none. -/
def elementType? : Expr → Option Ty
  | .call _ typeArgs args _ => elementTypeOf? typeArgs args
  | _ => none

mutual

/-- Structural equality; constants are compared as values. -/
def same : Expr → Expr → Bool
  | .call f ts as t, .call g us bs u => f == g && ts == us && sameAll as bs && t == u
  | .binary f a b t, .binary g c d u => f == g && same a c && same b d && t == u
  | .constant v t, .constant w u => v == w && t == u
  | .plain k as t, .plain l bs u => k == l && sameAll as bs && t == u
  | _, _ => false

/-- Equality of tree lists, place by place. -/
def sameAll : List Expr → List Expr → Bool
  | [], [] => true
  | a :: as, b :: bs => same a b && sameAll as bs
  | _, _ => false

end

instance : BEq Expr := ⟨same⟩

theorem beq_def (a b : Expr) : (a == b) = same a b := rfl

@[simp] theorem withOperands_operands (e : Expr) : e.withOperands e.operands = e := by
  cases e <;> rfl

@[simp] theorem staticType_withOperands (e : Expr) (es : List Expr) :
    (e.withOperands es).staticType = e.staticType := by
  unfold withOperands
  split <;> rfl

/-- A property holds of every tree if it passes from the operands of a node to the node. -/
theorem induction_operands {P : Expr → Prop}
    (step : ∀ e, (∀ a ∈ e.operands, P a) → P e) (e : Expr) : P e :=
  Expr.rec (motive_1 := P) (motive_2 := fun es => ∀ a ∈ es, P a)
    (fun _ _ args _ ih => step _ ih)
    (fun _ l r _ hl hr => step _ (by simp [operands, hl, hr]))
    (fun _ _ => step _ (by simp [operands]))
    (fun _ children _ ih => step _ ih)
    (by simp)
    (fun _ _ h hs => by simp_all)
    e

/-- A node counts itself and the nodes of its operands. -/
theorem nodeCount_eq (e : Expr) : e.nodeCount = 1 + nodeCountAll e.operands := by
  cases e <;> rfl

end Expr

end QueryDefaults
