import Mathlib.Algebra.BigOperators.Group.List.Basic
import QueryDefaults.Proofs.Tree.Fold
import QueryDefaults.Proofs.Tree.Same
import QueryDefaults.Traced

/-!
# Size and weight of trees

The size of a tree is the number of its nodes. The *weight* counts the null literals once and all
other nodes twice. Equal trees weigh the same (`weight_of_same`), so a pass that only ever adds to
the weight gives a tree that differs from its input.
-/

set_option autoImplicit false

namespace QueryDefaults.Expr

theorem nodeCountAll_eq_sum (es : List Expr) : nodeCountAll es = (es.map nodeCount).sum := by
  induction es with
  | nil => rfl
  | cons e es ih => rw [nodeCountAll, ih, List.map_cons, List.sum_cons]

/-- A rebuilt node has its operands and itself. -/
theorem nodeCount_withOperands (e : Expr) (f : Expr → Expr) :
    (e.withOperands (e.operands.map f)).nodeCount =
      1 + ((e.operands.map f).map nodeCount).sum := by
  rw [nodeCount_eq, operands_withOperands, nodeCountAll_eq_sum]

theorem countP_nodes_eq (p : Expr → Bool) (e : Expr) :
    e.nodes.countP p = (e.operands.map fun a => a.nodes.countP p).sum + if p e then 1 else 0 := by
  rw [nodes_eq, List.countP_cons, List.countP_flatMap]
  rfl

/-- What a node weighs without its operands. -/
def ownWeight (e : Expr) : Nat := if e.isNullLiteral then 1 else 2

/-- What a tree weighs. -/
def weight : Expr → Nat := fold fun e below => e.ownWeight + below.sum

theorem weight_eq (e : Expr) : e.weight = e.ownWeight + (e.operands.map weight).sum := by
  unfold weight
  rw [fold_eq]

@[simp] theorem weight_call (op : Operator) (typeArgs : List Ty) (args : List Expr) (ty : Ty) :
    (call op typeArgs args ty).weight = 2 + (args.map weight).sum := weight_eq _

@[simp] theorem weight_binary (op : BinaryOp) (left right : Expr) (ty : Ty) :
    (binary op left right ty).weight = 2 + (left.weight + right.weight) := by
  rw [weight_eq]
  simp [operands, ownWeight, isNullLiteral]

@[simp] theorem weight_constant (value : Value) (ty : Ty) :
    (constant value ty).weight = if value.isNull then 1 else 2 := by
  cases value <;> rfl

theorem weight_pos (e : Expr) : 1 ≤ e.weight := by
  rw [weight_eq, ownWeight]
  split <;> omega

theorem weight_of_same {a b : Expr} (h : same a b = true) : a.weight = b.weight := by
  refine induction_pairs (P := fun a b => a.weight = b.weight) (fun _ _ => operands_of_same)
    (fun a b h below => ?_) h
  have weights : a.operands.map weight = b.operands.map weight := by
    rw [← List.forall₂_eq_eq_eq, List.forall₂_map_left_iff, List.forall₂_map_right_iff]
    exact below
  rw [weight_eq, weight_eq, ownWeight, ownWeight, isNullLiteral_of_same h, weights]

end QueryDefaults.Expr
