import QueryDefaults.Expr
import QueryDefaults.Traced

/-!
# Passes over a tree

A pass looks at a node before its operands, then visits the operands from left to right, and then
builds the node anew from what they became. A node that a pass has nothing to say about is rebuilt
only when one of its operands changed, so that a pass which changes nothing gives back its input.
-/

set_option autoImplicit false

namespace QueryDefaults

/-- What visiting a node gives: a tree, and whether any of its nodes was built anew. -/
structure Visit where
  tree : Expr
  changed : Bool

/-- What a pass does at each node. What it decides before the operands it hands on to after them. -/
structure Pass (κ δ : Type) where
  /-- Looks at the node before its operands. -/
  enter : Expr → Traced κ δ
  /-- Builds the node from what its operands became. -/
  leave : δ → Expr → List Visit → Traced κ Visit

/-- The node over its visited operands; the very same node when none of them changed. -/
def Visit.rebuild (e : Expr) (operands : List Visit) : Visit :=
  if operands.any Visit.changed then ⟨e.withOperands (operands.map Visit.tree), true⟩
  else ⟨e, false⟩

namespace Pass

variable {κ δ : Type} [Tally κ]

mutual

/-- Runs a pass on a tree. -/
def visit (p : Pass κ δ) : Expr → Traced κ Visit
  | .call op typeArgs args ty => do
    let decision ← p.enter (.call op typeArgs args ty)
    let operands ← p.visitAll args
    p.leave decision (.call op typeArgs args ty) operands
  | .binary op left right ty => do
    let decision ← p.enter (.binary op left right ty)
    let left' ← p.visit left
    let right' ← p.visit right
    p.leave decision (.binary op left right ty) [left', right']
  | .constant value ty => do
    let decision ← p.enter (.constant value ty)
    p.leave decision (.constant value ty) []
  | .plain kind children ty => do
    let decision ← p.enter (.plain kind children ty)
    let operands ← p.visitAll children
    p.leave decision (.plain kind children ty) operands

/-- Runs a pass on several trees, from left to right. -/
def visitAll (p : Pass κ δ) : List Expr → Traced κ (List Visit)
  | [] => pure []
  | e :: es => do
    let first ← p.visit e
    let rest ← p.visitAll es
    return first :: rest

end

@[simp] theorem visitAll_nil (p : Pass κ δ) : p.visitAll [] = pure [] := rfl

theorem visitAll_cons (p : Pass κ δ) (e : Expr) (es : List Expr) :
    p.visitAll (e :: es) = (do
      let first ← p.visit e
      let rest ← p.visitAll es
      return first :: rest) := rfl

/-- At every node a pass decides, visits the operands, and builds the node. -/
theorem visit_eq (p : Pass κ δ) (e : Expr) :
    p.visit e = (do
      let decision ← p.enter e
      let operands ← p.visitAll e.operands
      p.leave decision e operands) := by
  cases e <;> simp [visit, Expr.operands, visitAll_cons]

/-- A pass that decides everything after the operands. -/
def ofLeave (leave : Expr → List Visit → Traced κ Visit) : Pass κ Unit where
  enter _ := pure ()
  leave _ := leave

end Pass

end QueryDefaults
