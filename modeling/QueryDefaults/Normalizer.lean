import QueryDefaults.Pass
import QueryDefaults.Shape

/-!
# The default-value normalizer

A query can be answered by a remote engine or by the in-memory evaluator, and the two disagree about
what "nothing" means. The normalizer removes the differences by making every fallback explicit. A
rule applies where its shape is found, its switch is on and the governing type can be built without
arguments; this is decided on the node as it stands, before the operands are visited, and the
application is counted and logged after them. A node that no rule applies to is left to its
operands.
-/

set_option autoImplicit false

namespace QueryDefaults

/-- The default-value normalizer as a pass. Before the operands it settles the shape of the node,
which may fail, and looks up the overload of a call that takes its place; after them it replaces the
node. -/
def defaultValues (p : Provider) (rules : RuleSet) : Pass RuleCounts (Option (Shape × Expr)) where
  enter e :=
    match Shape.find? p rules e with
    | none => pure none
    | some shape =>
      if p.hasDefault shape.governing then do
        let settled ← Traced.ofExcept (shape.settle p)
        Traced.ofExcept (shape.lookUp e.operands.length)
        return some (shape, settled)
      else do
        Traced.emit (.skipped shape.rule shape.governing)
        return none
  leave decision e operands :=
    match decision with
    | none => pure (.rebuild e operands)
    | some (shape, settled) => do
      Traced.emit (shape.applied operands.length)
      Traced.tally (.one shape.rule)
      let tree ← Traced.ofExcept (shape.replacement settled e (operands.map Visit.tree))
      return ⟨tree, true⟩

/-- A normalizer that is used on one tree after another and goes on counting. -/
structure Normalizer where
  provider : Provider
  rules : RuleSet := {}
  counts : RuleCounts := {}

namespace Normalizer

/-- The name of the normalizer. -/
def name : String := "DefaultValue"

/-- What the normalizer does to a tree, which does not depend on earlier trees. -/
def run (n : Normalizer) (tree : Expr) : Traced RuleCounts Visit :=
  (defaultValues n.provider n.rules).visit tree

/-- The normalizer after a tree. What was counted up to a failure stays counted. -/
def after (n : Normalizer) (tree : Expr) : Normalizer :=
  { n with counts := n.counts + (n.run tree).count }

end Normalizer

end QueryDefaults
