import Mathlib.Algebra.BigOperators.Group.List.Basic
import QueryDefaults.Proofs.Normalizer.Tally
import QueryDefaults.Proofs.Tree.Weight

/-!
# The size of the rewritten tree

A rule adds to a tree what it writes around its site, and nothing else: the operands of the site are
all kept, once each, except for the null literal that a comparison exchanges for another constant.
So the rewritten tree is larger than the tree by what its sites add (`nodeCount_rewritten`), and that
can be told from the counts of the run (`size_accounts_for_counts`).
-/

set_option autoImplicit false

namespace QueryDefaults

open Shape

/-- How many nodes the rule of a shape adds. -/
def Shape.added : Shape → Nat
  -- The default, as one more argument.
  | .emptyFallback _ | .firstFallback _ => 1
  -- The default, and the `??` in front of it.
  | .openCoalesce _ => 2
  -- A constant stands in the place of another one.
  | .nullComparison _ _ => 0

variable {p : Provider} {rules : RuleSet} {e : Expr} {shape : Shape}

/-- What is alike to a null literal is a single node. -/
theorem Expr.Alike.nodeCount_of_literal {a b : Expr} (h : a.Alike b)
    (literal : b.isNullLiteral = true) : a.nodeCount = 1 := by
  obtain ⟨value, ty, rfl⟩ := h.eq_constant literal
  rfl

/-- An emitted node has its operands, itself, and what the rule adds. -/
theorem Site.nodeCount_emit (site : Site p rules e shape) (value : Value) (ty : Ty)
    {f : Expr → Expr} (alike : ∀ a ∈ e.operands, (f a).Alike a) :
    (shape.emit (.constant value ty) e (e.operands.map f)).nodeCount =
      1 + ((e.operands.map f).map Expr.nodeCount).sum + shape.added := by
  cases site with
  | empty | first | firstMatch =>
    simp +arith [Expr.operands, Expr.nodeCount, Expr.nodeCountAll, added]
  | coalesce =>
    simp +arith [Expr.operands, Expr.nodeCount, added]
  | @nullRight op left right _ _ _ _ literal other =>
    have single := (alike right (by simp [Expr.operands])).nodeCount_of_literal literal
    simp [Expr.operands, Expr.nodeCount, added, other, single]
  | @nullLeft op left right _ _ _ _ literal =>
    have single := (alike left (by simp [Expr.operands])).nodeCount_of_literal literal
    simp [Expr.operands, Expr.nodeCount, added, literal, single]

/-- What the sites of a tree add: what the root adds, and what the sites below each operand add. -/
theorem sum_added_sites (p : Provider) (rules : RuleSet) (e : Expr) :
    ((e.sites p rules).map added).sum =
      ((site? p rules e).toList.map added).sum +
        (e.operands.map fun a => ((a.sites p rules).map added).sum).sum := by
  rw [Expr.sites_eq, List.map_append, List.sum_append, List.map_flatMap,
    List.flatMap_def, List.sum_flatten, List.map_map]
  rfl

/-- The rewritten tree has the nodes of the tree and those that its sites add. -/
theorem nodeCount_rewritten (ok : Settled p rules e) :
    (rewritten p rules e).nodeCount = e.nodeCount + ((e.sites p rules).map added).sum := by
  induction e using Expr.induction_operands with
  | step e ih =>
    obtain ⟨root, rest⟩ := settled_iff_operands.1 ok
    have below : ((e.operands.map (rewritten p rules)).map Expr.nodeCount).sum =
        (e.operands.map Expr.nodeCount).sum +
          (e.operands.map fun a => ((a.sites p rules).map added).sum).sum := by
      rw [List.map_map, ← List.sum_map_add]
      exact congrArg List.sum (List.map_congr_left fun a ha => ih a ha (rest a ha))
    rw [rewritten_eq, sum_added_sites, e.nodeCount_eq, Expr.nodeCountAll_eq_sum]
    obtain ⟨found, rebuilt⟩ | ⟨shape, value, site, -, emitted⟩ := rewriteNode_of_settles root
    · rw [rebuilt, Expr.nodeCount_withOperands, below, found]
      simp only [Option.toList_none, List.map_nil, List.sum_nil]
      omega
    · rw [emitted, site.nodeCount_emit value _ fun a _ => alike_rewritten p rules a, below,
        site.site?_eq]
      simp only [Option.toList_some, List.map_cons, List.map_nil, List.sum_cons, List.sum_nil]
      omega

/-- What several sites add, by how many there are of each rule. -/
theorem sum_added (shapes : List Shape) :
    (shapes.map added).sum =
      shapes.countP (fun shape => shape.rule = .defaultIfEmpty) +
        shapes.countP (fun shape => shape.rule = .firstOrDefault) +
        2 * shapes.countP (fun shape => shape.rule = .coalesce) := by
  induction shapes with
  | nil => rfl
  | cons shape shapes ih =>
    rw [List.map_cons, List.sum_cons, ih]
    cases shape <;> simp [added, rule] <;> omega

/-- **Size accounting.** A run that ends well adds one node for each default that it supplied to a
`DefaultIfEmpty` or a `FirstOrDefault`, two for each `??` that it terminated, and none for a
comparison, by what its counts have grown. -/
theorem size_accounts_for_counts (n : Normalizer) (tree : Expr) {visit : Visit}
    (done : (n.run tree).outcome = .ok visit) :
    let grown := (n.run tree).count
    (∀ rule, (n.after tree).counts.of rule = n.counts.of rule + grown.of rule) ∧
      visit.tree.nodeCount = tree.nodeCount + grown.defaultIfEmpty + grown.firstOrDefault +
        2 * grown.coalesce := by
  intro grown
  obtain ⟨ok, rfl⟩ := visit_eq_ok_iff.1 done
  have counts : ∀ rule, grown.of rule =
      (tree.sites n.provider n.rules).countP fun shape => shape.rule = rule := (visit_settled ok).2
  have empty : grown.defaultIfEmpty = _ := counts .defaultIfEmpty
  have first : grown.firstOrDefault = _ := counts .firstOrDefault
  have coalesce : grown.coalesce = _ := counts .coalesce
  refine ⟨n.of_counts_after tree, ?_⟩
  rw [nodeCount_rewritten ok, sum_added, empty, first, coalesce]
  omega

/-- A site of each rule, the others inside the `??`: it grows by two nodes for the `??`, by one for
each of the two calls, and by none for the comparison in the lambda. -/
theorem size_accounts_for_counts_nested :
    let n : Normalizer := { provider := Registry.standard.provider, counts := ⟨3, 0, 2, 5⟩ }
    let wrapper : Ty := .optional "Nullable" .int64
    let param (name : String) (ty : Ty) : Expr := .plain (.parameter name) [] ty
    let rows : Expr := .call .defaultIfEmpty []
      [.plain (.source "rows") [] (.sequence .int64)] (.sequence .int64)
    let test : Expr := .plain (.lambda ["x"])
      [.binary .equal (param "w" wrapper) (.constant .null wrapper) .bool]
      (.function [.int64] .bool)
    let tree : Expr := .binary .coalesce (.call .firstOrDefault [] [rows, test] .int64)
      (param "y" .int64) .int64
    ∃ visit, (n.run tree).outcome = .ok visit ∧ (n.after tree).counts = ⟨4, 1, 3, 6⟩ ∧
      tree.nodeCount = 9 ∧ visit.tree.nodeCount = 13 := by
  intro n wrapper param rows test tree
  have done : (n.run tree).outcome = .ok ⟨rewritten n.provider n.rules tree, true⟩ := rfl
  have counted : (n.run tree).count = ⟨1, 1, 1, 1⟩ := by decide +kernel
  have before : tree.nodeCount = 9 := rfl
  obtain ⟨counts, size⟩ := size_accounts_for_counts n tree done
  rw [counted] at counts
  rw [counted, before] at size
  exact ⟨_, done, RuleCounts.ext_of fun rule => (counts rule).trans (by cases rule <;> rfl), before,
    size⟩

end QueryDefaults
