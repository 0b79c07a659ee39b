import Mathlib.Algebra.Order.BigOperators.Group.List
import Mathlib.Algebra.Order.Group.Nat
import Mathlib.Tactic.TFAE
import QueryDefaults.Proofs.Normalizer.Again
import QueryDefaults.Proofs.Normalizer.Tally
import QueryDefaults.Proofs.Tree.Weight

/-!
# Trees that stay as they are

A run that ends well gives back the very tree it got, or it counts a rule, and then the tree it
gives differs from the tree it got (`unchanged_tfae`). For the last part it is not enough to count
nodes, because a comparison has as many of them behind its rule as before; but it has lost a null
literal, so it has more weight, as any other replaced site does (`weight_rewritten`).
-/

set_option autoImplicit false

namespace QueryDefaults

open Shape

variable {p : Provider} {rules : RuleSet} {e : Expr} {shape : Shape}

/-- What is alike to a null literal weighs as little as it. -/
theorem Expr.Alike.weight_of_literal {a b : Expr} (h : a.Alike b)
    (literal : b.isNullLiteral = true) : a.weight = 1 := by
  have light := h.isNullLiteral.trans literal
  obtain ⟨value, ty, rfl⟩ := h.eq_constant literal
  rw [isNullLiteral_constant] at light
  rw [weight_constant, if_pos light]

/-- A rebuilt node has its own weight and the weight of its operands. -/
theorem weight_withOperands (e : Expr) (f : Expr → Expr) :
    (e.withOperands (e.operands.map f)).weight =
      e.ownWeight + ((e.operands.map f).map Expr.weight).sum := by
  have own : (e.withOperands (e.operands.map f)).ownWeight = e.ownWeight := by
    rw [Expr.ownWeight, (e.alike_withOperands _).isNullLiteral, Expr.ownWeight]
  rw [Expr.weight_eq, Expr.operands_withOperands, own]

theorem Site.ownWeight_eq (site : Site p rules e shape) : e.ownWeight = 2 := by
  cases site <;> rfl

/-- An emitted node weighs more than its site would over the same operands. -/
theorem Site.lt_weight_emit (site : Site p rules e shape) (wraps : p.WrapsPresent) {value : Value}
    (built : shape.filler p = .ok value) (ty : Ty) {f : Expr → Expr}
    (alike : ∀ a ∈ e.operands, (f a).Alike a) :
    e.ownWeight + ((e.operands.map f).map Expr.weight).sum <
      (shape.emit (.constant value ty) e (e.operands.map f)).weight := by
  have present := present_of_filler wraps built
  have settled := (Expr.constant value ty).weight_pos
  rw [site.ownWeight_eq]
  cases site with
  | empty | first | firstMatch | coalesce =>
    simp only [Expr.operands, List.map_cons, List.map_nil, List.sum_cons, List.sum_nil, emit_empty,
      emit_first, emit_firstMatch, emit_coalesce, Expr.weight_call, Expr.weight_binary]
    omega
  | @nullRight op left right _ _ _ _ literal other =>
    have light := (alike right (by simp [Expr.operands])).weight_of_literal literal
    simp [Expr.operands, other, light, present rfl]
  | @nullLeft op left right _ _ _ _ literal =>
    have light := (alike left (by simp [Expr.operands])).weight_of_literal literal
    simp [Expr.operands, literal, light, present rfl]

/-- Every site of a tree adds to the weight of the rewritten tree. -/
theorem weight_rewritten (wraps : p.WrapsPresent) (ok : Settled p rules e) :
    e.weight + (e.sites p rules).length ≤ (rewritten p rules e).weight := by
  induction e using Expr.induction_operands with
  | step e ih =>
    obtain ⟨root, rest⟩ := settled_iff_operands.1 ok
    have below : (e.operands.map Expr.weight).sum +
          (e.operands.flatMap (Expr.sites p rules)).length ≤
        ((e.operands.map (rewritten p rules)).map Expr.weight).sum := by
      rw [List.length_flatMap, ← List.sum_map_add, List.map_map]
      exact List.sum_le_sum fun a ha => ih a ha (rest a ha)
    rw [rewritten_eq, Expr.weight_eq e, Expr.sites_eq, List.length_append]
    obtain ⟨found, rebuilt⟩ | ⟨shape, value, site, built, emitted⟩ := rewriteNode_of_settles root
    · rw [rebuilt, weight_withOperands, found, Option.toList_none, List.length_nil]
      omega
    · have grows := site.lt_weight_emit wraps built shape.fillerType
        fun a _ => alike_rewritten p rules a
      rw [emitted, site.site?_eq, Option.toList_some, List.length_singleton]
      omega

/-- A tree that is rewritten to an equal one has no site. -/
theorem sites_eq_nil_of_same (wraps : p.WrapsPresent) (ok : Settled p rules e)
    (same : Expr.same (rewritten p rules e) e = true) : e.sites p rules = [] := by
  have heavier := weight_rewritten wraps ok
  rw [Expr.weight_of_same same] at heavier
  exact List.length_eq_zero_iff.1 (by omega)

/-- A normalizer has its counts after a tree exactly when no node of the tree is a site. -/
theorem counts_after_eq_iff (n : Normalizer) {tree : Expr} (ok : Settled n.provider n.rules tree) :
    (n.after tree).counts = n.counts ↔ tree.sites n.provider n.rules = [] := by
  have grown : ∀ rule, (n.after tree).counts.of rule = n.counts.of rule +
      (tree.sites n.provider n.rules).countP fun shape => shape.rule = rule := fun rule => by
    rw [Normalizer.of_counts_after]
    exact congrArg _ ((visit_settled ok).2 rule)
  constructor
  · intro same
    rw [List.eq_nil_iff_forall_not_mem]
    intro shape here
    have counted := grown shape.rule
    rw [same, left_eq_add, List.countP_eq_zero] at counted
    exact counted shape here (by simp)
  · intro none
    refine RuleCounts.ext_of fun rule => ?_
    rw [grown, none]
    rfl

/-- **Unchanged trees.** When a run ends well, these say the same: the result is the very tree that
went in, no count has moved, and the result is equal to the tree that went in. A tree without sites
is always given back as it is. -/
theorem unchanged_tfae (n : Normalizer) {registry : Registry}
    (wraps : n.provider.constructWrapper = registry.constructWrapper) (tree : Expr) :
    (∀ visit, (n.run tree).outcome = .ok visit →
      [visit.changed = false, (n.after tree).counts = n.counts,
        (visit.tree == tree) = true].TFAE ∧
      (visit.changed = false → visit.tree = tree)) ∧
    ((∀ node ∈ tree.nodes, ∀ shape, ¬ Site n.provider n.rules node shape) →
      (n.run tree).outcome = .ok ⟨tree, false⟩) := by
  have wraps := Provider.WrapsPresent.of_registry wraps
  refine ⟨fun visit done => ?_, fun clear => ?_⟩
  · obtain ⟨ok, rfl⟩ := visit_eq_ok_iff.1 done
    have unchanged : (!(tree.sites n.provider n.rules).isEmpty) = false ↔
        tree.sites n.provider n.rules = [] := by simp
    refine ⟨?_, fun same => rewritten_eq_self (unchanged.1 same)⟩
    rw [counts_after_eq_iff n ok, unchanged]
    tfae_have 1 → 2 := id
    tfae_have 2 → 3 := fun none => by
      rw [rewritten_eq_self none]
      exact tree.same_self
    tfae_have 3 → 1 := sites_eq_nil_of_same wraps ok
    tfae_finish
  · have none : tree.sites n.provider n.rules = [] := by
      rw [Expr.sites, List.filterMap_eq_nil_iff]
      exact fun node hnode => site?_eq_none_iff.2 (clear node hnode)
    have ok : Settled n.provider n.rules tree := fun shape here => by
      rw [none] at here
      cases here
    have done := (visit_settled ok).1
    rw [rewritten_eq_self none, none] at done
    exact done

/-- A comparison has as many nodes behind its rule as before, and yet it differs from what it was.
The row parameter beside it has no site and comes back as it is. -/
theorem unchanged_tfae_comparison :
    let n : Normalizer := { provider := Registry.standard.provider }
    let wrapper : Ty := .optional "Nullable" .int64
    let param : Expr := .plain (.parameter "w") [] wrapper
    let isNull (literal : Value) : Expr :=
      .binary .equal param (.constant literal wrapper) .bool
    let tree := isNull .null
    let closed := isNull (.wrapped "Nullable" (.int64 0))
    (n.run tree).outcome = .ok ⟨closed, true⟩ ∧ closed.nodeCount = tree.nodeCount ∧
      (n.after tree).counts ≠ n.counts ∧ (closed == tree) = false ∧
      (n.run param).outcome = .ok ⟨param, false⟩ ∧ (n.after param).counts = n.counts := by
  intro n wrapper param isNull tree closed
  have run : (n.run tree).outcome = .ok ⟨closed, true⟩ := rfl
  have wraps : n.provider.constructWrapper = Registry.standard.constructWrapper := rfl
  have differs := ((unchanged_tfae n wraps tree).1 _ run).1
  have clear : ∀ node ∈ param.nodes, ∀ shape, ¬ Site n.provider n.rules node shape := by
    intro node here shape site
    obtain rfl := List.mem_singleton.1 here
    cases site
  have stays := (unchanged_tfae n wraps param).2 clear
  have counts := (((unchanged_tfae n wraps param).1 _ stays).1.out 0 1).1 rfl
  refine ⟨run, rfl, fun same => ?_, ?_, stays, counts⟩
  · cases (differs.out 0 1).2 same
  · refine Bool.eq_false_iff.2 fun same => ?_
    cases (differs.out 0 2).2 same

end QueryDefaults
