import QueryDefaults.Proofs.Lowering.Commute

/-!
# What lowering leaves

The lowering pass works from the leaves up and does not look at an expansion again. So it meets the
helper calls of a tree in post-order, and it fails at the first of them that has no expansion; and
because the operands of an expansion are lowered already, no helper call is left when it ends well.
The evaluator expands helper calls as it comes to them, inside other expansions and once for each row
of a lambda, and sees no difference (`lowering_expands_every_helper`).
-/

set_option autoImplicit false

namespace QueryDefaults

namespace Expr

variable {e : Expr}

/-- Whether a node is a helper call of which there is no overload. -/
def misapplied (e : Expr) : Bool :=
  e.isHelper && e.operands.length != 2 && e.operands.length != 3

/-- The error that reports a helper call of which there is no overload. -/
def overloadError (e : Expr) : QueryError := .unknownOverload .firstOrFallback e.operands.length

/-- No node of a tree is a helper call. -/
def HelperFree (e : Expr) : Prop := ∀ node ∈ e.nodes, node.isHelper = false

theorem misapplied_eq_false_iff : e.misapplied = false ↔ e.Expands := by
  simp only [misapplied, Expands]
  cases e.isHelper <;> simp [Decidable.or_iff_not_imp_left]

theorem misapplied_withOperands (e : Expr) (f : Expr → Expr) :
    (e.withOperands (e.operands.map f)).misapplied = e.misapplied := by
  rw [misapplied, isHelper_withOperands, operands_withOperands, List.length_map, misapplied]

theorem overloadError_withOperands (e : Expr) (f : Expr → Expr) :
    (e.withOperands (e.operands.map f)).overloadError = e.overloadError := by
  rw [overloadError, operands_withOperands, List.length_map, overloadError]

/-! ## No helper call is left -/

theorem helperFree_iff : e.HelperFree ↔ e.isHelper = false ∧ ∀ a ∈ e.operands, a.HelperFree :=
  forall_nodes_iff

theorem helperFree_plain {kind : PlainKind} {children : List Expr} {ty : Ty} :
    (plain kind children ty).HelperFree ↔ ∀ a ∈ children, a.HelperFree :=
  helperFree_iff.trans (and_iff_right rfl)

theorem helperFree_call {op : Operator} {typeArgs : List Ty} {args : List Expr} {ty : Ty}
    (other : op ≠ .firstOrFallback) :
    (call op typeArgs args ty).HelperFree ↔ ∀ a ∈ args, a.HelperFree :=
  helperFree_iff.trans (and_iff_right (decide_eq_false other))

theorem helperFree_expansion {source fallback : Expr} (elem : Ty) (hs : source.HelperFree)
    (hf : fallback.HelperFree) : (expansion elem source fallback).HelperFree := by
  simp [expansion, helperFree_call, helperFree_plain, hs, hf]

/-- Over operands without helper calls, what takes the place of a node is free of them. -/
theorem helperFree_lowerNode (expands : e.Expands) (each : ∀ a ∈ e.operands, a.HelperFree) :
    (lowerNode e).HelperFree := by
  obtain ⟨_, source, fallback, ty, rfl⟩ | ⟨_, source, predicate, fallback, ty, rfl⟩ | other :=
    expands.cases
  · simp only [operands, List.forall_mem_cons] at each
    exact helperFree_expansion ty each.1 each.2.1
  · simp only [operands, List.forall_mem_cons] at each
    have filtered : (call .filter [ty] [source, predicate] (.sequence ty)).HelperFree := by
      simp [helperFree_call, each]
    exact helperFree_expansion ty filtered each.2.2.1
  · rw [lowerNode_of_not_isHelper other]
    exact helperFree_iff.2 ⟨other, each⟩

theorem helperFree_lowered (lowers : e.Lowers) : (lowered e).HelperFree := by
  induction e using induction_operands with
  | step e ih =>
    obtain ⟨expands, below⟩ := lowers_iff.1 lowers
    rw [lowered_eq]
    refine helperFree_lowerNode ((expands_withOperands e lowered).2 expands) ?_
    rw [operands_withOperands, List.forall_mem_map]
    exact fun a ha => ih a ha (below a ha)

/-- A tree lowers when there is no first node in post-order that does not expand. -/
theorem find?_misapplied_eq_none_iff : e.postorder.find? misapplied = none ↔ e.Lowers := by
  simp only [List.find?_eq_none, mem_postorder, Bool.not_eq_true, misapplied_eq_false_iff]
  rfl

/-- A helper call has no expansion exactly when it has no overload, and then this is reported. -/
theorem expandFirstOrFallback_eq_error_iff (typeArgs : List Ty) {args : List Expr} {ty : Ty}
    {err : QueryError} :
    expandFirstOrFallback .firstOrFallback args ty = .error err ↔
      (call .firstOrFallback typeArgs args ty).misapplied = true ∧
        err = (call .firstOrFallback typeArgs args ty).overloadError := by
  unfold expandFirstOrFallback
  rw [if_pos rfl]
  split
  · exact ⟨nofun, fun h => nomatch h.1⟩
  · exact ⟨nofun, fun h => nomatch h.1⟩
  · rename_i two three
    have none : (call .firstOrFallback typeArgs args ty).misapplied = true := by
      rw [← Bool.not_eq_false, misapplied_eq_false_iff]
      intro expands
      obtain ⟨_, source, fallback, _, same⟩ | ⟨_, source, predicate, fallback, _, same⟩ | other :=
        expands.cases
      · cases same
        exact two _ _ rfl
      · cases same
        exact three _ _ _ rfl
      · cases other
    exact ⟨fun fails => ⟨none, (Except.error.inj fails).symm⟩, fun h => congrArg _ h.2.symm⟩

end Expr

open QueryDefaults.Expr

variable {e : Expr} {err : QueryError}

namespace Pass

/-! ## Where the pass fails -/

/-- Over its visited operands, only a helper call without an overload fails. -/
theorem leave_lower_eq_error_iff {visits : List Visit} :
    (lower.leave () e visits).outcome = .error err ↔
      (Visit.rebuild e visits).tree.misapplied = true ∧
        err = (Visit.rebuild e visits).tree.overloadError := by
  cases helper : (Visit.rebuild e visits).tree.isHelper with
  | false =>
    rw [leave_lower_of_other helper]
    simp [Traced.pure_def, misapplied, helper]
  | true =>
    obtain ⟨typeArgs, args, ty, is⟩ := eq_call_of_isHelper helper
    rw [leave_lower_of_helper is, is, ← expandFirstOrFallback_eq_error_iff]
    cases expandFirstOrFallback .firstOrFallback args ty <;> simp [Except.map]

/-- Operands are visited in order, so they fail at the first node of the first one that fails. -/
theorem visitAll_lower_eq_error_iff {es : List Expr}
    (ih : ∀ a ∈ es, ∀ err, (lower.visit a).outcome = .error err ↔
      ∃ node, a.postorder.find? misapplied = some node ∧ err = node.overloadError) :
    (lower.visitAll es).outcome = .error err ↔
      ∃ node, (es.flatMap postorder).find? misapplied = some node ∧
        err = node.overloadError := by
  induction es with
  | nil => exact ⟨nofun, fun ⟨_, found, _⟩ => nomatch found⟩
  | cons a es ihs =>
    rw [visitAll_cons, Traced.outcome_bind, List.flatMap_cons, List.find?_append]
    cases found : a.postorder.find? misapplied with
    | some node =>
      rw [(ih a List.mem_cons_self node.overloadError).2 ⟨node, found, rfl⟩]
      simp only [Except.bind, Option.some_or, Except.error.injEq, Option.some.injEq, exists_eq_left']
      exact eq_comm
    | none =>
      obtain ⟨visit, done⟩ : ∃ visit, (lower.visit a).outcome = .ok visit :=
        ⟨_, lower_eq_ok_iff.2 ⟨find?_misapplied_eq_none_iff.1 found, rfl⟩⟩
      rw [done, Option.none_or, ← ihs fun b hb => ih b (List.mem_cons_of_mem a hb)]
      simp only [Except.bind, Traced.outcome_bind]
      cases (lower.visitAll es).outcome <;> simp [Traced.pure_def]

/-- The pass fails exactly at the first helper call in post-order that has no overload. -/
theorem lower_eq_error_iff :
    (lower.visit e).outcome = .error err ↔
      ∃ node, e.postorder.find? misapplied = some node ∧ err = node.overloadError := by
  induction e using induction_operands generalizing err with
  | step e ih =>
    rw [visit_lower, Traced.outcome_bind, postorder_eq, List.find?_append]
    cases found : (e.operands.flatMap postorder).find? misapplied with
    | some node =>
      rw [(visitAll_lower_eq_error_iff fun a ha _ => ih a ha).2 ⟨node, found, rfl⟩]
      simp only [Except.bind, Option.some_or, Except.error.injEq, Option.some.injEq, exists_eq_left']
      exact eq_comm
    | none =>
      have below : ∀ a ∈ e.operands, a.Lowers := by
        intro a ha
        rw [← find?_misapplied_eq_none_iff, List.find?_eq_none]
        exact fun node hnode => List.find?_eq_none.1 found node (List.mem_flatMap.2 ⟨a, ha, hnode⟩)
      rw [(visitAll_eq_ok_iff fun a _ _ => lower_eq_ok_iff).2 ⟨below, rfl⟩]
      simp only [Except.bind, leave_lower_eq_error_iff, Visit.rebuild_lowered,
        misapplied_withOperands, overloadError_withOperands, Option.none_or, List.find?_singleton]
      cases e.misapplied <;> simp

/-! ## What the pass counts -/

/-- At one node a helper call is counted, whether it can be expanded or not. -/
theorem count_leave_lower (e : Expr) (visits : List Visit) :
    (lower.leave () e visits).count = if (Visit.rebuild e visits).tree.isHelper then 1 else 0 := by
  cases helper : (Visit.rebuild e visits).tree.isHelper with
  | false =>
    rw [leave_lower_of_other helper]
    rfl
  | true =>
    obtain ⟨typeArgs, args, ty, is⟩ := eq_call_of_isHelper helper
    rw [leave_lower_of_helper is]
    rfl

/-- A pass that ends well has counted every helper call of the tree. -/
theorem count_lower (lowers : e.Lowers) : (lower.visit e).count = e.nodes.countP isHelper := by
  induction e using induction_operands with
  | step e ih =>
    obtain ⟨-, below⟩ := lowers_iff.1 lowers
    have counts : (e.operands.map fun a => (lower.visit a).count) =
        e.operands.map fun a => a.nodes.countP isHelper :=
      List.map_congr_left fun a ha => ih a ha (below a ha)
    rw [visit_lower, visitAll_ok fun a ha => lower_eq_ok_iff.2 ⟨below a ha, rfl⟩,
      Traced.bind_ok _ rfl, counts, count_leave_lower, Visit.rebuild_lowered, isHelper_withOperands,
      nodes_eq, List.countP_cons, List.countP_flatMap]
    rfl

end Pass

/-- **Lowering expands every helper call.** The pass fails exactly on the trees with a helper call of
neither two nor three arguments, with the error for the first one in post-order. When it ends well, no
helper call is left at any depth, each helper call of the tree is counted once, the root keeps its
type, and the lowered tree evaluates in every environment with the outcome of the tree. -/
theorem lowering_expands_every_helper (tree : Expr) :
    (∀ err, (Pass.lower.visit tree).outcome = .error err ↔
      ∃ node, tree.postorder.find? misapplied = some node ∧ err = node.overloadError) ∧
    ((∃ err, (Pass.lower.visit tree).outcome = .error err) ↔
      ∃ node ∈ tree.nodes, node.misapplied = true) ∧
    ∀ visit, (Pass.lower.visit tree).outcome = .ok visit →
      (∀ node ∈ visit.tree.nodes, node.isHelper = false) ∧
      (Pass.lower.visit tree).count = tree.nodes.countP isHelper ∧
      visit.tree.staticType = tree.staticType ∧
      ∀ env, SameOutcome (visit.tree.eval env) (tree.eval env) := by
  refine ⟨fun err => Pass.lower_eq_error_iff, ?_, fun visit done => ?_⟩
  · have some_node : (∃ node ∈ tree.nodes, node.misapplied = true) ↔
        (tree.postorder.find? misapplied).isSome = true := by
      simp only [List.find?_isSome, mem_postorder]
    rw [some_node, Option.isSome_iff_exists]
    simp only [Pass.lower_eq_error_iff]
    exact ⟨fun ⟨_, node, found, _⟩ => ⟨node, found⟩, fun ⟨node, found⟩ => ⟨_, node, found, rfl⟩⟩
  · obtain ⟨lowers, rfl⟩ := Pass.lower_eq_ok_iff.1 done
    exact ⟨helperFree_lowered lowers, Pass.count_lower lowers, (alike_lowered tree).staticType,
      (meaning_lowered Absence.shallow_inMemory tree).sameOutcome⟩

/-- Helper calls in the source, the predicate and the fallback of another one are all expanded. Of two
nested ones without an overload, the inner one is reported. -/
theorem lowering_expands_every_helper_nested :
    let source (name : String) (elem : Ty) : Expr := .plain (.source name) [] (.sequence elem)
    let param : Expr := .plain (.parameter "x") [] .int64
    let helper (args : List Expr) (ty : Ty) : Expr := .call .firstOrFallback [] args ty
    let rows := helper [source "tables" (.sequence .int64), source "rows" .int64]
      (.sequence .int64)
    let test : Expr := .plain (.lambda ["x"])
      [.binary .equal param (helper [source "none" .int64, param] .int64) .bool]
      (.function [.int64] .bool)
    let tree := helper [rows, test,
      helper [source "none" .int64, .constant (.int64 0) .int64] .int64] .int64
    let stuck := helper [param, helper [param] .int64, param, param] .int64
    let env := ((Env.bindSource {} "none" []).bindSource "tables" []).bindSource "rows"
      [.int64 5, .int64 7]
    (Pass.lower.visit tree).outcome = .ok ⟨lowered tree, true⟩ ∧
      (Pass.lower.visit tree).count = 4 ∧ (lowered tree).HelperFree ∧
      tree.eval env = .ok (.int64 5) ∧ (lowered tree).eval env = .ok (.int64 5) ∧
      (Pass.lower.visit stuck).outcome = .error (.unknownOverload .firstOrFallback 1) := by
  intro source param helper rows test tree stuck env
  obtain ⟨-, -, ends⟩ := lowering_expands_every_helper tree
  have done : (Pass.lower.visit tree).outcome = .ok ⟨lowered tree, true⟩ := rfl
  have value : tree.eval env = .ok (.int64 5) := rfl
  obtain ⟨free, counted, -, same⟩ := ends _ done
  have fails := ((lowering_expands_every_helper stuck).1 (.unknownOverload .firstOrFallback 1)).2
    ⟨helper [param] .int64, rfl, rfl⟩
  exact ⟨done, counted, free, value, (same env _).2 value, fails⟩

end QueryDefaults
