import QueryDefaults.Pass.Elementary
import QueryDefaults.Proofs.Normalizer.Rewritten
import QueryDefaults.Proofs.Pass.Operands

/-!
# The lowered tree

What the lowering pass makes of a tree, without its errors and counts: a fold that puts the
expansion in the place of every helper call. The pass ends well exactly when every helper call of
the tree has two or three arguments, and then it gives the lowered tree (`lower_eq_ok_iff`).
-/

set_option autoImplicit false

namespace QueryDefaults

namespace Expr

variable {e : Expr}

/-- Whether a node is a helper call, a call of `FirstOrFallback`. -/
def isHelper : Expr → Bool
  | .call op _ _ _ => op = .firstOrFallback
  | _ => false

/-- Whether the pass has an answer at a node: a helper call needs two or three arguments. -/
def Expands (e : Expr) : Prop :=
  e.isHelper = true → e.operands.length = 2 ∨ e.operands.length = 3

/-- The first row of a source, or the fallback: `First(Concat(source, [fallback]))`. -/
def expansion (elem : Ty) (source fallback : Expr) : Expr :=
  .call .first [elem]
    [.call .concat [elem] [source, .plain .newArray [fallback] (.sequence elem)]
      (.sequence elem)] elem

/-- What takes the place of a node: of a helper call its expansion. -/
def lowerNode : Expr → Expr
  | .call .firstOrFallback _ [source, fallback] ty => expansion ty source fallback
  | .call .firstOrFallback _ [source, predicate, fallback] ty =>
    expansion ty (.call .filter [ty] [source, predicate] (.sequence ty)) fallback
  | e => e

/-- Every helper call of a tree can be expanded. -/
def Lowers (e : Expr) : Prop := ∀ node ∈ e.nodes, node.Expands

/-- The tree with every helper call expanded, from the leaves up. -/
def lowered : Expr → Expr := fold fun e operands => lowerNode (e.withOperands operands)

theorem lowered_eq (e : Expr) :
    lowered e = lowerNode (e.withOperands (e.operands.map lowered)) :=
  fold_eq _ e

/-- A tree lowers when its root expands and its operands lower. -/
theorem lowers_iff : e.Lowers ↔ e.Expands ∧ ∀ a ∈ e.operands, a.Lowers := forall_nodes_iff

theorem eq_call_of_isHelper (is : e.isHelper = true) :
    ∃ typeArgs args ty, e = .call .firstOrFallback typeArgs args ty := by
  cases e with
  | call op typeArgs args ty =>
    obtain rfl := of_decide_eq_true is
    exact ⟨typeArgs, args, ty, rfl⟩
  | binary | constant | plain => cases is

theorem isHelper_withOperands (e : Expr) (operands : List Expr) :
    (e.withOperands operands).isHelper = e.isHelper := by
  unfold withOperands
  split <;> rfl

theorem expands_withOperands (e : Expr) (f : Expr → Expr) :
    (e.withOperands (e.operands.map f)).Expands ↔ e.Expands := by
  rw [Expands, isHelper_withOperands, operands_withOperands, List.length_map, Expands]

theorem expands_of_not_isHelper (other : e.isHelper = false) : e.Expands := fun is => by
  rw [other] at is
  cases is

/-- A node that expands is a helper call over a source and a fallback, with or without a predicate
between them, or it is no helper call. -/
theorem Expands.cases (h : e.Expands) :
    (∃ typeArgs source fallback ty,
        e = .call .firstOrFallback typeArgs [source, fallback] ty) ∨
      (∃ typeArgs source predicate fallback ty,
        e = .call .firstOrFallback typeArgs [source, predicate, fallback] ty) ∨
      e.isHelper = false := by
  cases is : e.isHelper with
  | false => exact .inr (.inr rfl)
  | true =>
    obtain ⟨typeArgs, args, ty, rfl⟩ := eq_call_of_isHelper is
    obtain two | three := h is
    · obtain ⟨source, fallback, rfl⟩ := List.length_eq_two.1 two
      exact .inl ⟨_, _, _, _, rfl⟩
    · obtain ⟨source, predicate, fallback, rfl⟩ := List.length_eq_three.1 three
      exact .inr (.inl ⟨_, _, _, _, _, rfl⟩)

theorem lowerNode_of_not_isHelper (other : e.isHelper = false) : lowerNode e = e := by
  unfold lowerNode
  split
  · cases other
  · cases other
  · rfl

/-- The expansion of a helper call is built exactly when the call has two or three arguments. -/
theorem expandFirstOrFallback_eq_ok_iff (typeArgs : List Ty) {args : List Expr} {ty : Ty}
    {expanded : Expr} :
    expandFirstOrFallback .firstOrFallback args ty = .ok expanded ↔
      (call .firstOrFallback typeArgs args ty).Expands ∧
        expanded = lowerNode (.call .firstOrFallback typeArgs args ty) := by
  constructor
  · intro built
    unfold expandFirstOrFallback at built
    rw [if_pos rfl] at built
    split at built
    · cases built
      exact ⟨fun _ => .inl rfl, rfl⟩
    · cases built
      exact ⟨fun _ => .inr rfl, rfl⟩
    · cases built
  · rintro ⟨expands, rfl⟩
    obtain ⟨_, _, _, _, is⟩ | ⟨_, _, _, _, _, is⟩ | other := expands.cases
    · cases is
      rfl
    · cases is
      rfl
    · cases other

/-- A tree without helper calls is its own lowered tree. -/
theorem lowered_eq_self (h : e.nodes.any isHelper = false) : lowered e = e := by
  refine eq_self_of_rebuilds fun node here => ?_
  have other := Bool.eq_false_iff.2 (List.any_eq_false.1 h node here)
  rw [lowered_eq, lowerNode_of_not_isHelper ((isHelper_withOperands node _).trans other)]

end Expr

open QueryDefaults.Expr

variable {e : Expr}

/-- Over its visited operands, a helper call is counted and expanded, if it can be. -/
theorem Pass.leave_lower_of_helper {visits : List Visit} {typeArgs : List Ty} {args : List Expr}
    {ty : Ty} (is : (Visit.rebuild e visits).tree = .call .firstOrFallback typeArgs args ty) :
    lower.leave () e visits =
      ⟨(expandFirstOrFallback .firstOrFallback args ty).map fun expanded => ⟨expanded, true⟩,
        1, []⟩ := by
  simp only [lower, ofLeave, is]
  cases expandFirstOrFallback .firstOrFallback args ty <;> rfl

/-- Any other node is rebuilt. -/
theorem Pass.leave_lower_of_other {visits : List Visit}
    (other : (Visit.rebuild e visits).tree.isHelper = false) :
    lower.leave () e visits = pure (Visit.rebuild e visits) := by
  simp only [lower, ofLeave]
  split
  · rename_i is
    rw [is] at other
    cases other
  · rfl

/-- The pass ends well at a node that expands. -/
theorem Pass.leave_lower_eq_ok_iff {visits : List Visit} {visit : Visit} :
    (lower.leave () e visits).outcome = .ok visit ↔
      (Visit.rebuild e visits).tree.Expands ∧
        visit = ⟨lowerNode (Visit.rebuild e visits).tree,
          (Visit.rebuild e visits).changed || (Visit.rebuild e visits).tree.isHelper⟩ := by
  cases helper : (Visit.rebuild e visits).tree.isHelper with
  | false =>
    rw [leave_lower_of_other helper, lowerNode_of_not_isHelper helper, Bool.or_false]
    simp [Traced.pure_def, expands_of_not_isHelper helper, eq_comm]
  | true =>
    obtain ⟨typeArgs, args, ty, is⟩ := eq_call_of_isHelper helper
    rw [leave_lower_of_helper is, is, Bool.or_true]
    have built := @expandFirstOrFallback_eq_ok_iff typeArgs args ty
    cases done : expandFirstOrFallback .firstOrFallback args ty with
    | error err =>
      rw [done] at built
      exact ⟨nofun, fun h => nomatch built.2 ⟨h.1, rfl⟩⟩
    | ok expanded =>
      obtain ⟨expands, rfl⟩ := built.1 done
      simp [Except.map, expands, eq_comm]

/-- The pass only acts behind the operands of a node. -/
theorem Pass.visit_lower (e : Expr) :
    lower.visit e = (do
      let visits ← lower.visitAll e.operands
      lower.leave () e visits) :=
  visit_ofLeave _ e

/-- A node over its lowered operands. -/
theorem Visit.rebuild_lowered (e : Expr) :
    rebuild e (e.operands.map fun a => ⟨lowered a, a.nodes.any isHelper⟩) =
      ⟨e.withOperands (e.operands.map lowered), e.operands.any fun a => a.nodes.any isHelper⟩ :=
  rebuild_map fun _ _ same => lowered_eq_self same

/-- The pass ends well exactly when the tree lowers, and then it gives the lowered tree, which
counts as changed if there was a helper call. -/
theorem Pass.lower_eq_ok_iff {visit : Visit} :
    (lower.visit e).outcome = .ok visit ↔
      e.Lowers ∧ visit = ⟨lowered e, e.nodes.any isHelper⟩ := by
  induction e using induction_operands generalizing visit with
  | step e ih =>
    rw [visit_lower, Traced.bind_eq_ok, lowers_iff, lowered_eq, any_nodes]
    simp only [visitAll_eq_ok_iff fun a ha _ => ih a ha, leave_lower_eq_ok_iff]
    constructor
    · rintro ⟨visits, ⟨operands, rfl⟩, expands, rfl⟩
      rw [Visit.rebuild_lowered] at expands ⊢
      refine ⟨⟨(expands_withOperands e lowered).1 expands, operands⟩, ?_⟩
      rw [isHelper_withOperands, Bool.or_comm]
    · rintro ⟨⟨expands, operands⟩, rfl⟩
      refine ⟨_, ⟨operands, rfl⟩, ?_⟩
      rw [Visit.rebuild_lowered, isHelper_withOperands, Bool.or_comm]
      exact ⟨(expands_withOperands e lowered).2 expands, rfl⟩

end QueryDefaults
