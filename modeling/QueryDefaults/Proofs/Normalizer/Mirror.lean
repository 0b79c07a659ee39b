import Mathlib.Data.List.Perm.Basic
import QueryDefaults.Proofs.Normalizer.Fusion
import QueryDefaults.Proofs.Normalizer.Tally

/-!
# Comparisons read from the other side

A comparison with the null literal may be written either way round. The *mirror* of a tree has the
two operands of every comparison exchanged, at every depth. A mirrored comparison is a site of the
same shape, because the shape of a comparison is symmetric in its operands (`ofComparison?_comm`),
and its rule puts the empty wrapper where the literal was, on whichever side (`Site.emit_swapped`).
So the mirror has the sites of the tree in another order (`sites_mirror`), rewriting commutes with
mirroring (`rewritten_mirror`), and a run treats both trees alike (`run_of_mirror`).
-/

set_option autoImplicit false

namespace QueryDefaults

open Shape

variable {p : Provider} {rules : RuleSet} {e : Expr} {shape : Shape}

namespace Expr

/-- A comparison with its two operands exchanged; any other node is left as it is. -/
def swapped : Expr → Expr
  | .binary .equal left right ty => .binary .equal right left ty
  | .binary .notEqual left right ty => .binary .notEqual right left ty
  | e => e

/-- The tree with every comparison swapped. -/
def mirror : Expr → Expr := fold fun e operands => (e.withOperands operands).swapped

theorem mirror_eq (e : Expr) : e.mirror = (e.withOperands (e.operands.map mirror)).swapped :=
  fold_eq _ e

theorem swapped_comparison {op : BinaryOp} (compares : op = .equal ∨ op = .notEqual)
    (left right : Expr) (ty : Ty) :
    (binary op left right ty).swapped = binary op right left ty := by
  obtain rfl | rfl := compares <;> rfl

theorem alike_swapped (e : Expr) : e.swapped.Alike e := by
  unfold swapped
  split <;> exact ⟨rfl, rfl⟩

theorem alike_mirror (e : Expr) : e.mirror.Alike e := by
  rw [mirror_eq]
  exact (alike_swapped _).trans (e.alike_withOperands _)

/-- Swapping a node exchanges its operands, or leaves them in their order. -/
theorem operands_swapped (e : Expr) : e.swapped.operands.Perm e.operands := by
  unfold swapped
  split
  · exact .swap _ _ _
  · exact .swap _ _ _
  · rfl

/-- It does not matter whether operands are exchanged for others before or after swapping. -/
theorem withOperands_swapped (e : Expr) (f : Expr → Expr) :
    e.swapped.withOperands (e.swapped.operands.map f) =
      (e.withOperands (e.operands.map f)).swapped := by
  cases e with
  | binary op => cases op <;> rfl
  | call | constant | plain => rfl

theorem mirror_withOperands (e : Expr) (f : Expr → Expr) :
    (e.withOperands (e.operands.map f)).mirror =
      (e.withOperands (e.operands.map fun a => (f a).mirror)).swapped := by
  rw [mirror_eq, operands_withOperands, List.map_map]
  exact congrArg swapped (e.withOperands_withOperands f (mirror ∘ f))

end Expr

open QueryDefaults.Expr

/-! ## Sites -/

/-- The shape of a comparison does not depend on which operand comes first. -/
theorem ofComparison?_comm (p : Provider) (left right : Expr) :
    ofComparison? p left right = ofComparison? p right left := by
  unfold ofComparison?
  cases left.isNullLiteral <;> cases right.isNullLiteral <;> rfl

theorem site?_swapped (p : Provider) (rules : RuleSet) (e : Expr) :
    site? p rules e.swapped = site? p rules e := by
  have same : of? p e.swapped = of? p e := by
    unfold swapped
    split
    · exact ofComparison?_comm p _ _
    · exact ofComparison?_comm p _ _
    · rfl
  rw [site?, find?, same, site?, find?]

/-- The mirror has the sites of the tree, in another order. -/
theorem sites_mirror (p : Provider) (rules : RuleSet) (e : Expr) :
    (e.mirror.sites p rules).Perm (e.sites p rules) := by
  induction e using induction_operands with
  | step e ih =>
    have below : ((e.operands.map mirror).flatMap (sites p rules)).Perm
        (e.operands.flatMap (sites p rules)) := by
      rw [List.flatMap_map]
      exact List.Perm.flatMap_left _ ih
    have order := (operands_swapped (e.withOperands (e.operands.map mirror))).flatMap_right
      (sites p rules)
    rw [operands_withOperands] at order
    rw [mirror_eq, sites_eq, sites_eq p rules e, site?_swapped,
      site?_withOperands fun a _ => alike_mirror a]
    exact (order.trans below).append_left _

theorem settled_mirror : Settled p rules e.mirror ↔ Settled p rules e :=
  forall_congr' fun _ => imp_congr_left (sites_mirror p rules e).mem_iff

/-! ## The rewritten tree -/

/-- What a swapped site emits is what the site emits, swapped. -/
theorem Site.emit_swapped (site : Site p rules e shape) (settled : Expr) (f : Expr → Expr) :
    shape.emit settled e.swapped (e.swapped.operands.map f) =
      (shape.emit settled e (e.operands.map f)).swapped := by
  cases site with
  | empty | first | firstMatch | coalesce => rfl
  | nullRight on compares literal other | nullLeft on compares literal other =>
    rw [swapped_comparison compares]
    simp only [operands, List.map_cons, List.map_nil, emit_nullComparison, literal, other,
      if_true, if_false, Bool.false_eq_true, swapped_comparison compares]

/-- The mirror of an emitted node has the mirrored operands in it. -/
theorem Site.mirror_emit (site : Site p rules e shape) (value : Value) (ty : Ty) (f : Expr → Expr) :
    (shape.emit (.constant value ty) e (e.operands.map f)).mirror =
      (shape.emit (.constant value ty) e (e.operands.map fun a => (f a).mirror)).swapped := by
  cases site with
  | empty | first | firstMatch | coalesce => rfl
  | nullRight on compares literal other | nullLeft on compares literal other =>
    simp only [operands, List.map_cons, List.map_nil, emit_nullComparison, literal, other]
    obtain rfl | rfl := compares <;> rfl

theorem rewriteNode_swapped (p : Provider) (rules : RuleSet) (e : Expr) (f : Expr → Expr) :
    rewriteNode p rules e.swapped (e.swapped.operands.map f) =
      (rewriteNode p rules e (e.operands.map f)).swapped := by
  unfold rewriteNode
  rw [site?_swapped]
  cases found : site? p rules e with
  | none => exact withOperands_swapped e f
  | some shape =>
    cases ok : shape.settle p with
    | error err =>
      simp only [ok]
      exact withOperands_swapped e f
    | ok settled =>
      simp only [ok]
      exact (site?_eq_some_iff.1 found).emit_swapped settled f

theorem mirror_rewriteNode (p : Provider) (rules : RuleSet) (e : Expr) (f : Expr → Expr) :
    (rewriteNode p rules e (e.operands.map f)).mirror =
      (rewriteNode p rules e (e.operands.map fun a => (f a).mirror)).swapped := by
  unfold rewriteNode
  cases found : site? p rules e with
  | none => exact mirror_withOperands e f
  | some shape =>
    cases ok : shape.settle p with
    | error err =>
      simp only [ok]
      exact mirror_withOperands e f
    | ok settled =>
      obtain ⟨value, -, rfl⟩ := settle_eq_ok.1 ok
      simp only [ok]
      exact (site?_eq_some_iff.1 found).mirror_emit value _ f

/-- Rewriting commutes with mirroring. -/
theorem rewritten_mirror (p : Provider) (rules : RuleSet) (e : Expr) :
    rewritten p rules e.mirror = (rewritten p rules e).mirror := by
  induction e using induction_operands with
  | step e ih =>
    have below : e.operands.map (fun a => rewritten p rules a.mirror) =
        e.operands.map fun a => (rewritten p rules a).mirror := List.map_congr_left ih
    calc rewritten p rules e.mirror
        = (rewriteNode p rules (e.withOperands (e.operands.map mirror))
            (e.operands.map fun a => rewritten p rules a.mirror)).swapped := by
          rw [mirror_eq, rewritten_eq, rewriteNode_swapped, operands_withOperands, List.map_map]
          rfl
      _ = (rewriteNode p rules e (e.operands.map fun a => (rewritten p rules a).mirror)).swapped := by
          rw [rewriteNode_withOperands p rules (fun a _ => alike_mirror a), below]
      _ = (rewritten p rules e).mirror := by
          rw [rewritten_eq, mirror_rewriteNode]

/-- **Left and right null literals are treated alike.** A run over the mirror of a tree ends well
exactly when the run over the tree does. Then it gives the mirror of the tree that the other run
gives, it counts every rule as often, and it tells alike whether the tree is the one that went in. -/
theorem run_of_mirror (n : Normalizer) (tree : Expr) :
    ((∃ visit, (n.run tree.mirror).outcome = .ok visit) ↔
      ∃ visit, (n.run tree).outcome = .ok visit) ∧
    ∀ visit, (n.run tree).outcome = .ok visit →
      (n.run tree.mirror).outcome = .ok ⟨visit.tree.mirror, visit.changed⟩ ∧
      (n.after tree.mirror).counts = (n.after tree).counts := by
  have ends : ∀ e visit, (n.run e).outcome = .ok visit ↔
      Settled n.provider n.rules e ∧
        visit = ⟨rewritten n.provider n.rules e, !(e.sites n.provider n.rules).isEmpty⟩ :=
    fun _ _ => visit_eq_ok_iff
  refine ⟨?_, fun visit done => ?_⟩
  · simp only [ends, settled_mirror, exists_and_left, exists_eq, and_true]
  · obtain ⟨ok, rfl⟩ := (ends tree visit).1 done
    have mirrored : Settled n.provider n.rules tree.mirror := settled_mirror.2 ok
    have order := sites_mirror n.provider n.rules tree
    have counted : (n.run tree.mirror).count = (n.run tree).count := RuleCounts.ext_of fun rule =>
      ((visit_settled mirrored).2 rule).trans
        ((order.countP_eq _).trans ((visit_settled ok).2 rule).symm)
    refine ⟨(ends _ _).2 ⟨mirrored, ?_⟩, congrArg (n.counts + ·) counted⟩
    rw [rewritten_mirror, order.isEmpty_eq]

/-- Two comparisons inside a third one, with the literal on the left of the one and on the right of
the other, which also has a `FirstOrDefault` in it. -/
theorem run_of_mirror_nested :
    let n : Normalizer :=
      { provider := (Registry.standard.registerFamily "Maybe" [0, 1]).provider }
    let maybe : Ty := .optional "Maybe" .int64
    let null : Expr := .constant .null maybe
    let empty : Expr := .constant (.wrapped "Maybe" (.int64 0)) maybe
    let w : Expr := .plain (.parameter "w") [] maybe
    let rows : Expr := .plain (.source "rows") [] (.sequence maybe)
    let equal (left right : Expr) : Expr := .binary .equal left right .bool
    let differ (left right : Expr) : Expr := .binary .notEqual left right .bool
    let first : Expr := .call .firstOrDefault [] [rows] maybe
    let routed : Expr := .call .firstOrFallback [] [rows, empty] maybe
    let tree := equal (equal null w) (differ first null)
    tree.mirror = equal (differ null first) (equal w null) ∧
      (n.run tree).outcome = .ok ⟨equal (equal empty w) (differ routed empty), true⟩ ∧
      (n.run tree.mirror).outcome = .ok ⟨equal (differ empty routed) (equal w empty), true⟩ ∧
      (n.after tree).counts = ⟨0, 1, 0, 2⟩ ∧ (n.after tree.mirror).counts = ⟨0, 1, 0, 2⟩ := by
  intro n maybe null empty w rows equal differ first routed tree
  have done : (n.run tree).outcome = .ok ⟨equal (equal empty w) (differ routed empty), true⟩ := rfl
  have counted : (n.after tree).counts = ⟨0, 1, 0, 2⟩ := by decide +kernel
  obtain ⟨ends, counts⟩ := (run_of_mirror n tree).2 _ done
  exact ⟨rfl, done, ends, counted, counts.trans counted⟩

end QueryDefaults
