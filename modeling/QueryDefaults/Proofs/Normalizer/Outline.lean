import QueryDefaults.Proofs.Normalizer.Failure
import QueryDefaults.Registry.Default

/-!
# What a tree reads

Sources, parameters, lambdas, fields, arrays and negations are the nodes that no rule is about. The
*outline* of a tree lists them in pre-order, each with the plain nodes around it, and with calls,
binary operations and constants left out. A rule moves its operands into another call or operation,
and the only operand that it drops is a null literal, so it leaves the outline as it is
(`Site.outline_emit`). It follows that the rewritten tree reads what the tree reads, as often, in the
same order and under the same lambdas (`keeps_plain_nodes`).
-/

set_option autoImplicit false

namespace QueryDefaults

/-- A plain node without its operands: what it does, its type and how many operands it has. -/
structure PlainMark where
  kind : PlainKind
  type : Ty
  operands : Nat
deriving DecidableEq

/-- Whether a node takes what it gives from outside of its operands. -/
def PlainKind.isRead : PlainKind → Bool
  | .source _ | .parameter _ => true
  | _ => false

def PlainKind.isLambda : PlainKind → Bool
  | .lambda _ => true
  | _ => false

namespace Expr

/-- The mark of a plain node. -/
def plainMark? : Expr → Option PlainMark
  | .plain kind children ty => some ⟨kind, ty, children.length⟩
  | _ => none

/-- The marks of all plain nodes of a tree, in pre-order. -/
def plainMarks (e : Expr) : List PlainMark := e.nodes.filterMap plainMark?

/-- The same marks, each behind the marks of the plain nodes around it, the outermost first. -/
def outline : Expr → List (List PlainMark × PlainMark) :=
  fold fun e below =>
    match e.plainMark? with
    | none => below.flatten
    | some mark => ([], mark) :: below.flatten.map fun (around, inner) => (mark :: around, inner)

/-- The sources and parameters that a tree reads, in pre-order, each behind the lambdas that it
stands under. -/
def reads (e : Expr) : List (List PlainMark × PlainMark) :=
  (e.outline.filter fun (_, mark) => mark.kind.isRead).map fun (around, read) =>
    (around.filter fun mark => mark.kind.isLambda, read)

theorem outline_of_none {e : Expr} (h : e.plainMark? = none) :
    e.outline = e.operands.flatMap outline := by
  unfold outline
  rw [fold_eq, h, List.flatMap_def]

theorem outline_of_some {e : Expr} {mark : PlainMark} (h : e.plainMark? = some mark) :
    e.outline =
      ([], mark) :: (e.operands.flatMap outline).map fun (around, inner) =>
        (mark :: around, inner) := by
  unfold outline
  rw [fold_eq, h, List.flatMap_def]

@[simp] theorem outline_call (op : Operator) (typeArgs : List Ty) (args : List Expr) (ty : Ty) :
    (call op typeArgs args ty).outline = args.flatMap outline := outline_of_none rfl

@[simp] theorem outline_binary (op : BinaryOp) (left right : Expr) (ty : Ty) :
    (binary op left right ty).outline = left.outline ++ right.outline := by
  rw [outline_of_none rfl, operands, List.flatMap_cons, List.flatMap_singleton]

@[simp] theorem outline_constant (value : Value) (ty : Ty) : (constant value ty).outline = [] :=
  outline_of_none rfl

/-- Without the nodes around them, the marks of the outline are the marks of the tree. -/
theorem map_snd_outline (e : Expr) : e.outline.map Prod.snd = e.plainMarks := by
  induction e using induction_operands with
  | step e ih =>
    have below : (e.operands.flatMap outline).map Prod.snd =
        (e.operands.flatMap nodes).filterMap plainMark? := by
      rw [List.map_flatMap, List.filterMap_flatMap]
      exact List.flatMap_congr ih
    rw [plainMarks, nodes_eq, List.filterMap_cons]
    cases found : e.plainMark? with
    | none => rw [outline_of_none found, below]
    | some mark =>
      rw [outline_of_some found, List.map_cons, List.map_map, ← below]
      rfl

theorem plainMark?_withOperands (e : Expr) (f : Expr → Expr) :
    (e.withOperands (e.operands.map f)).plainMark? = e.plainMark? := by
  cases e with
  | plain kind children ty =>
    simp only [withOperands, operands, plainMark?, List.length_map]
  | call | binary | constant => rfl

/-- A node over operands of the same outlines has the same outline. -/
theorem outline_withOperands {e : Expr} {f : Expr → Expr}
    (same : ∀ a ∈ e.operands, (f a).outline = a.outline) :
    (e.withOperands (e.operands.map f)).outline = e.outline := by
  have below : (e.operands.map f).flatMap outline = e.operands.flatMap outline := by
    rw [List.flatMap_map, List.flatMap_congr same]
  have mark := e.plainMark?_withOperands f
  cases found : e.plainMark? with
  | none =>
    rw [outline_of_none (mark.trans found), operands_withOperands, below, outline_of_none found]
  | some _ =>
    rw [outline_of_some (mark.trans found), operands_withOperands, below, outline_of_some found]

/-- A null literal has no plain nodes, nor has what is alike to it. -/
theorem Alike.outline_of_literal {a b : Expr} (h : a.Alike b) (literal : b.isNullLiteral = true) :
    a.outline = [] := by
  obtain ⟨value, ty, rfl⟩ := h.eq_constant literal
  exact outline_constant value ty

end Expr

open QueryDefaults.Expr QueryDefaults.Shape

variable {p : Provider} {rules : RuleSet} {e : Expr} {shape : Shape}

/-- No rule is about a plain node. -/
theorem Site.plainMark?_eq_none (site : Site p rules e shape) : e.plainMark? = none := by
  cases site <;> rfl

/-- An emitted node has the plain nodes of its operands, in the order of the operands. -/
theorem Site.outline_emit (site : Site p rules e shape) (value : Value) (ty : Ty) {f : Expr → Expr}
    (alike : ∀ a ∈ e.operands, (f a).Alike a) :
    (shape.emit (.constant value ty) e (e.operands.map f)).outline =
      (e.operands.map f).flatMap outline := by
  cases site with
  | empty | first | firstMatch | coalesce => simp [operands]
  | @nullRight op left right _ _ _ _ literal other =>
    have gone := (alike right (by simp [operands])).outline_of_literal literal
    simp [operands, other, gone]
  | @nullLeft op left right _ _ _ _ literal =>
    have gone := (alike left (by simp [operands])).outline_of_literal literal
    simp [operands, literal, gone]

/-- The rewritten tree has the outline of the tree. -/
theorem outline_rewritten (p : Provider) (rules : RuleSet) (e : Expr) :
    (rewritten p rules e).outline = e.outline := by
  induction e using induction_operands with
  | step e ih =>
    rw [rewritten_eq]
    obtain rebuilt | ⟨shape, settled, site, done, emitted⟩ := rewriteNode_cases p rules e
      (e.operands.map (rewritten p rules))
    · rw [rebuilt, outline_withOperands ih]
    · obtain ⟨value, -, rfl⟩ := settle_eq_ok.1 done
      rw [emitted, site.outline_emit value _ fun a _ => alike_rewritten p rules a,
        outline_of_none site.plainMark?_eq_none, List.flatMap_map, List.flatMap_congr ih]

/-- **Plain nodes are kept.** A run that ends well gives a tree with the plain nodes of the tree it
got, in the same order, each with its type and its number of operands, and each under the same
plain nodes. So both trees read the same sources and parameters under the same lambdas. -/
theorem keeps_plain_nodes (n : Normalizer) (tree : Expr) {visit : Visit}
    (done : (n.run tree).outcome = .ok visit) :
    visit.tree.plainMarks = tree.plainMarks ∧ visit.tree.outline = tree.outline ∧
      visit.tree.reads = tree.reads := by
  obtain ⟨-, rfl⟩ := visit_eq_ok_iff.1 done
  have same := outline_rewritten n.provider n.rules tree
  exact ⟨by rw [← map_snd_outline, same, map_snd_outline], same, by rw [reads, same, reads]⟩

/-- A site of each rule, with the null literal on the left of a comparison in a lambda: no call and
no operation stays as it was, and `x` is still read under the lambda, between the rows and `y`. -/
theorem keeps_plain_nodes_nested :
    let n : Normalizer := { provider := Registry.standard.provider }
    let wrapper : Ty := .optional "Nullable" .int64
    let rows : Expr := .plain (.source "rows") [] (.sequence .int64)
    let score : Expr := .plain (.field "score") [.plain (.parameter "x") [] .int64] wrapper
    let test : Expr := .plain (.lambda ["x"]) [.binary .equal (.constant .null wrapper) score .bool]
      (.function [.int64] .bool)
    let tree : Expr := .binary .coalesce
      (.call .firstOrDefault [] [.call .defaultIfEmpty [] [rows] (.sequence .int64), test] .int64)
      (.plain (.parameter "y") [] .int64) .int64
    let lambda : PlainMark := ⟨.lambda ["x"], .function [.int64] .bool, 1⟩
    ∃ visit, (n.run tree).outcome = .ok visit ∧ visit.tree.nodeCount = tree.nodeCount + 4 ∧
      visit.tree.plainMarks =
        [⟨.source "rows", .sequence .int64, 0⟩, lambda, ⟨.field "score", wrapper, 1⟩,
          ⟨.parameter "x", .int64, 0⟩, ⟨.parameter "y", .int64, 0⟩] ∧
      visit.tree.reads =
        [([], ⟨.source "rows", .sequence .int64, 0⟩), ([lambda], ⟨.parameter "x", .int64, 0⟩),
          ([], ⟨.parameter "y", .int64, 0⟩)] := by
  intro n wrapper rows score test tree lambda
  have done : (n.run tree).outcome = .ok ⟨rewritten n.provider n.rules tree, true⟩ := rfl
  obtain ⟨marks, -, reads⟩ := keeps_plain_nodes n tree done
  refine ⟨_, done, ?_, marks.trans ?_, reads.trans ?_⟩
  · decide +kernel
  · rfl
  · rfl

end QueryDefaults
