import Mathlib.Algebra.BigOperators.Group.List.Basic
import QueryDefaults.Pass.Elementary
import QueryDefaults.Proofs.Eval.Below
import QueryDefaults.Proofs.Pass.Operands
import QueryDefaults.Proofs.Registry.Context
import QueryDefaults.Proofs.Tree.Weight

/-!
# Sums of constants

A sum of constants is an integer constant or an addition of two sums of constants, and its total is
the sum of its constants with wrap-around. The folding pass looks at an addition when its operands
are folded already, and a folded sum of constants is a constant. So one run puts the total in the
place of every sum of constants, however deep (`Pass.visit_foldAdd`), and leaves nothing to a second
one. What is shown of the folded tree follows the sums of constants and the nodes around them
(`summed_induction`). The evaluator does not wrap around: a sum that leaves the range of integers is
a fault if it is evaluated, and the folded tree has a value there. So the folded tree has the value
of the tree whenever the tree has one (`below_summed`), but not the other way round.
-/

set_option autoImplicit false

namespace QueryDefaults

/-- An integer that is in range is itself with wrap-around. -/
theorem Value.of_ofInt {n : Int} {value : Value} (inRange : ofInt n = .ok value) :
    value = .int64 (.ofInt n) := by
  unfold ofInt int64OfInt? at inRange
  split at inRange
  · rename_i found
    split at found <;> cases found
    exact (Except.ok.inj inRange).symm
  · cases inRange

namespace Expr

/-- A sum of constants, with its total. -/
inductive SumsTo : Expr → Int64 → Prop where
  | constant (n : Int64) (ty : Ty) : SumsTo (.constant (.int64 n) ty) n
  | add {left right : Expr} {a b : Int64} (sumLeft : SumsTo left a) (sumRight : SumsTo right b)
      (ty : Ty) : SumsTo (.binary .add left right ty) (a + b)

/-- The total of a sum of constants; other trees have none. -/
def total? : Expr → Option Int64
  | .constant (.int64 n) _ => some n
  | .binary .add left right _ => do
    let a ← left.total?
    let b ← right.total?
    return a + b
  | _ => none

/-- Whether a node is an addition of two sums of constants. -/
def folds : Expr → Bool
  | .binary .add left right _ => left.total?.isSome && right.total?.isSome
  | _ => false

/-- Whether a node is an addition of two integer constants. -/
def addsConstants : Expr → Bool
  | .binary .add (.constant (.int64 _) _) (.constant (.int64 _) _) _ => true
  | _ => false

/-- The tree with its total in the place of every sum of constants. -/
def summed : Expr → Expr := fold fun e operands =>
  match e.total? with
  | some n => .constant (.int64 n) e.staticType
  | none => e.withOperands operands

variable {e : Expr} {n : Int64}

theorem SumsTo.total?_eq (h : SumsTo e n) : e.total? = some n := by
  induction h with
  | constant n ty => rfl
  | add _ _ ty left right => simp [total?, left, right]

theorem sumsTo_of_total? (h : e.total? = some n) : SumsTo e n := by
  induction e using induction_operands generalizing n with
  | step e ih =>
    unfold total? at h
    split at h
    · cases h
      exact .constant _ _
    · rename_i left right ty
      obtain ⟨a, ha, h⟩ := Option.bind_eq_some_iff.1 h
      obtain ⟨b, hb, h⟩ := Option.bind_eq_some_iff.1 h
      cases h
      exact .add (ih left (by simp [operands]) ha) (ih right (by simp [operands]) hb) ty
    · cases h

theorem folds_add {left right : Expr} {a b : Int64} (hl : SumsTo left a) (hr : SumsTo right b)
    (ty : Ty) : (binary .add left right ty).folds = true := by
  simp [folds, hl.total?_eq, hr.total?_eq]

theorem folds_iff :
    e.folds = true ↔ ∃ left right ty a b,
      e = .binary .add left right ty ∧ SumsTo left a ∧ SumsTo right b := by
  constructor
  · intro h
    unfold folds at h
    split at h
    · obtain ⟨hl, hr⟩ := Bool.and_eq_true_iff.1 h
      obtain ⟨a, left⟩ := Option.isSome_iff_exists.1 hl
      obtain ⟨b, right⟩ := Option.isSome_iff_exists.1 hr
      exact ⟨_, _, _, a, b, rfl, sumsTo_of_total? left, sumsTo_of_total? right⟩
    · cases h
  · rintro ⟨left, right, ty, a, b, rfl, hl, hr⟩
    exact folds_add hl hr ty

theorem addsConstants_iff :
    e.addsConstants = true ↔ ∃ a t b u ty,
      e = .binary .add (.constant (.int64 a) t) (.constant (.int64 b) u) ty := by
  constructor
  · intro h
    unfold addsConstants at h
    split at h
    · exact ⟨_, _, _, _, _, rfl⟩
    · cases h
  · rintro ⟨a, t, b, u, ty, rfl⟩
    rfl

/-! ## The summed tree -/

theorem summed_eq (e : Expr) :
    summed e =
      match e.total? with
      | some n => .constant (.int64 n) e.staticType
      | none => e.withOperands (e.operands.map summed) :=
  fold_eq _ e

theorem SumsTo.summed_eq (h : SumsTo e n) : summed e = .constant (.int64 n) e.staticType := by
  rw [Expr.summed_eq, h.total?_eq]

/-- A node that is no addition of two sums of constants stays. -/
theorem summed_of_not_folds (other : e.folds = false) :
    summed e = e.withOperands (e.operands.map summed) := by
  cases total : e.total? with
  | none => rw [summed_eq, total]
  | some n =>
    cases sumsTo_of_total? total with
    | constant n ty => rfl
    | add left right ty =>
      rw [folds_add left right ty] at other
      cases other

/-- What holds of an addition of two sums of constants beside its total, and passes from the
operands of any other node to the node over its summed operands, holds of every tree beside its
summed tree. -/
theorem summed_induction {P : Expr → Expr → Prop}
    (total : ∀ {left right : Expr} {a b : Int64} (ty : Ty), SumsTo left a → SumsTo right b →
      P left (.constant (.int64 a) left.staticType) →
      P right (.constant (.int64 b) right.staticType) →
      P (.binary .add left right ty) (.constant (.int64 (a + b)) ty))
    (stays : ∀ e, e.folds = false → (∀ a ∈ e.operands, P a (summed a)) →
      P e (e.withOperands (e.operands.map summed)))
    (e : Expr) : P e (summed e) := by
  induction e using induction_operands with
  | step e ih =>
    cases folding : e.folds with
    | true =>
      obtain ⟨left, right, ty, a, b, rfl, hl, hr⟩ := folds_iff.1 folding
      have below := And.intro (ih left (by simp [operands])) (ih right (by simp [operands]))
      rw [hl.summed_eq, hr.summed_eq] at below
      rw [(hl.add hr ty).summed_eq]
      exact total ty hl hr below.1 below.2
    | false =>
      rw [summed_of_not_folds folding]
      exact stays e folding ih

/-- Only a sum of constants becomes an integer constant. -/
theorem sumsTo_of_summed {ty : Ty} (is : summed e = .constant (.int64 n) ty) : SumsTo e n := by
  rw [summed_eq] at is
  split at is
  · rename_i m total
    cases is
    exact sumsTo_of_total? total
  · cases e with
    | constant value ty =>
      cases is
      exact .constant n _
    | call | plain => cases is
    | binary => cases is

/-- Over its summed operands, a node adds two constants if it is an addition of two sums of
constants. -/
theorem addsConstants_withOperands (e : Expr) :
    (e.withOperands (e.operands.map summed)).addsConstants = e.folds := by
  rw [Bool.eq_iff_iff, folds_iff, addsConstants_iff]
  constructor
  · rintro ⟨a, t, b, u, ty, is⟩
    cases e with
    | binary op left right ty =>
      obtain ⟨rfl, hl, hr, rfl⟩ := binary.inj is
      exact ⟨left, right, ty, a, b, rfl, sumsTo_of_summed hl, sumsTo_of_summed hr⟩
    | call | constant | plain => cases is
  · rintro ⟨left, right, ty, a, b, rfl, hl, hr⟩
    refine ⟨a, left.staticType, b, right.staticType, ty, ?_⟩
    rw [← hl.summed_eq, ← hr.summed_eq]
    rfl

/-- A tree without additions of two sums of constants is its own summed tree. -/
theorem summed_eq_self (h : e.nodes.any folds = false) : summed e = e :=
  eq_self_of_rebuilds fun node here =>
    summed_of_not_folds (Bool.eq_false_iff.2 (List.any_eq_false.1 h node here))

/-! ## What is left -/

/-- Without an addition of two integer constants, a sum of constants is a single one. -/
theorem SumsTo.eq_constant (h : SumsTo e n)
    (free : ∀ node ∈ e.nodes, node.addsConstants = false) : ∃ ty, e = .constant (.int64 n) ty := by
  induction h with
  | constant n ty => exact ⟨ty, rfl⟩
  | add sumLeft sumRight ty ihl ihr =>
    obtain ⟨root, below⟩ := forall_nodes_iff.1 free
    obtain ⟨t, rfl⟩ := ihl (below _ (by simp [operands]))
    obtain ⟨u, rfl⟩ := ihr (below _ (by simp [operands]))
    cases root

/-- Without an addition of two integer constants there is none of two sums of constants. -/
theorem folds_eq_false (free : ∀ node ∈ e.nodes, node.addsConstants = false) :
    ∀ node ∈ e.nodes, node.folds = false := by
  induction e using induction_operands with
  | step e ih =>
    refine forall_nodes_iff.2 ⟨?_, fun a ha => ih a ha ((forall_nodes_iff.1 free).2 a ha)⟩
    refine Bool.eq_false_iff.2 fun folding => ?_
    obtain ⟨left, right, ty, a, b, rfl, hl, hr⟩ := folds_iff.1 folding
    obtain ⟨_, is⟩ := (hl.add hr ty).eq_constant free
    cases is

/-- No addition of two integer constants is left. -/
theorem addsConstants_summed (e : Expr) :
    ∀ node ∈ (summed e).nodes, node.addsConstants = false := by
  refine summed_induction (P := fun _ s => ∀ node ∈ s.nodes, node.addsConstants = false)
    (fun ty _ _ _ _ => forall_nodes_iff.2 ⟨rfl, nofun⟩) (fun e other ih => ?_) e
  rw [forall_nodes_iff, addsConstants_withOperands, operands_withOperands, List.forall_mem_map]
  exact ⟨other, ih⟩

/-- Every folded addition takes two nodes away. -/
theorem nodeCount_summed (e : Expr) :
    (summed e).nodeCount + 2 * e.nodes.countP folds = e.nodeCount := by
  refine summed_induction (P := fun e s => s.nodeCount + 2 * e.nodes.countP folds = e.nodeCount)
    (fun ty hl hr ihl ihr => ?_) (fun e other ih => ?_) e
  · rw [countP_nodes_eq, if_pos (folds_add hl hr ty)]
    simp only [operands, List.map_cons, List.map_nil, List.sum_cons, List.sum_nil, nodeCount]
      at ihl ihr ⊢
    omega
  · have below : ((e.operands.map summed).map nodeCount).sum +
        2 * (e.operands.map fun a => a.nodes.countP folds).sum =
          (e.operands.map nodeCount).sum := by
      rw [List.map_map, Nat.two_mul, ← List.sum_map_add, ← List.sum_map_add]
      refine congrArg List.sum (List.map_congr_left fun a ha => ?_)
      rw [← ih a ha, Nat.two_mul]
      rfl
    rw [nodeCount_withOperands, countP_nodes_eq, other, if_neg Bool.false_ne_true, nodeCount_eq e,
      nodeCountAll_eq_sum]
    omega

/-! ## The meaning of the summed tree -/

theorem isNullLiteral_summed (e : Expr) : (summed e).isNullLiteral = e.isNullLiteral := by
  refine summed_induction (P := fun e s => s.isNullLiteral = e.isNullLiteral)
    (fun _ _ _ _ _ => rfl) (fun e _ _ => ?_) e
  cases e <;> rfl

/-- A sum of constants that has a value has its total as its value. It has none if the sum leaves
the range of integers. -/
theorem SumsTo.eval_eq (h : SumsTo e n) {env : Env} {value : Value}
    (returns : e.eval env = .ok value) : value = .int64 n := by
  induction h generalizing value with
  | constant n ty =>
    cases returns
    rfl
  | add sumLeft sumRight ty ihl ihr =>
    obtain ⟨v, hv, returns⟩ := except_bind_eq_ok_iff.1 returns
    obtain ⟨w, hw, returns⟩ := except_bind_eq_ok_iff.1 returns
    obtain rfl := ihl hv
    obtain rfl := ihr hw
    rw [Value.of_ofInt returns, Int64.ofInt_add, Int64.ofInt_toInt, Int64.ofInt_toInt]

/-- The summed tree has the values of the tree. -/
theorem below_summed (e : Expr) :
    (e.meaning .inMemory).Related .below ((summed e).meaning .inMemory) := by
  refine summed_induction
    (P := fun e s => (e.meaning .inMemory).Related .below (s.meaning .inMemory))
    (fun ty hl hr _ _ => ?_) (fun e _ ih => ?_) e
  · exact Meaning.Related.ofValue fun env value returns =>
      congrArg Except.ok ((hl.add hr ty).eval_eq returns).symm
  · rw [Meaning.meaning_eq, Meaning.meaning_eq, operands_withOperands, List.map_map]
    exact Meaning.ofNode_related (EvalRel.below.refl _) (.refl _)
      (.withOperands fun a _ => isNullLiteral_summed a) (Meaning.forall₂_map ih)

end Expr

open QueryDefaults.Expr

namespace Pass

variable {e : Expr} {visits : List Visit}

/-- Over its visited operands, an addition of two integer constants is counted and folded. -/
theorem leave_foldAdd_of_adds {a b : Int64} {t u ty : Ty}
    (is : (Visit.rebuild e visits).tree =
      .binary .add (.constant (.int64 a) t) (.constant (.int64 b) u) ty) :
    foldAdd.leave () e visits = ⟨.ok ⟨.constant (.int64 (a + b)) ty, true⟩, 1, []⟩ := by
  simp only [foldAdd, ofLeave, is]
  rfl

/-- Any other node is rebuilt. -/
theorem leave_foldAdd_of_other (other : (Visit.rebuild e visits).tree.addsConstants = false) :
    foldAdd.leave () e visits = pure (Visit.rebuild e visits) := by
  simp only [foldAdd, ofLeave]
  split
  · rename_i is
    rw [is] at other
    cases other
  · rfl

end Pass

/-- A node over its summed operands. -/
theorem Visit.rebuild_summed (e : Expr) :
    rebuild e (e.operands.map fun a => ⟨summed a, a.nodes.any folds⟩) =
      ⟨e.withOperands (e.operands.map summed), e.operands.any fun a => a.nodes.any folds⟩ :=
  rebuild_map fun _ _ same => summed_eq_self same

/-- Over its summed operands, a node is left as its own summed tree, and counted if it folds. -/
theorem Pass.leave_foldAdd (e : Expr) :
    foldAdd.leave () e (e.operands.map fun a => ⟨summed a, a.nodes.any folds⟩) =
      ⟨.ok ⟨summed e, e.nodes.any folds⟩, if e.folds then 1 else 0, []⟩ := by
  refine summed_induction
    (P := fun e s => foldAdd.leave () e (e.operands.map fun a => ⟨summed a, a.nodes.any folds⟩) =
      ⟨.ok ⟨s, e.nodes.any folds⟩, if e.folds then 1 else 0, []⟩)
    (fun {left right a b} ty hl hr _ _ => ?_) (fun e other _ => ?_) e
  · rw [any_nodes, folds_add hl hr ty]
    refine leave_foldAdd_of_adds (t := left.staticType) (u := right.staticType) ?_
    rw [Visit.rebuild_summed, ← hl.summed_eq, ← hr.summed_eq]
    rfl
  · rw [leave_foldAdd_of_other, Visit.rebuild_summed, any_nodes, other]
    · rfl
    · rw [Visit.rebuild_summed]
      exact (addsConstants_withOperands e).trans other

/-- The folding pass always ends well, with the summed tree. It counts the additions of two sums of
constants, and the tree is changed if there is one. -/
theorem Pass.visit_foldAdd (e : Expr) :
    foldAdd.visit e = ⟨.ok ⟨summed e, e.nodes.any folds⟩, e.nodes.countP folds, []⟩ := by
  induction e using induction_operands with
  | step e ih =>
    have below := visitAll_ok fun a ha => congrArg Traced.outcome (ih a ha)
    have counts : (e.operands.map fun a => (foldAdd.visit a).count) =
        e.operands.map fun a => a.nodes.countP folds :=
      List.map_congr_left fun a ha => congrArg Traced.count (ih a ha)
    have logs : (e.operands.flatMap fun a => (foldAdd.visit a).log) = [] :=
      List.flatMap_eq_nil_iff.2 fun a ha => congrArg Traced.log (ih a ha)
    have visited : foldAdd.visit e = (do foldAdd.leave () e (← foldAdd.visitAll e.operands)) :=
      visit_ofLeave _ e
    rw [visited, below, counts, logs, Traced.bind_ok _ rfl, leave_foldAdd, countP_nodes_eq]
    rfl

/-- **One pass folds all.** The folding pass always ends well, and it leaves no addition of two
integer constants at any depth. Each addition that it counts has taken two nodes away. A second pass
gives back the very tree it got and counts nothing. Whenever the tree has a value in an environment,
the folded tree has the same value there. -/
theorem one_pass_folds_all (tree : Expr) :
    ∃ visit count, Pass.foldAdd.visit tree = ⟨.ok visit, count, []⟩ ∧
      (∀ node ∈ visit.tree.nodes, node.addsConstants = false) ∧
      visit.tree.nodeCount + 2 * count = tree.nodeCount ∧
      Pass.foldAdd.visit visit.tree = ⟨.ok ⟨visit.tree, false⟩, 0, []⟩ ∧
      ∀ env value, tree.eval env = .ok value → visit.tree.eval env = .ok value := by
  refine ⟨_, _, Pass.visit_foldAdd tree, addsConstants_summed tree, nodeCount_summed tree, ?_,
    fun env => (below_summed tree).value env⟩
  have free := folds_eq_false (addsConstants_summed tree)
  have unchanged : (summed tree).nodes.any folds = false := by simpa using free
  have uncounted : (summed tree).nodes.countP folds = 0 := by simpa [List.countP_eq_zero] using free
  rw [Pass.visit_foldAdd, summed_eq_self unchanged, unchanged, uncounted]

/-- Sums inside sums are folded, and so is one that is not evaluated because the operand beside it
is present. Evaluated, that one is a fault, though its folded tree has a value. -/
theorem one_pass_folds_all_unevaluated :
    let int (n : Int64) : Expr := .constant (.int64 n) .int64
    let add (left right : Expr) : Expr := .binary .add left right .int64
    let x : Expr := .plain (.parameter "x") [] .int64
    let large := add (int Int64.maxValue) (int 1)
    let tree : Expr := .binary .coalesce (add x (add (int 1) (add (int 2) (int 3)))) large .int64
    let folded : Expr := .binary .coalesce (add x (int 6)) (int Int64.minValue) .int64
    let env := Env.bindParam {} "x" (.int64 7)
    Pass.foldAdd.visit tree = ⟨.ok ⟨folded, true⟩, 3, []⟩ ∧
      folded.nodeCount + 2 * 3 = tree.nodeCount ∧
      Pass.foldAdd.visit folded = ⟨.ok ⟨folded, false⟩, 0, []⟩ ∧
      tree.eval env = .ok (.int64 13) ∧ folded.eval env = .ok (.int64 13) ∧
      large.eval env = .error .overflow ∧
      (summed large).eval env = .ok (.int64 Int64.minValue) := by
  intro int add x large tree folded env
  have first : Pass.foldAdd.visit tree = ⟨.ok ⟨folded, true⟩, 3, []⟩ := rfl
  have value : tree.eval env = .ok (.int64 13) := rfl
  obtain ⟨visit, count, done, -, size, second, sound⟩ := one_pass_folds_all tree
  rw [first] at done
  cases done
  exact ⟨first, size, second, value, sound env _ value, rfl, rfl⟩

end QueryDefaults
