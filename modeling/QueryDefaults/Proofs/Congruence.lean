import QueryDefaults.Proofs.Eval.Below
import QueryDefaults.Proofs.Normalizer.Site
import QueryDefaults.Proofs.Pass.Parallel
import QueryDefaults.Proofs.Tree.Same
import QueryDefaults.Registry.Default

/-!
# Equal trees are interchangeable

Equality is coarser than identity: equal trees can differ in the bits of their float constants. The
normalizer reads no bits, so it goes alike on equal trees and makes equal trees of them
(`run_of_same`); the evaluator compares values and tests rows by these comparisons, and still gives
equal values for equal trees in environments with equal bindings (`eval_of_same`). Together with the
laws of an equivalence relation, equality is a congruence (`equality_congruence`).
-/

set_option autoImplicit false

namespace QueryDefaults

open Shape

/-! ## The normalizer -/

/-- Two visits with equal trees, that tell alike whether the tree changed. -/
structure Visit.Same (v w : Visit) : Prop where
  tree : (v.tree == w.tree) = true
  changed : v.changed = w.changed

/-- Lists of trees that are equal, place by place. -/
abbrev SameTrees : List Expr → List Expr → Prop := List.Forall₂ fun a b => Expr.same a b = true

variable {p : Provider} {rules : RuleSet} {a b : Expr} {as bs : List Expr}

theorem looks_of_same (h : Expr.same a b = true) : a.LooksLike b :=
  ⟨Expr.staticType_of_same h, Expr.isConstant_of_same h, Expr.isNullLiteral_of_same h⟩

/-- Equal nodes have the same shape. -/
theorem of?_of_same (h : Expr.same a b = true) : of? p a = of? p b := by
  have looks := (Expr.operands_of_same h).imp fun _ _ => looks_of_same
  -- But for a constant, the first node is the second one over the operands of the first.
  cases Expr.same_iff.1 h with
  | constant => rfl
  | call => exact of?_withOperands (e := .call _ _ _ _) looks
  | binary => exact of?_withOperands (e := .binary _ _ _ _) looks
  | plain => exact of?_withOperands (e := .plain _ _ _) looks

theorem call?_of_same (op : Operator) (typeArgs : List Ty) (h : SameTrees as bs) (ty : Ty) :
    SameEnd (fun a b => Expr.same a b = true) (Expr.call? op typeArgs as ty)
      (Expr.call? op typeArgs bs ty) := by
  unfold Expr.call?
  rw [h.length_eq]
  cases Overload.resolve op bs.length with
  | error err => exact .error err
  | ok _ => exact .ok (Expr.same_iff.2 (.call op typeArgs h ty))

/-- What takes the place of equal nodes over equal operands is equal. -/
theorem replacement_of_same (shape : Shape) (settled : Expr) (h : Expr.same a b = true)
    (operands : SameTrees as bs) :
    SameEnd (fun a b => Expr.same a b = true) (shape.replacement settled a as)
      (shape.replacement settled b bs) := by
  have appended : SameTrees (as ++ [settled]) (bs ++ [settled]) :=
    List.rel_append operands (.cons (Expr.same_self settled) .nil)
  cases shape with
  | emptyFallback elem | firstFallback elem =>
    cases Expr.same_iff.1 h with
    | call op typeArgs _ ty => exact call?_of_same _ typeArgs appended ty
    | _ => exact .ok h
  | openCoalesce ty =>
    cases Expr.same_iff.1 h with
    | binary _ _ _ ty =>
      obtain _ | ⟨left, _ | ⟨right, _ | _⟩⟩ := operands
      · exact .ok h
      · exact .ok h
      · have inner := Expr.same_iff.2 (.binary .coalesce left right ty)
        exact .ok (Expr.same_iff.2 (.binary .coalesce inner (Expr.same_self settled) ty))
      · exact .ok h
    | _ => exact .ok h
  | nullComparison wrapper inner =>
    cases Expr.same_iff.1 h with
    | binary op literal _ ty =>
      obtain _ | ⟨left, _ | ⟨right, _ | _⟩⟩ := operands
      · exact .ok h
      · exact .ok h
      · simp only [replacement, Expr.isNullLiteral_of_same literal]
        split
        · exact .ok (Expr.same_iff.2 (.binary op (Expr.same_self settled) right ty))
        · exact .ok (Expr.same_iff.2 (.binary op left (Expr.same_self settled) ty))
      · exact .ok h
    | _ => exact .ok h

theorem enter_of_same (h : Expr.same a b = true) :
    (defaultValues p rules).enter a = (defaultValues p rules).enter b := by
  simp only [defaultValues, find?, of?_of_same h, (Expr.operands_of_same h).length_eq]

variable {vs ws : List Visit}

theorem trees_of_same (h : List.Forall₂ Visit.Same vs ws) :
    SameTrees (vs.map Visit.tree) (ws.map Visit.tree) := by
  rw [SameTrees, List.forall₂_map_left_iff, List.forall₂_map_right_iff]
  exact h.imp fun _ _ visit => visit.tree

theorem rebuild_of_same (h : Expr.same a b = true) (operands : List.Forall₂ Visit.Same vs ws) :
    (Visit.rebuild a vs).Same (Visit.rebuild b ws) := by
  have changed : vs.any Visit.changed = ws.any Visit.changed := by
    induction operands with
    | nil => rfl
    | cons first _ ih => rw [List.any_cons, List.any_cons, first.changed, ih]
  unfold Visit.rebuild
  rw [changed]
  split
  · exact ⟨Expr.same_withOperands h (trees_of_same operands), rfl⟩
  · exact ⟨h, rfl⟩

theorem leave_of_same (decision : Option (Shape × Expr)) (h : Expr.same a b = true)
    (operands : List.Forall₂ Visit.Same vs ws) :
    ((defaultValues p rules).leave decision a vs).Alike Visit.Same
      ((defaultValues p rules).leave decision b ws) := by
  cases decision with
  | none => exact .pure (rebuild_of_same h operands)
  | some found =>
    obtain ⟨shape, settled⟩ := found
    have built := replacement_of_same shape settled h (trees_of_same operands)
    simp only [defaultValues, operands.length_eq]
    refine (Traced.Alike.refl _).bind fun _ _ _ => (Traced.Alike.refl _).bind fun _ _ _ => ?_
    exact (Traced.Alike.ofExcept built).bind fun _ _ same => .pure ⟨same, rfl⟩

/-- The normalizer goes alike on equal trees. -/
theorem run_of_same (n : Normalizer) (h : (a == b) = true) :
    (n.run a).Alike Visit.Same (n.run b) :=
  Pass.visit_alike (T := fun a b => Expr.same a b = true) (fun _ _ => Expr.operands_of_same)
    (fun _ _ => enter_of_same) (fun _ _ same decision _ _ => leave_of_same decision same) h

/-! ## The evaluator -/

/-- Two environments in which every name stands for equal rows, and for equal values. -/
structure Env.Same (env env' : Env) : Prop where
  source : ∀ name, Option.Rel (List.Forall₂ fun v w => (v == w) = true) (env.source? name)
    (env'.source? name)
  param : ∀ name, Option.Rel (fun v w => (v == w) = true) (env.param? name) (env'.param? name)

/-- Two evaluations that end with equal values, or both with a fault. -/
inductive EqualOutcome : Except Fault Value → Except Fault Value → Prop where
  | ok {v w : Value} (equal : (v == w) = true) : EqualOutcome (.ok v) (.ok w)
  | fault (a b : Fault) : EqualOutcome (.error a) (.error b)

theorem Env.Same.refl (env : Env) : env.Same env where
  source _ := optionRel_self (fun _ => List.forall₂_same.2 fun v _ => Value.same_self v) _
  param _ := optionRel_self Value.same_self _

theorem Env.Same.bindSource {env env' : Env} (h : env.Same env') (name : String)
    {vs ws : List Value} (rows : List.Forall₂ (fun v w => (v == w) = true) vs ws) :
    (env.bindSource name vs).Same (env'.bindSource name ws) := by
  refine ⟨fun other => ?_, h.param⟩
  unfold Env.source? Env.bindSource
  rw [List.lookup_cons, List.lookup_cons]
  cases other == name with
  | true => exact .some rows
  | false => exact h.source other

theorem Env.Same.bindParam {env env' : Env} (h : env.Same env') (name : String) {v w : Value}
    (values : (v == w) = true) : (env.bindParam name v).Same (env'.bindParam name w) := by
  refine ⟨h.source, fun other => ?_⟩
  unfold Env.param? Env.bindParam
  rw [List.lookup_cons, List.lookup_cons]
  cases other == name with
  | true => exact .some values
  | false => exact h.param other

/-- Equal values and environments with equal bindings are alike. -/
def Likeness.equality : Likeness where
  value v w := (v == w) = true
  env := Env.Same
  refl := Value.same_self
  same h := h
  items := Value.sameAll_iff
  field := Value.field?_of_same
  source := Env.Same.source
  param := Env.Same.param
  bind h values name := h.bindParam name values

/-- Evaluations that nothing tells apart by equal values have equal outcomes. -/
theorem EqualOutcome.of_lift {x y : Except Fault Value}
    (h : EvalRel.outcome.Lift (fun v w => (v == w) = true) x y) : EqualOutcome x y := by
  -- Compare both results with the one of the first evaluation.
  have compared (v : Value) := h.next (f := fun r => pure (v == r)) (g := fun r => pure (v == r))
    fun a b same => EvalRel.of_eq (congrArg pure (Value.same_congr (Value.same_self v) same))
  cases x with
  | error fault =>
    cases y with
    | error fault' => exact .fault fault fault'
    | ok w => nomatch (compared w (w == w)).2 rfl
  | ok v =>
    have equal := (compared v true).1 (congrArg Except.ok (Value.same_self v))
    cases y with
    | error fault' => cases equal
    | ok w => exact .ok (Except.ok.inj equal)

theorem sameRoot_of_same (h : Expr.same a b = true) : Meaning.SameRoot .equality a b := by
  cases Expr.same_iff.1 h with
  | call op => exact .call op
  | plain kind => exact .plain kind
  | constant value => exact .constant value
  | binary op left right =>
    exact .binary op (Expr.isNullLiteral_of_same left) (Expr.isNullLiteral_of_same right)

/-- Equal trees evaluate to equal values in environments with equal bindings. -/
theorem eval_of_same (h : (a == b) = true) {env env' : Env} (envs : env.Same env') :
    EqualOutcome (a.eval env) (b.eval env') := by
  have alike : Meaning.Like .outcome .equality (a.meaning .inMemory) (b.meaning .inMemory) := by
    refine Meaning.meaning_like (T := fun a b => Expr.same a b = true)
      (fun _ _ => Expr.operands_of_same) (fun _ _ => sameRoot_of_same)
      (fun _ _ _ => Likeness.equality.lift_refl _)
      (fun _ _ _ => ⟨fun values => ?_, fun values => ?_⟩) h
    · exact EvalRel.of_eq (congrArg Except.ok (Value.same_congr rfl values))
    · exact EvalRel.of_eq (congrArg Except.ok (Value.same_congr values rfl))
  exact .of_lift (alike.value envs)

/-! ## The congruence -/

/-- **Equality is a congruence.** Floats are equal when they are one float, both NaNs or both zeros,
and equality of types, of values and of trees is an equivalence relation. The normalizer goes alike
on equal trees: it ends with the same error or with equal trees, tells alike whether the tree is the
one that went in, and counts and logs the same. In environments with equal bindings equal trees
evaluate to equal values, or to a fault both. -/
theorem equality_congruence :
    (∀ x y : Binary64, (Value.float64 x == .float64 y) = true ↔
      x = y ∨ x.isNaN = true ∧ y.isNaN = true ∨ x.magnitude = 0 ∧ y.magnitude = 0) ∧
    Equivalence (fun t u : Ty => (t == u) = true) ∧
    Equivalence (fun v w : Value => (v == w) = true) ∧
    Equivalence (fun a b : Expr => (a == b) = true) ∧
    ∀ a b : Expr, (a == b) = true →
      (∀ n : Normalizer, (n.run a).Alike Visit.Same (n.run b) ∧
        (n.after a).counts = (n.after b).counts) ∧
      ∀ env env' : Env, env.Same env' → EqualOutcome (a.eval env) (b.eval env') := by
  refine ⟨fun _ _ => Binary64.same_iff, ⟨beq_self_eq_true, BEq.symm, BEq.trans⟩,
    ⟨Value.same_self, fun h => (Value.same_comm _ _).trans h, Value.same_trans⟩,
    ⟨Expr.same_self, fun h => (Expr.same_comm _ _).trans h, Expr.same_trans⟩,
    fun a b h => ⟨fun n => ?_, fun env env' => eval_of_same h⟩⟩
  have alike := run_of_same n h
  exact ⟨alike, congrArg (n.counts + ·) alike.count⟩

/-- A query for the first row that is no number, written with either of two NaNs, over rows that
hold either zero. -/
theorem equality_congruence_floats :
    let n : Normalizer := { provider := Registry.standard.provider }
    let nan (payload : Nat) : Binary64 := .ofParts false (Binary64.infinity + payload)
    let rows : Expr := .plain (.source "rows") [] (.sequence .float64)
    let test (x : Binary64) : Expr := .binary .equal (.plain (.parameter "x") [] .float64)
      (.constant (.float64 x) .float64) .bool
    let tree (x : Binary64) : Expr := .call .firstOrDefault []
      [rows, .plain (.lambda ["x"]) [test x] (.function [.float64] .bool)] .float64
    let env (zero x : Binary64) : Env := Env.bindSource {} "rows" [.float64 zero, .float64 x]
    nan 1 ≠ nan 2 ∧ Binary64.zero ≠ .ofParts true 0 ∧
      (tree (nan 1)).eval (env .zero (nan 2)) = .ok (.float64 (nan 2)) ∧
      (tree (nan 2)).eval (env (.ofParts true 0) (nan 1)) = .ok (.float64 (nan 1)) ∧
      (n.run (tree (nan 1))).Alike Visit.Same (n.run (tree (nan 2))) ∧
      EqualOutcome ((tree (nan 1)).eval (env .zero (nan 2)))
        ((tree (nan 2)).eval (env (.ofParts true 0) (nan 1))) := by
  intro n nan rows test tree env
  have trees : (tree (nan 1) == tree (nan 2)) = true := rfl
  have envs : (env .zero (nan 2)).Same (env (.ofParts true 0) (nan 1)) :=
    Env.Same.bindSource (.refl _) "rows" (.cons rfl (.cons rfl .nil))
  obtain ⟨-, -, -, -, congruent⟩ := equality_congruence
  obtain ⟨run, eval⟩ := congruent _ _ trees
  exact ⟨by decide, by decide, rfl, rfl, (run n).1, eval _ _ envs⟩

end QueryDefaults
