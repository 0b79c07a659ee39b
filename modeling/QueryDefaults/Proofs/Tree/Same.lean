import QueryDefaults.Expr
import QueryDefaults.Proofs.Value.Same

/-!
# Equality of trees

Equality of trees is structural, with constants compared as values, so that equal trees differ in
the bits of float constants only (`same_iff`). It is an equivalence relation, and what can be read
off a node without its operands is the same for equal trees.
-/

set_option autoImplicit false

namespace QueryDefaults.Expr

mutual

theorem same_self : ∀ e : Expr, same e e = true
  | .call _ _ args _ => by simp [same, sameAll_self args]
  | .binary _ left right _ => by simp [same, same_self left, same_self right]
  | .constant value _ => by simp [same, Value.beq_def, Value.same_self value]
  | .plain _ children _ => by simp [same, sameAll_self children]

theorem sameAll_self : ∀ es : List Expr, sameAll es es = true
  | [] => rfl
  | e :: es => by simp [sameAll, same_self e, sameAll_self es]

end

mutual

theorem same_comm : ∀ a b : Expr, same a b = same b a
  | .call f ts as t, b => by
    cases b <;> simp [same, sameAll_comm as, Bool.beq_comm (a := f), Bool.beq_comm (a := ts),
      Bool.beq_comm (a := t)]
  | .binary f l r t, b => by
    cases b <;> simp [same, same_comm l, same_comm r, Bool.beq_comm (a := f),
      Bool.beq_comm (a := t)]
  | .constant v t, b => by
    cases b <;> simp [same, Value.beq_def, Value.same_comm v, Bool.beq_comm (a := t)]
  | .plain k as t, b => by
    cases b <;> simp [same, sameAll_comm as, Bool.beq_comm (a := k), Bool.beq_comm (a := t)]

theorem sameAll_comm : ∀ as bs : List Expr, sameAll as bs = sameAll bs as
  | [], bs => by cases bs <;> rfl
  | a :: as, bs => by cases bs <;> simp [sameAll, same_comm a, sameAll_comm as]

end

mutual

theorem same_trans : ∀ {a b c : Expr}, same a b = true → same b c = true → same a c = true
  | .call _ _ as _, b, c, h, h' => by
    cases b <;> cases c <;> simp only [same, Bool.and_eq_true, beq_iff_eq, Bool.false_eq_true]
      at h h' ⊢
    obtain ⟨⟨⟨rfl, rfl⟩, args⟩, rfl⟩ := h
    exact ⟨⟨h'.1.1, sameAll_trans args h'.1.2⟩, h'.2⟩
  | .binary _ l r _, b, c, h, h' => by
    cases b <;> cases c <;> simp only [same, Bool.and_eq_true, beq_iff_eq, Bool.false_eq_true]
      at h h' ⊢
    obtain ⟨⟨⟨rfl, left⟩, right⟩, rfl⟩ := h
    exact ⟨⟨⟨h'.1.1.1, same_trans left h'.1.1.2⟩, same_trans right h'.1.2⟩, h'.2⟩
  | .constant _ _, b, c, h, h' => by
    cases b <;> cases c <;> simp only [same, Bool.and_eq_true, beq_iff_eq, Bool.false_eq_true]
      at h h' ⊢
    exact ⟨Value.same_trans h.1 h'.1, h.2.trans h'.2⟩
  | .plain _ as _, b, c, h, h' => by
    cases b <;> cases c <;> simp only [same, Bool.and_eq_true, beq_iff_eq, Bool.false_eq_true]
      at h h' ⊢
    obtain ⟨⟨rfl, children⟩, rfl⟩ := h
    exact ⟨⟨h'.1.1, sameAll_trans children h'.1.2⟩, h'.2⟩

theorem sameAll_trans : ∀ {as bs cs : List Expr},
    sameAll as bs = true → sameAll bs cs = true → sameAll as cs = true
  | [], bs, cs, h, h' => by cases bs <;> simp_all [sameAll]
  | a :: as, bs, cs, h, h' => by
    cases bs <;> cases cs <;> simp only [sameAll, Bool.and_eq_true, Bool.false_eq_true] at h h' ⊢
    exact ⟨same_trans h.1 h'.1, sameAll_trans h.2 h'.2⟩

end

/-- Lists of trees are equal when their trees are, place by place. -/
theorem sameAll_iff {as bs : List Expr} :
    sameAll as bs = true ↔ List.Forall₂ (fun a b => same a b = true) as bs := by
  induction as generalizing bs with
  | nil => cases bs <;> simp [sameAll]
  | cons a as ih => cases bs <;> simp [sameAll, ih]

/-- Two nodes that do the same, over equal operands. -/
inductive SameNode : Expr → Expr → Prop where
  | call (op : Operator) (typeArgs : List Ty) {as bs : List Expr}
      (args : List.Forall₂ (fun a b => same a b = true) as bs) (ty : Ty) :
      SameNode (.call op typeArgs as ty) (.call op typeArgs bs ty)
  | binary (op : BinaryOp) {l l' r r' : Expr} (left : same l l' = true)
      (right : same r r' = true) (ty : Ty) : SameNode (.binary op l r ty) (.binary op l' r' ty)
  | constant {v w : Value} (value : Value.same v w = true) (ty : Ty) :
      SameNode (.constant v ty) (.constant w ty)
  | plain (kind : PlainKind) {as bs : List Expr}
      (children : List.Forall₂ (fun a b => same a b = true) as bs) (ty : Ty) :
      SameNode (.plain kind as ty) (.plain kind bs ty)

/-- Trees are equal when their roots do the same over equal operands. -/
theorem same_iff {a b : Expr} : same a b = true ↔ SameNode a b := by
  constructor
  · intro h
    cases a <;> cases b <;>
      simp only [same, Bool.and_eq_true, beq_iff_eq, Bool.false_eq_true] at h
    case call.call =>
      obtain ⟨⟨⟨rfl, rfl⟩, args⟩, rfl⟩ := h
      exact .call _ _ (sameAll_iff.1 args) _
    case binary.binary =>
      obtain ⟨⟨⟨rfl, left⟩, right⟩, rfl⟩ := h
      exact .binary _ left right _
    case constant.constant =>
      obtain ⟨value, rfl⟩ := h
      exact .constant value _
    case plain.plain =>
      obtain ⟨⟨rfl, children⟩, rfl⟩ := h
      exact .plain _ (sameAll_iff.1 children) _
  · intro h
    cases h with
    | call op typeArgs args ty => simp [same, sameAll_iff, args]
    | binary op left right ty => simp [same, left, right]
    | constant value ty => simp [same, Value.beq_def, value]
    | plain kind children ty => simp [same, sameAll_iff, children]

variable {a b : Expr}

theorem operands_of_same (h : same a b = true) :
    List.Forall₂ (fun a b => same a b = true) a.operands b.operands := by
  cases same_iff.1 h with
  | call _ _ args _ => exact args
  | binary _ left right _ => exact .cons left (.cons right .nil)
  | constant => exact .nil
  | plain _ children _ => exact children

theorem staticType_of_same (h : same a b = true) : a.staticType = b.staticType := by
  cases same_iff.1 h <;> rfl

theorem isConstant_of_same (h : same a b = true) : a.isConstant = b.isConstant := by
  cases same_iff.1 h <;> rfl

theorem isNullLiteral_of_same (h : same a b = true) : a.isNullLiteral = b.isNullLiteral := by
  cases same_iff.1 h with
  | constant value ty => cases Value.same_iff.1 value <;> rfl
  | _ => rfl

/-- Nodes that are equal stay equal over operands that are equal. -/
theorem same_withOperands (h : same a b = true) {as bs : List Expr}
    (operands : List.Forall₂ (fun a b => same a b = true) as bs) :
    same (a.withOperands as) (b.withOperands bs) = true := by
  cases same_iff.1 h with
  | call op typeArgs _ ty => exact same_iff.2 (.call op typeArgs operands ty)
  | constant => exact h
  | plain kind _ ty => exact same_iff.2 (.plain kind operands ty)
  | binary op _ _ ty =>
    obtain _ | ⟨left, _ | ⟨right, _ | _⟩⟩ := operands
    · exact h
    · exact h
    · exact same_iff.2 (.binary op left right ty)
    · exact h

end QueryDefaults.Expr
