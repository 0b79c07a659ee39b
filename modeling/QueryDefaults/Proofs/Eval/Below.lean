import QueryDefaults.Proofs.Eval.Likeness

/-!
# Comparing evaluations

One evaluation is *below* another when the other one ends with its value whenever it has one; two
evaluations have the *same outcome* when each is below the other, so that both end with one value or
both with a fault. Both are relations that binds keep. Over the same values and environments such a
relation passes from the operands of a node to the node (`ofNode_related`), and from what two
evaluators make of absence to what they make of a tree (`meaning_related`).
-/

set_option autoImplicit false

namespace QueryDefaults

variable {α β : Type} {R : EvalRel}

/-- Every value of the first evaluation is the value of the second one. -/
def Below (x y : Except Fault α) : Prop := ∀ a, x = .ok a → y = .ok a

/-- Both evaluations end with the same value, or both with a fault. -/
def SameOutcome (x y : Except Fault α) : Prop := ∀ a, x = .ok a ↔ y = .ok a

/-- Binds are monotone in both parts. -/
theorem Below.bind {x y : Except Fault α} {f g : α → Except Fault β} (h : Below x y)
    (hf : ∀ a, Below (f a) (g a)) : Below (x >>= f) (y >>= g) := by
  intro b hb
  cases hx : x with
  | error fault =>
    rw [hx] at hb
    cases hb
  | ok a =>
    rw [hx] at hb
    rw [h a hx]
    exact hf a b hb

theorem sameOutcome_iff {x y : Except Fault α} : SameOutcome x y ↔ Below x y ∧ Below y x :=
  ⟨fun h => ⟨fun a => (h a).1, fun a => (h a).2⟩, fun h a => ⟨h.1 a, h.2 a⟩⟩

theorem SameOutcome.symm {x y : Except Fault α} (h : SameOutcome x y) : SameOutcome y x :=
  fun a => (h a).symm

theorem SameOutcome.trans {x y z : Except Fault α} (h : SameOutcome x y) (h' : SameOutcome y z) :
    SameOutcome x z :=
  fun a => (h a).trans (h' a)

/-- The order of evaluations. -/
def EvalRel.below : EvalRel where
  Rel := Below
  refl _ _ h := h
  faults _ _ _ h := nomatch h
  bind := Below.bind

/-- Evaluations with the same outcome. -/
def EvalRel.outcome : EvalRel where
  Rel := SameOutcome
  refl _ _ := .rfl
  faults _ _ _ := ⟨fun h => (nomatch h), fun h => (nomatch h)⟩
  bind h hf := by
    rw [sameOutcome_iff] at h ⊢
    exact ⟨h.1.bind fun a => (sameOutcome_iff.1 (hf a)).1,
      h.2.bind fun a => (sameOutcome_iff.1 (hf a)).2⟩

namespace Meaning

/-- Two meanings are related when all their values and applications are. -/
structure Related (R : EvalRel) (m m' : Meaning) : Prop where
  value : ∀ env, R.Rel (m.value env) (m'.value env)
  apply : ∀ row env, R.Rel (m.apply row env) (m'.apply row env)

/-- Two meanings are the same, but for the faults. -/
abbrev Same : Meaning → Meaning → Prop := Related .outcome

theorem Related.refl (m : Meaning) : m.Related R m :=
  ⟨fun _ => R.refl _, fun _ _ => R.refl _⟩

theorem Related.ofValue {e e' : Expr} {f g : Env → Except Fault Value}
    (h : ∀ env, R.Rel (f env) (g env)) : (Meaning.ofValue e f).Related R (Meaning.ofValue e' g) :=
  ⟨h, fun _ _ => R.faults _ _⟩

theorem Same.refl (m : Meaning) : m.Same m := Related.refl m

theorem Same.symm {m m' : Meaning} (h : m.Same m') : m'.Same m :=
  ⟨fun env => (h.value env).symm, fun row env => (h.apply row env).symm⟩

theorem Same.trans {m m' m'' : Meaning} (h : m.Same m') (h' : m'.Same m'') : m.Same m'' :=
  ⟨fun env => (h.value env).trans (h'.value env),
    fun row env => (h.apply row env).trans (h'.apply row env)⟩

theorem Same.ofValue {e e' : Expr} {f g : Env → Except Fault Value} (h : ∀ env, f env = g env) :
    (Meaning.ofValue e f).Same (Meaning.ofValue e' g) :=
  Related.ofValue fun env => EvalRel.of_eq (h env)

theorem Same.sameOutcome {m m' : Meaning} (h : m.Same m') (env : Env) :
    SameOutcome (m.value env) (m'.value env) :=
  h.value env

/-- Related meanings are alike over the same values and environments. -/
theorem related_iff_like {m m' : Meaning} : m.Related R m' ↔ m.Like R .identity m' := by
  constructor
  · intro h
    refine ⟨fun {env _} same => ?_, fun {row _ env _} rows same => ?_⟩
    · cases same
      exact EvalRel.lift_eq_iff.2 (h.value env)
    · cases rows
      cases same
      exact EvalRel.lift_eq_iff.2 (h.apply row env)
  · intro h
    exact ⟨fun _ => EvalRel.lift_eq_iff.1 (h.value rfl),
      fun _ _ => EvalRel.lift_eq_iff.1 (h.apply rfl rfl)⟩

/-- Two readings of a null literal are alike when they compare alike with the value beside it, from
either side. -/
structure NullAlike (R : EvalRel) (nullBeside nullBeside' : Value → Except Fault Value) :
    Prop where
  left : ∀ value, R.Rel (do return (← nullBeside value) == value)
    (do return (← nullBeside' value) == value)
  right : ∀ value, R.Rel (do return value == (← nullBeside value))
    (do return value == (← nullBeside' value))

theorem NullAlike.refl (nullBeside : Value → Except Fault Value) :
    NullAlike R nullBeside nullBeside :=
  ⟨fun _ => R.refl _, fun _ => R.refl _⟩

theorem NullAlike.like {nullBeside nullBeside' : Value → Except Fault Value}
    (h : NullAlike R nullBeside nullBeside') : NullLike R .identity nullBeside nullBeside' := by
  refine ⟨fun {v w} same => ?_, fun {v w} same => ?_⟩
  · obtain rfl : v = w := same
    exact h.left v
  · obtain rfl : v = w := same
    exact h.right v

variable {ms ms' : List Meaning} {missing missing' : Except Fault Value}

/-- Nodes with related answers to absence and related operands have related meanings. -/
theorem ofNode_related {nullBeside nullBeside' : Value → Except Fault Value}
    (absent : R.Rel missing missing') (alike : NullAlike R nullBeside nullBeside') {e e' : Expr}
    (root : SameRoot .identity e e') (h : List.Forall₂ (Related R) ms ms') :
    (ofNode missing nullBeside e ms).Related R (ofNode missing' nullBeside' e' ms') :=
  related_iff_like.2 <| ofNode_like (EvalRel.lift_eq_iff.2 absent) alike.like root <|
    h.imp fun _ _ => related_iff_like.1

/-- Trees with related meanings, place by place. -/
theorem forall₂_map {es : List Expr} {f g : Expr → Meaning} (h : ∀ a ∈ es, (f a).Related R (g a)) :
    List.Forall₂ (Related R) (es.map f) (es.map g) := by
  rw [List.forall₂_map_left_iff, List.forall₂_map_right_iff, List.forall₂_same]
  exact h

/-- Evaluators that are related in what they make of absence are related on every tree. -/
theorem meaning_related {absence absence' : Absence}
    (absent : ∀ e, R.Rel (absence.missing e) (absence'.missing e))
    (alike : ∀ e, NullAlike R (absence.nullBeside e) (absence'.nullBeside e)) (e : Expr) :
    (e.meaning absence).Related R (e.meaning absence') := by
  refine related_iff_like.2 (meaning_like (T := Eq) ?_ ?_ ?_ ?_ rfl)
  · rintro e _ rfl
    exact List.forall₂_same.2 fun _ _ => rfl
  · rintro e _ rfl
    exact .refl e
  · rintro e _ rfl
    exact EvalRel.lift_eq_iff.2 (absent e)
  · rintro e _ rfl
    exact (alike e).like

/-- Nodes with the same absence questions and the same operand meanings have the same meaning. -/
theorem ofNode_congr {nullBeside : Value → Except Fault Value} (e : Expr)
    (h : List.Forall₂ Same ms ms') :
    (ofNode missing nullBeside e ms).Same (ofNode missing nullBeside e ms') :=
  ofNode_related (EvalRel.outcome.refl missing) (.refl nullBeside) (.refl e) h

/-- Of the operands as they are written, a node reads only which ones are null literals. -/
theorem ofNode_withOperands {e : Expr} {f : Expr → Expr}
    (literals : ∀ a ∈ e.operands, (f a).isNullLiteral = a.isNullLiteral)
    (missing : Except Fault Value) (nullBeside : Value → Except Fault Value)
    (operands : List Meaning) :
    (ofNode missing nullBeside (e.withOperands (e.operands.map f)) operands).Same
      (ofNode missing nullBeside e operands) :=
  Same.symm <| ofNode_related (EvalRel.outcome.refl missing) (.refl nullBeside)
    (.withOperands literals) (List.forall₂_same.2 fun m _ => .refl m)

end Meaning

theorem Expr.eval_of_isNullLiteral {e : Expr} (h : e.isNullLiteral = true) (env : Env) :
    e.eval env = .ok .null := by
  unfold isNullLiteral at h
  split at h
  · rfl
  · cases h

/-- In memory, a comparison compares the values of its operands. -/
theorem Meaning.comparands_inMemory (left right : Expr) (env : Env) :
    comparands (fun _ => .ok .null) left right (left.meaning .inMemory) (right.meaning .inMemory)
        env = do
      let a ← left.eval env
      let b ← right.eval env
      return (a, b) := by
  unfold comparands
  cases hl : left.isNullLiteral <;> cases hr : right.isNullLiteral
  · rfl
  · rw [Expr.eval_of_isNullLiteral hr]
    rfl
  · rw [Expr.eval_of_isNullLiteral hl]
    rfl
  · rfl

end QueryDefaults
