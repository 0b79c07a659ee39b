import QueryDefaults.Eval
import QueryDefaults.Proofs.Tree.Fold
import QueryDefaults.Proofs.Value.Same

/-!
# Evaluations side by side

The evaluator is put together from binds, so any relation between evaluations that binds keep, an
`EvalRel`, passes from the operands of a node to the node. The two evaluations need not even go over
the same values: a `Likeness` relates values and environments that the operations of the evaluator
do not tell apart. Nodes that do the same over like operands have like meanings (`ofNode_like`), and
so have trees that are related node by node (`meaning_like`).
-/

set_option autoImplicit false

namespace QueryDefaults

/-- A relation between evaluations that binds keep. Faults are not told apart. -/
structure EvalRel where
  Rel : ∀ {α : Type}, Except Fault α → Except Fault α → Prop
  refl : ∀ {α : Type} (x : Except Fault α), Rel x x
  faults : ∀ {α : Type} (a b : Fault), Rel (.error a : Except Fault α) (.error b)
  bind : ∀ {α β : Type} {x y : Except Fault α} {f g : α → Except Fault β}, Rel x y →
    (∀ a, Rel (f a) (g a)) → Rel (x >>= f) (y >>= g)

variable {α β α' β' : Type} {R : EvalRel} {S : α → β → Prop} {S' : α' → β' → Prop}

namespace EvalRel

theorem of_eq {x y : Except Fault α} (h : x = y) : R.Rel x y := h ▸ R.refl x

/-- Two evaluations with related results: they cannot be told apart by going on from them in ways
that related results do not tell apart. -/
structure Lift (R : EvalRel) (S : α → β → Prop) (x : Except Fault α) (y : Except Fault β) :
    Prop where
  next : ∀ {γ : Type} {f : α → Except Fault γ} {g : β → Except Fault γ},
    (∀ a b, S a b → R.Rel (f a) (g b)) → R.Rel (x >>= f) (y >>= g)

/-- Evaluations with equal results are related, and no others. -/
theorem lift_eq_iff {x y : Except Fault α} : R.Lift Eq x y ↔ R.Rel x y := by
  constructor
  · intro h
    have ended := h.next (f := pure) (g := pure) fun a _ same => of_eq (congrArg pure same)
    rwa [bind_pure, bind_pure] at ended
  · intro h
    exact ⟨fun next => R.bind h fun a => next a a rfl⟩

namespace Lift

theorem pure {a : α} {b : β} (related : S a b) : R.Lift S (.ok a) (.ok b) :=
  ⟨fun next => next a b related⟩

theorem faults (a b : Fault) : R.Lift S (.error a) (.error b) := ⟨fun _ => R.faults a b⟩

theorem bind {x : Except Fault α} {y : Except Fault β} {f : α → Except Fault α'}
    {g : β → Except Fault β'} (h : R.Lift S x y) (next : ∀ a b, S a b → R.Lift S' (f a) (g b)) :
    R.Lift S' (x >>= f) (y >>= g) := by
  refine ⟨fun {γ k l} related => ?_⟩
  rw [bind_assoc, bind_assoc]
  exact h.next fun a b hab => (next a b hab).next related

theorem mapM {f : α → Except Fault α'} {g : β → Except Fault β'} {as : List α} {bs : List β}
    (h : List.Forall₂ (fun a b => R.Lift S' (f a) (g b)) as bs) :
    R.Lift (List.Forall₂ S') (as.mapM f) (bs.mapM g) := by
  induction h with
  | nil => exact .pure .nil
  | cons first rest ih =>
    rw [List.mapM_cons, List.mapM_cons]
    exact first.bind fun _ _ same => ih.bind fun _ _ sames => .pure (.cons same sames)

end Lift

end EvalRel

theorem optionRel_self {S : α → α → Prop} (h : ∀ a, S a a) (o : Option α) : Option.Rel S o o := by
  cases o with
  | none => exact .none
  | some a => exact .some (h a)

/-- Relations between values and between environments that evaluation keeps. Like values are equal,
so that comparisons and tests do not tell them apart, and have like parts. -/
structure Likeness where
  value : Value → Value → Prop
  env : Env → Env → Prop
  refl : ∀ v, value v v
  same : ∀ {v w}, value v w → v.same w = true
  items : ∀ {as bs}, value (.sequence as) (.sequence bs) ↔ List.Forall₂ value as bs
  field : ∀ {v w}, value v w → ∀ name, Option.Rel value (v.field? name) (w.field? name)
  source : ∀ {e e'}, env e e' → ∀ name,
    Option.Rel (List.Forall₂ value) (e.source? name) (e'.source? name)
  param : ∀ {e e'}, env e e' → ∀ name, Option.Rel value (e.param? name) (e'.param? name)
  bind : ∀ {e e' v w}, env e e' → value v w → ∀ name,
    env (e.bindParam name v) (e'.bindParam name w)

variable {L : Likeness} {env env' : Env} {v w : Value}

namespace Likeness

/-- Every value and every environment is like itself only. -/
def identity : Likeness where
  value := Eq
  env := Eq
  refl _ := rfl
  same h := h ▸ Value.same_self _
  items := by simp [List.forall₂_eq_eq_eq]
  field h name := h ▸ optionRel_self (fun _ => rfl) _
  source h name := h ▸ optionRel_self (fun _ => List.forall₂_eq_eq_eq ▸ rfl) _
  param h name := h ▸ optionRel_self (fun _ => rfl) _
  bind h h' _ := by rw [h, h']

theorem lift_refl (L : Likeness) (x : Except Fault Value) : R.Lift L.value x x :=
  ⟨fun next => R.bind (R.refl x) fun a => next a a (L.refl a)⟩

theorem rows (h : L.value v w) : R.Lift (List.Forall₂ L.value) v.rows w.rows := by
  cases Value.same_iff.1 (L.same h) with
  | sequence => exact .pure (L.items.1 h)
  | _ => exact .faults _ _

end Likeness

namespace Meaning

/-- Two meanings are alike when all their values and applications are. -/
structure Like (R : EvalRel) (L : Likeness) (m m' : Meaning) : Prop where
  value : ∀ {env env'}, L.env env env' → R.Lift L.value (m.value env) (m'.value env')
  apply : ∀ {row row' env env'}, L.value row row' → L.env env env' →
    R.Lift L.value (m.apply row env) (m'.apply row' env')

theorem Like.ofValue {e e' : Expr} {f g : Env → Except Fault Value}
    (h : ∀ {env env'}, L.env env env' → R.Lift L.value (f env) (g env')) :
    (Meaning.ofValue e f).Like R L (Meaning.ofValue e' g) :=
  ⟨h, fun _ _ => .faults _ _⟩

variable {m m' l l' r r' : Meaning} {ms ms' : List Meaning} {missing missing' : Except Fault Value}

theorem rows_like (h : m.Like R L m') (envs : L.env env env') :
    R.Lift (List.Forall₂ L.value) (m.rows env) (m'.rows env') :=
  (h.value envs).bind fun _ _ => L.rows

theorem holds_like (h : m.Like R L m') (envs : L.env env env') {row row' : Value}
    (rows : L.value row row') : R.Lift Eq (m.holds env row) (m'.holds env' row') :=
  (h.apply rows envs).bind fun _ _ like => .pure (Value.isTrue_of_same (L.same like))

theorem keep_like {test test' : Value → Except Fault Bool}
    (h : ∀ row row', L.value row row' → R.Lift Eq (test row) (test' row')) {rows rows' : List Value}
    (like : List.Forall₂ L.value rows rows') :
    R.Lift (List.Forall₂ L.value) (keep test rows) (keep test' rows') := by
  induction like with
  | nil => exact .pure .nil
  | cons first _ ih =>
    refine (h _ _ first).bind fun holds _ same => ih.bind fun _ _ rest => ?_
    subst same
    cases holds with
    | true => exact .pure (.cons first rest)
    | false => exact .pure rest

theorem matching_like (h : List.Forall₂ (Like R L) ms ms') (envs : L.env env env') :
    R.Lift (List.Forall₂ L.value) (matching ms env) (matching ms' env') := by
  cases h with
  | nil => exact .faults _ _
  | cons source rest =>
    cases rest with
    | nil => exact rows_like source envs
    | cons predicate rest =>
      exact (rows_like source envs).bind fun _ _ =>
        keep_like fun _ _ => holds_like predicate envs

theorem isTrue_like (like : L.value v w) : L.value (.bool v.isTrue) (.bool w.isTrue) := by
  rw [Value.isTrue_of_same (L.same like)]
  exact L.refl _

theorem headD_like {rows rows' : List Value} (like : List.Forall₂ L.value rows rows')
    (fallback : L.value v w) : L.value (rows.headD v) (rows'.headD w) := by
  cases like with
  | nil => exact fallback
  | cons first _ => exact first

/-- Ordering and arithmetic see of two values only the integers. -/
theorem integers_like (op : BinaryOp) {v w v' w' : Value} : L.value v w → L.value v' w' →
    R.Lift L.value
      (match v, v' with
        | .int64 a, .int64 b => arithmetic op a b
        | _, _ => return .null)
      (match w, w' with
        | .int64 a, .int64 b => arithmetic op a b
        | _, _ => return .null) := by
  intro like like'
  cases Value.same_iff.1 (L.same like) with
  | int64 =>
    cases Value.same_iff.1 (L.same like') with
    | int64 => exact L.lift_refl _
    | _ => exact .pure (L.refl _)
  | _ => exact .pure (L.refl _)

theorem call_like (absent : R.Lift L.value missing missing') (op : Operator)
    (h : List.Forall₂ (Like R L) ms ms') (envs : L.env env env') :
    R.Lift L.value (call missing op ms env) (call missing' op ms' env') := by
  -- One case for each overload, in the order of `call`.
  fun_cases call missing op ms env with
  | case1 source predicate =>
    obtain _ | ⟨hsource, _ | ⟨hpredicate, _ | _⟩⟩ := h
    exact (matching_like (.cons hsource (.cons hpredicate .nil)) envs).bind fun _ _ rows =>
      .pure (L.items.2 rows)
  | case2 source selector =>
    obtain _ | ⟨hsource, _ | ⟨hselector, _ | _⟩⟩ := h
    refine (rows_like hsource envs).bind fun rows rows' like => ?_
    have selected := EvalRel.Lift.mapM (like.imp fun _ _ row => hselector.apply row envs)
    exact selected.bind fun _ _ results => .pure (L.items.2 results)
  | case3 source rest =>
    obtain _ | ⟨hsource, hrest⟩ := h
    refine (rows_like hsource envs).bind fun rows rows' like => ?_
    cases like with
    | cons first rest => exact .pure (L.items.2 (.cons first rest))
    | nil =>
      obtain _ | ⟨hfallback, _ | _⟩ := hrest
      · exact absent.bind fun _ _ row => .pure (L.items.2 (.cons row .nil))
      · exact (hfallback.value envs).bind fun _ _ row => .pure (L.items.2 (.cons row .nil))
      · exact absent.bind fun _ _ row => .pure (L.items.2 (.cons row .nil))
  | case4 =>
    obtain _ | _ := h
    exact .faults _ _
  | case5 =>
    refine (matching_like h envs).bind fun _ _ rows => ?_
    cases rows with
    | nil => exact absent
    | cons first _ => exact .pure first
  | case6 =>
    refine (matching_like h envs).bind fun _ _ rows => ?_
    cases rows with
    | nil => exact .faults _ _
    | cons first _ => exact .pure first
  | case7 left right =>
    obtain _ | ⟨hleft, _ | ⟨hright, _ | _⟩⟩ := h
    exact (rows_like hleft envs).bind fun _ _ before => (rows_like hright envs).bind
      fun _ _ behind => .pure (L.items.2 (List.rel_append before behind))
  | case8 =>
    refine (matching_like h envs).bind fun _ _ rows => ?_
    rw [rows.length_eq]
    exact .pure (L.refl _)
  | case9 =>
    refine (matching_like h envs).bind fun _ _ rows => ?_
    cases rows <;> exact .pure (L.refl _)
  | case10 source fallback =>
    obtain _ | ⟨hsource, _ | ⟨hfallback, _ | _⟩⟩ := h
    exact (rows_like hsource envs).bind fun _ _ rows =>
      (hfallback.value envs).bind fun _ _ fallback => .pure (headD_like rows fallback)
  | case11 source predicate fallback =>
    obtain _ | ⟨hsource, _ | ⟨hpredicate, _ | ⟨hfallback, _ | _⟩⟩⟩ := h
    exact (matching_like (.cons hsource (.cons hpredicate .nil)) envs).bind fun _ _ rows =>
      (hfallback.value envs).bind fun _ _ fallback => .pure (headD_like rows fallback)
  -- The calls that mean nothing: the other operands are as many, so they mean nothing either.
  | case12 _ two three =>
    obtain _ | ⟨_, _ | ⟨_, _ | ⟨_, _ | _⟩⟩⟩ := h
    · exact .faults _ _
    · exact .faults _ _
    · exact absurd rfl (two _ _)
    · exact absurd rfl (three _ _ _)
    · exact .faults _ _
  | case13 =>
    cases op with
    | filter | select | concat =>
      obtain _ | ⟨_, _ | ⟨_, _ | _⟩⟩ := h
      · exact .faults _ _
      · exact .faults _ _
      · simp_all
      · exact .faults _ _
    | defaultIfEmpty => cases h <;> simp_all
    | _ => simp_all

theorem binary_like (absent : R.Lift L.value missing missing') (op : BinaryOp)
    (hl : l.Like R L l') (hr : r.Like R L r') (envs : L.env env env') :
    R.Lift L.value (binary missing op l r env) (binary missing' op l' r' env') := by
  cases op with
  | coalesce =>
    refine (hl.value envs).bind fun left left' like => ?_
    cases Value.same_iff.1 (L.same like) with
    | null =>
      refine (hr.value envs).bind fun right right' like' => ?_
      cases Value.same_iff.1 (L.same like') with
      | null => exact absent
      | _ => exact .pure like'
    | _ => exact .pure like
  | andAlso =>
    refine (hl.value envs).bind fun left left' like => ?_
    rw [Value.isTrue_of_same (L.same like)]
    cases left'.isTrue with
    | true => exact (hr.value envs).bind fun _ _ like' => .pure (isTrue_like like')
    | false => exact .pure (L.refl _)
  | orElse =>
    refine (hl.value envs).bind fun left left' like => ?_
    rw [Value.isTrue_of_same (L.same like)]
    cases left'.isTrue with
    | true => exact .pure (L.refl _)
    | false => exact (hr.value envs).bind fun _ _ like' => .pure (isTrue_like like')
  | _ =>
    refine (hl.value envs).bind fun _ _ like => (hr.value envs).bind fun _ _ like' => ?_
    exact integers_like _ like like'

/-- Two readings of a null literal are alike when they compare alike with like values beside it,
from either side. -/
structure NullLike (R : EvalRel) (L : Likeness)
    (nullBeside nullBeside' : Value → Except Fault Value) : Prop where
  left : ∀ {v w}, L.value v w →
    R.Rel (do return (← nullBeside v) == v) (do return (← nullBeside' w) == w)
  right : ∀ {v w}, L.value v w →
    R.Rel (do return v == (← nullBeside v)) (do return w == (← nullBeside' w))

/-- What a comparison makes of its two values depends on their equality only. -/
theorem compare_like {nullBeside nullBeside' : Value → Except Fault Value}
    (alike : NullLike R L nullBeside nullBeside') (answer : Bool → Value)
    {left left' right right' : Expr} (sameLeft : left.isNullLiteral = left'.isNullLiteral)
    (sameRight : right.isNullLiteral = right'.isNullLiteral)
    (hl : l.Like R L l') (hr : r.Like R L r') (envs : L.env env env') :
    R.Lift L.value
      (do
        let (a, b) ← comparands nullBeside left right l r env
        return answer (a == b))
      (do
        let (a, b) ← comparands nullBeside' left' right' l' r' env'
        return answer (a == b)) := by
  have both : R.Lift L.value (do return answer ((← l.value env) == (← r.value env)))
      (do return answer ((← l'.value env') == (← r'.value env'))) :=
    (hl.value envs).bind fun _ _ like => (hr.value envs).bind fun _ _ like' => by
      rw [Value.beq_def, Value.same_congr (L.same like) (L.same like')]
      exact .pure (L.refl _)
  have answered : ∀ {x y : Except Fault Bool}, R.Rel x y →
      R.Lift L.value (do return answer (← x)) (do return answer (← y)) := fun related =>
    (EvalRel.lift_eq_iff.2 related).bind fun _ _ same => same ▸ .pure (L.refl _)
  unfold comparands
  rw [sameLeft, sameRight]
  cases left'.isNullLiteral <;> cases right'.isNullLiteral <;> simp only [bind_assoc, pure_bind]
  · exact both
  · refine (hl.value envs).bind fun _ _ like => ?_
    simpa only [bind_assoc, pure_bind] using answered (alike.right like)
  · refine (hr.value envs).bind fun _ _ like => ?_
    simpa only [bind_assoc, pure_bind] using answered (alike.left like)
  · exact both

theorem plain_like (kind : PlainKind) (h : List.Forall₂ (Like R L) ms ms') (envs : L.env env env') :
    R.Lift L.value (plain kind ms env) (plain kind ms' env') := by
  cases kind with
  | lambda => exact .faults _ _
  | source name =>
    have bound := L.source envs name
    simp only [plain]
    generalize env.source? name = found, env'.source? name = found' at bound ⊢
    cases bound with
    | none => exact .faults _ _
    | some rows => exact .pure (L.items.2 rows)
  | parameter name =>
    have bound := L.param envs name
    simp only [plain]
    generalize env.param? name = found, env'.param? name = found' at bound ⊢
    cases bound with
    | none => exact .faults _ _
    | some like => exact .pure like
  | newArray =>
    have items := EvalRel.Lift.mapM (h.imp fun _ _ operand => operand.value envs)
    exact items.bind fun _ _ rows => .pure (L.items.2 rows)
  | field name =>
    obtain _ | ⟨target, _⟩ := h
    · exact .faults _ _
    · refine (target.value envs).bind fun v w like => ?_
      have fields := L.field like name
      cases Value.same_iff.1 (L.same like) with
      | null => exact .pure (L.refl _)
      | @record typeName as bs =>
        dsimp only
        generalize (Value.record typeName as).field? name = found,
          (Value.record typeName bs).field? name = found' at fields ⊢
        cases fields with
        | none => exact .faults _ _
        | some like => exact .pure like
      | _ => exact .faults _ _
  | not =>
    obtain _ | ⟨operand, _⟩ := h
    · exact .faults _ _
    · refine (operand.value envs).bind fun _ _ like => ?_
      rw [Value.isTrue_of_same (L.same like)]
      exact .pure (L.refl _)

theorem lambda_like (params : List String) (h : List.Forall₂ (Like R L) ms ms') {row row' : Value}
    (rows : L.value row row') (envs : L.env env env') :
    R.Lift L.value (lambda params ms row env) (lambda params ms' row' env') := by
  cases params with
  | nil => exact .faults _ _
  | cons param params =>
    obtain _ | ⟨body, _⟩ := h
    · exact .faults _ _
    · exact body.value (L.bind envs rows param)

/-! ## One node -/

/-- The meaning of a node over meanings of its operands, with what an evaluator makes of absence at
the node. A binary node means nothing over any number of operands but two. -/
def ofNode (missing : Except Fault Value) (nullBeside : Value → Except Fault Value) (e : Expr)
    (operands : List Meaning) : Meaning :=
  match e, operands with
  | .call op typeArgs args ty, operands =>
    .ofValue (.call op typeArgs args ty) (call missing op operands)
  | .binary op left right ty, [l, r] =>
    .ofValue (.binary op left right ty) fun env =>
      match op with
      | .equal => do
        let (a, b) ← comparands nullBeside left right l r env
        return .bool (a == b)
      | .notEqual => do
        let (a, b) ← comparands nullBeside left right l r env
        return .bool (a != b)
      | op => binary missing op l r env
  | .binary op left right ty, _ =>
    .ofValue (.binary op left right ty) fun _ => .error .missingOperand
  | .constant value ty, _ => .ofValue (.constant value ty) fun _ => .ok value
  | .plain kind children ty, operands =>
    { value := plain kind operands
      apply := fun row env =>
        match kind with
        | .lambda params => lambda params operands row env
        | _ => .error (.notLambda (.plain kind children ty)) }

theorem meanings_eq_map (absence : Absence) (es : List Expr) :
    Expr.meanings absence es = es.map (Expr.meaning absence) := by
  induction es with
  | nil => rfl
  | cons e es ih => rw [Expr.meanings, ih, List.map_cons]

/-- The meaning of a tree is the meaning of its root over the meanings of its operands. -/
theorem meaning_eq (absence : Absence) (e : Expr) :
    e.meaning absence =
      ofNode (absence.missing e) (absence.nullBeside e) e
        (e.operands.map (Expr.meaning absence)) := by
  cases e with
  | call op typeArgs args ty => rw [Expr.meaning, meanings_eq_map]; rfl
  | binary op left right ty => rfl
  | constant value ty => rfl
  | plain kind children ty => rw [Expr.meaning, meanings_eq_map]; rfl

/-- Two nodes that do the same with their operands. Of the operands as they are written, a node
reads only which ones are null literals, and it does not read types. -/
inductive SameRoot (L : Likeness) : Expr → Expr → Prop where
  | call (op : Operator) {typeArgs typeArgs' : List Ty} {args args' : List Expr} {ty ty' : Ty} :
      SameRoot L (.call op typeArgs args ty) (.call op typeArgs' args' ty')
  | binary (op : BinaryOp) {left left' right right' : Expr} {ty ty' : Ty}
      (sameLeft : left.isNullLiteral = left'.isNullLiteral)
      (sameRight : right.isNullLiteral = right'.isNullLiteral) :
      SameRoot L (.binary op left right ty) (.binary op left' right' ty')
  | constant {v w : Value} {ty ty' : Ty} (like : L.value v w) :
      SameRoot L (.constant v ty) (.constant w ty')
  | plain (kind : PlainKind) {children children' : List Expr} {ty ty' : Ty} :
      SameRoot L (.plain kind children ty) (.plain kind children' ty')

theorem SameRoot.refl (e : Expr) : SameRoot L e e := by
  cases e with
  | call => exact .call _
  | binary => exact .binary _ rfl rfl
  | constant => exact .constant (L.refl _)
  | plain => exact .plain _

/-- A node does the same over operands among which the same ones are null literals. -/
theorem SameRoot.withOperands {e : Expr} {f : Expr → Expr}
    (literals : ∀ a ∈ e.operands, (f a).isNullLiteral = a.isNullLiteral) :
    SameRoot L e (e.withOperands (e.operands.map f)) := by
  cases e with
  | call op => exact .call op
  | constant => exact .refl _
  | plain kind => exact .plain kind
  | binary op left right =>
    exact .binary op (literals left (by simp [Expr.operands])).symm
      (literals right (by simp [Expr.operands])).symm

/-- Nodes that do the same over like operands have like meanings, if they make alike of absence. -/
theorem ofNode_like {nullBeside nullBeside' : Value → Except Fault Value}
    (absent : R.Lift L.value missing missing') (alike : NullLike R L nullBeside nullBeside')
    {e e' : Expr} (root : SameRoot L e e') (h : List.Forall₂ (Like R L) ms ms') :
    (ofNode missing nullBeside e ms).Like R L (ofNode missing' nullBeside' e' ms') := by
  cases root with
  | call op => exact .ofValue (call_like absent op h)
  | constant like => exact .ofValue fun _ => .pure like
  | plain kind =>
    refine ⟨plain_like kind h, fun rows envs => ?_⟩
    cases kind with
    | lambda params => exact lambda_like params h rows envs
    | _ => exact .faults _ _
  | binary op sameLeft sameRight =>
    obtain _ | ⟨hl, _ | ⟨hr, _ | _⟩⟩ := h
    · exact .ofValue fun _ => .faults _ _
    · exact .ofValue fun _ => .faults _ _
    · refine .ofValue fun envs => ?_
      cases op with
      | equal => exact compare_like alike .bool sameLeft sameRight hl hr envs
      | notEqual => exact compare_like alike (fun same => .bool !same) sameLeft sameRight hl hr envs
      | _ => exact binary_like absent _ hl hr envs
    · exact .ofValue fun _ => .faults _ _

/-- Trees that are related node by node have like meanings, if the nodes do the same and the two
evaluators make alike of absence at them. -/
theorem meaning_like {absence absence' : Absence} {T : Expr → Expr → Prop}
    (operands : ∀ a b, T a b → List.Forall₂ T a.operands b.operands)
    (root : ∀ a b, T a b → SameRoot L a b)
    (absent : ∀ a b, T a b → R.Lift L.value (absence.missing a) (absence'.missing b))
    (alike : ∀ a b, T a b → NullLike R L (absence.nullBeside a) (absence'.nullBeside b))
    {a b : Expr} (h : T a b) : (a.meaning absence).Like R L (b.meaning absence') := by
  refine Expr.induction_pairs
    (P := fun a b => (a.meaning absence).Like R L (b.meaning absence')) operands
    (fun a b related below => ?_) h
  rw [meaning_eq absence, meaning_eq absence']
  refine ofNode_like (absent a b related) (alike a b related) (root a b related) ?_
  rw [List.forall₂_map_left_iff, List.forall₂_map_right_iff]
  exact below

end Meaning

end QueryDefaults
