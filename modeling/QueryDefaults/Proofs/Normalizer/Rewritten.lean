import QueryDefaults.Proofs.Normalizer.Site
import Mathlib.Data.List.Basic

/-!
# The rewritten tree

What the normalizer makes of a tree, without its errors, counts and events: a fold that puts the
emitted node in the place of every settled site and rebuilds all other nodes. The rewritten tree of
an operand is alike to the operand, so the sites of a tree can be told before any operand is
rewritten.
-/

set_option autoImplicit false

namespace QueryDefaults

namespace Shape

/-- The node that takes the place of a site, over its rewritten operands. -/
def emit (shape : Shape) (settled e : Expr) (operands : List Expr) : Expr :=
  (shape.replacement settled e operands).toOption.getD e

section Emit

variable (settled : Expr) (typeArgs : List Ty) (args : List Expr) (ty elem : Ty)

@[simp] theorem emit_empty (source : Expr) :
    emit (.emptyFallback elem) settled (.call .defaultIfEmpty typeArgs args ty) [source] =
      .call .defaultIfEmpty typeArgs [source, settled] ty := rfl

@[simp] theorem emit_first (source : Expr) :
    emit (.firstFallback elem) settled (.call .firstOrDefault typeArgs args ty) [source] =
      .call .firstOrFallback typeArgs [source, settled] ty := rfl

@[simp] theorem emit_firstMatch (source predicate : Expr) :
    emit (.firstFallback elem) settled (.call .firstOrDefault typeArgs args ty)
        [source, predicate] =
      .call .firstOrFallback typeArgs [source, predicate, settled] ty := rfl

@[simp] theorem emit_coalesce (op : BinaryOp) (left right left' right' : Expr) :
    emit (.openCoalesce elem) settled (.binary op left right ty) [left', right'] =
      .binary .coalesce (.binary .coalesce left' right' ty) settled ty := rfl

@[simp] theorem emit_nullComparison (op : BinaryOp) (wrapper : Ty)
    (left right left' right' : Expr) :
    emit (.nullComparison wrapper elem) settled (.binary op left right ty) [left', right'] =
      if left.isNullLiteral then .binary op settled right' ty else .binary op left' settled ty :=
  rfl

end Emit

/-- The value that stands in for absence at a site: the default of the governing type, and for a
comparison the wrapper around it. -/
def filler (p : Provider) (shape : Shape) : Except QueryError Value :=
  match p.constructDefault shape.governing, shape with
  | .error err, _ => .error err
  | .ok value, .nullComparison wrapper _ => p.constructWrapper wrapper value
  | .ok value, _ => .ok value

/-- The type of that value. -/
def fillerType : Shape → Ty
  | .nullComparison wrapper _ => wrapper
  | shape => shape.governing

/-- What settles a shape is its filler as a constant. -/
theorem settle_eq (p : Provider) (shape : Shape) :
    shape.settle p = (shape.filler p).map fun value => .constant value shape.fillerType := by
  unfold settle filler
  cases p.constructDefault shape.governing with
  | error err => rfl
  | ok value =>
    cases shape with
    | nullComparison wrapper inner =>
      change (p.constructWrapper wrapper value >>= fun built =>
          pure (Expr.constant built wrapper)) =
        (p.constructWrapper wrapper value).map fun built => Expr.constant built wrapper
      cases p.constructWrapper wrapper value <;> rfl
    | _ => rfl

theorem settle_eq_ok {p : Provider} {shape : Shape} {settled : Expr} :
    shape.settle p = .ok settled ↔
      ∃ value, shape.filler p = .ok value ∧ settled = .constant value shape.fillerType := by
  rw [settle_eq]
  cases shape.filler p <;> simp [Except.map, eq_comm]

theorem settle_eq_error {p : Provider} {shape : Shape} {err : QueryError} :
    shape.settle p = .error err ↔ shape.filler p = .error err := by
  rw [settle_eq]
  cases shape.filler p <;> simp [Except.map]

end Shape

open Shape

variable {p : Provider} {rules : RuleSet} {e : Expr} {shape : Shape}

/-- At a site the replacement is always built: it has an overload for every arity that the rule
takes. -/
theorem Site.replacement_eq (site : Site p rules e shape) (settled : Expr) {operands : List Expr}
    (len : operands.length = e.operands.length) :
    shape.replacement settled e operands = .ok (shape.emit settled e operands) := by
  cases site with
  | empty | first =>
    obtain ⟨source', rfl⟩ := List.length_eq_one_iff.1 len
    rfl
  | firstMatch | coalesce | nullRight | nullLeft =>
    obtain ⟨left', right', rfl⟩ := List.length_eq_two.1 len
    rfl

/-- What takes the place of a node, over its rewritten operands: at a site that can be settled the
emitted node, and anywhere else the node itself. -/
def rewriteNode (p : Provider) (rules : RuleSet) (e : Expr) (operands : List Expr) : Expr :=
  match site? p rules e with
  | none => e.withOperands operands
  | some shape =>
    match shape.settle p with
    | .ok settled => shape.emit settled e operands
    | .error _ => e.withOperands operands

theorem rewriteNode_of_none (h : site? p rules e = none) (operands : List Expr) :
    rewriteNode p rules e operands = e.withOperands operands := by
  rw [rewriteNode, h]

theorem rewriteNode_of_site (site : Site p rules e shape) {settled : Expr}
    (ok : shape.settle p = .ok settled) (operands : List Expr) :
    rewriteNode p rules e operands = shape.emit settled e operands := by
  simp only [rewriteNode, site.site?_eq, ok]

/-- A node is rebuilt, or it is a site and its replacement is emitted. -/
theorem rewriteNode_cases (p : Provider) (rules : RuleSet) (e : Expr) (operands : List Expr) :
    rewriteNode p rules e operands = e.withOperands operands ∨
      ∃ shape settled, Site p rules e shape ∧ shape.settle p = .ok settled ∧
        rewriteNode p rules e operands = shape.emit settled e operands := by
  unfold rewriteNode
  cases found : site? p rules e with
  | none => exact .inl rfl
  | some shape =>
    cases ok : shape.settle p with
    | error err => exact .inl (by simp only [ok])
    | ok settled => exact .inr ⟨shape, settled, site?_eq_some_iff.1 found, ok, by simp only [ok]⟩

/-- The same at a node that can be settled when it is a site. -/
theorem rewriteNode_of_settles
    (root : ∀ shape, Site p rules e shape → ∃ settled, shape.settle p = .ok settled) :
    (site? p rules e = none ∧
        ∀ operands, rewriteNode p rules e operands = e.withOperands operands) ∨
      ∃ shape value, Site p rules e shape ∧ shape.filler p = .ok value ∧
        ∀ operands, rewriteNode p rules e operands =
          shape.emit (.constant value shape.fillerType) e operands := by
  cases found : site? p rules e with
  | none => exact .inl ⟨rfl, rewriteNode_of_none found⟩
  | some shape =>
    have site := site?_eq_some_iff.1 found
    obtain ⟨settled, done⟩ := root shape site
    obtain ⟨value, built, rfl⟩ := settle_eq_ok.1 done
    exact .inr ⟨shape, value, site, built, rewriteNode_of_site site done⟩

/-- The tree that the normalizer makes of a tree when every site can be settled. -/
def rewritten (p : Provider) (rules : RuleSet) : Expr → Expr := Expr.fold (rewriteNode p rules)

theorem rewritten_eq (p : Provider) (rules : RuleSet) (e : Expr) :
    rewritten p rules e = rewriteNode p rules e (e.operands.map (rewritten p rules)) :=
  Expr.fold_eq _ e

theorem Expr.alike_withOperands (e : Expr) (operands : List Expr) :
    (e.withOperands operands).Alike e := by
  refine ⟨staticType_withOperands e operands, ?_⟩
  unfold withOperands
  split <;> rfl

/-- An emitted node is alike to its site: it has the same type, and neither is a constant. -/
theorem Site.alike_emit (site : Site p rules e shape) (settled : Expr) (f : Expr → Expr) :
    (shape.emit settled e (e.operands.map f)).Alike e := by
  cases site with
  | empty | first | firstMatch | coalesce => exact ⟨rfl, rfl⟩
  | nullRight | nullLeft =>
    simp only [Expr.operands, List.map_cons, List.map_nil, emit_nullComparison]
    split <;> exact ⟨rfl, rfl⟩

theorem alike_rewritten (p : Provider) (rules : RuleSet) (e : Expr) :
    (rewritten p rules e).Alike e := by
  rw [rewritten_eq]
  obtain h | ⟨_, _, site, -, h⟩ :=
    rewriteNode_cases p rules e (e.operands.map (rewritten p rules))
  · rw [h]
    exact e.alike_withOperands _
  · rw [h]
    exact site.alike_emit _ _

/-- Rewriting the operands of a node keeps it a site of the same shape. -/
theorem site?_rebuilt (p : Provider) (rules others : RuleSet) (e : Expr) :
    site? p others (e.withOperands (e.operands.map (rewritten p rules))) = site? p others e :=
  site?_withOperands fun a _ => alike_rewritten p rules a

end QueryDefaults
