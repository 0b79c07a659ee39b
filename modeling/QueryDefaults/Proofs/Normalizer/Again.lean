import QueryDefaults.Proofs.Normalizer.Fusion
import QueryDefaults.Proofs.Translator

/-!
# Running a normalizer again

The normalizer is not idempotent on trees: a `??` that was closed with a default stays below that
default, as open as it was, and a second run closes it again. No other rule finds its own work
(`Site.site?_emit_again`), so the second run has one site for every `??` of the first run and no
more (`sites_again`). It puts a second default behind the first one, which no evaluation tells apart
from one default (`run_again_same_outcome`).
-/

set_option autoImplicit false

namespace QueryDefaults

open Shape

/-- The wrappers that a provider builds are never the absent value. -/
def Provider.WrapsPresent (p : Provider) : Prop :=
  ∀ ty inner wrapper, p.constructWrapper ty inner = .ok wrapper → wrapper.isNull = false

variable {p : Provider} {rules two : RuleSet} {e : Expr} {shape : Shape}

theorem Provider.WrapsPresent.of_registry {r : Registry}
    (wraps : p.constructWrapper = r.constructWrapper) : p.WrapsPresent := by
  intro ty inner wrapper built
  rw [wraps] at built
  obtain ⟨family, _, -, rfl⟩ := Registry.wrapped_of_constructWrapper built
  rfl

/-- What a null literal is replaced by is no null literal. -/
theorem present_of_filler (wraps : p.WrapsPresent) {value : Value}
    (built : shape.filler p = .ok value) (compares : shape.rule = .optionalCompare) :
    value.isNull = false := by
  cases shape with
  | nullComparison wrapper inner =>
    unfold filler at built
    cases found : p.constructDefault (governing (.nullComparison wrapper inner)) with
    | error err =>
      rw [found] at built
      cases built
    | ok inside =>
      rw [found] at built
      exact wraps wrapper inside value built
  | emptyFallback | firstFallback | openCoalesce => cases compares

theorem isNullLiteral_constant (value : Value) (ty : Ty) :
    (Expr.constant value ty).isNullLiteral = value.isNull := by
  cases value <;> rfl

/-- A comparison without a null literal is a site of no rule. -/
theorem site?_comparison_of_present {op : BinaryOp} (compares : op = .equal ∨ op = .notEqual)
    {left right : Expr} (hl : left.isNullLiteral = false) (hr : right.isNullLiteral = false)
    (ty : Ty) : site? p rules (.binary op left right ty) = none := by
  rw [site?_eq_none_iff]
  intro shape site
  cases site with
  | coalesce => simp at compares
  | nullRight on _ literal => simp [hr] at literal
  | nullLeft on _ literal => simp [hl] at literal

/-- What a rule emits is no site of any rule, unless it is the rule of `??`. -/
theorem Site.site?_emit_again (site : Site p rules e shape) (wraps : p.WrapsPresent)
    (once : shape.rule ≠ .coalesce) {value : Value} (built : shape.filler p = .ok value) (ty : Ty)
    {f : Expr → Expr} (alike : ∀ a ∈ e.operands, (f a).Alike a) :
    site? p two (shape.emit (.constant value ty) e (e.operands.map f)) = none := by
  have present := present_of_filler wraps built
  cases site with
  | empty | first | firstMatch => rfl
  | coalesce => exact absurd rfl once
  | @nullRight op left right _ inner on compares literal other =>
    have hf : (f left).isNullLiteral = false := by
      rw [(alike left (by simp [Expr.operands])).isNullLiteral, other]
    have hv := (isNullLiteral_constant value ty).trans (present rfl)
    simp only [Expr.operands, List.map_cons, List.map_nil, emit_nullComparison, other]
    exact site?_comparison_of_present compares hf hv _
  | @nullLeft op left right _ inner on compares literal other =>
    have hf : (f right).isNullLiteral = false := by
      rw [(alike right (by simp [Expr.operands])).isNullLiteral, other]
    have hv := (isNullLiteral_constant value ty).trans (present rfl)
    simp only [Expr.operands, List.map_cons, List.map_nil, emit_nullComparison, literal, if_true]
    exact site?_comparison_of_present compares hv hf _

/-- The rule of `??` puts its default behind the node that it found. -/
theorem Site.emit_coalesce_eq (site : Site p rules e shape) (closes : shape.rule = .coalesce)
    (settled : Expr) (f : Expr → Expr) :
    shape.emit settled e (e.operands.map f) =
      .binary .coalesce (e.withOperands (e.operands.map f)) settled e.staticType := by
  cases site with
  | coalesce => rfl
  | empty | first | firstMatch | nullRight | nullLeft => cases closes

/-! ## Sites of the rewritten tree -/

/-- The sites of a rewritten tree are the `??` sites of the tree. -/
theorem sites_again (wraps : p.WrapsPresent) (ok : Settled p rules e) :
    (rewritten p rules e).sites p rules =
      (e.sites p rules).filter fun shape => shape.rule = .coalesce := by
  induction e using Expr.induction_operands with
  | step e ih =>
    obtain ⟨root, rest⟩ := settled_iff_operands.1 ok
    have below : e.operands.flatMap (fun a => (rewritten p rules a).sites p rules) =
        (e.operands.flatMap (Expr.sites p rules)).filter fun shape => shape.rule = .coalesce := by
      rw [List.filter_flatMap]
      exact List.flatMap_congr fun a ha => ih a ha (rest a ha)
    rw [rewritten_eq, Expr.sites_eq p rules e, List.filter_append, ← below]
    obtain ⟨found, rebuilt⟩ | ⟨shape, value, site, built, emitted⟩ := rewriteNode_of_settles root
    · rw [rebuilt, sites_rebuilt, found]
      rfl
    · rw [emitted, site.site?_eq]
      by_cases closes : shape.rule = .coalesce
      -- The `??` stays below its default, and it is the same site there.
      · rw [site.emit_coalesce_eq closes, sites_coalesce_constant, sites_rebuilt, site.site?_eq]
        simp [closes]
      · have alike : ∀ a ∈ e.operands, (rewritten p rules a).Alike a :=
          fun a _ => alike_rewritten p rules a
        rw [site.sites_emit (site.site?_emit_again wraps closes built _ alike)
          (fun is => absurd is closes) alike]
        simp [closes]

/-- A rewritten tree can be rewritten. -/
theorem settled_again (wraps : p.WrapsPresent) (ok : Settled p rules e) :
    Settled p rules (rewritten p rules e) := by
  intro shape here
  rw [sites_again wraps ok] at here
  exact ok shape (List.mem_of_mem_filter here)

/-! ## Meaning of the tree that is rewritten twice -/

/-- At each node, the second rewriting changes the operands, and behind the default of a `??` it
puts the same default again. -/
theorem rewritten_twice (wraps : p.WrapsPresent) (ok : Settled p rules e) :
    let node := rewriteNode p rules e
      (e.operands.map fun a => rewritten p rules (rewritten p rules a))
    rewritten p rules (rewritten p rules e) = node ∨
      ∃ below value ty ty', node = .binary .coalesce below (.constant value ty') ty ∧
        rewritten p rules (rewritten p rules e) =
          .binary .coalesce node (.constant value ty') ty := by
  intro node
  rw [rewritten_eq p rules e]
  obtain ⟨-, rebuilt⟩ | ⟨shape, value, site, built, emitted⟩ :=
    rewriteNode_of_settles (settled_iff_operands.1 ok).1
  · left
    rw [rebuilt, rewritten_rebuilt]
  · have node_eq : node = _ := emitted _
    rw [emitted]
    by_cases closes : shape.rule = .coalesce
    -- Only the `??` below the default is rewritten, to the node itself.
    · right
      rw [site.emit_coalesce_eq closes] at node_eq ⊢
      refine ⟨_, _, _, _, node_eq, ?_⟩
      rw [rewritten_coalesce_constant, rewritten_rebuilt]
    · left
      rw [node_eq]
      exact site.rewritten_emit
        (site.site?_emit_again wraps closes built _ fun a _ => alike_rewritten p rules a)
        fun is => absurd is closes

/-- A default behind the same default changes nothing: where it is reached, the first one was
absent, and so is the second. -/
theorem meaning_coalesce_twice (below : Expr) (value : Value) (ty ty' : Ty) :
    let node : Expr := .binary .coalesce below (.constant value ty') ty
    ((Expr.binary .coalesce node (.constant value ty') ty).meaning .inMemory).Same
      (node.meaning .inMemory) := by
  intro node
  refine .ofValue fun env => ?_
  have closed := eval_coalesce_default below (.constant value ty') value ty ty' env
  refine closed.trans (bind_congr fun first => ?_)
  cases first with
  | null => cases value <;> rfl
  | _ => rfl

/-- The tree that is rewritten twice means what the tree means that is rewritten once. -/
theorem meaning_again (wraps : p.WrapsPresent) (ok : Settled p rules e) :
    ((rewritten p rules (rewritten p rules e)).meaning .inMemory).Same
      ((rewritten p rules e).meaning .inMemory) := by
  induction e using Expr.induction_operands with
  | step e ih =>
    obtain ⟨root, rest⟩ := settled_iff_operands.1 ok
    have once : ∀ a ∈ e.operands, (rewritten p rules a).Alike a :=
      fun a _ => alike_rewritten p rules a
    have twice : ∀ a ∈ e.operands, (rewritten p rules (rewritten p rules a)).Alike a :=
      fun a ha => (alike_rewritten p rules _).trans (once a ha)
    have operands : List.Forall₂ Meaning.Same
        ((e.operands.map fun a => rewritten p rules (rewritten p rules a)).map
          (Expr.meaning .inMemory))
        ((e.operands.map (rewritten p rules)).map (Expr.meaning .inMemory)) := by
      rw [List.map_map, List.map_map]
      exact Meaning.forall₂_map fun a ha => ih a ha (rest a ha)
    -- Over operands of the same meaning, the translator makes the same of the node.
    have node : ((rewriteNode p rules e
          (e.operands.map fun a => rewritten p rules (rewritten p rules a))).meaning .inMemory).Same
        ((rewritten p rules e).meaning .inMemory) := by
      rw [rewritten_eq p rules e]
      exact (meaning_rewriteNode root twice).trans
        ((Meaning.ofNode_congr e operands).trans (meaning_rewriteNode root once).symm)
    obtain same | ⟨below, value, ty, ty', closed, again⟩ := rewritten_twice wraps ok
    · rw [same]
      exact node
    · rw [again]
      refine .trans ?_ node
      rw [closed]
      exact meaning_coalesce_twice below value ty ty'

/-- **Idempotence up to meaning.** When a normalizer turns a tree into another one, it can be run on
the result again, and what this gives evaluates in every environment with the same outcome. -/
theorem run_again_same_outcome (n : Normalizer) {registry : Registry}
    (wraps : n.provider.constructWrapper = registry.constructWrapper) (tree : Expr) {first : Visit}
    (done : (n.run tree).outcome = .ok first) :
    ∃ second, (n.run first.tree).outcome = .ok second ∧
      ∀ env, SameOutcome (second.tree.eval env) (first.tree.eval env) := by
  have wraps := Provider.WrapsPresent.of_registry wraps
  obtain ⟨ok, rfl⟩ := visit_eq_ok_iff.1 done
  exact ⟨_, visit_eq_ok_iff.2 ⟨settled_again wraps ok, rfl⟩, (meaning_again wraps ok).value⟩

/-- A host whose default integer is the absent value: the `??` is closed again with this default,
and stays absent, while the comparison is left as the first run made it. -/
theorem run_again_same_outcome_null_default :
    let host : Overrides := { constructDefault := [(.int64, .null)] }
    let n : Normalizer := { provider := host.applyTo Registry.standard.provider }
    let param (name : String) (ty : Ty) : Expr := .plain (.parameter name) [] ty
    let wrapper : Ty := .optional "Nullable" .int64
    let absent : Expr := .constant .null .int64
    let row : Expr := .binary .coalesce (param "x" .int64) (param "y" .int64) .int64
    let closed : Expr := .binary .coalesce row absent .int64
    let isNull (empty : Value) : Expr :=
      .binary .equal (param "w" wrapper) (.constant empty wrapper) .bool
    let array (row test : Expr) : Expr := .plain .newArray [row, test] (.sequence .int64)
    let tree := array row (isNull .null)
    let once := array closed (isNull (.wrapped "Nullable" .null))
    let twice := array (.binary .coalesce closed absent .int64) (isNull (.wrapped "Nullable" .null))
    let env := ((Env.bindParam {} "x" .null).bindParam "y" .null).bindParam "w"
      (.wrapped "Nullable" .null)
    (n.run tree).outcome = .ok ⟨once, true⟩ ∧ (n.run once).outcome = .ok ⟨twice, true⟩ ∧
      once.eval env = .ok (.sequence [.null, .bool true]) ∧
      SameOutcome (twice.eval env) (once.eval env) := by
  intro host n param wrapper absent row closed isNull array tree once twice env
  have first : (n.run tree).outcome = .ok ⟨once, true⟩ := rfl
  have again : (n.run once).outcome = .ok ⟨twice, true⟩ := rfl
  have wraps : n.provider.constructWrapper = Registry.standard.constructWrapper := rfl
  obtain ⟨second, run, same⟩ := run_again_same_outcome n wraps tree first
  obtain rfl : second = ⟨twice, true⟩ := Except.ok.inj (run.symm.trans again)
  exact ⟨first, again, rfl, same env⟩

end QueryDefaults
