import QueryDefaults.Proofs.Normalizer.Rewritten
import QueryDefaults.Proofs.Pass.Operands

/-!
# Runs of the normalizer

What one visit does at a node, in three cases: the node is no site, it is a site that can be
settled, or settling it fails. From these steps and from what a list of operands gives, a run over a
tree whose sites can all be settled ends with the rewritten tree, and counts each site once for its
rule (`visit_settled`).
-/

set_option autoImplicit false

namespace QueryDefaults

open Shape

variable {p : Provider} {rules : RuleSet} {e : Expr} {shape : Shape}

/-- The shapes of the sites of a tree, in pre-order. -/
def Expr.sites (p : Provider) (rules : RuleSet) (e : Expr) : List Shape :=
  e.nodes.filterMap (site? p rules)

theorem Expr.sites_eq (p : Provider) (rules : RuleSet) (e : Expr) :
    e.sites p rules = (site? p rules e).toList ++ e.operands.flatMap (sites p rules) := by
  unfold sites
  rw [nodes_eq, List.filterMap_cons, List.filterMap_flatMap]
  cases site? p rules e <;> rfl

/-- Every site of a tree can be settled. -/
def Settled (p : Provider) (rules : RuleSet) (e : Expr) : Prop :=
  ∀ shape ∈ e.sites p rules, ∃ settled, shape.settle p = .ok settled

/-- A tree is settled when its root is, if that is a site, and all its operands are. -/
theorem settled_iff_operands :
    Settled p rules e ↔
      (∀ shape, Site p rules e shape → ∃ settled, shape.settle p = .ok settled) ∧
        ∀ a ∈ e.operands, Settled p rules a := by
  unfold Settled
  rw [Expr.sites_eq]
  simp only [List.mem_append, Option.mem_toList, List.mem_flatMap, ← site?_eq_some_iff]
  constructor
  · intro h
    exact ⟨fun shape found => h shape (.inl found),
      fun a ha shape hshape => h shape (.inr ⟨a, ha, hshape⟩)⟩
  · rintro ⟨root, below⟩ shape (found | ⟨a, ha, hshape⟩)
    · exact root shape found
    · exact below a ha shape hshape

/-- A tree without sites is its own rewritten tree. -/
theorem rewritten_eq_self (h : e.sites p rules = []) : rewritten p rules e = e := by
  refine Expr.eq_self_of_rebuilds fun node here => ?_
  rw [rewritten_eq, rewriteNode_of_none (List.filterMap_eq_nil_iff.1 h node here)]

/-! ## One node -/

/-- What is logged at a node before its operands: the shape that the gate turns away, if any. -/
def skips (p : Provider) (rules : RuleSet) (e : Expr) : List Event :=
  match find? p rules e with
  | some shape =>
    if p.hasDefault shape.governing then [] else [.skipped shape.rule shape.governing]
  | none => []

theorem enter_of_none (h : site? p rules e = none) :
    (defaultValues p rules).enter e = ⟨.ok none, 0, skips p rules e⟩ := by
  unfold site? at h
  simp only [defaultValues, skips]
  cases found : find? p rules e with
  | none => rfl
  | some shape =>
    rw [found, Option.filter_eq_none_iff] at h
    have closed : p.hasDefault shape.governing = false := by simpa using h shape rfl
    simp only [closed]
    rfl

theorem enter_of_site (site : Site p rules e shape) :
    (defaultValues p rules).enter e =
      ⟨(shape.settle p).map fun settled => some (shape, settled), 0, []⟩ := by
  have decided := site.site?_eq
  obtain ⟨found, gate⟩ := Option.filter_eq_some_iff.1 decided
  simp only [defaultValues, found, gate, if_true, site.lookUp_eq]
  cases shape.settle p <;> rfl

/-- After the operands, a site emits its node, and this is counted for its rule. -/
theorem leave_of_site (site : Site p rules e shape) (settled : Expr) {operands : List Visit}
    (len : operands.length = e.operands.length) :
    (defaultValues p rules).leave (some (shape, settled)) e operands =
      ⟨.ok ⟨shape.emit settled e (operands.map Visit.tree), true⟩, .one shape.rule,
        [shape.applied operands.length]⟩ := by
  have trees : (operands.map Visit.tree).length = e.operands.length := by rw [List.length_map, len]
  have built := site.replacement_eq settled trees
  simp [defaultValues, built, Traced.emit, Traced.tally, Traced.ofExcept, Traced.pure_def, bind,
    Tally.zero_add, Tally.add_zero]

/-- A node that is no site is rebuilt from its visited operands. -/
theorem visit_of_none (h : site? p rules e = none) :
    (defaultValues p rules).visit e =
      ⟨((defaultValues p rules).visitAll e.operands).outcome.map (Visit.rebuild e),
        ((defaultValues p rules).visitAll e.operands).count,
        skips p rules e ++ ((defaultValues p rules).visitAll e.operands).log⟩ := by
  rw [Pass.visit_eq, enter_of_none h, Traced.bind_ok _ rfl]
  cases hb : ((defaultValues p rules).visitAll e.operands).outcome with
  | error err => simp [Traced.bind_error _ hb, Except.map, Tally.zero_add]
  | ok visits =>
    have rebuilt :
        (defaultValues p rules).leave none e visits = pure (Visit.rebuild e visits) := rfl
    simp [Traced.bind_ok _ hb, rebuilt, Traced.pure_def, Except.map, Tally.zero_add,
      Tally.add_zero]

/-- A site that can be settled is replaced over its visited operands. -/
theorem visit_of_site (site : Site p rules e shape) {settled : Expr}
    (ok : shape.settle p = .ok settled) {visits : List Visit}
    (hb : ((defaultValues p rules).visitAll e.operands).outcome = .ok visits) :
    (defaultValues p rules).visit e =
      ⟨.ok ⟨shape.emit settled e (visits.map Visit.tree), true⟩,
        ((defaultValues p rules).visitAll e.operands).count + .one shape.rule,
        ((defaultValues p rules).visitAll e.operands).log ++
          [shape.applied e.operands.length]⟩ := by
  have len := Pass.length_of_visitAll hb
  rw [Pass.visit_eq, enter_of_site site, ok, Traced.bind_ok _ rfl, Traced.bind_ok _ hb,
    leave_of_site site settled len, len]
  simp [Tally.zero_add]

/-- A site passes on the failure of its operands. -/
theorem visit_of_site_error (site : Site p rules e shape) {settled : Expr}
    (ok : shape.settle p = .ok settled) {err : QueryError}
    (hb : ((defaultValues p rules).visitAll e.operands).outcome = .error err) :
    (defaultValues p rules).visit e =
      ⟨.error err, ((defaultValues p rules).visitAll e.operands).count,
        ((defaultValues p rules).visitAll e.operands).log⟩ := by
  rw [Pass.visit_eq, enter_of_site site, ok, Traced.bind_ok _ rfl, Traced.bind_error _ hb]
  simp [Tally.zero_add]

/-- A site that cannot be settled fails before its operands, with nothing counted or logged. -/
theorem visit_of_failing (site : Site p rules e shape) {err : QueryError}
    (fails : shape.settle p = .error err) :
    (defaultValues p rules).visit e = ⟨.error err, 0, []⟩ := by
  rw [Pass.visit_eq, enter_of_site site, fails]
  exact Traced.bind_error _ rfl

/-! ## A whole tree -/

theorem countP_sites (p : Provider) (rules : RuleSet) (e : Expr) (rule : Rule) :
    (e.sites p rules).countP (fun shape => shape.rule = rule) =
      (site? p rules e).toList.countP (fun shape => shape.rule = rule) +
        (e.operands.map fun a => (a.sites p rules).countP fun shape => shape.rule = rule).sum := by
  rw [Expr.sites_eq, List.countP_append, List.countP_flatMap]
  rfl

/-- The operands of a node count the sites below it. -/
theorem visitAll_settled
    (ih : ∀ a ∈ e.operands,
      ((defaultValues p rules).visit a).outcome =
          .ok ⟨rewritten p rules a, !(a.sites p rules).isEmpty⟩ ∧
        ∀ rule, ((defaultValues p rules).visit a).count.of rule =
          (a.sites p rules).countP fun shape => shape.rule = rule) :
    ((defaultValues p rules).visitAll e.operands).outcome =
        .ok (e.operands.map fun a => ⟨rewritten p rules a, !(a.sites p rules).isEmpty⟩) ∧
      ∀ rule, ((defaultValues p rules).visitAll e.operands).count.of rule =
        (e.operands.map fun a => (a.sites p rules).countP fun shape => shape.rule = rule).sum := by
  rw [Pass.visitAll_ok fun a ha => (ih a ha).1]
  refine ⟨rfl, fun rule => ?_⟩
  rw [RuleCounts.of_sum, List.map_map]
  exact congrArg List.sum (List.map_congr_left fun a ha => (ih a ha).2 rule)

/-- A node that is no site changes when one of its operands does. -/
theorem rebuild_rewritten (h : site? p rules e = none) :
    Visit.rebuild e
        (e.operands.map fun a => ⟨rewritten p rules a, !(a.sites p rules).isEmpty⟩) =
      ⟨rewritten p rules e, !(e.sites p rules).isEmpty⟩ := by
  have any : (e.operands.any fun a => !(a.sites p rules).isEmpty) =
      !(e.sites p rules).isEmpty := by
    rw [Expr.sites_eq, h, Bool.eq_iff_iff]
    simp
  rw [Visit.rebuild_map fun a _ same => rewritten_eq_self (by simpa using same), any,
    rewritten_eq, rewriteNode_of_none h]

/-- A run over a tree whose sites can all be settled gives the rewritten tree, and it counts every
site once, for its rule. -/
theorem visit_settled (h : Settled p rules e) :
    ((defaultValues p rules).visit e).outcome =
        .ok ⟨rewritten p rules e, !(e.sites p rules).isEmpty⟩ ∧
      ∀ rule, ((defaultValues p rules).visit e).count.of rule =
        (e.sites p rules).countP fun shape => shape.rule = rule := by
  induction e using Expr.induction_operands with
  | step e ih =>
    obtain ⟨root, rest⟩ := settled_iff_operands.1 h
    obtain ⟨below, counts⟩ := visitAll_settled fun a ha => ih a ha (rest a ha)
    cases found : site? p rules e with
    | none =>
      rw [visit_of_none found, below]
      refine ⟨?_, fun rule => ?_⟩
      · rw [Except.map, rebuild_rewritten found]
      · rw [countP_sites, found, counts]
        simp
    | some shape =>
      have site := site?_eq_some_iff.1 found
      obtain ⟨settled, ok⟩ := root shape site
      rw [visit_of_site site ok below]
      refine ⟨?_, fun rule => ?_⟩
      · rw [rewritten_eq, rewriteNode_of_site site ok, Expr.sites_eq, found]
        simp [Function.comp_def]
      · rw [countP_sites, found, RuleCounts.of_add, counts, RuleCounts.of_one, Nat.add_comm]
        simp [List.countP_singleton]

end QueryDefaults
