import QueryDefaults.Pipeline
import QueryDefaults.Proofs.Normalizer.Fusion
import QueryDefaults.Registry.Default

/-!
# Normalizers in turn

A pipeline of default-value stages runs one set of rules after another. When no two sets share a
rule, this ends like one run with all the rules together, with the same tree and the same counts,
and so the order of the stages does not matter (`disjoint_stages_fuse`).
-/

set_option autoImplicit false

namespace QueryDefaults

namespace RuleSet

/-- The rules of all sets. -/
def unionAll (sets : List RuleSet) : RuleSet := sets.foldr union none

theorem unionAll_cons (rules : RuleSet) (sets : List RuleSet) :
    unionAll (rules :: sets) = rules.union (unionAll sets) := rfl

/-- One rule alone. -/
def only (rule : Rule) : RuleSet :=
  ⟨rule = .defaultIfEmpty, rule = .firstOrDefault, rule = .coalesce, rule = .optionalCompare⟩

theorem has_only (rule other : Rule) : (only rule).has other = decide (rule = other) := by
  cases other <;> rfl

theorem has_unionAll (sets : List RuleSet) (rule : Rule) :
    (unionAll sets).has rule = sets.any fun rules => rules.has rule := by
  induction sets with
  | nil => exact has_none rule
  | cons rules sets ih => rw [unionAll_cons, has_union, ih, List.any_cons]

theorem unionAll_perm {sets order : List RuleSet} (same : order.Perm sets) :
    unionAll order = unionAll sets :=
  ext_has fun rule => by rw [has_unionAll, has_unionAll, same.any_eq]

theorem disjoint_unionAll {rules : RuleSet} {sets : List RuleSet}
    (disjoint : ∀ other ∈ sets, rules.Disjoint other) : rules.Disjoint (unionAll sets) := by
  intro rule on
  rw [has_unionAll, List.any_eq_false]
  intro other hother
  rw [disjoint other hother rule on]
  exact Bool.false_ne_true

end RuleSet

/-- The four rules. -/
def Rule.all : List Rule := [.defaultIfEmpty, .firstOrDefault, .coalesce, .optionalCompare]

/-- Different rules make disjoint sets. -/
theorem RuleSet.pairwise_only : (Rule.all.map only).Pairwise Disjoint := by
  rw [List.pairwise_map]
  refine List.Pairwise.imp (fun {a b} differ rule on => ?_) (by decide : Rule.all.Pairwise (· ≠ ·))
  rw [has_only, decide_eq_true_eq] at on
  rw [has_only, decide_eq_false_iff_not, ← on]
  exact Ne.symm differ

theorem RuleSet.unionAll_only : unionAll (Rule.all.map only) = {} := by decide

variable {p : Provider} {e : Expr}

/-- Runs of the normalizer with one rule set after another, each on the tree of the run before. -/
def inTurn (p : Provider) : List RuleSet → Expr → Traced RuleCounts Visit
  | [], tree => pure ⟨tree, false⟩
  | rules :: sets, tree => do
    let first ← (defaultValues p rules).visit tree
    let later ← inTurn p sets first.tree
    return ⟨later.tree, first.changed || later.changed⟩

/-- The pipeline that has one default-value stage for each rule set. -/
def Pipeline.ofRuleSets (p : Provider) (sets : List RuleSet) : Pipeline :=
  { stages := sets.map fun rules => Stage.defaultValues p rules }

theorem inTurn_cons (p : Provider) (rules : RuleSet) (sets : List RuleSet) (tree : Expr) :
    inTurn p (rules :: sets) tree = (do
      let first ← (defaultValues p rules).visit tree
      let later ← inTurn p sets first.tree
      return ⟨later.tree, first.changed || later.changed⟩) := rfl

theorem sites_none (p : Provider) (e : Expr) : e.sites p RuleSet.none = [] := by
  rw [sites_eq_filter, List.filter_eq_nil_iff]
  simp

/-- With pairwise disjoint sets, the runs end well when all sites can be settled, and then they give
the tree that is rewritten with all rules. -/
theorem inTurn_eq_ok_iff {sets : List RuleSet} (disjoint : sets.Pairwise RuleSet.Disjoint)
    {visit : Visit} :
    (inTurn p sets e).outcome = .ok visit ↔
      Settled p (RuleSet.unionAll sets) e ∧
        visit = ⟨rewritten p (RuleSet.unionAll sets) e,
          !(e.sites p (RuleSet.unionAll sets)).isEmpty⟩ := by
  induction sets generalizing e visit with
  | nil =>
    have empty : e.sites p (RuleSet.unionAll []) = [] := sites_none p e
    have settled : Settled p (RuleSet.unionAll []) e := fun shape hshape => by
      rw [empty] at hshape
      cases hshape
    rw [rewritten_eq_self empty, empty]
    simp [settled, inTurn, Traced.pure_def, eq_comm]
  | cons rules sets ih =>
    obtain ⟨apart, rest⟩ := List.pairwise_cons.1 disjoint
    have apart := RuleSet.disjoint_unionAll apart
    rw [RuleSet.unionAll_cons, settled_union, sites_union_isEmpty, ← rewritten_fuse apart,
      inTurn_cons, Traced.bind_eq_ok]
    constructor
    · rintro ⟨first, hfirst, h⟩
      obtain ⟨later, hlater, h⟩ := Traced.bind_eq_ok.1 h
      obtain ⟨ok, rfl⟩ := visit_eq_ok_iff.1 hfirst
      obtain ⟨oks, rfl⟩ := (ih rest).1 hlater
      cases h
      rw [sites_rewritten apart, Bool.not_and]
      exact ⟨⟨ok, (settled_rewritten apart e).1 oks⟩, rfl⟩
    · rintro ⟨⟨ok, oks⟩, rfl⟩
      refine ⟨_, visit_eq_ok_iff.2 ⟨ok, rfl⟩, Traced.bind_eq_ok.2
        ⟨_, (ih rest).2 ⟨(settled_rewritten apart e).2 oks, rfl⟩, ?_⟩⟩
      rw [sites_rewritten apart, Bool.not_and]
      rfl

/-- Runs that end well have counted every site once, for its rule. -/
theorem count_inTurn {sets : List RuleSet} (disjoint : sets.Pairwise RuleSet.Disjoint)
    (ok : Settled p (RuleSet.unionAll sets) e) (rule : Rule) :
    (inTurn p sets e).count.of rule =
      (e.sites p (RuleSet.unionAll sets)).countP fun shape => shape.rule = rule := by
  induction sets generalizing e with
  | nil =>
    have empty : e.sites p (RuleSet.unionAll []) = [] := sites_none p e
    rw [empty]
    exact RuleCounts.of_zero rule
  | cons rules sets ih =>
    obtain ⟨apart, rest⟩ := List.pairwise_cons.1 disjoint
    have apart := RuleSet.disjoint_unionAll apart
    rw [RuleSet.unionAll_cons, settled_union] at ok
    have later := (settled_rewritten apart e).2 ok.2
    obtain ⟨done, counts⟩ := visit_settled ok.1
    have sum : (inTurn p (rules :: sets) e).count.of rule =
        ((defaultValues p rules).visit e).count.of rule +
          (inTurn p sets (rewritten p rules e)).count.of rule := by
      rw [inTurn_cons, Traced.bind_ok _ done,
        Traced.bind_ok _ ((inTurn_eq_ok_iff rest).2 ⟨later, rfl⟩)]
      simp [Traced.pure_def]
    rw [sum, counts, ih rest later, sites_rewritten apart, RuleSet.unionAll_cons,
      countP_sites_union apart]

/-! ## Pipelines -/

/-- The report on a stage that made one tree of another. -/
def Stage.reportBetween (stage : Stage) (trace : Bool) (before after : Expr) : StageReport :=
  let shown (e : Expr) := if trace then some e.display else none
  ⟨stage.name, (stage.visit before).count, shown before, shown after⟩

/-- Stages end with the report on the first one before the reports on the others, which go on from
its tree. -/
theorem Stage.outcome_runAll_cons (trace : Bool) (stage : Stage) (stages : List Stage)
    (tree : Expr) :
    (runAll trace (stage :: stages) tree).outcome =
      (stage.visit tree).outcome.bind fun visit =>
        (runAll trace stages visit.tree).outcome.map fun later =>
          ⟨later.tree, visit.changed || later.changed,
            stage.reportBetween trace tree visit.tree :: later.stages⟩ := by
  rw [runAll, Traced.bind_ok _ rfl]
  simp only [Traced.outcome_bind, Traced.counted, Traced.emit, Traced.pure_def]
  cases (stage.visit tree).outcome with
  | error err => rfl
  | ok visit =>
    simp only [Except.map, Except.bind]
    cases (runAll trace stages visit.tree).outcome <;> rfl

/-- The stages of a pipeline of rule sets do what the runs in turn do. -/
theorem runAll_ofRuleSets (p : Provider) (trace : Bool) (sets : List RuleSet) (tree : Expr) :
    (Stage.runAll trace (Pipeline.ofRuleSets p sets).stages tree).outcome.map
        (fun report => (⟨report.tree, report.changed⟩ : Visit)) =
      (inTurn p sets tree).outcome := by
  induction sets generalizing tree with
  | nil => rfl
  | cons rules sets ih =>
    have start : (Pipeline.ofRuleSets p (rules :: sets)).stages =
      Stage.defaultValues p rules :: (Pipeline.ofRuleSets p sets).stages := rfl
    have visited : ((Stage.defaultValues p rules).visit tree).outcome =
      ((defaultValues p rules).visit tree).outcome := rfl
    rw [start, Stage.outcome_runAll_cons, visited, inTurn_cons, Traced.outcome_bind]
    cases ((defaultValues p rules).visit tree).outcome with
    | error err => rfl
    | ok first =>
      simp only [Except.bind, Traced.outcome_bind, ← ih]
      cases (Stage.runAll trace (Pipeline.ofRuleSets p sets).stages first.tree).outcome <;> rfl

/-- A run of a pipeline ends like the run of its stages. -/
theorem Pipeline.outcome_runWith (pipeline : Pipeline) (trace : Bool) (tree : Expr) :
    (pipeline.runWith trace tree).outcome = (Stage.runAll trace pipeline.stages tree).outcome := by
  rw [runWith, Traced.bind_ok _ rfl]
  cases done : (Stage.runAll trace pipeline.stages tree).outcome with
  | error err => rw [Traced.bind_error _ done]
  | ok report =>
    rw [Traced.bind_ok _ done]
    rfl

/-- A run gives the tree of its last stage, and whether any stage changed something. -/
theorem Pipeline.outcome_run (pipeline : Pipeline) (tree : Expr) :
    (pipeline.run tree).outcome =
      (Stage.runAll false pipeline.stages tree).outcome.map fun report =>
        ⟨report.tree, report.changed⟩ := by
  rw [run, Traced.outcome_bind, outcome_runWith]
  cases (Stage.runAll false pipeline.stages tree).outcome <;> rfl

theorem run_ofRuleSets (p : Provider) (sets : List RuleSet) (tree : Expr) :
    ((Pipeline.ofRuleSets p sets).run tree).outcome = (inTurn p sets tree).outcome := by
  rw [← runAll_ofRuleSets p false, Pipeline.outcome_run]

/-! ## Fusion -/

/-- Two runs end alike: both fail, or both end well with the same result and the same counts. -/
def Traced.EndsLike {α : Type} (x y : Traced RuleCounts α) : Prop :=
  match x.outcome, y.outcome with
  | .ok a, .ok b => a = b ∧ x.count = y.count
  | .error _, .error _ => True
  | _, _ => False

theorem Traced.EndsLike.ok {α : Type} {x y : Traced RuleCounts α} {a : α} (h : x.EndsLike y)
    (done : x.outcome = .ok a) : y.outcome = .ok a ∧ x.count = y.count := by
  unfold EndsLike at h
  rw [done] at h
  cases other : y.outcome with
  | error err =>
    rw [other] at h
    exact h.elim
  | ok b =>
    rw [other] at h
    exact ⟨congrArg Except.ok h.1.symm, h.2⟩

theorem inTurn_endsLike {sets : List RuleSet} (disjoint : sets.Pairwise RuleSet.Disjoint)
    {rules : RuleSet} (together : RuleSet.unionAll sets = rules) (tree : Expr) :
    (inTurn p sets tree).EndsLike ((defaultValues p rules).visit tree) := by
  subst together
  unfold Traced.EndsLike
  cases hleft : (inTurn p sets tree).outcome with
  | ok visit =>
    obtain ⟨ok, rfl⟩ := (inTurn_eq_ok_iff disjoint).1 hleft
    obtain ⟨done, counts⟩ := visit_settled ok
    rw [done]
    exact ⟨rfl, RuleCounts.ext_of fun rule => by rw [count_inTurn disjoint ok, counts]⟩
  | error err =>
    cases hright : ((defaultValues p (RuleSet.unionAll sets)).visit tree).outcome with
    | error err' => trivial
    | ok visit =>
      have ok := (visit_eq_ok_iff.1 hright).1
      cases hleft.symm.trans ((inTurn_eq_ok_iff disjoint).2 ⟨ok, rfl⟩)

/-- Two runs in turn give the tree of the second one, and count what both count. -/
theorem inTurn_pair {one two : RuleSet} {first last : Visit}
    (hfirst : ((defaultValues p one).visit e).outcome = .ok first)
    (hlast : ((defaultValues p two).visit first.tree).outcome = .ok last) :
    (inTurn p [one, two] e).outcome = .ok ⟨last.tree, first.changed || last.changed⟩ ∧
      (inTurn p [one, two] e).count =
        ((defaultValues p one).visit e).count + ((defaultValues p two).visit first.tree).count := by
  rw [inTurn_cons, Traced.bind_ok _ hfirst, inTurn_cons, Traced.bind_ok _ hlast]
  simp [inTurn, Traced.pure_def, bind, Tally.add_zero]

theorem RuleSet.pairwise_pair {one two : RuleSet} (disjoint : one.Disjoint two) :
    [one, two].Pairwise Disjoint := by
  simp [disjoint]

theorem RuleSet.unionAll_pair (one two : RuleSet) : unionAll [one, two] = one.union two :=
  ext_has fun rule => by simp [has_unionAll]

/-- **Fusion of stages.** A run with one set of rules and then with a disjoint one, in either order,
ends like the run with both sets at once, and its counts are the sums of the counts of its two
stages. So do the four runs with a single rule, in every order, and the run with all rules. The runs
in turn are the runs of the stages of a pipeline. -/
theorem disjoint_stages_fuse (p : Provider) {one two : RuleSet} (disjoint : one.Disjoint two)
    (tree : Expr) :
    (inTurn p [one, two] tree).EndsLike ((defaultValues p (one.union two)).visit tree) ∧
    (inTurn p [two, one] tree).EndsLike ((defaultValues p (one.union two)).visit tree) ∧
    (∀ first last, ((defaultValues p one).visit tree).outcome = .ok first →
      ((defaultValues p two).visit first.tree).outcome = .ok last →
      ((defaultValues p (one.union two)).visit tree).outcome =
          .ok ⟨last.tree, first.changed || last.changed⟩ ∧
        ∀ rule, ((defaultValues p (one.union two)).visit tree).count.of rule =
          ((defaultValues p one).visit tree).count.of rule +
            ((defaultValues p two).visit first.tree).count.of rule) ∧
    (∀ order, order.Perm (Rule.all.map RuleSet.only) →
      (inTurn p order tree).EndsLike ((defaultValues p {}).visit tree)) ∧
    ∀ sets, ((Pipeline.ofRuleSets p sets).run tree).outcome = (inTurn p sets tree).outcome := by
  have forth : (inTurn p [one, two] tree).EndsLike
      ((defaultValues p (one.union two)).visit tree) :=
    inTurn_endsLike (RuleSet.pairwise_pair disjoint) (RuleSet.unionAll_pair one two) tree
  refine ⟨forth, ?_, ?_, ?_, fun sets => run_ofRuleSets p sets tree⟩
  · refine inTurn_endsLike (RuleSet.pairwise_pair disjoint.symm) ?_ tree
    rw [← RuleSet.unionAll_pair]
    exact RuleSet.unionAll_perm (List.Perm.swap one two [])
  · intro first last hfirst hlast
    obtain ⟨done, counts⟩ := inTurn_pair hfirst hlast
    obtain ⟨single, same⟩ := forth.ok done
    exact ⟨single, fun rule => by rw [← same, counts, RuleCounts.of_add]⟩
  · intro order perm
    refine inTurn_endsLike ?_ ((RuleSet.unionAll_perm perm).trans RuleSet.unionAll_only) tree
    exact RuleSet.pairwise_only.perm perm.symm fun disjoint => disjoint.symm

/-- A `??` over a `FirstOrDefault`: a site of each of two rules, one of them below the other. -/
theorem disjoint_stages_fuse_nested :
    let source : Expr := .plain (.source "rows") [] (.sequence .int64)
    let tree : Expr := .binary .coalesce (.call .firstOrDefault [.int64] [source] .int64)
      (.plain (.parameter "x") [] .int64) .int64
    let one := RuleSet.only .coalesce
    let two := RuleSet.only .firstOrDefault
    one.Disjoint two ∧
      (∃ visit, (inTurn Registry.standard.provider [one, two] tree).outcome = .ok visit ∧
        visit.tree = .binary .coalesce
          (.binary .coalesce
            (.call .firstOrFallback [.int64] [source, .constant (.int64 0) .int64] .int64)
            (.plain (.parameter "x") [] .int64) .int64)
          (.constant (.int64 0) .int64) .int64) ∧
      (inTurn Registry.standard.provider [one, two] tree).EndsLike
        ((defaultValues Registry.standard.provider (one.union two)).visit tree) := by
  have disjoint : (RuleSet.only .coalesce).Disjoint (RuleSet.only .firstOrDefault) := by
    intro rule
    cases rule <;> decide
  exact ⟨disjoint, ⟨_, rfl, rfl⟩,
    (disjoint_stages_fuse Registry.standard.provider disjoint _).1⟩

end QueryDefaults
