import Mathlib.Logic.Function.Iterate
import QueryDefaults.Proofs.Normalizer.Again
import QueryDefaults.Proofs.Normalizer.Size
import QueryDefaults.Proofs.Pipeline.InTurn

/-!
# The same stage over and over

A pipeline that repeats one default-value stage fails when the first stage does, and at no later
stage. From the second stage on every stage does the same work: it closes again the `??` that the
first one closed, and nothing else, so that the tree keeps growing by the same number of nodes; and
when the first stage closed none, the later stages hand the tree on as it is
(`repeated_stages_close_again`).
-/

set_option autoImplicit false

namespace QueryDefaults

open Shape

/-- The pipeline of so many default-value stages with the same rules. -/
def Pipeline.repeated (p : Provider) (rules : RuleSet) (k : Nat) : Pipeline :=
  ofRuleSets p (List.replicate k rules)

variable {p : Provider} {rules : RuleSet} {e : Expr} {trace : Bool}

theorem Pipeline.stages_repeated_succ (p : Provider) (rules : RuleSet) (k : Nat) :
    (repeated p rules (k + 1)).stages = .defaultValues p rules :: (repeated p rules k).stages := rfl

/-! ## The trees between the stages -/

theorem count_coalesce (ok : Settled p rules e) :
    ((defaultValues p rules).visit e).count.coalesce =
      (e.sites p rules).countP fun shape => shape.rule = .coalesce :=
  (visit_settled ok).2 .coalesce

theorem settled_iterate (wraps : p.WrapsPresent) (ok : Settled p rules e) (i : Nat) :
    Settled p rules ((rewritten p rules)^[i] e) := by
  induction i with
  | zero => exact ok
  | succ i ih =>
    rw [Function.iterate_succ_apply']
    exact settled_again wraps ih

/-- Every stage ends well. -/
theorem visit_iterate (wraps : p.WrapsPresent) (ok : Settled p rules e) (i : Nat) :
    ∃ changed, ((defaultValues p rules).visit ((rewritten p rules)^[i] e)).outcome =
      .ok ⟨(rewritten p rules)^[i + 1] e, changed⟩ := by
  rw [Function.iterate_succ_apply']
  exact ⟨_, (visit_settled (settled_iterate wraps ok i)).1⟩

/-- Behind the first stage the trees have the `??` sites of the first tree and no others. -/
theorem sites_iterate (wraps : p.WrapsPresent) (ok : Settled p rules e) (i : Nat) :
    ((rewritten p rules)^[i + 1] e).sites p rules =
      (e.sites p rules).filter fun shape => shape.rule = .coalesce := by
  induction i with
  | zero => exact sites_again wraps ok
  | succ i ih =>
    rw [Function.iterate_succ_apply', sites_again wraps (settled_iterate wraps ok (i + 1)), ih,
      List.filter_filter]
    simp only [Bool.and_self]

/-- How often a rule applies behind the first stage. -/
theorem countP_sites_iterate (wraps : p.WrapsPresent) (ok : Settled p rules e) (i : Nat)
    (rule : Rule) :
    (((rewritten p rules)^[i + 1] e).sites p rules).countP (fun shape => shape.rule = rule) =
      if rule = .coalesce then ((defaultValues p rules).visit e).count.coalesce else 0 := by
  rw [sites_iterate wraps ok, List.countP_filter, count_coalesce ok]
  split
  · rename_i closes
    subst closes
    simp only [Bool.and_self]
  · rename_i other
    rw [List.countP_eq_zero]
    intro shape _ both
    simp only [Bool.and_eq_true, decide_eq_true_eq] at both
    exact other (both.1.symm.trans both.2)

/-- A stage behind the first one counts the `??` that the first one counted. -/
theorem count_visit_iterate (wraps : p.WrapsPresent) (ok : Settled p rules e) (i : Nat) :
    ((defaultValues p rules).visit ((rewritten p rules)^[i + 1] e)).count =
      ⟨0, 0, ((defaultValues p rules).visit e).count.coalesce, 0⟩ := by
  apply RuleCounts.ext_of
  intro rule
  rw [(visit_settled (settled_iterate wraps ok (i + 1))).2, countP_sites_iterate wraps ok]
  cases rule <;> rfl

/-- A stage behind the first one adds two nodes for each `??` that the first one counted. -/
theorem nodeCount_iterate (wraps : p.WrapsPresent) (ok : Settled p rules e) (i : Nat) :
    ((rewritten p rules)^[i + 2] e).nodeCount =
      ((rewritten p rules)^[i + 1] e).nodeCount +
        2 * ((defaultValues p rules).visit e).count.coalesce := by
  have counts := countP_sites_iterate wraps ok i
  rw [Function.iterate_succ_apply', nodeCount_rewritten (settled_iterate wraps ok (i + 1)),
    sum_added, counts, counts, counts]
  simp

/-- Behind a first stage without `??`, a stage hands the tree on as it is. -/
theorem visit_iterate_of_none (wraps : p.WrapsPresent) (ok : Settled p rules e)
    (closes : ((defaultValues p rules).visit e).count.coalesce = 0) (i : Nat) :
    ((defaultValues p rules).visit ((rewritten p rules)^[i + 1] e)).outcome =
      .ok ⟨(rewritten p rules)^[i + 1] e, false⟩ := by
  rw [count_coalesce ok] at closes
  have empty : ((rewritten p rules)^[i + 1] e).sites p rules = [] := by
    rw [sites_iterate wraps ok, List.filter_eq_nil_iff]
    exact List.countP_eq_zero.1 closes
  rw [(visit_settled (settled_iterate wraps ok (i + 1))).1, rewritten_eq_self empty, empty]
  rfl

/-! ## The stages -/

/-- Stages that all end well rewrite the tree once each. -/
theorem runAll_repeated {k : Nat} (ok : ∀ i < k, Settled p rules ((rewritten p rules)^[i] e)) :
    ∃ report, (Stage.runAll trace (Pipeline.repeated p rules k).stages e).outcome = .ok report ∧
      report.tree = (rewritten p rules)^[k] e ∧
      report.stages = (List.range k).map fun i =>
        (Stage.defaultValues p rules).reportBetween trace ((rewritten p rules)^[i] e)
          ((rewritten p rules)^[i + 1] e) := by
  induction k generalizing e with
  | zero => exact ⟨_, rfl, rfl, rfl⟩
  | succ k ih =>
    have first : ((Stage.defaultValues p rules).visit e).outcome =
        .ok ⟨rewritten p rules e, !(e.sites p rules).isEmpty⟩ :=
      (visit_settled (ok 0 (Nat.succ_pos k))).1
    -- The other stages start from the rewritten tree, whose iterates are one step ahead.
    obtain ⟨later, run, tree, stages⟩ := ih fun i hi => ok (i + 1) (Nat.succ_lt_succ hi)
    rw [Pipeline.stages_repeated_succ, Stage.outcome_runAll_cons, first]
    simp only [Except.bind, run, Except.map]
    refine ⟨_, rfl, tree, ?_⟩
    rw [List.range_succ_eq_map, List.map_cons, List.map_map, stages]
    rfl

/-- When the first stage fails, so does the run, with the same error. -/
theorem runAll_repeated_error (k : Nat) {err : QueryError}
    (fails : ((defaultValues p rules).visit e).outcome = .error err) :
    (Stage.runAll trace (Pipeline.repeated p rules (k + 1)).stages e).outcome = .error err := by
  have first : ((Stage.defaultValues p rules).visit e).outcome = .error err := fails
  rw [Pipeline.stages_repeated_succ, Stage.outcome_runAll_cons, first]
  rfl

/-- **Repeated stages.** A pipeline of one or more equal default-value stages ends with an error
exactly when its first stage does. When it ends well, with `c` applications of the rule of `??` in
the first stage, then every later stage applies this rule `c` times and no other one, and adds two
nodes each time. When `c` is zero, as it is when the rule is switched off, the later stages apply no
rule and give back the very tree that they get. -/
theorem repeated_stages_close_again (p : Provider) {registry : Registry}
    (wraps : p.constructWrapper = registry.constructWrapper) (rules : RuleSet) (k : Nat)
    (trace : Bool) (tree : Expr) :
    let stage := (defaultValues p rules).visit
    let run := (Pipeline.repeated p rules (k + 1)).runWith trace tree
    let c := (stage tree).count.coalesce
    (∀ err, run.outcome = .error err ↔ (stage tree).outcome = .error err) ∧
    ∀ report, run.outcome = .ok report →
      ∃ trees : Nat → Expr, trees 0 = tree ∧ trees (k + 1) = report.tree ∧
        (∀ i ≤ k, ∃ changed, (stage (trees i)).outcome = .ok ⟨trees (i + 1), changed⟩) ∧
        (report.stages = (List.range (k + 1)).map fun i =>
          (Stage.defaultValues p rules).reportBetween trace (trees i) (trees (i + 1))) ∧
        (∀ i, 1 ≤ i → i ≤ k → (stage (trees i)).count = ⟨0, 0, c, 0⟩ ∧
          (trees (i + 1)).nodeCount = (trees i).nodeCount + 2 * c) ∧
        (rules.coalesce = false → c = 0) ∧
        (c = 0 → ∀ i, 1 ≤ i → i ≤ k →
          (stage (trees i)).outcome = .ok ⟨trees i, false⟩ ∧
            (stage (trees i)).count.total = 0) := by
  intro stage run c
  have wraps := Provider.WrapsPresent.of_registry wraps
  have ends : run.outcome =
      (Stage.runAll trace (Pipeline.repeated p rules (k + 1)).stages tree).outcome :=
    Pipeline.outcome_runWith _ trace tree
  rw [ends]
  cases first : (stage tree).outcome with
  | error err =>
    rw [runAll_repeated_error k first]
    exact ⟨fun _ => by simp only [Except.error.injEq], fun report done => nomatch done⟩
  | ok visit =>
    have ok : Settled p rules tree := (visit_eq_ok_iff.1 first).1
    have settled : ∀ i < k + 1, Settled p rules ((rewritten p rules)^[i] tree) :=
      fun i _ => settled_iterate wraps ok i
    obtain ⟨report, run, last, stages⟩ := runAll_repeated settled
    rw [run]
    refine ⟨fun err => ⟨fun fails => (nomatch fails), fun fails => (nomatch fails)⟩, ?_⟩
    rintro _ ⟨⟩
    refine ⟨fun i => (rewritten p rules)^[i] tree, rfl, last.symm, ?_, stages, ?_, ?_, ?_⟩
    · intro i _
      exact visit_iterate wraps ok i
    · intro i later _
      obtain ⟨i, rfl⟩ := Nat.exists_eq_succ_of_ne_zero (Nat.one_le_iff_ne_zero.1 later)
      exact ⟨count_visit_iterate wraps ok i, nodeCount_iterate wraps ok i⟩
    · intro off
      have counted : c = (tree.sites p rules).countP fun shape => shape.rule = .coalesce :=
        count_coalesce ok
      rw [counted, countP_sites_eq]
      simp [RuleSet.has, off]
    · intro closes i later _
      obtain ⟨i, rfl⟩ := Nat.exists_eq_succ_of_ne_zero (Nat.one_le_iff_ne_zero.1 later)
      have count : (stage ((rewritten p rules)^[i + 1] tree)).count = ⟨0, 0, c, 0⟩ :=
        count_visit_iterate wraps ok i
      refine ⟨visit_iterate_of_none wraps ok closes i, ?_⟩
      rw [count, closes]
      rfl

/-- Three stages on a `DefaultIfEmpty` of a `??`: the second and the third one close the `??`
again. -/
theorem repeated_stages_close_again_thrice :
    let p := Registry.standard.provider
    let param (name : String) : Expr := .plain (.parameter name) [] (.sequence .int64)
    let rows : Expr := .binary .coalesce (param "xs") (param "ys") (.sequence .int64)
    let tree : Expr := .call .defaultIfEmpty [] [rows] (.sequence .int64)
    let run := (Pipeline.repeated p {} 3).runWith false tree
    ∃ report, run.outcome = .ok report ∧ report.stages.map StageReport.applied = [2, 1, 1] ∧
      ∃ trees : Nat → Expr, trees 0 = tree ∧ trees 3 = report.tree ∧
        ∀ i, 1 ≤ i → i ≤ 2 → ((defaultValues p {}).visit (trees i)).count = ⟨0, 0, 1, 0⟩ ∧
          (trees (i + 1)).nodeCount = (trees i).nodeCount + 2 := by
  intro p param rows tree run
  have wraps : p.constructWrapper = Registry.standard.constructWrapper := rfl
  have first : ((defaultValues p {}).visit tree).outcome = .ok ⟨rewritten p {} tree, true⟩ := rfl
  have counts : ((defaultValues p {}).visit tree).count = ⟨1, 0, 1, 0⟩ := rfl
  obtain ⟨fails, success⟩ := repeated_stages_close_again p wraps {} 2 false tree
  obtain ⟨report, ends⟩ : ∃ report, run.outcome = .ok report := by
    cases ends : run.outcome with
    | error err => cases first.symm.trans ((fails err).1 ends)
    | ok report => exact ⟨report, rfl⟩
  obtain ⟨trees, start, last, -, stages, later, -⟩ := success report ends
  simp only [counts, Nat.mul_one] at later
  have initial : ((defaultValues p {}).visit (trees 0)).count = ⟨1, 0, 1, 0⟩ := start ▸ counts
  have second := (later 1 (by omega) (by omega)).1
  have third := (later 2 (by omega) (by omega)).1
  have applied : ∀ i, ((Stage.defaultValues p {}).reportBetween false (trees i)
      (trees (i + 1))).applied = ((defaultValues p {}).visit (trees i)).count.total := fun _ => rfl
  refine ⟨report, ends, ?_, trees, start, last, later⟩
  rw [stages, List.map_map]
  simp only [List.range_succ, List.range_zero, List.nil_append, List.cons_append, List.map_cons,
    List.map_nil, Function.comp_apply, applied, initial, second, third]
  rfl

end QueryDefaults
