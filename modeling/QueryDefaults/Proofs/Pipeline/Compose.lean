import Mathlib.Data.List.Chain
import QueryDefaults.Proofs.Pipeline.InTurn

/-!
# Pipelines behind pipelines

The stages of two pipelines in one row do what the second pipeline does on the tree of the first one
(`runAll_append`), and the trees in a report are there to be looked at only (`runAll_plain`). `Runs`
says what a run that ends well consists of: every stage starts from the tree of the stage before it
and from a count of zero.
-/

set_option autoImplicit false

namespace QueryDefaults

/-- A report on a stage without the trees. -/
def StageReport.plain (r : StageReport) : StageReport := { r with before := none, after := none }

/-- A report without the trees before and after the stages. -/
def Report.plain (r : Report) : Report := { r with stages := r.stages.map StageReport.plain }

/-- A report on two runs, the second one on the tree of the first one. -/
def Report.followedBy (one two : Report) : Report :=
  ⟨two.tree, one.changed || two.changed, one.stages ++ two.stages⟩

theorem Report.total_followedBy (one two : Report) :
    (one.followedBy two).total = one.total + two.total := by
  rw [total, followedBy, List.map_append, List.sum_append]
  rfl

/-- Every stage shows the tree that the stage before it shows, from the first tree to the last. -/
structure Report.Linked (tree : Expr) (r : Report) : Prop where
  first : ∀ stage ∈ r.stages.head?, stage.before = some tree.display
  next : r.stages.IsChain fun stage later => later.before = stage.after
  last : ∀ stage ∈ r.stages.getLast?, stage.after = some r.tree.display

/-! ## Unchanged trees -/

theorem Visit.tree_of_rebuild {e : Expr} {operands : List Visit}
    (same : (rebuild e operands).changed = false) : (rebuild e operands).tree = e := by
  unfold rebuild at same ⊢
  split
  · rename_i changed
    rw [if_pos changed] at same
    cases same
  · rfl

namespace Pass

variable {κ δ : Type} [Tally κ] {p : Pass κ δ} {tree : Expr} {visit : Visit}

/-- Whether a pass reports every node that it does not give back as it is. -/
def Honest (p : Pass κ δ) : Prop :=
  ∀ decision e operands visit, (p.leave decision e operands).outcome = .ok visit →
    visit.changed = false → visit.tree = e

/-- An honest pass that reports no change gives back its tree. -/
theorem Honest.tree_of_unchanged (honest : p.Honest) (done : (p.visit tree).outcome = .ok visit)
    (same : visit.changed = false) : visit.tree = tree := by
  rw [visit_eq] at done
  obtain ⟨decision, -, done⟩ := Traced.bind_eq_ok.1 done
  obtain ⟨operands, -, done⟩ := Traced.bind_eq_ok.1 done
  exact honest decision tree operands visit done same

theorem honest_identity : identity.Honest := by
  rintro _ e operands _ ⟨⟩ same
  exact Visit.tree_of_rebuild same

theorem honest_increment : increment.Honest := by
  rintro _ e operands visit done same
  simp only [increment, ofLeave] at done
  split at done <;> cases done
  · cases same
  · exact Visit.tree_of_rebuild same

theorem honest_foldAdd : foldAdd.Honest := by
  rintro _ e operands visit done same
  simp only [foldAdd, ofLeave] at done
  split at done <;> cases done
  · cases same
  · exact Visit.tree_of_rebuild same

theorem honest_renameSource (old new : String) : (renameSource old new).Honest := by
  rintro _ e operands visit done same
  simp only [renameSource, ofLeave] at done
  split at done
  · split at done <;> cases done
    · cases same
    · exact Visit.tree_of_rebuild same
  · cases done
    exact Visit.tree_of_rebuild same

theorem honest_lower : lower.Honest := by
  rintro _ e operands visit done same
  simp only [lower, ofLeave] at done
  split at done
  · obtain ⟨-, -, done⟩ := Traced.bind_eq_ok.1 done
    obtain ⟨expansion, -, done⟩ := Traced.bind_eq_ok.1 done
    cases done
    cases same
  · cases done
    exact Visit.tree_of_rebuild same

theorem honest_defaultValues (p : Provider) (rules : RuleSet) : (defaultValues p rules).Honest := by
  rintro (_ | ⟨shape, settled⟩) e operands visit done same
  · cases done
    exact Visit.tree_of_rebuild same
  · obtain ⟨-, -, done⟩ := Traced.bind_eq_ok.1 done
    obtain ⟨-, -, done⟩ := Traced.bind_eq_ok.1 done
    obtain ⟨tree, -, done⟩ := Traced.bind_eq_ok.1 done
    cases done
    cases same

end Pass

namespace Stage

variable {trace : Bool} {stage : Stage} {stages : List Stage} {tree : Expr} {report : Report}
  {err : QueryError}

/-- A run that ends well. Each stage visits the tree that the stage before it has given, and its
report holds what this visit alone has counted. -/
inductive Runs (trace : Bool) : List Stage → Expr → Report → Prop where
  | nil (tree : Expr) : Runs trace [] tree ⟨tree, false, []⟩
  | cons {stage : Stage} {stages : List Stage} {tree : Expr} {visit : Visit} {later : Report}
      (done : (stage.visit tree).outcome = .ok visit) (rest : Runs trace stages visit.tree later) :
      Runs trace (stage :: stages) tree
        ⟨later.tree, visit.changed || later.changed,
          stage.reportBetween trace tree visit.tree :: later.stages⟩

/-- The kinds of stages: the default-value normalizer and the elementary passes. -/
inductive Known : Stage → Prop where
  | defaultValues (p : Provider) (rules : RuleSet) : Known (.defaultValues p rules)
  | identity (name : String) : Known (.ofPass name .identity)
  | increment (name : String) : Known (.ofPass name .increment)
  | foldAdd (name : String) : Known (.ofPass name .foldAdd)
  | renameSource (name old new : String) : Known (.ofPass name (.renameSource old new))
  | lower (name : String) : Known (.ofPass name .lower)

/-! ## Runs -/

theorem runAll_eq_ok_iff :
    (runAll trace stages tree).outcome = .ok report ↔ Runs trace stages tree report := by
  constructor
  · intro done
    induction stages generalizing tree report with
    | nil =>
      cases done
      exact .nil tree
    | cons stage stages ih =>
      rw [outcome_runAll_cons] at done
      cases first : (stage.visit tree).outcome with
      | error err =>
        rw [first] at done
        cases done
      | ok visit =>
        rw [first, Except.bind] at done
        cases later : (runAll trace stages visit.tree).outcome with
        | error err =>
          rw [later] at done
          cases done
        | ok rest =>
          rw [later] at done
          cases done
          exact .cons first (ih later)
  · intro runs
    induction runs with
    | nil tree => rfl
    | cons done rest ih =>
      rw [outcome_runAll_cons, done]
      simp only [Except.bind, ih]
      rfl

/-- Stages behind stages go on from their tree. -/
theorem runAll_append (trace : Bool) (first second : List Stage) (tree : Expr) :
    runAll trace (first ++ second) tree = (do
      let one ← runAll trace first tree
      let two ← runAll trace second one.tree
      return one.followedBy two) := by
  induction first generalizing tree with
  | nil => simp [runAll, Report.followedBy]
  | cons stage first ih => simp [runAll, ih, Report.followedBy, Bool.or_assoc]

/-- Without the trees, a report is the same whether the run has traced or not. -/
theorem runAll_plain (trace : Bool) (stages : List Stage) (tree : Expr) :
    Report.plain <$> runAll trace stages tree = runAll false stages tree := by
  induction stages generalizing tree with
  | nil => simp [runAll, Report.plain]
  | cons stage stages ih => simp [runAll, ← ih, Report.plain, StageReport.plain]

theorem runAll_error_untraced (fails : (runAll trace stages tree).outcome = .error err) :
    (runAll false stages tree).outcome = .error err := by
  rw [← runAll_plain trace, map_eq_pure_bind, Traced.bind_error _ fails]

/-- The reports of a run with tracing are linked. -/
theorem Runs.linked (runs : Runs true stages tree report) : report.Linked tree := by
  induction runs with
  | nil tree => exact ⟨nofun, .nil, nofun⟩
  | @cons stage stages tree visit later done rest ih =>
    refine ⟨?_, ?_, ?_⟩
    · rintro _ ⟨⟩
      rfl
    · exact ih.next.cons ih.first
    · cases rest with
      | nil =>
        rintro _ ⟨⟩
        rfl
      | cons => exact ih.last

/-- A run of no stage shows trees, unless it traces. -/
theorem Runs.untraced (runs : Runs false stages tree report) :
    ∀ stage ∈ report.stages, stage.before = none ∧ stage.after = none := by
  induction runs with
  | nil tree => nofun
  | cons done rest ih => exact List.forall_mem_cons.2 ⟨⟨rfl, rfl⟩, ih⟩

/-! ## The tree that went in -/

/-- A known stage that reports no change gives back its tree. -/
theorem Known.tree_of_unchanged (known : stage.Known) {visit : Visit}
    (done : (stage.visit tree).outcome = .ok visit) (same : visit.changed = false) :
    visit.tree = tree := by
  cases known with
  | defaultValues p rules => exact Pass.honest_defaultValues p rules |>.tree_of_unchanged done same
  | identity name => exact Pass.honest_identity.tree_of_unchanged done same
  | increment name => exact Pass.honest_increment.tree_of_unchanged done same
  | foldAdd name => exact Pass.honest_foldAdd.tree_of_unchanged done same
  | renameSource name old new =>
    exact (Pass.honest_renameSource old new).tree_of_unchanged done same
  | lower name => exact Pass.honest_lower.tree_of_unchanged done same

/-- Known stages that report no change give back the tree that went in. -/
theorem Runs.tree_of_unchanged (runs : Runs trace stages tree report)
    (known : ∀ stage ∈ stages, stage.Known) (same : report.changed = false) :
    report.tree = tree := by
  induction runs with
  | nil tree => rfl
  | cons done rest ih =>
    obtain ⟨first, others⟩ := List.forall_mem_cons.1 known
    obtain ⟨here, later⟩ := Bool.or_eq_false_iff.1 same
    exact (ih others later).trans (first.tree_of_unchanged done here)

/-- Stages that fail leave nothing for the stages behind them to do. -/
theorem runAll_append_error {first : List Stage}
    (fails : (runAll trace first tree).outcome = .error err) (second : List Stage) :
    (runAll trace (first ++ second) tree).outcome = .error err ∧
      (runAll trace (first ++ second) tree).log = (runAll trace first tree).log := by
  rw [runAll_append, Traced.bind_error _ fails]
  exact ⟨rfl, rfl⟩

/-- Stages behind stages that end well start from their tree. -/
theorem outcome_runAll_append {first : List Stage} {one : Report}
    (done : (runAll trace first tree).outcome = .ok one) (second : List Stage) :
    (runAll trace (first ++ second) tree).outcome =
      (runAll trace second one.tree).outcome.map one.followedBy := by
  rw [runAll_append, Traced.bind_ok _ done, Traced.outcome_bind]
  cases (runAll trace second one.tree).outcome <;> rfl

end Stage

namespace Pipeline

variable {trace : Bool} {tree : Expr} {err : QueryError}

theorem outcome_report (stages : List Stage) (trace : Bool) (tree : Expr) :
    (report ⟨stages, trace⟩ tree).outcome = (Stage.runAll trace stages tree).outcome :=
  outcome_runWith _ trace tree

/-- A run ends as a report does, with the same tree or the same error, and no matter whether the
pipeline traces. -/
theorem outcome_run_eq (stages : List Stage) (trace other : Bool) (tree : Expr) :
    (run ⟨stages, other⟩ tree).outcome =
      (report ⟨stages, trace⟩ tree).outcome.map fun r => ⟨r.tree, r.changed⟩ := by
  rw [outcome_run, outcome_report, ← Stage.runAll_plain trace, map_eq_pure_bind,
    Traced.outcome_bind]
  cases (Stage.runAll trace stages tree).outcome <;> rfl

/-- After its first event, a pipeline that fails has logged what its stages have logged. -/
theorem log_runWith {stages : List Stage}
    (fails : (Stage.runAll trace stages tree).outcome = .error err) (config : Bool) :
    (runWith ⟨stages, config⟩ trace tree).log.tail = (Stage.runAll trace stages tree).log := by
  rw [runWith, Traced.bind_ok _ rfl, Traced.bind_error _ fails]
  rfl

/-- A pipeline that fails logs nothing of stages behind the one that fails. -/
theorem log_append {first : List Stage}
    (fails : (Stage.runAll trace first tree).outcome = .error err) (second : List Stage)
    (config : Bool) :
    (runWith ⟨first ++ second, config⟩ trace tree).log.tail =
      (runWith ⟨first, config⟩ trace tree).log.tail := by
  obtain ⟨ends, log⟩ := Stage.runAll_append_error fails second
  rw [log_runWith ends, log, log_runWith fails]

/-- So does its run without a report. -/
theorem log_run_append {first : List Stage}
    (fails : (Stage.runAll false first tree).outcome = .error err) (second : List Stage)
    (config : Bool) :
    (run ⟨first ++ second, config⟩ tree).log.tail = (run ⟨first, config⟩ tree).log.tail := by
  have front : (runWith ⟨first, config⟩ false tree).outcome = .error err :=
    (outcome_runWith _ false tree).trans fails
  have whole : (runWith ⟨first ++ second, config⟩ false tree).outcome = .error err :=
    (outcome_runWith _ false tree).trans (Stage.runAll_append_error fails second).1
  rw [run, run, Traced.bind_error _ front, Traced.bind_error _ whole]
  exact log_append fails second config

/-- **Pipelines compose.** Two lists of stages in one pipeline do what the second list does on the
tree of the first one. An error of the first list ends the run before any stage of the second list
starts, as the log shows, and an error of the second list ends it, too. Otherwise the tree is the
one of the second list, the reports on the stages follow each other, their totals add up, and the
tree counts as unchanged exactly when both lists count it so; known stages then give back the tree
that went in. For every list, a run gives the tree or the error of the report, whether trees are
traced or not; a report consists of the visits of the stages, each with its own count; and its trees
are linked when they are traced. -/
theorem pipelines_compose (first second : List Stage) (trace : Bool) (tree : Expr) :
    let front : Pipeline := ⟨first, trace⟩
    let back : Pipeline := ⟨second, trace⟩
    let whole : Pipeline := ⟨first ++ second, trace⟩
    (∀ err, (front.report tree).outcome = .error err →
      (whole.report tree).outcome = .error err ∧ (whole.run tree).outcome = .error err ∧
        (whole.report tree).log.tail = (front.report tree).log.tail ∧
        (whole.run tree).log.tail = (front.run tree).log.tail) ∧
    (∀ one, (front.report tree).outcome = .ok one →
      (∀ err, (back.report one.tree).outcome = .error err →
        (whole.report tree).outcome = .error err ∧ (whole.run tree).outcome = .error err) ∧
      ∀ two, (back.report one.tree).outcome = .ok two →
        ∃ both, (whole.report tree).outcome = .ok both ∧
          (whole.run tree).outcome = .ok ⟨both.tree, both.changed⟩ ∧ both.tree = two.tree ∧
          both.stages = one.stages ++ two.stages ∧ both.total = one.total + two.total ∧
          (both.changed = false ↔ one.changed = false ∧ two.changed = false) ∧
          ((∀ stage ∈ first ++ second, stage.Known) → both.changed = false → both.tree = tree)) ∧
    ∀ stages,
      (∀ other, (run ⟨stages, other⟩ tree).outcome =
        (report ⟨stages, trace⟩ tree).outcome.map fun r => ⟨r.tree, r.changed⟩) ∧
      ∀ r, (report ⟨stages, trace⟩ tree).outcome = .ok r →
        Stage.Runs trace stages tree r ∧
          if trace then r.Linked tree
          else ∀ stage ∈ r.stages, stage.before = none ∧ stage.after = none := by
  intro front back whole
  have plainly : ∀ {err}, (whole.report tree).outcome = .error err →
      (whole.run tree).outcome = .error err := fun fails => by
    rw [outcome_run_eq _ trace, fails]
    rfl
  refine ⟨fun err fails => ?_, fun one done => ⟨fun err fails => ?_, fun two ends => ?_⟩,
    fun stages => ⟨fun other => outcome_run_eq stages trace other tree, fun r done => ?_⟩⟩
  · rw [outcome_report] at fails
    have ends := (outcome_report _ trace tree).trans (Stage.runAll_append_error fails second).1
    exact ⟨ends, plainly ends, log_append fails second trace,
      log_run_append (Stage.runAll_error_untraced fails) second trace⟩
  · rw [outcome_report] at done fails
    have ends : (whole.report tree).outcome = .error err := by
      rw [outcome_report, Stage.outcome_runAll_append done, fails]
      rfl
    exact ⟨ends, plainly ends⟩
  · rw [outcome_report] at done ends
    have both : (whole.report tree).outcome = .ok (one.followedBy two) := by
      rw [outcome_report, Stage.outcome_runAll_append done, ends]
      rfl
    refine ⟨_, both, ?_, rfl, rfl, one.total_followedBy two, Bool.or_eq_false_iff, ?_⟩
    · rw [outcome_run_eq _ trace, both]
      rfl
    · intro known
      rw [outcome_report] at both
      exact (Stage.runAll_eq_ok_iff.1 both).tree_of_unchanged known
  · rw [outcome_report] at done
    have runs := Stage.runAll_eq_ok_iff.1 done
    refine ⟨runs, ?_⟩
    cases trace with
    | true => exact runs.linked
    | false => exact runs.untraced

/-- A `FirstOrDefault` is routed through the helper, lowered, and the default in it incremented; a
helper call without arguments stops the pipeline in either half; and a source goes through it as it
is. -/
theorem pipelines_compose_lowering :
    let rows : Expr := .plain (.source "rows") [] (.sequence .int64)
    let tree : Expr := .call .firstOrDefault [] [rows] .int64
    let helper : Expr := .call .firstOrFallback [] [] .int64
    let first : List Stage :=
      [.defaultValues Registry.standard.provider, .ofPass "Lower" .lower]
    let second : List Stage := [.ofPass "Increment" .increment]
    (∃ both, (report ⟨first ++ second, true⟩ tree).outcome = .ok both ∧
      both.stages.map StageReport.applied = [1, 1, 1] ∧ both.total = 2 + 1 ∧
      both.changed = true ∧ both.Linked tree) ∧
    (∃ both, (report ⟨first ++ second, true⟩ rows).outcome = .ok both ∧ both.tree = rows) ∧
    ((run ⟨first ++ second, true⟩ helper).outcome = .error (.unknownOverload .firstOrFallback 0) ∧
      (run ⟨first ++ second, true⟩ helper).log.tail = (run ⟨first, true⟩ helper).log.tail) ∧
    (run ⟨second ++ first, true⟩ helper).outcome = .error (.unknownOverload .firstOrFallback 0) := by
  intro rows tree helper first second
  have known : ∀ stage ∈ first ++ second, stage.Known := by
    have listed : first ++ second = [.defaultValues Registry.standard.provider,
      .ofPass "Lower" .lower, .ofPass "Increment" .increment] := rfl
    rw [listed]
    simp only [List.forall_mem_cons]
    exact ⟨.defaultValues _ _, .lower _, .increment _, nofun⟩
  refine ⟨?_, ?_, ?_, ?_⟩
  · obtain ⟨-, compose, each⟩ := pipelines_compose first second true tree
    obtain ⟨both, ends, -, -, stages, total, same, -⟩ := (compose _ rfl).2 _ rfl
    refine ⟨both, ends, ?_, total, ?_, ((each (first ++ second)).2 both ends).2⟩
    · rw [stages]
      rfl
    · rw [← Bool.not_eq_false, same]
      exact fun unchanged => Bool.noConfusion unchanged.1
  · obtain ⟨-, compose, -⟩ := pipelines_compose first second true rows
    obtain ⟨both, ends, -, -, -, -, same, back⟩ := (compose _ rfl).2 _ rfl
    exact ⟨both, ends, back known (same.2 ⟨rfl, rfl⟩)⟩
  · obtain ⟨fails, -⟩ := pipelines_compose first second true helper
    obtain ⟨-, ends, -, log⟩ := fails _ rfl
    exact ⟨ends, log⟩
  · obtain ⟨-, compose, -⟩ := pipelines_compose second first true helper
    exact ((compose _ rfl).1 _ rfl).2

end Pipeline

end QueryDefaults
