import QueryDefaults.Expr.Display
import QueryDefaults.Normalizer
import QueryDefaults.Pass.Elementary

/-!
# Pipelines

A pipeline is an ordered list of named stages, where names may repeat. A run takes each stage once,
in order, on the tree that the stage before it gave; every stage starts counting from zero, and the
first error ends the run.
-/

set_option autoImplicit false

namespace QueryDefaults

/-- A named stage, with what it does to a tree. -/
structure Stage where
  name : String
  visit : Expr → Traced Nat Visit

/-- What one stage of a run did. -/
structure StageReport where
  stage : String
  /-- How often the stage changed something. -/
  applied : Nat
  /-- The tree before the stage, when tracing. -/
  before : Option String
  /-- The tree after the stage, when tracing. -/
  after : Option String
deriving DecidableEq

/-- The final tree of a run, and what each stage did. -/
structure Report where
  tree : Expr
  changed : Bool
  stages : List StageReport

/-- How often all stages together changed something. -/
def Report.total (r : Report) : Nat := (r.stages.map StageReport.applied).sum

/-- Stages in order, and whether reports show the tree before and after each stage. -/
structure Pipeline where
  stages : List Stage := []
  recordTrace : Bool := false

namespace Stage

/-- The stage of a pass that counts in a plain number. -/
def ofPass {δ : Type} (name : String) (pass : Pass Nat δ) : Stage := ⟨name, pass.visit⟩

/-- The stage of the default-value normalizer, which counts the rules together. -/
def defaultValues (p : Provider) (rules : RuleSet := {}) : Stage where
  name := Normalizer.name
  visit tree := ((QueryDefaults.defaultValues p rules).visit tree).mapCount RuleCounts.total

/-- Runs stages in order. -/
def runAll (trace : Bool) : List Stage → Expr → Traced Nat Report
  | [], tree => pure ⟨tree, false, []⟩
  | stage :: stages, tree => do
    Traced.emit (.stageStarted stage.name)
    let (visit, applied) ← (stage.visit tree).counted
    Traced.emit (.stageFinished stage.name applied)
    let shown (e : Expr) := if trace then some e.display else none
    let rest ← runAll trace stages visit.tree
    return {
      tree := rest.tree
      changed := visit.changed || rest.changed
      stages := ⟨stage.name, applied, shown tree, shown visit.tree⟩ :: rest.stages }

end Stage

namespace Pipeline

/-- The names of the stages, in order. -/
def names (p : Pipeline) : List String := p.stages.map Stage.name

/-- Puts a stage at the end. -/
def add (p : Pipeline) (stage : Stage) : Pipeline := { p with stages := p.stages ++ [stage] }

/-- Puts a stage at a place and moves the later ones back; there is no place beyond the end. -/
def insert? (p : Pipeline) (index : Nat) (stage : Stage) : Option Pipeline :=
  if index ≤ p.stages.length then some { p with stages := p.stages.insertIdx index stage } else none

/-- Removes the first stage of a name, if there is one. -/
def remove? (p : Pipeline) (name : String) : Option Pipeline :=
  if p.names.contains name then
    some { p with stages := p.stages.eraseP fun stage => stage.name == name }
  else none

/-- Runs every stage, with or without the trees in the report. -/
def runWith (p : Pipeline) (trace : Bool) (tree : Expr) : Traced Nat Report := do
  Traced.emit (.pipelineStarted p.stages.length tree.nodeCount)
  let report ← Stage.runAll trace p.stages tree
  Traced.emit (.pipelineFinished report.total)
  return report

/-- Runs every stage and gives the final tree. -/
def run (p : Pipeline) (tree : Expr) : Traced Nat Visit := do
  let report ← p.runWith false tree
  return ⟨report.tree, report.changed⟩

/-- Runs every stage and reports what each did, with the trees when the pipeline traces. -/
def report (p : Pipeline) (tree : Expr) : Traced Nat Report := p.runWith p.recordTrace tree

/-- The pipeline whose only stage is the default-value normalizer. -/
def default (p : Provider) : Pipeline := { stages := [.defaultValues p] }

end Pipeline

end QueryDefaults
