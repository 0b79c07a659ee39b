import Mathlib.Data.List.Basic
import QueryDefaults.Pipeline

/-!
# Pipelines over time

A pipeline is used step by step: stages are added, inserted and removed, and trees are run through
it. Some steps fail, and the next ones are taken all the same. `Stepped` says all that one step can
do, and what holds of a whole history is derived from it: how many stages of a name there are
(`count_names_after`), and where each stage stands (`stage_of_placeAfter?`, `placeAfter?_lt`).
Places are used to tell stages apart, because names may repeat and stages may be equal.
-/

set_option autoImplicit false

namespace QueryDefaults.Pipeline

/-- One use of a pipeline. -/
inductive Step where
  | add (stage : Stage)
  | insert (index : Nat) (stage : Stage)
  | remove (name : String)
  | rewrite (tree : Expr)
  | report (tree : Expr)

/-- What a step answers. -/
inductive Answer where
  | done
  /-- There is no place of the given index. -/
  | outOfRange
  /-- Whether there was a stage of the given name. -/
  | removed (found : Bool)
  | rewritten (outcome : Except QueryError Visit)
  | reported (outcome : Except QueryError Report)

/-- The pipeline that a step leaves, and its answer. -/
def step (p : Pipeline) : Step → Pipeline × Answer
  | .add stage => (p.add stage, .done)
  | .insert index stage =>
    match p.insert? index stage with
    | some q => (q, .done)
    | none => (p, .outOfRange)
  | .remove name =>
    match p.remove? name with
    | some q => (q, .removed true)
    | none => (p, .removed false)
  | .rewrite tree => (p, .rewritten (p.run tree).outcome)
  | .report tree => (p, .reported (p.report tree).outcome)

/-- The pipeline after some steps. -/
def after (p : Pipeline) : List Step → Pipeline
  | [] => p
  | step :: steps => (p.step step).1.after steps

/-- Some steps, each with its answer. -/
def history (p : Pipeline) : List Step → List (Step × Answer)
  | [] => []
  | step :: steps => (step, (p.step step).2) :: (p.step step).1.history steps

/-- The name of the stage that a step has put into the pipeline. -/
def addedName? : Step × Answer → Option String
  | (.add stage, _) | (.insert _ stage, .done) => some stage.name
  | _ => none

/-- The name of the stage that a step has taken out of the pipeline. -/
def removedName? : Step × Answer → Option String
  | (.remove name, .removed true) => some name
  | _ => none

/-- The place that a step moves the stage of a place to; there is none when it removes this
stage. -/
def place? (p : Pipeline) : Step → Nat → Option Nat
  | .insert index _, i => if index ≤ p.stages.length ∧ index ≤ i then some (i + 1) else some i
  | .remove name, i =>
    match p.names.idxOf? name with
    | some first => if i = first then none else if first < i then some (i - 1) else some i
    | none => some i
  | .add _, i | .rewrite _, i | .report _, i => some i

/-- The place that some steps move the stage of a place to. -/
def placeAfter? (p : Pipeline) : List Step → Nat → Option Nat
  | [], i => some i
  | step :: steps, i => (p.place? step i).bind ((p.step step).1.placeAfter? steps)

variable {p q : Pipeline} {step : Step} {answer : Answer} {stage : Stage} {name : String}

/-! ## One step -/

/-- All that a step can do. -/
inductive Stepped (p : Pipeline) : Step → Pipeline → Answer → Prop where
  | added (stage : Stage) : Stepped p (.add stage) { p with stages := p.stages ++ [stage] } .done
  | inserted {before after : List Stage} (stage : Stage) (split : p.stages = before ++ after) :
      Stepped p (.insert before.length stage) { p with stages := before ++ stage :: after } .done
  | beyond {index : Nat} (stage : Stage) (far : p.stages.length < index) :
      Stepped p (.insert index stage) p .outOfRange
  | removed {before after : List Stage} {stage : Stage} (split : p.stages = before ++ stage :: after)
      (earliest : stage.name ∉ before.map Stage.name) :
      Stepped p (.remove stage.name) { p with stages := before ++ after } (.removed true)
  | absent {name : String} (missing : name ∉ p.names) :
      Stepped p (.remove name) p (.removed false)
  | rewritten (tree : Expr) : Stepped p (.rewrite tree) p (.rewritten (p.run tree).outcome)
  | reported (tree : Expr) : Stepped p (.report tree) p (.reported (p.report tree).outcome)

/-- Behind the stages that an insertion leaves in front, it puts its stage. -/
theorem insert?_of_split {before after : List Stage} (split : p.stages = before ++ after)
    (stage : Stage) :
    p.insert? before.length stage = some { p with stages := before ++ stage :: after } := by
  have fits : before.length ≤ p.stages.length := by
    rw [split, List.length_append]
    exact Nat.le_add_right _ _
  have placed : (before ++ after).insertIdx before.length stage = before ++ stage :: after := by
    clear split fits
    induction before with
    | nil => rfl
    | cons first before ih => exact congrArg (List.cons first) ih
  rw [insert?, if_pos fits, split, placed]

/-- A removal takes the earliest stage of its name. -/
theorem remove?_of_split {before after : List Stage} (split : p.stages = before ++ stage :: after)
    (earliest : stage.name ∉ before.map Stage.name) :
    p.remove? stage.name = some { p with stages := before ++ after } := by
  have found : p.names.contains stage.name = true := by simp [names, split]
  have others : ∀ other ∈ before, ¬ (other.name == stage.name) = true := by
    intro other mem same
    exact earliest (List.mem_map.2 ⟨other, mem, eq_of_beq same⟩)
  have taken : (stage :: after).eraseP (fun other => other.name == stage.name) = after := by
    simp
  rw [remove?, if_pos found, split, List.eraseP_append_right _ others, taken]

/-- A name is missing, or there is an earliest stage that has it. -/
theorem missing_or_earliest (p : Pipeline) (name : String) :
    name ∉ p.names ∨ ∃ before stage after, p.stages = before ++ stage :: after ∧
      stage.name = name ∧ name ∉ before.map Stage.name := by
  by_cases mem : name ∈ p.names
  · right
    obtain ⟨front, back, split, first⟩ := List.eq_append_cons_of_mem mem
    obtain ⟨before, rest, stages, rfl, names⟩ := List.map_eq_append_iff.1 split
    obtain ⟨stage, after, rfl, named, -⟩ := List.map_eq_cons_iff.1 names
    exact ⟨before, stage, after, stages, named, first⟩
  · exact .inl mem

/-- A step does one of these things. -/
theorem stepped (p : Pipeline) (step : Step) : Stepped p step (p.step step).1 (p.step step).2 := by
  cases step with
  | add stage => exact .added stage
  | insert index stage =>
    by_cases fits : index ≤ p.stages.length
    · have split := (List.take_append_drop index p.stages).symm
      have front : (p.stages.take index).length = index := List.length_take_of_le fits
      have inserted := Stepped.inserted stage split
      have done := insert?_of_split split stage
      rw [front] at inserted done
      rw [Pipeline.step, done]
      exact inserted
    · have fails : p.insert? index stage = none := if_neg fits
      rw [Pipeline.step, fails]
      exact .beyond stage (Nat.lt_of_not_le fits)
  | remove name =>
    rcases p.missing_or_earliest name with missing | ⟨before, stage, after, split, rfl, earliest⟩
    · have fails : p.remove? name = none := by simp [remove?, missing]
      rw [Pipeline.step, fails]
      exact .absent missing
    · rw [Pipeline.step, remove?_of_split split earliest]
      exact .removed split earliest
  | rewrite tree => exact .rewritten tree
  | report tree => exact .reported tree

/-- A step changes how many stages of a name there are by the stage that it puts in or takes out. -/
theorem Stepped.count_names (stepped : Stepped p step q answer) (name : String) :
    q.names.count name + (removedName? (step, answer)).toList.count name =
      p.names.count name + (addedName? (step, answer)).toList.count name := by
  cases stepped with
  | added stage => simp [names, addedName?, removedName?]
  | inserted stage split =>
    simp only [names, split, addedName?, removedName?, List.map_append, List.map_cons,
      List.count_append, List.count_cons, Option.toList_some, Option.toList_none, List.count_nil]
    omega
  | removed split earliest =>
    simp only [names, split, addedName?, removedName?, List.map_append, List.map_cons,
      List.count_append, List.count_cons, Option.toList_some, Option.toList_none, List.count_nil]
    omega
  | beyond | absent | rewritten | reported => rfl

theorem idxOf?_of_split {before after : List Stage} (split : p.stages = before ++ stage :: after)
    (earliest : stage.name ∉ before.map Stage.name) :
    p.names.idxOf? stage.name = some before.length := by
  have none : (before.map Stage.name).findIdx? (· == stage.name) = none := by
    rw [List.findIdx?_eq_none_iff]
    intro other mem
    rw [beq_eq_false_iff_ne]
    rintro rfl
    exact earliest mem
  rw [names, split, List.map_append, List.map_cons, List.idxOf?, List.findIdx?_append, none]
  simp [List.findIdx?_cons]

/-- A step moves stages and does not change them. -/
theorem Stepped.stage_of_place? (stepped : Stepped p step q answer) {i j : Nat}
    (inside : i < p.stages.length) (moved : p.place? step i = some j) :
    q.stages[j]? = p.stages[i]? := by
  cases stepped with
  | added stage =>
    cases moved
    exact List.getElem?_append_left inside
  | @inserted before after stage split =>
    have fits : before.length ≤ p.stages.length := by simp [split]
    simp only [place?, fits, true_and] at moved
    simp only [split, List.getElem?_append, List.getElem?_cons]
    split at moved <;> cases moved <;> grind
  | @removed before after stage split earliest =>
    simp only [place?, idxOf?_of_split split earliest] at moved
    simp only [split, List.getElem?_append, List.getElem?_cons]
    grind
  | @beyond index stage far =>
    have outside : ¬ (index ≤ p.stages.length ∧ index ≤ i) := fun fits =>
      Nat.not_le.2 far fits.1
    simp only [place?, if_neg outside] at moved
    cases moved
    rfl
  | absent missing =>
    have nowhere : p.names.idxOf? _ = none := List.idxOf?_eq_none_iff.2 missing
    simp only [place?, nowhere] at moved
    cases moved
    rfl
  | rewritten | reported =>
    cases moved
    rfl

/-- A step keeps the order of the stages that it does not remove. -/
theorem place?_lt {i j i' j' : Nat} (order : i < j) (first : p.place? step i = some i')
    (second : p.place? step j = some j') : i' < j' := by
  unfold place? at first second
  grind

/-- A stage loses its place only when it is the earliest one of a name that is removed. -/
theorem place?_eq_none {i : Nat} (gone : p.place? step i = none) :
    ∃ name, step = .remove name ∧ p.names.idxOf? name = some i := by
  unfold place? at gone
  grind

/-- A stage that was inserted behind stages of other names is the one that its name removes. -/
theorem step_remove_inserted {before after : List Stage} (split : p.stages = before ++ after)
    (others : stage.name ∉ before.map Stage.name) :
    ((p.step (.insert before.length stage)).1.step (.remove stage.name)) =
      (p, .removed true) := by
  have inserted : (p.step (.insert before.length stage)).1 =
      { p with stages := before ++ stage :: after } := by
    rw [Pipeline.step, insert?_of_split split stage]
  rw [inserted, Pipeline.step, remove?_of_split rfl others, ← split]

/-! ## Many steps -/

theorem after_append (p : Pipeline) (steps more : List Step) :
    p.after (steps ++ more) = (p.after steps).after more := by
  induction steps generalizing p with
  | nil => rfl
  | cons step steps ih => exact ih _

theorem history_append (p : Pipeline) (steps more : List Step) :
    p.history (steps ++ more) = p.history steps ++ (p.after steps).history more := by
  induction steps generalizing p with
  | nil => rfl
  | cons step steps ih => exact congrArg (List.cons _) (ih _)

theorem length_history (p : Pipeline) (steps : List Step) :
    (p.history steps).length = steps.length := by
  induction steps generalizing p with
  | nil => rfl
  | cons step steps ih => exact congrArg (· + 1) (ih _)

/-- At every place of a history, its step has been taken from where the steps before it have led. -/
theorem stepped_of_split (p : Pipeline) (before rest : List Step) (step : Step) :
    ∃ answer, (p.history (before ++ step :: rest))[before.length]? = some (step, answer) ∧
      Stepped (p.after before) step (p.after (before ++ [step])) answer := by
  refine ⟨((p.after before).step step).2, ?_, ?_⟩
  · rw [history_append, history, ← length_history p before,
      List.getElem?_append_right (Nat.le_refl _), Nat.sub_self]
    rfl
  · rw [after_append]
    exact stepped _ step

/-- The stages of a name are the first ones and the ones put in since, without the ones taken
out. -/
theorem count_names_after (p : Pipeline) (steps : List Step) (name : String) :
    (p.after steps).names.count name + ((p.history steps).filterMap removedName?).count name =
      p.names.count name + ((p.history steps).filterMap addedName?).count name := by
  induction steps generalizing p with
  | nil => rfl
  | cons step steps ih =>
    have first := (p.stepped step).count_names name
    have later := ih (p.step step).1
    have joined (pick : Step × Answer → Option String) (entry : Step × Answer)
        (entries : List (Step × Answer)) : ((entry :: entries).filterMap pick).count name =
          (pick entry).toList.count name + (entries.filterMap pick).count name := by
      rw [List.filterMap_cons]
      cases pick entry <;> simp [List.count_cons, Nat.add_comm]
    rw [after, history, joined, joined]
    omega

/-- Steps move stages and do not change them. -/
theorem stage_of_placeAfter? (p : Pipeline) (steps : List Step) {i j : Nat}
    (inside : i < p.stages.length) (moved : p.placeAfter? steps i = some j) :
    (p.after steps).stages[j]? = p.stages[i]? := by
  induction steps generalizing p i with
  | nil =>
    cases moved
    rfl
  | cons step steps ih =>
    obtain ⟨k, first, later⟩ := Option.bind_eq_some_iff.1 moved
    have here := (p.stepped step).stage_of_place? inside first
    rw [List.getElem?_eq_getElem inside] at here
    obtain ⟨within, -⟩ := List.getElem?_eq_some_iff.1 here
    rw [after, ih _ within later, here, List.getElem?_eq_getElem inside]

/-- Steps keep the order of the stages that they do not remove. -/
theorem placeAfter?_lt (p : Pipeline) (steps : List Step) {i j i' j' : Nat} (order : i < j)
    (first : p.placeAfter? steps i = some i') (second : p.placeAfter? steps j = some j') :
    i' < j' := by
  induction steps generalizing p i j with
  | nil =>
    cases first
    cases second
    exact order
  | cons step steps ih =>
    obtain ⟨k, firstStep, firstLater⟩ := Option.bind_eq_some_iff.1 first
    obtain ⟨l, secondStep, secondLater⟩ := Option.bind_eq_some_iff.1 second
    exact ih _ (place?_lt order firstStep secondStep) firstLater secondLater

/-- A stage that has no place any more was removed, when it was the earliest one of its name. -/
theorem removed_of_placeAfter? (p : Pipeline) (steps : List Step) {i : Nat}
    (gone : p.placeAfter? steps i = none) :
    ∃ before name rest k, steps = before ++ .remove name :: rest ∧
      p.placeAfter? before i = some k ∧ (p.after before).names.idxOf? name = some k := by
  induction steps generalizing p i with
  | nil => cases gone
  | cons step steps ih =>
    cases first : p.place? step i with
    | none =>
      obtain ⟨name, rfl, earliest⟩ := place?_eq_none first
      exact ⟨[], name, steps, i, rfl, rfl, earliest⟩
    | some k =>
      rw [placeAfter?, first] at gone
      obtain ⟨before, name, rest, l, rfl, place, earliest⟩ := ih _ gone
      refine ⟨step :: before, name, rest, l, rfl, ?_, earliest⟩
      rw [placeAfter?, first]
      exact place

/-- **Stages over time.** In every history of a pipeline each step, also behind steps that failed,
does one of the things of `Stepped`: an insertion beyond the end, a removal of a missing name, a
rewriting and a report leave the pipeline as it is, and a removal takes the earliest stage of its
name. So of each name there are as many stages as in the beginning and as have been put in, without
those that have been taken out. A stage that was not removed is still there, and two such stages
stand in their old order. The number of stages is the number of their names, and a stage that is
inserted behind stages of other names and removed by its name leaves the pipeline as it was. -/
theorem history_accounts_for_stages (p : Pipeline) (steps : List Step) :
    (∀ before step rest, steps = before ++ step :: rest →
      ∃ answer, (p.history steps)[before.length]? = some (step, answer) ∧
        Stepped (p.after before) step (p.after (before ++ [step])) answer) ∧
    (∀ name,
      (p.after steps).names.count name + ((p.history steps).filterMap removedName?).count name =
        p.names.count name + ((p.history steps).filterMap addedName?).count name) ∧
    (∀ i j, i < p.stages.length → p.placeAfter? steps i = some j →
      (p.after steps).stages[j]? = p.stages[i]?) ∧
    (∀ i, p.placeAfter? steps i = none →
      ∃ before name rest k, steps = before ++ .remove name :: rest ∧
        p.placeAfter? before i = some k ∧ (p.after before).names.idxOf? name = some k) ∧
    (∀ i j i' j', i < j → p.placeAfter? steps i = some i' → p.placeAfter? steps j = some j' →
      i' < j') ∧
    (p.after steps).stages.length = (p.after steps).names.length ∧
    (p.after steps).stages.isEmpty = (p.after steps).names.isEmpty ∧
    ∀ before after stage, (p.after steps).stages = before ++ after →
      stage.name ∉ before.map Stage.name →
      p.after (steps ++ [.insert before.length stage, .remove stage.name]) = p.after steps := by
  refine ⟨?_, p.count_names_after steps, fun i j => p.stage_of_placeAfter? steps,
    fun i => p.removed_of_placeAfter? steps, fun i j i' j' => p.placeAfter?_lt steps,
    (List.length_map _).symm, List.isEmpty_map.symm, ?_⟩
  · rintro before step rest rfl
    exact p.stepped_of_split before rest step
  · intro before after stage split others
    rw [after_append]
    exact congrArg Prod.fst (step_remove_inserted split others)

/-- An insertion beyond the end and a report that fails, among changes to a pipeline in which a name
stands twice and then three times. -/
theorem history_accounts_for_stages_repeated_names :
    let helper : Expr := .call .firstOrFallback [] [] .int64
    let p : Pipeline :=
      { stages := [.ofPass "a" .identity, .ofPass "b" .lower, .ofPass "a" .increment] }
    let steps : List Step := [.insert 9 (.ofPass "c" .identity), .report helper,
      .insert 1 (.ofPass "a" .foldAdd), .remove "a", .remove "c", .remove "a"]
    (p.history steps).map Prod.snd = [.outOfRange,
      .reported (.error (.unknownOverload .firstOrFallback 0)), .done, .removed true,
      .removed false, .removed true] ∧
    (∃ answer, (p.history steps)[3]? = some (.remove "a", answer) ∧
      Stepped (p.after (steps.take 3)) (.remove "a") (p.after (steps.take 4)) answer) ∧
    (p.after steps).names = ["b", "a"] ∧ (p.after steps).names.count "a" + 2 = 2 + 1 ∧
    (p.after steps).stages[0]? = p.stages[1]? ∧ (p.after steps).stages[1]? = p.stages[2]? ∧
    (∃ before name rest k, steps = before ++ .remove name :: rest ∧
      p.placeAfter? before 0 = some k ∧ (p.after before).names.idxOf? name = some k) ∧
    p.after (steps ++ [.insert 1 (.ofPass "a" .identity), .remove "a"]) = p.after steps := by
  intro helper p steps
  obtain ⟨stepped, counts, moved, removed, -, -, -, restored⟩ := history_accounts_for_stages p steps
  have one : p.placeAfter? steps 1 = some 0 := rfl
  have two : p.placeAfter? steps 2 = some 1 := rfl
  refine ⟨rfl, stepped (steps.take 3) _ _ rfl, rfl, counts "a", moved 1 0 (by decide) one,
    moved 2 1 (by decide) two, removed 0 rfl, ?_⟩
  exact restored [.ofPass "b" .lower] [.ofPass "a" .increment] (.ofPass "a" .identity) rfl
    (by decide)

end QueryDefaults.Pipeline
