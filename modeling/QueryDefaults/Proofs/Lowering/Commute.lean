import QueryDefaults.Proofs.Lowering.Lowered
import QueryDefaults.Proofs.Pipeline.InTurn
import QueryDefaults.Proofs.Translator

/-!
# Lowering and normalizing

The lowering pass and the normalizer do not get into each other's way. Lowering keeps the sites of a
tree, and it keeps what the tree means to the evaluator in memory and to the translator
(`meaning_lowered`); normalizing keeps whether the helper calls of a tree can be expanded, for those
it adds can be. So a pipeline of both ends well in one order when it does in the other, and though
the trees differ, because only the second stage sees what the first one made, they evaluate alike
(`lower_commutes`).
-/

set_option autoImplicit false

namespace QueryDefaults

open QueryDefaults.Expr QueryDefaults.Shape

variable {p : Provider} {rules : RuleSet} {e : Expr} {shape : Shape}

/-! ## Sites and helper calls -/

theorem alike_lowerNode (e : Expr) : (lowerNode e).Alike e := by
  unfold lowerNode
  split <;> exact ⟨rfl, rfl⟩

theorem alike_lowered (e : Expr) : (lowered e).Alike e := by
  rw [lowered_eq]
  exact (alike_lowerNode _).trans (e.alike_withOperands _)

theorem sites_plain (kind : PlainKind) (children : List Expr) (ty : Ty) :
    (plain kind children ty).sites p rules = children.flatMap (sites p rules) :=
  sites_eq p rules _

/-- A call of an operator that no rule looks for has the sites of its arguments. -/
theorem sites_call {op : Operator} (ruled : op ≠ .defaultIfEmpty ∧ op ≠ .firstOrDefault)
    (typeArgs : List Ty) (args : List Expr) (ty : Ty) :
    (call op typeArgs args ty).sites p rules = args.flatMap (sites p rules) := by
  rw [sites_eq]
  cases op with
  | defaultIfEmpty | firstOrDefault => simp at ruled
  | _ => rfl

/-- An expansion has the sites of the helper call. -/
theorem sites_lowerNode (e : Expr) : (lowerNode e).sites p rules = e.sites p rules := by
  unfold lowerNode
  split
  · simp [expansion, sites_call, sites_plain]
  · simp [expansion, sites_call, sites_plain]
  · rfl

/-- Lowering keeps the sites of a tree. -/
theorem sites_lowered (p : Provider) (rules : RuleSet) (e : Expr) :
    (lowered e).sites p rules = e.sites p rules := by
  induction e using induction_operands with
  | step e ih =>
    rw [lowered_eq, sites_lowerNode, sites_eq, sites_eq p rules e, operands_withOperands,
      site?_withOperands fun a _ => alike_lowered a, List.flatMap_map, List.flatMap_congr ih]

theorem settled_lowered : Settled p rules (lowered e) ↔ Settled p rules e := by
  rw [Settled, sites_lowered, Settled]

@[simp] theorem lowers_constant (value : Value) (ty : Ty) : (constant value ty).Lowers :=
  lowers_iff.2 ⟨nofun, nofun⟩

@[simp] theorem lowers_call {op : Operator} {typeArgs : List Ty} {args : List Expr} {ty : Ty} :
    (call op typeArgs args ty).Lowers ↔
      (op = .firstOrFallback → args.length = 2 ∨ args.length = 3) ∧ ∀ a ∈ args, a.Lowers := by
  simp [lowers_iff (e := call op typeArgs args ty), Expands, isHelper, operands]

@[simp] theorem lowers_binary {op : BinaryOp} {left right : Expr} {ty : Ty} :
    (binary op left right ty).Lowers ↔ left.Lowers ∧ right.Lowers := by
  simp [lowers_iff (e := binary op left right ty), Expands, isHelper, operands]

theorem Site.expands (site : Site p rules e shape) : e.Expands := by
  cases site <;> exact nofun

/-- An emitted node lowers when its operands do: an emitted helper call has a source, a fallback and
at most a predicate. -/
theorem Site.lowers_emit (site : Site p rules e shape) (value : Value) (ty : Ty) {f : Expr → Expr}
    (alike : ∀ a ∈ e.operands, (f a).Alike a) :
    (shape.emit (.constant value ty) e (e.operands.map f)).Lowers ↔
      ∀ a ∈ e.operands, (f a).Lowers := by
  have literal_lowers : ∀ a ∈ e.operands, a.isNullLiteral = true → (f a).Lowers := by
    intro a ha literal
    obtain ⟨value, ty, same⟩ := (alike a ha).eq_constant literal
    rw [same]
    exact lowers_constant value ty
  cases site with
  | empty | first | firstMatch | coalesce => simp [operands]
  | nullRight on compares literal other =>
    have gone := literal_lowers _ (by simp [operands]) literal
    simp [operands, other, gone]
  | nullLeft on compares literal =>
    have gone := literal_lowers _ (by simp [operands]) literal
    simp [operands, literal, gone]

/-- Normalizing keeps whether a tree lowers. -/
theorem lowers_rewritten : (rewritten p rules e).Lowers ↔ e.Lowers := by
  induction e using induction_operands with
  | step e ih =>
    have below : (∀ a ∈ e.operands, (rewritten p rules a).Lowers) ↔ ∀ a ∈ e.operands, a.Lowers :=
      forall₂_congr ih
    rw [rewritten_eq]
    obtain same | ⟨shape, settled, site, ok, same⟩ :=
      rewriteNode_cases p rules e (e.operands.map (rewritten p rules)) <;> rw [same]
    · rw [lowers_iff, lowers_iff (e := e), expands_withOperands, operands_withOperands, ← below]
      simp
    · obtain ⟨value, -, rfl⟩ := settle_eq_ok.1 ok
      rw [site.lowers_emit value _ fun a _ => alike_rewritten p rules a, below,
        lowers_iff (e := e), and_iff_right site.expands]

/-! ## Meaning -/

/-- What an evaluator makes of absence at a node does not change when operands are exchanged for
alike ones. -/
structure Absence.Shallow (absence : Absence) : Prop where
  missing : ∀ {e : Expr} {f : Expr → Expr}, (∀ a ∈ e.operands, (f a).Alike a) →
    absence.missing (e.withOperands (e.operands.map f)) = absence.missing e
  nullBeside : ∀ {e : Expr} {f : Expr → Expr}, (∀ a ∈ e.operands, (f a).Alike a) →
    absence.nullBeside (e.withOperands (e.operands.map f)) = absence.nullBeside e

theorem Absence.shallow_inMemory : Absence.inMemory.Shallow := ⟨fun _ => rfl, fun _ => rfl⟩

theorem Absence.shallow_translator (p : Provider) (rules : RuleSet) :
    (Absence.translator p rules).Shallow := by
  have same : ∀ {e : Expr} {f : Expr → Expr}, (∀ a ∈ e.operands, (f a).Alike a) →
      standIn p rules (e.withOperands (e.operands.map f)) = standIn p rules e := fun alike => by
    rw [standIn, site?_withOperands alike, standIn]
  exact ⟨fun alike => congrArg Except.ok (same alike),
    fun alike => funext fun _ => congrArg Except.ok (same alike)⟩

/-- The expansion of a helper call evaluates its fallback after the rows, also when there is one. -/
theorem value_expansion (absence : Absence) (elem : Ty) (source fallback : Expr) (env : Env) :
    ((expansion elem source fallback).meaning absence).value env = do
      let rows ← (source.meaning absence).rows env
      return rows.headD (← (fallback.meaning absence).value env) := by
  simp only [expansion, meaning, meanings, Meaning.ofValue, Meaning.call, Meaning.matching,
    Meaning.rows, Meaning.plain, List.mapM_cons, List.mapM_nil, bind_assoc, pure_bind]
  refine bind_congr fun given => bind_congr fun rows => bind_congr fun value => ?_
  cases rows <;> rfl

/-- An expansion evaluates to what the helper call evaluates to, faults included. -/
theorem value_lowerNode (absence : Absence) (e : Expr) (env : Env) :
    ((lowerNode e).meaning absence).value env = (e.meaning absence).value env := by
  unfold lowerNode
  split
  · exact value_expansion ..
  · refine (value_expansion ..).trans ?_
    simp only [meaning, meanings, Meaning.ofValue, Meaning.call, Meaning.rows, bind_assoc,
      pure_bind]
    rfl
  · rfl

theorem meaning_lowerNode (absence : Absence) (e : Expr) :
    ((lowerNode e).meaning absence).Same (e.meaning absence) := by
  have value := value_lowerNode absence e
  unfold lowerNode at value ⊢
  split at value
  · exact .ofValue value
  · exact .ofValue value
  · exact .refl _

/-- Lowering keeps what a tree means, in memory and to the translator. -/
theorem meaning_lowered {absence : Absence} (shallow : absence.Shallow) (e : Expr) :
    ((lowered e).meaning absence).Same (e.meaning absence) := by
  induction e using induction_operands with
  | step e ih =>
    have alike : ∀ a ∈ e.operands, (lowered a).Alike a := fun a _ => alike_lowered a
    have below : List.Forall₂ Meaning.Same
        ((e.operands.map lowered).map (Expr.meaning absence))
        (e.operands.map (Expr.meaning absence)) := by
      rw [List.map_map]
      exact Meaning.forall₂_map ih
    rw [lowered_eq, Meaning.meaning_eq absence e]
    refine (meaning_lowerNode absence _).trans ?_
    rw [Meaning.meaning_eq, operands_withOperands, shallow.missing alike, shallow.nullBeside alike]
    exact (Meaning.ofNode_withOperands (fun a ha => (alike a ha).isNullLiteral) _ _ _).trans
      (Meaning.ofNode_congr e below)

/-- In either order, lowering and normalizing give trees that mean in memory what the tree means to
the translator. -/
theorem meaning_lowered_rewritten (ok : Settled p rules e) :
    ((lowered (rewritten p rules e)).meaning .inMemory).Same
      ((rewritten p rules (lowered e)).meaning .inMemory) := by
  have left := (meaning_lowered Absence.shallow_inMemory _).trans (meaning_rewritten ok)
  have right := (meaning_rewritten (settled_lowered.2 ok)).trans
    (meaning_lowered (Absence.shallow_translator p rules) e)
  exact left.trans right.symm

/-! ## Pipelines -/

/-- Two stages end well when the first one does and the second one does on its tree. -/
theorem Pipeline.run_pair_eq_ok_iff {first last : Stage} {tree : Expr} {visit : Visit} :
    (Pipeline.run { stages := [first, last] } tree).outcome = .ok visit ↔
      ∃ before after, (first.visit tree).outcome = .ok before ∧
        (last.visit before.tree).outcome = .ok after ∧
        visit = ⟨after.tree, before.changed || after.changed⟩ := by
  rw [outcome_run, Stage.outcome_runAll_cons]
  cases hfirst : (first.visit tree).outcome with
  | error err => simp [Except.bind, Except.map]
  | ok before =>
    simp only [Except.bind, Stage.outcome_runAll_cons]
    cases hlast : (last.visit before.tree).outcome with
    | error err => simp [Except.map, hlast]
    | ok after => simp [Except.map, hlast, Stage.runAll, Traced.pure_def, eq_comm]

section Orders

variable {name : String} {tree : Expr} {visit : Visit}

theorem Stage.defaultValues_eq_ok_iff :
    ((Stage.defaultValues p rules).visit tree).outcome = .ok visit ↔
      Settled p rules tree ∧
        visit = ⟨rewritten p rules tree, !(tree.sites p rules).isEmpty⟩ :=
  visit_eq_ok_iff

theorem Stage.lower_eq_ok_iff :
    ((Stage.ofPass name .lower).visit tree).outcome = .ok visit ↔
      tree.Lowers ∧ visit = ⟨lowered tree, tree.nodes.any isHelper⟩ :=
  Pass.lower_eq_ok_iff

/-- Normalizing and then lowering ends well when every site can be settled and every helper call of
the tree can be expanded. -/
theorem run_defaultValues_lower_iff :
    (Pipeline.run { stages := [.defaultValues p rules, .ofPass name .lower] } tree).outcome =
        .ok visit ↔
      (Settled p rules tree ∧ tree.Lowers) ∧
        visit = ⟨lowered (rewritten p rules tree),
          !(tree.sites p rules).isEmpty || (rewritten p rules tree).nodes.any isHelper⟩ := by
  simp only [Pipeline.run_pair_eq_ok_iff, Stage.defaultValues_eq_ok_iff, Stage.lower_eq_ok_iff]
  constructor
  · rintro ⟨before, after, ⟨ok, rfl⟩, ⟨lowers, rfl⟩, rfl⟩
    exact ⟨⟨ok, lowers_rewritten.1 lowers⟩, rfl⟩
  · rintro ⟨⟨ok, lowers⟩, rfl⟩
    exact ⟨_, _, ⟨ok, rfl⟩, ⟨lowers_rewritten.2 lowers, rfl⟩, rfl⟩

/-- So does lowering and then normalizing. -/
theorem run_lower_defaultValues_iff :
    (Pipeline.run { stages := [.ofPass name .lower, .defaultValues p rules] } tree).outcome =
        .ok visit ↔
      (Settled p rules tree ∧ tree.Lowers) ∧
        visit = ⟨rewritten p rules (lowered tree),
          tree.nodes.any isHelper || !(tree.sites p rules).isEmpty⟩ := by
  simp only [Pipeline.run_pair_eq_ok_iff, Stage.defaultValues_eq_ok_iff, Stage.lower_eq_ok_iff]
  constructor
  · rintro ⟨before, after, ⟨lowers, rfl⟩, ⟨ok, rfl⟩, rfl⟩
    rw [sites_lowered]
    exact ⟨⟨settled_lowered.1 ok, lowers⟩, rfl⟩
  · rintro ⟨⟨ok, lowers⟩, rfl⟩
    refine ⟨_, _, ⟨lowers, rfl⟩, ⟨settled_lowered.2 ok, rfl⟩, ?_⟩
    rw [sites_lowered]

end Orders

/-- **Lowering commutes with normalizing.** On every tree, normalizing and then lowering ends well
when lowering and then normalizing does, and the trees that the two orders give evaluate in every
environment with the same outcome. -/
theorem lower_commutes (p : Provider) (rules : RuleSet) (name : String) (tree : Expr) :
    let normalize := Stage.defaultValues p rules
    let lower := Stage.ofPass name Pass.lower
    let forth := (Pipeline.run { stages := [normalize, lower] } tree).outcome
    let back := (Pipeline.run { stages := [lower, normalize] } tree).outcome
    ((∃ visit, forth = .ok visit) ↔ ∃ visit, back = .ok visit) ∧
      ∀ last first, forth = .ok last → back = .ok first →
        ∀ env, SameOutcome (last.tree.eval env) (first.tree.eval env) := by
  intro normalize lower forth back
  have forth_iff : ∀ visit, forth = .ok visit ↔ _ := fun _ => run_defaultValues_lower_iff
  have back_iff : ∀ visit, back = .ok visit ↔ _ := fun _ => run_lower_defaultValues_iff
  refine ⟨?_, fun last first hlast hfirst => ?_⟩
  · simp only [forth_iff, back_iff, exists_and_left, exists_eq, and_true]
  · obtain ⟨⟨ok, -⟩, rfl⟩ := (forth_iff last).1 hlast
    obtain ⟨-, rfl⟩ := (back_iff first).1 hfirst
    exact (meaning_lowered_rewritten ok).sameOutcome

/-- A lambda that adds a helper call and a `FirstOrDefault`: only when the normalizer runs first is
the helper call expanded that it makes. -/
theorem lower_commutes_lambda :
    let source (name : String) : Expr := .plain (.source name) [] (.sequence .int64)
    let param : Expr := .plain (.parameter "x") [] .int64
    let zero : Expr := .constant (.int64 0) .int64
    let select (left right : Expr) : Expr := .call .select [] [source "rows",
      .plain (.lambda ["x"]) [.binary .add left right .int64] (.function [.int64] .int64)]
      (.sequence .int64)
    let tree := select (.call .firstOrFallback [] [source "none", param] .int64)
      (.call .firstOrDefault [] [source "none"] .int64)
    let last := select (expansion .int64 (source "none") param)
      (expansion .int64 (source "none") zero)
    let first := select (expansion .int64 (source "none") param)
      (.call .firstOrFallback [] [source "none", zero] .int64)
    let normalize := Stage.defaultValues Registry.standard.provider
    let lower := Stage.ofPass "Lower" Pass.lower
    let env := (Env.bindSource {} "none" []).bindSource "rows" [.int64 5, .int64 7]
    (Pipeline.run { stages := [normalize, lower] } tree).outcome = .ok ⟨last, true⟩ ∧
      (Pipeline.run { stages := [lower, normalize] } tree).outcome = .ok ⟨first, true⟩ ∧
      (last == first) = false ∧ last.eval env = .ok (.sequence [.int64 5, .int64 7]) ∧
      SameOutcome (last.eval env) (first.eval env) := by
  intro source param zero select tree last first normalize lower env
  have forth : (Pipeline.run { stages := [normalize, lower] } tree).outcome =
    .ok ⟨last, true⟩ := rfl
  have back : (Pipeline.run { stages := [lower, normalize] } tree).outcome =
    .ok ⟨first, true⟩ := rfl
  have same := (lower_commutes Registry.standard.provider {} "Lower" tree).2 _ _ forth back env
  exact ⟨forth, back, rfl, rfl, same⟩

end QueryDefaults
