import QueryDefaults.Proofs.Eval.Below
import QueryDefaults.Proofs.Normalizer.Failure
import QueryDefaults.Registry.Default

/-!
# The translator

A remote engine takes an absent row for the default of its element type, an absent result of `??`
for the default of its type, and the null literal beside an optional wrapper for the empty wrapper.
The translator is the evaluator that does so at every site and agrees with the in-memory evaluator
anywhere else. The rewritten tree means in memory what the tree means to the translator
(`run_simulates_translator`): at a site the emitted node spells out, over the same operands, what
the translator supplies (`Site.meaning_emit`), and every other node passes the agreement of its
operands on.
-/

set_option autoImplicit false

namespace QueryDefaults

open Shape

variable {p : Provider} {rules : RuleSet} {e : Expr} {shape : Shape}

/-- What stands for absence at a node: at a site its filler, and anywhere else the absent value. -/
def standIn (p : Provider) (rules : RuleSet) (e : Expr) : Value :=
  match site? p rules e with
  | none => .null
  | some shape =>
    match shape.filler p with
    | .ok value => value
    | .error _ => .null

/-- The evaluator that takes absence at a site for the filler of the site. -/
def Absence.translator (p : Provider) (rules : RuleSet) : Absence :=
  ⟨fun e => .ok (standIn p rules e), fun e _ => .ok (standIn p rules e)⟩

theorem standIn_of_none (h : site? p rules e = none) : standIn p rules e = .null := by
  rw [standIn, h]

theorem standIn_of_site (site : Site p rules e shape) {value : Value}
    (built : shape.filler p = .ok value) : standIn p rules e = value := by
  simp only [standIn, site.site?_eq, built]

/-- A default after a `??` is what the `??` gives when both operands are absent. -/
theorem eval_coalesce_default (left right : Expr) (value : Value) (ty ty' : Ty) (env : Env) :
    (Expr.binary .coalesce (.binary .coalesce left right ty) (.constant value ty') ty).eval env =
      Meaning.binary (.ok value) .coalesce (left.meaning .inMemory) (right.meaning .inMemory)
        env := by
  change Meaning.binary (.ok .null) .coalesce (.ofValue _ (Meaning.binary (.ok .null) .coalesce
    (left.meaning .inMemory) (right.meaning .inMemory))) (.ofValue _ fun _ => .ok value) env = _
  simp only [Meaning.binary, Meaning.ofValue]
  cases (left.meaning .inMemory).value env with
  | error fault => rfl
  | ok first =>
    cases first with
    | null =>
      cases (right.meaning .inMemory).value env with
      | error fault => rfl
      | ok second =>
        cases second with
        | null => cases value <;> rfl
        | _ => rfl
    | _ => rfl

/-- In memory, the emitted node of a site gives what the site gives when its constant stands in for
absence. -/
theorem Site.meaning_emit (site : Site p rules e shape) (value : Value) (ty : Ty)
    (f : Expr → Expr) :
    ((shape.emit (.constant value ty) e (e.operands.map f)).meaning .inMemory).Same
      (.ofNode (.ok value) (fun _ => .ok value) e
        ((e.operands.map f).map (Expr.meaning .inMemory))) := by
  cases site with
  | empty => exact .ofValue fun env => rfl
  | @first typeArgs source =>
    refine .ofValue fun env => bind_congr fun rows => ?_
    cases rows <;> rfl
  | @firstMatch typeArgs source predicate =>
    refine .ofValue fun env => bind_congr fun rows => ?_
    cases rows <;> rfl
  | @coalesce left right ty' =>
    exact .ofValue fun env => eval_coalesce_default (f left) (f right) value ty' ty env
  | @nullRight op left right ty' inner on compares literal other =>
    have compared : ∀ env, Meaning.comparands (fun _ => .ok .null) (f left) (.constant value ty)
          ((f left).meaning .inMemory) ((Expr.constant value ty).meaning .inMemory) env =
        Meaning.comparands (fun _ => .ok value) left right ((f left).meaning .inMemory)
          ((f right).meaning .inMemory) env := fun env => by
      rw [Meaning.comparands_inMemory]
      simp only [Meaning.comparands, other, literal]
      rfl
    simp only [Expr.operands, List.map_cons, List.map_nil, emit_nullComparison, other]
    obtain rfl | rfl := compares <;>
    exact .ofValue fun env => congrArg (· >>= _) (compared env)
  | @nullLeft op left right ty' inner on compares literal other =>
    have compared : ∀ env, Meaning.comparands (fun _ => .ok .null) (.constant value ty) (f right)
          ((Expr.constant value ty).meaning .inMemory) ((f right).meaning .inMemory) env =
        Meaning.comparands (fun _ => .ok value) left right ((f left).meaning .inMemory)
          ((f right).meaning .inMemory) env := fun env => by
      rw [Meaning.comparands_inMemory]
      simp only [Meaning.comparands, other, literal]
      rfl
    simp only [Expr.operands, List.map_cons, List.map_nil, emit_nullComparison, literal]
    obtain rfl | rfl := compares <;>
    exact .ofValue fun env => congrArg (· >>= _) (compared env)

/-- What takes the place of a node gives in memory what the translator makes of the node, over the
same operands. -/
theorem meaning_rewriteNode
    (root : ∀ shape, Site p rules e shape → ∃ settled, shape.settle p = .ok settled)
    {f : Expr → Expr} (alike : ∀ a ∈ e.operands, (f a).Alike a) :
    ((rewriteNode p rules e (e.operands.map f)).meaning .inMemory).Same
      (.ofNode (.ok (standIn p rules e)) (fun _ => .ok (standIn p rules e)) e
        ((e.operands.map f).map (Expr.meaning .inMemory))) := by
  obtain ⟨found, rebuilt⟩ | ⟨shape, value, site, built, emitted⟩ := rewriteNode_of_settles root
  · rw [rebuilt, standIn_of_none found, Meaning.meaning_eq, Expr.operands_withOperands]
    exact Meaning.ofNode_withOperands (fun a ha => (alike a ha).isNullLiteral) _ _ _
  · rw [emitted, standIn_of_site site built]
    exact site.meaning_emit value _ f

/-- The rewritten tree means in memory what the tree means to the translator. -/
theorem meaning_rewritten (ok : Settled p rules e) :
    ((rewritten p rules e).meaning .inMemory).Same (e.meaning (.translator p rules)) := by
  induction e using Expr.induction_operands with
  | step e ih =>
    obtain ⟨root, rest⟩ := settled_iff_operands.1 ok
    have below : List.Forall₂ Meaning.Same
        ((e.operands.map (rewritten p rules)).map (Expr.meaning .inMemory))
        (e.operands.map (Expr.meaning (.translator p rules))) := by
      rw [List.map_map]
      exact Meaning.forall₂_map fun a ha => ih a ha (rest a ha)
    rw [rewritten_eq, Meaning.meaning_eq (.translator p rules) e]
    exact (meaning_rewriteNode root fun a _ => alike_rewritten p rules a).trans
      (Meaning.ofNode_congr e below)

/-- **Simulation of the translator.** When the normalizer turns a tree into another one, the result
evaluates in memory, in every environment, to what the translator makes of the tree. -/
theorem run_simulates_translator (n : Normalizer) (tree : Expr) {visit : Visit}
    (done : (n.run tree).outcome = .ok visit) (env : Env) :
    SameOutcome (visit.tree.eval env)
      ((tree.meaning (.translator n.provider n.rules)).value env) := by
  obtain ⟨ok, rfl⟩ := visit_eq_ok_iff.1 done
  exact (meaning_rewritten ok).sameOutcome env

/-- A selector whose body is a `??` of the row and a `FirstOrDefault` over no rows: on an absent row
both evaluations supply the default of the integers. -/
theorem run_simulates_translator_selector :
    let n : Normalizer := { provider := Registry.standard.provider }
    let first : Expr :=
      .call .firstOrDefault [] [.plain (.source "none") [] (.sequence .int64)] .int64
    let body : Expr := .binary .coalesce (.plain (.parameter "x") [] .int64) first .int64
    let tree : Expr := .call .select []
      [.plain (.source "rows") [] (.sequence .int64),
        .plain (.lambda ["x"]) [body] (.function [.int64] .int64)] (.sequence .int64)
    let env := (Env.bindSource {} "none" []).bindSource "rows" [.null, .int64 7]
    ∃ visit, (n.run tree).outcome = .ok visit ∧
      visit.tree.eval env = .ok (.sequence [.int64 0, .int64 7]) ∧
      SameOutcome (visit.tree.eval env)
        ((tree.meaning (.translator n.provider n.rules)).value env) :=
  ⟨_, rfl, rfl, run_simulates_translator _ _ rfl _⟩

end QueryDefaults
