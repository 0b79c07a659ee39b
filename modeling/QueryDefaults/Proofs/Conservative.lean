import QueryDefaults.Proofs.Translator
import QueryDefaults.Proofs.Value.Same

/-!
# Evaluations that meet no absence

The normalizer changes what absence stands for, and nothing else. The strict evaluator is the
in-memory evaluator up to the first time it would consult absence, and there it ends with a fault of
its own. An evaluation that it carries through is kept by the normalizer, value for value
(`run_keeps_value`): where absence is not consulted, the translator agrees with the evaluator in
memory.
-/

set_option autoImplicit false

namespace QueryDefaults

open Shape

variable {p : Provider} {rules : RuleSet} {e : Expr} {shape : Shape} {α : Type}

/-- Whether a value stands for absence beside the null literal of a comparison: it is the absent
value, or it is equal to the empty wrapper. -/
def Shape.standsForAbsence (p : Provider) (shape : Shape) (value : Value) : Bool :=
  value.isNull ||
    match shape.filler p with
    | .ok empty => value == empty
    | .error _ => false

/-- The evaluator that ends with a fault instead of consulting absence: when a one-argument
`DefaultIfEmpty` has no rows, when a `FirstOrDefault` finds no row, when a `??` would be absent, and
when the optional wrapper that a null literal is compared with stands for absence. -/
def Absence.strict (p : Provider) (fault : Fault) : Absence where
  missing e :=
    match e with
    | .call .defaultIfEmpty _ (_ :: _ :: _) _ => .ok .null
    | _ => .error fault
  nullBeside e value :=
    match of? p e with
    | some shape => if shape.standsForAbsence p value then .error fault else .ok .null
    | none => .ok .null

/-- A node that the strict evaluator lets be absent is no site. -/
theorem strict_missing_cases (p : Provider) (fault : Fault) (e : Expr) :
    (Absence.strict p fault).missing e = .error fault ∨
      (Absence.strict p fault).missing e = .ok .null ∧ ∀ rules, site? p rules e = none := by
  simp only [Absence.strict]
  split
  · exact .inr ⟨rfl, fun _ => rfl⟩
  · exact .inl rfl

/-- A value that the strict evaluator compares with the absent value does not stand for absence. -/
theorem strict_nullBeside_cases (p : Provider) (fault : Fault) (e : Expr) (value : Value) :
    (Absence.strict p fault).nullBeside e value = .error fault ∨
      (Absence.strict p fault).nullBeside e value = .ok .null ∧
        ∀ shape, of? p e = some shape → shape.standsForAbsence p value = false := by
  simp only [Absence.strict]
  cases found : of? p e with
  | none => exact .inr ⟨rfl, fun _ h => nomatch h⟩
  | some shape =>
    cases absent : shape.standsForAbsence p value with
    | true => exact .inl (by simp only [absent, if_true])
    | false =>
      refine .inr ⟨by simp [absent], fun other h => ?_⟩
      cases h
      exact absent

/-! ## The strict evaluator and the evaluator in memory -/

/-- The first evaluation has every value of the second one, unless it ends with the given fault. -/
def Unless (fault : Fault) (x y : Except Fault α) : Prop :=
  ∀ a, y = .ok a → x = .ok a ∨ x = .error fault

/-- Binds keep the exception. -/
def EvalRel.unless (fault : Fault) : EvalRel where
  Rel := Unless fault
  refl _ _ h := .inl h
  faults _ _ _ h := nomatch h
  bind {α β x y f g} h hf := by
    intro b hb
    cases hy : y with
    | error other =>
      rw [hy] at hb
      cases hb
    | ok a =>
      rw [hy] at hb
      obtain hx | hx := h a hy
      · rw [hx]
        exact hf a b hb
      · rw [hx]
        exact .inr rfl

/-- The strict evaluator carries an evaluation through, unless it would consult absence. -/
theorem strict_unless (p : Provider) (fault : Fault) (e : Expr) :
    (e.meaning (.strict p fault)).Related (.unless fault) (e.meaning .inMemory) := by
  refine Meaning.meaning_related (fun e => ?_) (fun e => ⟨fun value => ?_, fun value => ?_⟩) e
  · obtain faulty | ⟨absent, -⟩ := strict_missing_cases p fault e
    · rw [faulty]
      exact fun _ _ => .inr rfl
    · rw [absent]
      exact EvalRel.refl _ _
  all_goals
    obtain faulty | ⟨absent, -⟩ := strict_nullBeside_cases p fault e value
    · rw [faulty]
      exact fun _ _ => .inr rfl
    · rw [absent]
      exact EvalRel.refl _ _

/-! ## The strict evaluator and the translator -/

/-- A value that does not stand for absence differs from the stand-in as it does from the absent
value. -/
theorem same_standIn {value : Value}
    (present : ∀ shape, of? p e = some shape → shape.standsForAbsence p value = false) :
    Value.same value (standIn p rules e) = Value.same value .null := by
  cases site : site? p rules e with
  | none => rw [standIn_of_none site]
  | some shape =>
    obtain ⟨given, differs⟩ := Bool.or_eq_false_iff.1 (present shape (site?_eq_some site).1)
    rw [Value.same_null, given]
    cases built : shape.filler p with
    | ok empty =>
      rw [built] at differs
      rw [standIn_of_site (site?_eq_some_iff.1 site) built]
      exact differs
    | error err =>
      simp only [standIn, site, built]
      rw [Value.same_null, given]

/-- Where the strict evaluator goes on, the translator gives the same answers. -/
theorem strict_below_translator (p : Provider) (rules : RuleSet) (fault : Fault) (e : Expr) :
    (e.meaning (.strict p fault)).Related .below (e.meaning (.translator p rules)) := by
  refine Meaning.meaning_related (fun e => ?_) (fun e => ⟨fun value => ?_, fun value => ?_⟩) e
  · obtain faulty | ⟨absent, none⟩ := strict_missing_cases p fault e
    · rw [faulty]
      exact fun _ h => nomatch h
    · rw [absent]
      exact EvalRel.of_eq (congrArg Except.ok (standIn_of_none (none rules)).symm)
  · obtain faulty | ⟨absent, present⟩ := strict_nullBeside_cases p fault e value
    · rw [faulty]
      exact fun _ h => nomatch h
    · rw [absent]
      refine EvalRel.of_eq (congrArg Except.ok ?_)
      rw [Value.beq_def, Value.same_comm, ← same_standIn present, Value.same_comm]
      rfl
  · obtain faulty | ⟨absent, present⟩ := strict_nullBeside_cases p fault e value
    · rw [faulty]
      exact fun _ h => nomatch h
    · rw [absent]
      exact EvalRel.of_eq (congrArg Except.ok (same_standIn present).symm)

/-- **Conservativity.** An evaluation in memory that consults no absence, so that the strict
evaluator does not end with its fault, gives the same value on the tree that the normalizer makes:
the normalizer changes an answer only by way of a consulted absence. -/
theorem run_keeps_value (n : Normalizer) (tree : Expr) {visit : Visit}
    (done : (n.run tree).outcome = .ok visit) (env : Env) {value : Value}
    (returns : tree.eval env = .ok value) (fault : Fault)
    (present : (tree.meaning (.strict n.provider fault)).value env ≠ .error fault) :
    visit.tree.eval env = .ok value := by
  obtain ⟨ok, rfl⟩ := visit_eq_ok_iff.1 done
  have strict : (tree.meaning (.strict n.provider fault)).value env = .ok value :=
    ((strict_unless n.provider fault tree).value env value returns).resolve_right present
  have translated := (strict_below_translator n.provider n.rules fault tree).value env value strict
  exact ((meaning_rewritten ok).value env value).2 translated

/-- A site of each rule, none of which meets absence: `DefaultIfEmpty` has rows, the second row
passes the predicate, no row is absent, so that the `FirstOrDefault` over no rows is not evaluated,
and the wrapper holds a value. -/
theorem run_keeps_value_of_match :
    let n : Normalizer := { provider := Registry.standard.provider }
    let source (name : String) : Expr := .plain (.source name) [] (.sequence .int64)
    let other : Expr := .call .firstOrDefault [] [source "none"] .int64
    let row : Expr := .binary .coalesce (.plain (.parameter "n") [] .int64) other .int64
    let wrapper : Ty := .optional "Nullable" .int64
    let given : Expr := .binary .notEqual (.plain (.parameter "w") [] wrapper)
      (.constant .null wrapper) .bool
    let body : Expr := .binary .andAlso (.binary .equal row (.constant (.int64 7) .int64) .bool)
      given .bool
    let rows : Expr := .call .defaultIfEmpty [] [source "rows"] (.sequence .int64)
    let tree : Expr := .call .firstOrDefault []
      [rows, .plain (.lambda ["n"]) [body] (.function [.int64] .bool)] .int64
    let env := (((Env.bindSource {} "none" []).bindSource "rows" [.int64 5, .int64 7]).bindParam "w"
      (.wrapped "Nullable" (.int64 3)))
    ∃ after, (n.run tree).outcome = .ok ⟨after, true⟩ ∧ tree.eval env = .ok (.int64 7) ∧
      (tree.meaning (.strict n.provider .overflow)).value env ≠ .error .overflow ∧
      after.eval env = .ok (.int64 7) := by
  intro n source other row wrapper given body rows tree env
  have returns : tree.eval env = .ok (.int64 7) := rfl
  have strict : (tree.meaning (.strict n.provider .overflow)).value env = .ok (.int64 7) := rfl
  have present : (tree.meaning (.strict n.provider .overflow)).value env ≠ .error .overflow := by
    rw [strict]
    exact nofun
  have done : (n.run tree).outcome = .ok ⟨rewritten n.provider n.rules tree, true⟩ := rfl
  exact ⟨_, done, returns, present, run_keeps_value n tree done env returns .overflow present⟩

end QueryDefaults
