import QueryDefaults.Proofs.Lowering.Commute
import QueryDefaults.Proofs.Registry.Context

/-!
# The first row or the fallback

A helper call and `FirstOrDefault` look for the same row: the first one of the source that passes
the predicate, and without a predicate the first one of all. Both test every row of the source
(`matching_eq_ok_iff`), and they part only where no row passes. Then the helper call gives its
fallback, which it evaluates in any case, but never tests. The expansion of a helper call appends
the fallback behind the rows that passed, so its `First` always finds a row
(`first_row_or_fallback`).
-/

set_option autoImplicit false

namespace QueryDefaults

open QueryDefaults.Expr

/-! ## Rows that pass -/

namespace Meaning

variable {test : Value → Except Fault Bool} {rows kept : List Value}

/-- Whether a test answers that a row passes. -/
def passes (test : Value → Except Fault Bool) (row : Value) : Bool :=
  match test row with
  | .ok answer => answer
  | .error _ => false

theorem passes_of_ok {row : Value} {answer : Bool} (answered : test row = .ok answer) :
    passes test row = answer := by
  rw [passes, answered]

/-- Rows are kept when every one of them can be tested. -/
theorem keep_eq_ok_iff :
    keep test rows = .ok kept ↔
      (∀ row ∈ rows, ∃ answer, test row = .ok answer) ∧ kept = rows.filter (passes test) := by
  induction rows generalizing kept with
  | nil => simp [keep, eq_comm]
  | cons row rows ih =>
    rw [keep, List.forall_mem_cons, List.filter_cons]
    constructor
    · intro done
      obtain ⟨answer, answered, done⟩ := except_bind_eq_ok_iff.1 done
      obtain ⟨others, rest, done⟩ := except_bind_eq_ok_iff.1 done
      obtain ⟨all, rfl⟩ := ih.1 rest
      cases done
      exact ⟨⟨⟨answer, answered⟩, all⟩, by rw [passes_of_ok answered]⟩
    · rintro ⟨⟨⟨answer, answered⟩, all⟩, rfl⟩
      rw [passes_of_ok answered]
      exact except_bind_eq_ok_iff.2 ⟨answer, answered,
        except_bind_eq_ok_iff.2 ⟨_, ih.2 ⟨all, rfl⟩, rfl⟩⟩

/-- When every row passes, all are kept. -/
theorem keep_of_all (rows : List Value) : keep (fun _ => .ok true) rows = .ok rows :=
  keep_eq_ok_iff.2 ⟨fun _ _ => ⟨true, rfl⟩, (List.filter_eq_self.2 fun _ _ => rfl).symm⟩

/-- The first row that passes, or what stands for absence when there is none. -/
theorem call_firstOrDefault (absent : Value) (args : List Meaning) (env : Env) :
    call (.ok absent) .firstOrDefault args env = (do
      let rows ← matching args env
      return rows.headD absent) := by
  refine bind_congr fun rows => ?_
  cases rows <;> rfl

end Meaning

theorem Value.rows_eq_ok_iff {v : Value} {rows : List Value} :
    v.rows = .ok rows ↔ v = .sequence rows := by
  cases v <;> simp [Value.rows]

namespace Expr

/-- How a predicate answers for a row. Without a predicate every row passes. -/
def test (predicate : Option Expr) (env : Env) (row : Value) : Except Fault Bool :=
  match predicate with
  | none => .ok true
  | some predicate => (predicate.meaning .inMemory).holds env row

/-- The rows of a source that pass a predicate, if there is one. -/
def matching (source : Expr) (predicate : Option Expr) (env : Env) : Except Fault (List Value) :=
  Meaning.matching ((source :: predicate.toList).map (meaning .inMemory)) env

variable {source : Expr} {predicate : Option Expr} {env : Env} {kept : List Value}

theorem matching_eq (source : Expr) (predicate : Option Expr) (env : Env) :
    matching source predicate env = (do
      let rows ← (← source.eval env).rows
      Meaning.keep (test predicate env) rows) := by
  cases predicate with
  | some predicate => exact bind_assoc (source.eval env) Value.rows _
  | none =>
    have all : Meaning.keep (test none env) = pure := funext Meaning.keep_of_all
    simp only [all, bind_pure]
    rfl

theorem matching_eq_ok_iff :
    matching source predicate env = .ok kept ↔
      ∃ rows, source.eval env = .ok (.sequence rows) ∧
        (∀ row ∈ rows, ∃ answer, test predicate env row = .ok answer) ∧
        kept = rows.filter (Meaning.passes (test predicate env)) := by
  simp only [matching_eq, except_bind_eq_ok_iff, Value.rows_eq_ok_iff, Meaning.keep_eq_ok_iff]
  exact ⟨fun ⟨_, given, rows, is, kept⟩ => ⟨rows, is ▸ given, kept⟩,
    fun ⟨rows, given, kept⟩ => ⟨_, given, rows, rfl, kept⟩⟩

/-! ## Both calls -/

/-- `FirstOrDefault` gives the first row that passes, and the absent value when there is none. -/
theorem eval_firstOrDefault (source : Expr) (predicate : Option Expr) (typeArgs : List Ty) (ty : Ty)
    (env : Env) :
    (call .firstOrDefault typeArgs (source :: predicate.toList) ty).eval env = (do
      let rows ← matching source predicate env
      return rows.headD .null) := by
  rw [eval, Meaning.meaning_eq]
  exact Meaning.call_firstOrDefault .null _ env

/-- A helper call gives the first row that passes, and the value of its fallback when there is none.
The fallback is evaluated behind the tests in either case. -/
theorem eval_firstOrFallback (source fallback : Expr) (predicate : Option Expr) (typeArgs : List Ty)
    (ty : Ty) (env : Env) :
    (call .firstOrFallback typeArgs (source :: predicate.toList ++ [fallback]) ty).eval env = (do
      let rows ← matching source predicate env
      return rows.headD (← fallback.eval env)) := by
  cases predicate <;> rfl

end Expr

/-- The first of the rows that are kept is the first row that passes. -/
theorem headD_filter (rows : List Value) (pass : Value → Bool) (other : Value) :
    (rows.filter pass).headD other = (rows.find? pass).getD other := by
  rw [List.headD_eq_head?_getD, List.head?_filter]

/-! ## Expansions -/

/-- Behind the rows of a source stands the fallback, so there is a first row. -/
theorem ne_nil_of_concat {elem : Ty} {source fallback : Expr} {env : Env} {rows : List Value}
    (given : (Expr.call .concat [elem] [source, .plain .newArray [fallback] (.sequence elem)]
      (.sequence elem)).eval env = .ok (.sequence rows)) : rows ≠ [] := by
  obtain ⟨before, -, given⟩ := except_bind_eq_ok_iff.1 given
  obtain ⟨behind, appended, given⟩ := except_bind_eq_ok_iff.1 given
  have single : (Expr.plain .newArray [fallback] (.sequence elem)).eval env = (do
      return .sequence [← fallback.eval env]) := by
    simp only [eval, meaning, meanings, Meaning.plain, List.mapM_cons, List.mapM_nil, bind_assoc,
      pure_bind]
  obtain ⟨array, filled, appended⟩ := except_bind_eq_ok_iff.1 appended
  obtain ⟨last, -, filled⟩ := except_bind_eq_ok_iff.1 (single.symm.trans filled)
  cases filled
  cases appended
  cases given
  exact List.append_ne_nil_of_right_ne_nil before (List.cons_ne_nil last [])

/-- Expanding a helper call before its operands are lowered makes no difference. -/
theorem lowered_lowerNode (e : Expr) : lowered (lowerNode e) = lowered e := by
  unfold lowerNode
  split <;> rfl

theorem lowers_expansion {source fallback : Expr} (elem : Ty) (hs : source.Lowers)
    (hf : fallback.Lowers) : (expansion elem source fallback).Lowers := by
  have array : (plain .newArray [fallback] (.sequence elem)).Lowers :=
    lowers_iff.2 ⟨nofun, List.forall_mem_singleton.2 hf⟩
  simp [expansion, hs, array]

theorem lowers_lowerNode {e : Expr} (lowers : e.Lowers) : (lowerNode e).Lowers := by
  unfold lowerNode
  split
  · obtain ⟨source, fallback⟩ := by simpa using lowers
    exact lowers_expansion _ source fallback
  · obtain ⟨source, predicate, fallback⟩ := by simpa using lowers
    exact lowers_expansion _ (by simp [source, predicate]) fallback
  · exact lowers

/-- A helper call that can be expanded evaluates to what its expansion evaluates to, also when the
helper calls in the expansion are expanded as well. -/
theorem expansion_agrees {typeArgs : List Ty} {args : List Expr} {ty : Ty}
    (expands : (call .firstOrFallback typeArgs args ty).Expands) (env : Env) :
    ∃ concat : Expr,
      let helper : Expr := .call .firstOrFallback typeArgs args ty
      let expanded : Expr := .call .first [ty] [concat] ty
      expandFirstOrFallback .firstOrFallback args ty = .ok expanded ∧
      (∀ rows, concat.eval env = .ok (.sequence rows) → rows ≠ []) ∧
      expanded.eval env = helper.eval env ∧
      ∀ visit, (Pass.lower.visit helper).outcome = .ok visit →
        (∃ again, (Pass.lower.visit expanded).outcome = .ok again ∧ again.tree = visit.tree) ∧
          SameOutcome (visit.tree.eval env) (helper.eval env) := by
  have shape : ∃ source fallback,
      lowerNode (call .firstOrFallback typeArgs args ty) = expansion ty source fallback := by
    obtain ⟨_, _, _, _, is⟩ | ⟨_, _, _, _, _, is⟩ | other := expands.cases
    · cases is
      exact ⟨_, _, rfl⟩
    · cases is
      exact ⟨_, _, rfl⟩
    · cases other
  obtain ⟨source, fallback, is⟩ := shape
  have built := (expandFirstOrFallback_eq_ok_iff typeArgs).2 ⟨expands, rfl⟩
  have value := value_lowerNode .inMemory (call .firstOrFallback typeArgs args ty) env
  have inner := lowered_lowerNode (call .firstOrFallback typeArgs args ty)
  rw [is] at built value inner
  refine ⟨_, built, fun rows => ne_nil_of_concat, value, fun visit done => ?_⟩
  obtain ⟨lowers, rfl⟩ := Pass.lower_eq_ok_iff.1 done
  have lowers' := lowers_lowerNode lowers
  rw [is] at lowers'
  exact ⟨⟨_, Pass.lower_eq_ok_iff.2 ⟨lowers', rfl⟩, inner⟩,
    (meaning_lowered Absence.shallow_inMemory _).sameOutcome env⟩

/-! ## The law -/

/-- A first row with a fallback can be had exactly when the rows and the fallback can. -/
theorem headD_outcomes (found : Except Fault (List Value)) (other : Except Fault Value) :
    let first : Except Fault Value := do return (← found).headD .null
    let helper : Except Fault Value := do
      let rows ← found
      return rows.headD (← other)
    ((∃ value, helper = .ok value) ↔ (∃ row, first = .ok row) ∧ ∃ value, other = .ok value) ∧
      ∀ fault, helper = .error fault ↔
        first = .error fault ∨ (∃ row, first = .ok row) ∧ other = .error fault := by
  cases found <;> cases other <;> simp [bind, Except.bind, pure, Except.pure]

/-- **The first row or the fallback.** A helper call has a value exactly when the `FirstOrDefault`
over the same rows and the fallback have one; the former has one when every row of the source can be
tested, and the fallback is not tested. The value is the first row that passes, as `FirstOrDefault`
gives it, and when no row passes it is the value of the fallback. Every fault is a fault of the
`FirstOrDefault` or of the fallback, for the `First` of the expansion is called on one row at least.
The call, its expansion, and the expansion with the helper calls in it expanded agree. -/
theorem first_row_or_fallback (source fallback : Expr) (predicate : Option Expr)
    (typeArgs typeArgs' : List Ty) (ty ty' : Ty) (env : Env) :
    let query := source :: predicate.toList
    let first : Expr := .call .firstOrDefault typeArgs query ty
    let helper : Expr := .call .firstOrFallback typeArgs' (query ++ [fallback]) ty'
    ((∃ value, helper.eval env = .ok value) ↔
      (∃ row, first.eval env = .ok row) ∧ ∃ value, fallback.eval env = .ok value) ∧
    ((∃ row, first.eval env = .ok row) ↔ ∃ rows, source.eval env = .ok (.sequence rows) ∧
      ∀ row ∈ rows, ∃ answer, test predicate env row = .ok answer) ∧
    (∀ value, helper.eval env = .ok value → ∃ rows, source.eval env = .ok (.sequence rows) ∧
      let found := rows.find? (Meaning.passes (test predicate env))
      (∀ row, found = some row → value = row ∧ first.eval env = .ok row) ∧
        (found = none → fallback.eval env = .ok value ∧ first.eval env = .ok .null)) ∧
    (∀ fault, helper.eval env = .error fault ↔ first.eval env = .error fault ∨
      (∃ row, first.eval env = .ok row) ∧ fallback.eval env = .error fault) ∧
    ∃ concat : Expr,
      let expanded : Expr := .call .first [ty'] [concat] ty'
      expandFirstOrFallback .firstOrFallback (query ++ [fallback]) ty' = .ok expanded ∧
      (∀ rows, concat.eval env = .ok (.sequence rows) → rows ≠ []) ∧
      expanded.eval env = helper.eval env ∧
      ∀ visit, (Pass.lower.visit helper).outcome = .ok visit →
        (∃ again, (Pass.lower.visit expanded).outcome = .ok again ∧ again.tree = visit.tree) ∧
          SameOutcome (visit.tree.eval env) (helper.eval env) := by
  intro query first helper
  have value : helper.eval env = _ :=
    eval_firstOrFallback source fallback predicate typeArgs' ty' env
  have row : first.eval env = _ := eval_firstOrDefault source predicate typeArgs ty env
  have expands : helper.Expands := by cases predicate <;> simp [Expands, helper, query, operands]
  obtain ⟨returns, faults⟩ := headD_outcomes (matching source predicate env) (fallback.eval env)
  refine ⟨?_, ?_, fun result evaluates => ?_, ?_, expansion_agrees expands env⟩
  · rw [value, row]
    exact returns
  · rw [row]
    simp only [except_bind_eq_ok_iff, matching_eq_ok_iff]
    constructor
    · rintro ⟨_, _, ⟨rows, given, all, _⟩, _⟩
      exact ⟨rows, given, all⟩
    · rintro ⟨rows, given, all⟩
      exact ⟨_, _, ⟨rows, given, all, rfl⟩, rfl⟩
  · obtain ⟨kept, found, evaluates⟩ := except_bind_eq_ok_iff.1 (value.symm.trans evaluates)
    obtain ⟨other, evaluated, evaluates⟩ := except_bind_eq_ok_iff.1 evaluates
    obtain rfl := Except.ok.inj evaluates
    obtain ⟨rows, given, -, rfl⟩ := matching_eq_ok_iff.1 found
    have row : first.eval env = .ok ((rows.filter _).headD .null) := row.trans (by rw [found]; rfl)
    rw [row, headD_filter, headD_filter, evaluated]
    refine ⟨rows, given, fun head is => ?_, fun is => ?_⟩
    · rw [is]
      exact ⟨rfl, rfl⟩
    · rw [is]
      exact ⟨rfl, rfl⟩
  · rw [value, row]
    exact faults

/-- No pair passes a predicate that is itself a helper call in part, and the value is the one of the
fallback. To test it would be a fault, for it has no fields. -/
theorem first_row_or_fallback_untested :
    let source (name : String) (elem : Ty) : Expr := .plain (.source name) [] (.sequence elem)
    let supply (n : Int64) : Expr :=
      .call .firstOrFallback [] [source "none" .int64, .constant (.int64 n) .int64] .int64
    let one : Expr := .plain (.field "one") [.plain (.parameter "x") [] (.record "Pair")] .int64
    let predicate : Expr := .plain (.lambda ["x"]) [.binary .equal one (supply 2) .bool]
      (.function [.record "Pair"] .bool)
    let query := [source "pairs" (.record "Pair"), predicate]
    let env := (Env.bindSource {} "none" []).bindSource "pairs" [.record "Pair" [("one", .int64 1)]]
    (call .firstOrFallback [] (query ++ [supply 5]) .int64).eval env = .ok (.int64 5) ∧
      (∃ row, (call .firstOrDefault [] query (.record "Pair")).eval env = .ok row) ∧
      test (some predicate) env (.int64 5) = .error (.noField "one") := by
  intro source supply one predicate query env
  have value : (call .firstOrFallback [] (query ++ [supply 5]) .int64).eval env =
    .ok (.int64 5) := rfl
  have law := first_row_or_fallback (source "pairs" (.record "Pair")) (supply 5) (some predicate) []
    [] (.record "Pair") .int64 env
  exact ⟨value, (law.1.1 ⟨_, value⟩).1, rfl⟩

end QueryDefaults
