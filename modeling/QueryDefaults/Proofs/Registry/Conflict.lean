import QueryDefaults.Proofs.Pipeline.InTurn
import QueryDefaults.Proofs.Registry.Conforms

/-!
# Conflicts of registration

When a registry answers for the types, a run can fail in one way only: a declared record has several
nullary constructors, or a declared family has no constructor that wraps exactly one value, or
several (`only_conflicts_fail`). Every other error is ruled out before it can arise. A default is
asked for only behind the gate, a wrapper only of a type that was recognised as one, and what a rule
emits has an overload.
-/

set_option autoImplicit false

namespace QueryDefaults

open Shape

/-- The errors that report declarations which do not leave exactly one choice. -/
inductive Registry.Conflict (r : Registry) : QueryError → Prop where
  /-- A declared record has several nullary constructors. -/
  | record {err : QueryError} (ambiguous : r.Ambiguous err) : Conflict r err
  /-- A declared family has no constructor with parameters, or several. -/
  | constructors {family : String} {inner : Ty} {arities : List Nat} {found : Nat}
      (declared : r.family? family = some arities) (count : (arities.filter (0 < ·)).length = found)
      (notOne : found = 0 ∨ 2 ≤ found) :
      Conflict r (.ambiguousWrapper (.optional family inner) found)
  /-- The only constructor with parameters of a declared family takes several. -/
  | arity {family : String} {inner : Ty} {arities : List Nat} {arity : Nat}
      (declared : r.family? family = some arities) (only : arities.filter (0 < ·) = [arity])
      (several : 2 ≤ arity) : Conflict r (.wrapperArity (.optional family inner) arity)

variable {r : Registry} {p : Provider} {rules : RuleSet} {e : Expr} {shape : Shape}
  {err : QueryError}

namespace Registry

/-- A default that is asked for behind the gate can only be ambiguous. -/
theorem conflict_of_constructDefault {ty : Ty} (gate : r.hasDefault ty = true)
    (fails : r.constructDefault ty = .error err) : r.Conflict err := by
  have built := builds_constructDefault gate
  rw [fails] at built
  exact .record built

/-- Only wrappers of declared families have an inner type. -/
theorem optional_of_innerOfOptional? {ty inner : Ty} (wraps : r.innerOfOptional? ty = some inner) :
    ∃ family arities, ty = .optional family inner ∧ r.family? family = some arities := by
  unfold innerOfOptional? at wraps
  split at wraps
  · split at wraps
    · rename_i family _ declared
      cases wraps
      obtain ⟨arities, found⟩ := Option.isSome_iff_exists.1 declared
      exact ⟨family, arities, rfl, found⟩
    · cases wraps
  · cases wraps

/-- A wrapper of a declared family fails only on the constructors of the family. -/
theorem conflict_of_constructWrapper {family : String} {inner : Ty} {arities : List Nat}
    {value : Value} (declared : r.family? family = some arities)
    (fails : r.constructWrapper (.optional family inner) value = .error err) : r.Conflict err := by
  simp only [constructWrapper, declared] at fails
  split at fails
  · cases fails
  · rename_i arity notOne only
    cases fails
    have positive : 0 < arity := by
      have taken : arity ∈ arities.filter (0 < ·) := by simp [only]
      exact of_decide_eq_true (List.mem_filter.1 taken).2
    have several : arity ≠ 1 := notOne
    exact .arity declared only (by omega)
  · rename_i notOne notSingle
    cases fails
    refine .constructors declared rfl ?_
    have several : (arities.filter (0 < ·)).length ≠ 1 := fun one => by
      obtain ⟨arity, only⟩ := List.length_eq_one_iff.1 one
      exact notSingle arity only
    omega

end Registry

/-- What a registry answers at a site that cannot be settled is a conflict. -/
theorem conflict_of_siteError (fails : SiteError r.provider rules e err) : r.Conflict err := by
  obtain ⟨site, fails⟩ | ⟨site, built, fails⟩ := fails
  · exact r.conflict_of_constructDefault (site?_eq_some site.site?_eq).2.2 fails
  · obtain ⟨family, arities, rfl, declared⟩ := r.optional_of_innerOfOptional? site.wraps_inner
    exact r.conflict_of_constructWrapper declared fails

/-- What the normalizer decides before the operands of a node, it decides at a site. -/
theorem site_of_enter {settled : Expr}
    (decided : ((defaultValues p rules).enter e).outcome = .ok (some (shape, settled))) :
    Site p rules e shape := by
  cases found : site? p rules e with
  | none =>
    rw [enter_of_none found] at decided
    cases decided
  | some other =>
    have site := site?_eq_some_iff.1 found
    rw [enter_of_site site] at decided
    cases ok : other.settle p with
    | error err =>
      rw [ok] at decided
      cases decided
    | ok constant =>
      rw [ok] at decided
      cases decided
      exact site

/-- A run of the pipeline of the normalizer alone fails as the normalizer does. -/
theorem visit_of_default_fails {trace : Bool} {tree : Expr}
    (fails : ((Pipeline.default p).runWith trace tree).outcome = .error err) :
    ((defaultValues p {}).visit tree).outcome = .error err := by
  have visited : ((Stage.defaultValues p).visit tree).outcome =
    ((defaultValues p {}).visit tree).outcome := rfl
  rw [Pipeline.outcome_runWith, Pipeline.default, Stage.outcome_runAll_cons, visited] at fails
  cases done : ((defaultValues p {}).visit tree).outcome with
  | error other =>
    rw [done] at fails
    cases fails
    rfl
  | ok visit =>
    rw [done] at fails
    cases fails

/-- **Only conflicts of registration.** When a registry answers for the types, the normalizer fails
with a conflict of the registry or not at all, whichever rules are on, and so does the pipeline of
the normalizer alone. What it decides to emit at a node, it emits: the check of the overload does
not fail. -/
theorem only_conflicts_fail (r : Registry) (tree : Expr) :
    (∀ rules err, (Normalizer.run { provider := r.provider, rules } tree).outcome = .error err →
      r.Conflict err) ∧
    (∀ err, ((Pipeline.default r.provider).run tree).outcome = .error err ∨
      ((Pipeline.default r.provider).report tree).outcome = .error err → r.Conflict err) ∧
    ∀ rules, ∀ node ∈ tree.nodes, ∀ shape settled,
      ((defaultValues r.provider rules).enter node).outcome = .ok (some (shape, settled)) →
      ∀ operands : List Visit, operands.length = node.operands.length →
      ∃ visit, ((defaultValues r.provider rules).leave (some (shape, settled)) node
        operands).outcome = .ok visit := by
  have fails : ∀ rules err, ((defaultValues r.provider rules).visit tree).outcome = .error err →
      r.Conflict err := fun rules err failed => by
    obtain ⟨node, -, here⟩ := siteError_of_visit failed
    exact conflict_of_siteError here
  refine ⟨fails, ?_, ?_⟩
  · rintro err (failed | failed)
    · have reported : ((Pipeline.default r.provider).runWith false tree).outcome = .error err := by
        rw [Pipeline.run, Traced.outcome_bind] at failed
        cases done : ((Pipeline.default r.provider).runWith false tree).outcome with
        | error other =>
          rw [done] at failed
          cases failed
          rfl
        | ok report =>
          rw [done] at failed
          cases failed
      exact fails {} err (visit_of_default_fails reported)
    · exact fails {} err (visit_of_default_fails failed)
  · intro rules node _ shape settled decided operands len
    rw [leave_of_site (site_of_enter decided) settled len]
    exact ⟨_, rfl⟩

/-- A comparison with a wrapper whose only constructor takes two values, below a `FirstOrDefault`
that is settled and would be replaced. -/
theorem only_conflicts_fail_arity :
    let r := Registry.standard.registerFamily "Pair" [2]
    let pair : Ty := .optional "Pair" .int64
    let param : Expr := .plain (.parameter "p") [] pair
    let isNull : Expr := .binary .equal param (.constant .null pair) .bool
    let source : Expr := .plain .newArray [isNull] (.sequence .bool)
    let tree : Expr := .call .firstOrDefault [] [source] .bool
    (Normalizer.run { provider := r.provider } tree).outcome = .error (.wrapperArity pair 2) ∧
      ((Pipeline.default r.provider).run tree).outcome = .error (.wrapperArity pair 2) ∧
      r.Conflict (.wrapperArity pair 2) ∧
      ∃ visit, ((defaultValues r.provider {}).leave
        (some (.firstFallback .bool, .constant (.bool false) .bool)) tree
        [⟨source, false⟩]).outcome = .ok visit := by
  intro r pair param isNull source tree
  obtain ⟨run, -, emits⟩ := only_conflicts_fail r tree
  have fails : (Normalizer.run { provider := r.provider } tree).outcome =
      .error (.wrapperArity pair 2) := rfl
  have inside : tree ∈ tree.nodes := by
    rw [Expr.nodes_eq]
    exact List.mem_cons_self
  exact ⟨fails, rfl, run _ _ fails, emits {} tree inside _ _ rfl _ rfl⟩

end QueryDefaults
