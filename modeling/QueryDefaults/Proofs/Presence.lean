import QueryDefaults.Proofs.Lowering.Fallback
import QueryDefaults.Proofs.Normalizer.Again
import QueryDefaults.Proofs.Registry.Conforms
import QueryDefaults.Proofs.Translator

/-!
# Absence is eliminated

What a registry builds without arguments is never the absent value, so what the normalizer puts in
the place of absence is a value that is present (`standIn_of_settled`). A rewritten node gives what
the node itself gives over its rewritten operands, with that value for absence
(`eval_rewritten_iff`). A `??` is then absent only when both operands and the filler are, and a call
that looks for a row is absent only when it finds an absent row (`absence_eliminated`).
-/

set_option autoImplicit false

namespace QueryDefaults

open Shape

variable {r : Registry} {p : Provider} {rules : RuleSet} {e : Expr} {shape : Shape} {env : Env}
  {value : Value}

/-! ## What stands in for absence -/

/-- For all shapes but a comparison, the filler is the default of the governing type. -/
theorem filler_eq_constructDefault (uncompared : shape.rule ≠ .optionalCompare) :
    shape.filler p = p.constructDefault shape.governing := by
  cases shape with
  | nullComparison => exact absurd rfl uncompared
  | emptyFallback elem | firstFallback elem | openCoalesce elem =>
    unfold filler
    cases p.constructDefault _ <;> rfl

/-- What a registry supplies at a site is present: a default instance is, and so is a wrapper. -/
theorem Site.filler_ne_null (site : Site r.provider rules e shape)
    (filled : shape.filler r.provider = .ok value) : value ≠ .null := by
  by_cases compared : shape.rule = .optionalCompare
  · have present := present_of_filler (.of_registry rfl) filled compared
    rintro rfl
    cases present
  · obtain ⟨-, -, gate⟩ := site?_eq_some site.site?_eq
    have conforms := Registry.builds_constructDefault (r := r) gate
    have built : r.constructDefault shape.governing = .ok value :=
      (filler_eq_constructDefault compared).symm.trans filled
    rw [built] at conforms
    exact conforms.ne_null

/-- Where all sites can be settled, the value that stands in for absence at a site of a registry is
the filler, and it is present. -/
theorem standIn_of_settled (ok : Settled r.provider rules e) (site : Site r.provider rules e shape) :
    shape.filler r.provider = .ok (standIn r.provider rules e) ∧
      standIn r.provider rules e ≠ .null := by
  obtain ⟨settled, done⟩ := (settled_iff_operands.1 ok).1 shape site
  obtain ⟨value, filled, -⟩ := settle_eq_ok.1 done
  rw [standIn_of_site site filled]
  exact ⟨filled, site.filler_ne_null filled⟩

/-! ## What a rewritten node gives -/

/-- A rewritten node has the value of the node over the rewritten operands, where absence is taken
for what stands in for it. -/
theorem eval_rewritten_iff (ok : Settled p rules e) :
    (rewritten p rules e).eval env = .ok value ↔
      (Meaning.ofNode (.ok (standIn p rules e)) (fun _ => .ok (standIn p rules e)) e
        ((e.operands.map (rewritten p rules)).map (Expr.meaning .inMemory))).value env =
          .ok value := by
  rw [rewritten_eq]
  exact (meaning_rewriteNode (settled_iff_operands.1 ok).1 fun a _ =>
    alike_rewritten p rules a).value env value

/-- A `??` gives the absent value only when its operands do, and what stands for absence is
absent. -/
theorem Meaning.absent_of_coalesce {absent : Value} {left right : Meaning}
    (returns : Meaning.binary (.ok absent) .coalesce left right env = .ok .null) :
    left.value env = .ok .null ∧ right.value env = .ok .null ∧ absent = .null := by
  obtain ⟨first, evaluated, returns⟩ := except_bind_eq_ok_iff.1 returns
  cases first with
  | null =>
    obtain ⟨second, evaluated', returns⟩ := except_bind_eq_ok_iff.1 returns
    cases second with
    | null => exact ⟨evaluated, evaluated', Except.ok.inj returns⟩
    | _ => cases returns
  | _ => cases returns

/-- A `DefaultIfEmpty` without fallback gives its rows, and without rows what stands for absence. -/
theorem Meaning.call_defaultIfEmpty (absent : Value) (source : Meaning) (env : Env) :
    Meaning.call (.ok absent) .defaultIfEmpty [source] env = (do
      let rows ← source.rows env
      return .sequence (if rows.isEmpty then [absent] else rows)) := by
  refine bind_congr fun rows => ?_
  cases rows <;> rfl

/-! ## The rules that supply a value -/

/-- A `??` that has a default is never absent once it is rewritten, unless its right operand is the
null literal. A constant on the right is no site, and is present itself. -/
theorem present_of_coalesce {left right : Expr} {ty : Ty}
    (ok : Settled r.provider {} (.binary .coalesce left right ty)) (gate : r.hasDefault ty = true)
    (other : right.isNullLiteral = false)
    (returns : (rewritten r.provider {} (.binary .coalesce left right ty)).eval env = .ok value) :
    value ≠ .null := by
  rintro rfl
  obtain ⟨-, closing, absent⟩ :=
    Meaning.absent_of_coalesce ((eval_rewritten_iff ok).1 returns)
  cases fixed : right.isConstant with
  | false => exact (standIn_of_settled ok (.coalesce rfl fixed gate)).2 absent
  | true =>
    cases right with
    | constant inner ty =>
      obtain rfl : inner = .null := Except.ok.inj closing
      cases other
    | _ => cases fixed

/-- A `FirstOrDefault` whose element type has a default gives, once it is rewritten, the first row
that passes or that default. -/
theorem eval_rewritten_firstOrDefault {typeArgs : List Ty} {source : Expr} {predicate : Option Expr}
    {ty elem : Ty}
    (ok : Settled r.provider {} (.call .firstOrDefault typeArgs (source :: predicate.toList) ty))
    (works : Expr.elementTypeOf? typeArgs (source :: predicate.toList) = some elem)
    (gate : r.hasDefault elem = true)
    (returns : (rewritten r.provider {}
      (.call .firstOrDefault typeArgs (source :: predicate.toList) ty)).eval env = .ok value) :
    ∃ kept default, Expr.matching (rewritten r.provider {} source)
        (predicate.map (rewritten r.provider {})) env = .ok kept ∧
      r.constructDefault elem = .ok default ∧ default ≠ .null ∧ value = kept.headD default := by
  have site : Site r.provider {} (.call .firstOrDefault typeArgs (source :: predicate.toList) ty)
      (.firstFallback elem) := by
    cases predicate with
    | none => exact .first rfl works gate
    | some predicate => exact .firstMatch rfl works gate
  obtain ⟨filled, present⟩ := standIn_of_settled ok site
  have built := (filler_eq_constructDefault (by simp [rule])).symm.trans filled
  have found := (Meaning.call_firstOrDefault _ _ env).symm.trans ((eval_rewritten_iff ok).1 returns)
  obtain ⟨kept, found, result⟩ := except_bind_eq_ok_iff.1 found
  refine ⟨kept, _, ?_, built, present, (Except.ok.inj result).symm⟩
  cases predicate <;> exact found

/-- A `DefaultIfEmpty` whose element type has a default gives, once it is rewritten, its rows, or
that default alone when it has none. -/
theorem eval_rewritten_defaultIfEmpty {typeArgs : List Ty} {source : Expr} {ty elem : Ty}
    (ok : Settled r.provider {} (.call .defaultIfEmpty typeArgs [source] ty))
    (works : Expr.elementTypeOf? typeArgs [source] = some elem) (gate : r.hasDefault elem = true)
    (returns : (rewritten r.provider {} (.call .defaultIfEmpty typeArgs [source] ty)).eval env =
      .ok value) :
    ∃ rows default, (rewritten r.provider {} source).eval env = .ok (.sequence rows) ∧
      r.constructDefault elem = .ok default ∧ default ≠ .null ∧
      value = .sequence (if rows.isEmpty then [default] else rows) := by
  obtain ⟨filled, present⟩ := standIn_of_settled ok (.empty rfl works gate)
  have built := (filler_eq_constructDefault (by simp [rule])).symm.trans filled
  have supplied :=
    (Meaning.call_defaultIfEmpty _ _ env).symm.trans ((eval_rewritten_iff ok).1 returns)
  obtain ⟨rows, given, result⟩ := except_bind_eq_ok_iff.1 supplied
  obtain ⟨_, given, is⟩ := except_bind_eq_ok_iff.1 given
  obtain rfl := Value.rows_eq_ok_iff.1 is
  exact ⟨rows, _, given, built, present, (Except.ok.inj result).symm⟩

/-! ## Whole runs -/

/-- The normalizer turns a tree into another one. -/
def Normalizer.Turns (n : Normalizer) (tree tree' : Expr) : Prop :=
  ∃ changed, (n.run tree).outcome = .ok ⟨tree', changed⟩

theorem Normalizer.turns_iff {n : Normalizer} {tree tree' : Expr} :
    n.Turns tree tree' ↔
      Settled n.provider n.rules tree ∧ tree' = rewritten n.provider n.rules tree := by
  simp only [Turns, run, visit_eq_ok_iff, Visit.mk.injEq, exists_and_left, exists_eq, and_true]

/-- With a tree, its operands are turned into their rewritten trees. -/
theorem Normalizer.Turns.operands {n : Normalizer} {tree tree' : Expr} (turns : n.Turns tree tree') :
    List.Forall₂ n.Turns tree.operands
      (tree.operands.map (rewritten n.provider n.rules)) := by
  rw [List.forall₂_map_right_iff, List.forall₂_same]
  exact fun a ha => turns_iff.2 ⟨(settled_iff_operands.1 (turns_iff.1 turns).1).2 a ha, rfl⟩

/-- **Absence is eliminated.** Let the normalizer, with all rules and a registry as the provider,
turn a tree into one that evaluates to a value. If the tree is a `??` of a type with a default, and
its right operand is not the null literal, the value is not absent. If it is a `FirstOrDefault` over
an element type with a default, the value is absent only if the first row of the rewritten source
that passes the rewritten predicate is. If it is a `DefaultIfEmpty` over an element type with a
default, the value is a sequence of at least one row, and it is the default alone, which is not
absent, when the rewritten source has no rows. -/
theorem absence_eliminated (r : Registry) (counts : RuleCounts) {tree tree' : Expr}
    (turns : Normalizer.Turns { provider := r.provider, counts } tree tree') (env : Env)
    {value : Value} (returns : tree'.eval env = .ok value) :
    let n : Normalizer := { provider := r.provider, counts }
    (∀ left right ty, tree = .binary .coalesce left right ty → r.hasDefault ty = true →
      right.isNullLiteral = false → value ≠ .null) ∧
    (∀ typeArgs source predicate ty elem,
      tree = .call .firstOrDefault typeArgs (source :: Option.toList predicate) ty →
      Expr.elementTypeOf? typeArgs (source :: predicate.toList) = some elem →
      r.hasDefault elem = true → value = .null →
        ∃ source' predicate' rest,
          List.Forall₂ n.Turns (source :: predicate.toList) (source' :: Option.toList predicate') ∧
          Expr.matching source' predicate' env = .ok (.null :: rest)) ∧
    ∀ typeArgs source ty elem, tree = .call .defaultIfEmpty typeArgs [source] ty →
      Expr.elementTypeOf? typeArgs [source] = some elem → r.hasDefault elem = true →
        ∃ source' rows, n.Turns source source' ∧ value = .sequence rows ∧ rows ≠ [] ∧
          (source'.eval env = .ok (.sequence []) →
            ∃ default, r.constructDefault elem = .ok default ∧ default ≠ .null ∧
              rows = [default]) := by
  intro n
  have operands := turns.operands
  obtain ⟨ok, rfl⟩ := Normalizer.turns_iff.1 turns
  refine ⟨?_, ?_, ?_⟩
  · rintro left right ty rfl gate other
    exact present_of_coalesce ok gate other returns
  · rintro typeArgs source predicate ty elem rfl works gate rfl
    obtain ⟨kept, default, found, -, present, is⟩ :=
      eval_rewritten_firstOrDefault ok works gate returns
    cases kept with
    | nil => exact absurd is.symm present
    | cons row rest =>
      obtain rfl : Value.null = row := is
      rw [Expr.operands, List.map_cons, ← Option.toList_map] at operands
      exact ⟨_, _, rest, operands, found⟩
  · rintro typeArgs source ty elem rfl works gate
    obtain ⟨given, default, evaluates, built, present, rfl⟩ :=
      eval_rewritten_defaultIfEmpty ok works gate returns
    obtain ⟨turned, -⟩ := List.forall₂_cons.1 operands
    refine ⟨_, _, turned, rfl, ?_, fun empty => ?_⟩
    · cases given <;> simp
    · obtain rfl : given = [] := Value.sequence.inj (Except.ok.inj (evaluates.symm.trans empty))
      exact ⟨default, built, present, rfl⟩

/-- All three over a wrapper type. `DefaultIfEmpty` over no rows gives the empty wrapper alone, and
`FirstOrDefault` gives an absent row that comes first; the `??` of that row and an absent parameter
is the empty wrapper. -/
theorem absence_eliminated_wrappers :
    let r := Registry.standard.registerFamily "Maybe" [0, 1]
    let n : Normalizer := { provider := r.provider, counts := {} }
    let elem : Ty := .optional "Maybe" .int64
    let empty : Value := .wrapped "Maybe" (.int64 0)
    let source (name : String) : Expr := .plain (.source name) [] (.sequence elem)
    let fill : Expr := .call .defaultIfEmpty [] [source "none"] (.sequence elem)
    let first : Expr := .call .firstOrDefault [] [source "rows"] elem
    let close : Expr := .binary .coalesce first (.plain (.parameter "x") [] elem) elem
    let env := ((Env.bindSource {} "none" []).bindSource "rows" [.null, empty]).bindParam "x" .null
    (∃ filled, n.Turns fill filled ∧ filled.eval env = .ok (.sequence [empty]) ∧
      ∃ source' rows, n.Turns (source "none") source' ∧ .sequence [empty] = Value.sequence rows ∧
        rows ≠ [] ∧ (source'.eval env = .ok (.sequence []) →
          ∃ default, r.constructDefault elem = .ok default ∧ default ≠ .null ∧
            rows = [default])) ∧
    (∃ routed, n.Turns first routed ∧ routed.eval env = .ok .null ∧
      ∃ source' predicate' rest, List.Forall₂ n.Turns [source "rows"]
          (source' :: Option.toList predicate') ∧
        Expr.matching source' predicate' env = .ok (.null :: rest)) ∧
    ∃ closed, n.Turns close closed ∧ closed.eval env = .ok empty ∧ empty ≠ .null := by
  intro r n elem empty source fill first close env
  have filled : n.Turns fill (rewritten n.provider n.rules fill) := ⟨true, rfl⟩
  have routed : n.Turns first (rewritten n.provider n.rules first) := ⟨true, rfl⟩
  have closed : n.Turns close (rewritten n.provider n.rules close) := ⟨true, rfl⟩
  exact ⟨⟨_, filled, rfl, (absence_eliminated r {} filled env rfl).2.2 _ _ _ _ rfl rfl rfl⟩,
    ⟨_, routed, rfl, (absence_eliminated r {} routed env rfl).2.1 _ _ .none _ _ rfl rfl rfl rfl⟩,
    ⟨_, closed, rfl, (absence_eliminated r {} closed env rfl).1 _ _ _ rfl rfl rfl⟩⟩

end QueryDefaults
