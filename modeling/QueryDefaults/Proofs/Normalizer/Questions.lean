import QueryDefaults.Proofs.Normalizer.Rewritten
import QueryDefaults.Proofs.Pass.Parallel
import QueryDefaults.Registry.Default

/-!
# What a run asks its provider

The provider is asked at the nodes with a shape, and there about few types: what the operand beside
a null literal is a wrapper of, whether the governing type of the shape can be built without
arguments, and, only when it can, for its default and for the wrapper around this. Two providers
that give the same answers to these questions make runs that are the same in every respect
(`run_of_same_answers`). So it does not matter what a provider would build of a type that it reports
as not to be built, or what it says about other types.
-/

set_option autoImplicit false

namespace QueryDefaults

open Shape

/-- The comparisons with exactly one null literal, each with the type of the operand beside it. -/
inductive ComparesNull : Expr → Ty → Prop where
  | right {op : BinaryOp} {left right : Expr} {ty : Ty} (compares : op = .equal ∨ op = .notEqual)
      (literal : right.isNullLiteral = true) (other : left.isNullLiteral = false) :
      ComparesNull (.binary op left right ty) left.staticType
  | left {op : BinaryOp} {left right : Expr} {ty : Ty} (compares : op = .equal ∨ op = .notEqual)
      (literal : left.isNullLiteral = true) (other : right.isNullLiteral = false) :
      ComparesNull (.binary op left right ty) right.staticType

/-- Two providers give the same answers to all that a run asks about a node. -/
structure SameAnswers (p q : Provider) (rules : RuleSet) (node : Expr) : Prop where
  /-- What the operand beside a null literal is a wrapper of. -/
  inner : rules.optionalCompare = true → ∀ wrapper, ComparesNull node wrapper →
    p.innerOfOptional? wrapper = q.innerOfOptional? wrapper
  /-- Whether the governing type of a shape can be built without arguments. -/
  gate : ∀ shape, find? p rules node = some shape →
    p.hasDefault shape.governing = q.hasDefault shape.governing
  /-- The default of the governing type, where it can be built. -/
  default : ∀ shape, Site p rules node shape →
    p.constructDefault shape.governing = q.constructDefault shape.governing
  /-- The wrapper around that default. -/
  wrapper : ∀ wrapper inner value, Site p rules node (.nullComparison wrapper inner) →
    p.constructDefault inner = .ok value →
      p.constructWrapper wrapper value = q.constructWrapper wrapper value

variable {p q : Provider} {rules : RuleSet} {e : Expr} {shape : Shape}

/-- Of the provider, the shape of a comparison takes the inner type of the compared one only. -/
theorem ofComparison?_of_same {op : BinaryOp} (compares : op = .equal ∨ op = .notEqual)
    {left right : Expr} {ty : Ty}
    (inner : ∀ wrapper, ComparesNull (.binary op left right ty) wrapper →
      p.innerOfOptional? wrapper = q.innerOfOptional? wrapper) :
    ofComparison? p left right = ofComparison? q left right := by
  unfold ofComparison?
  cases hl : left.isNullLiteral <;> cases hr : right.isNullLiteral
  · rfl
  · simp [inner _ (.right compares hr hl)]
  · simp [inner _ (.left compares hl hr)]
  · rfl

/-- Only its own rule finds the shape of a comparison. -/
theorem filter_ofComparison?_of_off (off : rules.optionalCompare = false) (left right : Expr) :
    (ofComparison? p left right).filter (fun shape => rules.has shape.rule) = none := by
  rw [Option.filter_eq_none_iff]
  intro shape found
  obtain ⟨_, ⟨-, -, -, rfl⟩ | ⟨-, -, -, rfl⟩⟩ := ofComparison?_eq_some found <;>
  simp [rule, RuleSet.has, off]

theorem find?_of_same
    (inner : rules.optionalCompare = true → ∀ wrapper, ComparesNull e wrapper →
      p.innerOfOptional? wrapper = q.innerOfOptional? wrapper) :
    find? p rules e = find? q rules e := by
  have compared : ∀ {op left right ty}, e = .binary op left right ty →
      op = .equal ∨ op = .notEqual →
      (ofComparison? p left right).filter (fun shape => rules.has shape.rule) =
        (ofComparison? q left right).filter fun shape => rules.has shape.rule := by
    rintro op left right ty rfl compares
    cases on : rules.optionalCompare with
    | false => rw [filter_ofComparison?_of_off on, filter_ofComparison?_of_off on]
    | true => rw [ofComparison?_of_same compares (inner on)]
  unfold find? of?
  split
  case h_5 => exact compared rfl (.inl rfl)
  case h_6 => exact compared rfl (.inr rfl)
  all_goals rfl

/-- A shape is settled by the default and by the wrapper around it. -/
theorem settle_of_same (default : p.constructDefault shape.governing =
      q.constructDefault shape.governing)
    (wrapper : ∀ wrapper inner value, shape = .nullComparison wrapper inner →
      p.constructDefault inner = .ok value →
        p.constructWrapper wrapper value = q.constructWrapper wrapper value) :
    shape.settle p = shape.settle q := by
  have filler : shape.filler p = shape.filler q := by
    unfold filler
    rw [← default]
    cases built : p.constructDefault shape.governing with
    | error err => rfl
    | ok value =>
      cases shape with
      | nullComparison ty inner => exact wrapper ty inner value rfl built
      | _ => rfl
  rw [settle_eq, settle_eq, filler]

/-- Providers with the same answers decide the same at a node. -/
theorem SameAnswers.enter_eq (same : SameAnswers p q rules e) :
    (defaultValues p rules).enter e = (defaultValues q rules).enter e := by
  simp only [defaultValues, ← find?_of_same same.inner]
  cases found : find? p rules e with
  | none => rfl
  | some shape =>
    simp only [← same.gate shape found]
    cases gate : p.hasDefault shape.governing with
    | false => rfl
    | true =>
      have site : Site p rules e shape :=
        site?_eq_some_iff.1 (by rw [site?, found, Option.filter_some, if_pos gate])
      have settled : shape.settle p = shape.settle q :=
        settle_of_same (same.default shape site) fun wrapper inner value is =>
          same.wrapper wrapper inner value (is ▸ site)
      rw [settled]

/-- **Noninterference.** A run depends on the provider only through the answers that it asks for at
the nodes of the tree: with the same answers there, it ends with the same tree or the same error,
tells alike whether the tree is the one that went in, and counts and logs the same. -/
theorem run_of_same_answers (n m : Normalizer) (rules : n.rules = m.rules)
    (counts : n.counts = m.counts) (tree : Expr)
    (same : ∀ node ∈ tree.nodes, SameAnswers n.provider m.provider n.rules node) :
    n.run tree = m.run tree ∧ (n.after tree).counts = (m.after tree).counts := by
  have run : n.run tree = m.run tree := by
    unfold Normalizer.run
    rw [← rules]
    exact Pass.visit_congr (fun node here => (same node here).enter_eq) rfl
  refine ⟨run, ?_⟩
  unfold Normalizer.after
  rw [run, counts]

/-- A provider that takes every type for a wrapper of integers, and that builds an integer also of
the types that it reports as not to be built. On a skipped `FirstOrDefault` beside a comparison with
the null literal this makes no difference. -/
theorem run_of_same_answers_careless :
    let n : Normalizer := { provider := Registry.standard.provider }
    let m : Normalizer := { provider := {
      hasDefault := fun ty => ty = .int64
      constructDefault := fun _ => .ok (.int64 0)
      innerOfOptional? := fun _ => some .int64
      constructWrapper := fun _ value => .ok (.wrapped "Nullable" value) } }
    let maybe : Ty := .optional "Maybe" .int64
    let wrapper : Ty := .optional "Nullable" .int64
    let source : Expr := .plain (.source "rows") [] (.sequence maybe)
    let first : Expr := .call .firstOrDefault [] [source] maybe
    let param : Expr := .plain (.parameter "w") [] wrapper
    let isNull : Expr := .binary .equal param (.constant .null wrapper) .bool
    let tree : Expr := .plain .newArray [first, isNull] (.sequence .bool)
    (∀ node ∈ tree.nodes, SameAnswers n.provider m.provider n.rules node) ∧
      n.provider.innerOfOptional? maybe ≠ m.provider.innerOfOptional? maybe ∧
      n.provider.constructDefault maybe ≠ m.provider.constructDefault maybe ∧
      (n.run tree).log = [.skipped .firstOrDefault maybe, .replacedLiteral wrapper] ∧
      n.run tree = m.run tree ∧ (n.after tree).counts = (m.after tree).counts := by
  intro n m maybe wrapper source first param isNull tree
  have plain : ∀ kind children ty,
      SameAnswers n.provider m.provider n.rules (.plain kind children ty) := fun _ _ _ =>
    ⟨nofun, nofun, nofun, nofun⟩
  have literal : SameAnswers n.provider m.provider n.rules (.constant .null wrapper) :=
    ⟨nofun, nofun, nofun, nofun⟩
  have skipped :
      SameAnswers n.provider m.provider n.rules (.call .firstOrDefault [] [source] maybe) := by
    refine ⟨nofun, fun shape found => ?_, fun shape site => ?_, nofun⟩
    · obtain rfl : .firstFallback maybe = shape := Option.some.inj found
      rfl
    · cases site.site?_eq
  have compared : SameAnswers n.provider m.provider n.rules
      (.binary .equal param (.constant .null wrapper) .bool) := by
    have only : ∀ {shape}, find? n.provider n.rules
        (.binary .equal param (.constant .null wrapper) .bool) = some shape →
          .nullComparison wrapper .int64 = shape := Option.some.inj
    refine ⟨fun _ _ beside => ?_, fun shape found => ?_, fun shape site => ?_,
      fun ty inner value site built => ?_⟩
    · cases beside with
      | right => rfl
      | left _ literal => cases literal
    · obtain rfl := only found
      rfl
    · obtain rfl := only (Option.filter_eq_some_iff.1 site.site?_eq).1
      rfl
    · cases only (Option.filter_eq_some_iff.1 site.site?_eq).1
      cases built
      rfl
  have same : ∀ node ∈ tree.nodes, SameAnswers n.provider m.provider n.rules node := by
    have nodes : tree.nodes =
        [tree, first, source, isNull, param, .constant .null wrapper] := rfl
    rw [nodes]
    simp only [List.forall_mem_cons]
    exact ⟨plain _ _ _, skipped, plain _ _ _, compared, plain _ _ _, literal, nofun⟩
  refine ⟨same, fun h => ?_, fun h => ?_, rfl, run_of_same_answers n m rfl rfl tree same⟩
  · cases h
  · cases h

end QueryDefaults
