import QueryDefaults.Proofs.Normalizer.Failure

/-!
# Fusion of rule sets

Rules do not get into each other's way. What one rule emits is no site of another rule, and a node
that a rule leaves alone stays the site it was (`sites_rewritten`). So rewriting with one set of
rules and then with another one that shares no rule with it is rewriting with both sets at once
(`rewritten_fuse`).
-/

set_option autoImplicit false

namespace QueryDefaults

open Shape

/-! ## Rule sets -/

namespace RuleSet

/-- No rule is switched on. -/
def none : RuleSet := ⟨false, false, false, false⟩

/-- The rules of both sets. -/
def union (a b : RuleSet) : RuleSet :=
  ⟨a.defaultIfEmpty || b.defaultIfEmpty, a.firstOrDefault || b.firstOrDefault,
    a.coalesce || b.coalesce, a.optionalCompare || b.optionalCompare⟩

/-- No rule is switched on in both sets. -/
def Disjoint (a b : RuleSet) : Prop := ∀ rule, a.has rule = true → b.has rule = false

@[simp] theorem has_none (rule : Rule) : none.has rule = false := by cases rule <;> rfl

@[simp] theorem has_union (a b : RuleSet) (rule : Rule) :
    (a.union b).has rule = (a.has rule || b.has rule) := by
  cases rule <;> rfl

@[simp] theorem has_all (rule : Rule) : has {} rule = true := by cases rule <;> rfl

/-- Sets are equal when they agree on every rule. -/
theorem ext_has {a b : RuleSet} (h : ∀ rule, a.has rule = b.has rule) : a = b := by
  obtain ⟨_, _, _, _⟩ := a
  obtain ⟨_, _, _, _⟩ := b
  simp only [mk.injEq]
  exact ⟨h .defaultIfEmpty, h .firstOrDefault, h .coalesce, h .optionalCompare⟩

theorem Disjoint.symm {a b : RuleSet} (h : a.Disjoint b) : b.Disjoint a := by
  intro rule hb
  cases ha : a.has rule with
  | false => rfl
  | true => rw [h rule ha] at hb; cases hb

end RuleSet

variable {p : Provider} {rules one two : RuleSet} {e : Expr} {shape : Shape}

/-! ## Sites under several rule sets -/

/-- The sites for some rules are among the sites for all rules. -/
theorem site?_eq_filter (p : Provider) (rules : RuleSet) (e : Expr) :
    site? p rules e = (site? p {} e).filter fun shape => rules.has shape.rule := by
  unfold site? find?
  cases of? p e with
  | none => rfl
  | some shape =>
    rw [Option.filter_some, Option.filter_some, RuleSet.has_all, if_pos rfl]
    cases on : rules.has shape.rule <;> cases gate : p.hasDefault shape.governing <;>
      simp [Option.filter_some, on, gate]

theorem sites_eq_filter (p : Provider) (rules : RuleSet) (e : Expr) :
    e.sites p rules = (e.sites p {}).filter fun shape => rules.has shape.rule := by
  unfold Expr.sites
  rw [List.filter_filterMap]
  exact List.filterMap_congr fun node _ => site?_eq_filter p rules node

theorem Site.has (site : Site p rules e shape) : rules.has shape.rule = true :=
  (site?_eq_some site.site?_eq).2.1

/-- A site of one set is no site of a set that shares no rule with it. -/
theorem Site.site?_of_disjoint (site : Site p one e shape) (disjoint : one.Disjoint two) :
    site? p two e = none := by
  rw [site?_eq_none_iff]
  intro other site'
  have found := site?_eq_some site.site?_eq
  have found' := site?_eq_some site'.site?_eq
  obtain rfl : shape = other := Option.some.inj (found.1.symm.trans found'.1)
  have off := disjoint shape.rule site.has
  rw [site'.has] at off
  cases off

theorem site?_union_left (site : Site p one e shape) (two : RuleSet) :
    site? p (one.union two) e = some shape := by
  have all := site.site?_eq
  rw [site?_eq_filter, Option.filter_eq_some_iff] at all
  rw [site?_eq_filter, Option.filter_eq_some_iff]
  simp [all]

/-- Without a site of the first set, the sites of two sets are those of the second one. -/
theorem site?_union_right (h : site? p one e = none) :
    site? p (one.union two) e = site? p two e := by
  rw [site?_eq_filter] at h
  rw [site?_eq_filter, site?_eq_filter p two]
  cases found : site? p {} e with
  | none => rfl
  | some shape =>
    have off : one.has shape.rule = false := by simpa [found, Option.filter_some] using h
    simp [Option.filter_some, off]

/-- A rule that is on has the same sites whichever other rules are on. -/
theorem countP_sites_eq (p : Provider) (rules : RuleSet) (e : Expr) (rule : Rule) :
    (e.sites p rules).countP (fun shape => shape.rule = rule) =
      if rules.has rule then (e.sites p {}).countP fun shape => shape.rule = rule else 0 := by
  rw [sites_eq_filter, List.countP_filter]
  cases on : rules.has rule with
  | true =>
    refine List.countP_congr fun shape _ => ?_
    by_cases same : shape.rule = rule <;> simp [same, on]
  | false =>
    refine List.countP_eq_zero.2 fun shape _ => ?_
    by_cases same : shape.rule = rule <;> simp [same, on]

/-- Each rule has its sites in one of two disjoint sets. -/
theorem countP_sites_union (disjoint : one.Disjoint two) (rule : Rule) :
    (e.sites p (one.union two)).countP (fun shape => shape.rule = rule) =
      (e.sites p one).countP (fun shape => shape.rule = rule) +
        (e.sites p two).countP fun shape => shape.rule = rule := by
  rw [countP_sites_eq p (one.union two), countP_sites_eq p one, countP_sites_eq p two,
    RuleSet.has_union]
  cases ha : one.has rule with
  | true => simp [disjoint rule ha]
  | false => simp

theorem sites_union_isEmpty (p : Provider) (one two : RuleSet) (e : Expr) :
    (e.sites p (one.union two)).isEmpty = ((e.sites p one).isEmpty && (e.sites p two).isEmpty) := by
  rw [sites_eq_filter p (one.union two), sites_eq_filter p one, sites_eq_filter p two]
  simp only [RuleSet.has_union]
  induction e.sites p {} with
  | nil => rfl
  | cons shape shapes ih =>
    cases ha : one.has shape.rule <;> cases hb : two.has shape.rule <;>
      simp [ha, hb, ih]

theorem settled_union : Settled p (one.union two) e ↔ Settled p one e ∧ Settled p two e := by
  unfold Settled
  rw [sites_eq_filter p (one.union two), sites_eq_filter p one, sites_eq_filter p two]
  simp only [List.mem_filter, RuleSet.has_union, Bool.or_eq_true]
  constructor
  · intro h
    exact ⟨fun shape hs => h shape ⟨hs.1, .inl hs.2⟩, fun shape hs => h shape ⟨hs.1, .inr hs.2⟩⟩
  · rintro ⟨left, right⟩ shape ⟨hs, on | on⟩
    · exact left shape ⟨hs, on⟩
    · exact right shape ⟨hs, on⟩

/-! ## What a rule leaves to the others -/

theorem sites_constant (value : Value) (ty : Ty) :
    (Expr.constant value ty).sites p rules = [] := rfl

theorem site?_comparison_of_off {op : BinaryOp} (compares : op = .equal ∨ op = .notEqual)
    (off : rules.optionalCompare = false) (left right : Expr) (ty : Ty) :
    site? p rules (.binary op left right ty) = none := by
  rw [site?_eq_none_iff]
  intro shape site
  cases site with
  | coalesce => simp at compares
  | nullRight on | nullLeft on => simp [off] at on

theorem site?_coalesce_of_off (off : rules.coalesce = false) (left right : Expr) (ty : Ty) :
    site? p rules (.binary .coalesce left right ty) = none := by
  rw [site?_eq_none_iff]
  intro shape site
  cases site with
  | coalesce on => simp [off] at on
  | nullRight on compares | nullLeft on compares => simp at compares

/-- The emitted node of a rule is no site of other rules. -/
theorem Site.site?_emit (site : Site p one e shape) (off : two.has shape.rule = false)
    (value : Value) (ty : Ty) (f : Expr → Expr) :
    site? p two (shape.emit (.constant value ty) e (e.operands.map f)) = none := by
  cases site with
  | empty | first | firstMatch | coalesce => rfl
  | nullRight on compares | nullLeft on compares =>
    simp only [Expr.operands, List.map_cons, List.map_nil, emit_nullComparison]
    split <;> exact site?_comparison_of_off compares off _ _ _

/-- A `??` with a constant on its right is a site of no rule; only its left operand is rewritten. -/
theorem rewritten_coalesce_constant (left : Expr) (value : Value) (ty ty' : Ty) :
    rewritten p rules (.binary .coalesce left (.constant value ty') ty) =
      .binary .coalesce (rewritten p rules left) (.constant value ty') ty := rfl

theorem sites_coalesce_constant (left : Expr) (value : Value) (ty ty' : Ty) :
    (Expr.binary .coalesce left (.constant value ty') ty).sites p rules = left.sites p rules := by
  have rests : site? p rules (.binary .coalesce left (.constant value ty') ty) = none := rfl
  simp [Expr.sites_eq p rules (.binary _ _ _ _), rests, Expr.operands, sites_constant]

/-- An emitted node that is no site is rewritten by rewriting its operands, when the `??` inside an
emitted `??` is no site either. -/
theorem Site.rewritten_emit (site : Site p one e shape) {value : Value} {ty : Ty} {f : Expr → Expr}
    (rests : site? p two (shape.emit (.constant value ty) e (e.operands.map f)) = none)
    (closed : shape.rule = .coalesce → two.coalesce = false) :
    rewritten p two (shape.emit (.constant value ty) e (e.operands.map f)) =
      shape.emit (.constant value ty) e (e.operands.map fun a => rewritten p two (f a)) := by
  cases site with
  | empty | first | firstMatch => rfl
  | @coalesce left right ty' =>
    have inner := site?_coalesce_of_off (p := p) (closed rfl) (f left) (f right) ty'
    simp only [Expr.operands, List.map_cons, List.map_nil, emit_coalesce]
    rw [rewritten_coalesce_constant, rewritten_eq, rewriteNode_of_none inner]
    rfl
  | nullRight | nullLeft =>
    rw [rewritten_eq, rewriteNode_of_none rests]
    simp only [Expr.operands, List.map_cons, List.map_nil, emit_nullComparison]
    split <;> rfl

/-- The sites in such an emitted node are those in its operands; the literal that a comparison loses
has none. -/
theorem Site.sites_emit (site : Site p one e shape) {value : Value} {ty : Ty} {f : Expr → Expr}
    (rests : site? p two (shape.emit (.constant value ty) e (e.operands.map f)) = none)
    (closed : shape.rule = .coalesce → two.coalesce = false)
    (alike : ∀ a ∈ e.operands, (f a).Alike a) :
    (shape.emit (.constant value ty) e (e.operands.map f)).sites p two =
      e.operands.flatMap fun a => (f a).sites p two := by
  have literal_sites : ∀ a ∈ e.operands, a.isNullLiteral = true → (f a).sites p two = [] := by
    intro a ha literal
    obtain ⟨value, ty, same⟩ := (alike a ha).eq_constant literal
    rw [same, sites_constant]
  cases site with
  | empty | first | firstMatch =>
    rw [Expr.sites_eq, rests]
    simp [Expr.operands, sites_constant]
  | @coalesce left right ty' =>
    have inner := site?_coalesce_of_off (p := p) (closed rfl) (f left) (f right) ty'
    simp only [Expr.operands, List.map_cons, List.map_nil, emit_coalesce]
    rw [sites_coalesce_constant, Expr.sites_eq, inner]
    simp [Expr.operands]
  | nullRight on compares literal other =>
    have gone := literal_sites _ (by simp [Expr.operands]) literal
    rw [Expr.sites_eq, rests]
    simp [Expr.operands, other, sites_constant, gone]
  | nullLeft on compares literal =>
    have gone := literal_sites _ (by simp [Expr.operands]) literal
    rw [Expr.sites_eq, rests]
    simp [Expr.operands, literal, sites_constant, gone]

/-- Exchanging the operands of a site for alike ones keeps what it emits. -/
theorem Site.emit_withOperands (site : Site p rules e shape) (settled : Expr) {f : Expr → Expr}
    (alike : ∀ a ∈ e.operands, (f a).Alike a) (g : Expr → Expr) :
    shape.emit settled (e.withOperands (e.operands.map f)) (e.operands.map g) =
      shape.emit settled e (e.operands.map g) := by
  cases site with
  | empty | first | firstMatch | coalesce => rfl
  | @nullRight op left | @nullLeft op left =>
    have same := (alike left (by simp [Expr.operands])).isNullLiteral
    simp [Expr.operands, Expr.withOperands, same]

/-- What takes the place of a node does not depend on its operands as they are written, up to
alikeness. -/
theorem rewriteNode_withOperands (p : Provider) (rules : RuleSet) {e : Expr} {f : Expr → Expr}
    (alike : ∀ a ∈ e.operands, (f a).Alike a) (g : Expr → Expr) :
    rewriteNode p rules (e.withOperands (e.operands.map f)) (e.operands.map g) =
      rewriteNode p rules e (e.operands.map g) := by
  unfold rewriteNode
  rw [site?_withOperands alike]
  cases found : site? p rules e with
  | none => exact e.withOperands_withOperands f g
  | some shape =>
    cases ok : shape.settle p with
    | error err =>
      simp only [ok]
      exact e.withOperands_withOperands f g
    | ok settled =>
      simp only [ok]
      exact (site?_eq_some_iff.1 found).emit_withOperands settled alike g

/-- What takes the place of a node does not depend on whether its operands were rewritten before. -/
theorem rewriteNode_rebuilt (p : Provider) (one two : RuleSet) (e : Expr) (g : Expr → Expr) :
    rewriteNode p two (e.withOperands (e.operands.map (rewritten p one))) (e.operands.map g) =
      rewriteNode p two e (e.operands.map g) :=
  rewriteNode_withOperands p two (fun a _ => alike_rewritten p one a) g

theorem rewritten_rebuilt (p : Provider) (one two : RuleSet) (e : Expr) :
    rewritten p two (e.withOperands (e.operands.map (rewritten p one))) =
      rewriteNode p two e (e.operands.map fun a => rewritten p two (rewritten p one a)) := by
  rw [rewritten_eq, Expr.operands_withOperands, List.map_map]
  exact rewriteNode_rebuilt p one two e _

/-- A node rebuilt over rewritten operands has its own site and those below the operands. -/
theorem sites_rebuilt (p : Provider) (one two : RuleSet) (e : Expr) :
    (e.withOperands (e.operands.map (rewritten p one))).sites p two =
      (site? p two e).toList ++ e.operands.flatMap fun a => (rewritten p one a).sites p two := by
  rw [Expr.sites_eq, site?_rebuilt, Expr.operands_withOperands, List.flatMap_map]

theorem RuleSet.coalesce_of_off (off : two.has shape.rule = false) :
    shape.rule = .coalesce → two.coalesce = false := fun is => by
  rw [is] at off
  exact off

/-- The rules of one set leave the sites of a disjoint set as they are. -/
theorem sites_rewritten (disjoint : one.Disjoint two) (e : Expr) :
    (rewritten p one e).sites p two = e.sites p two := by
  induction e using Expr.induction_operands with
  | step e ih =>
    have below : e.operands.flatMap (fun a => (rewritten p one a).sites p two) =
        e.operands.flatMap (Expr.sites p two) := List.flatMap_congr ih
    rw [rewritten_eq, Expr.sites_eq p two e]
    obtain same | ⟨shape, settled, site, ok, same⟩ :=
      rewriteNode_cases p one e (e.operands.map (rewritten p one)) <;> rw [same]
    · rw [sites_rebuilt, below]
    · obtain ⟨value, -, rfl⟩ := settle_eq_ok.1 ok
      have off := disjoint _ site.has
      rw [site.sites_emit (site.site?_emit off value _ _) (RuleSet.coalesce_of_off off)
        fun a _ => alike_rewritten p one a, below, site.site?_of_disjoint disjoint]
      rfl

theorem settled_rewritten (disjoint : one.Disjoint two) (e : Expr) :
    Settled p two (rewritten p one e) ↔ Settled p two e := by
  unfold Settled
  rw [sites_rewritten disjoint]

/-- Rewriting with one set of rules and then with a disjoint one is rewriting with both. -/
theorem rewritten_fuse (disjoint : one.Disjoint two) (e : Expr) :
    rewritten p two (rewritten p one e) = rewritten p (one.union two) e := by
  induction e using Expr.induction_operands with
  | step e ih =>
    have below : e.operands.map (fun a => rewritten p two (rewritten p one a)) =
        e.operands.map (rewritten p (one.union two)) := List.map_congr_left ih
    rw [rewritten_eq p one, rewritten_eq p (one.union two), ← below]
    cases found : site? p one e with
    | none =>
      rw [rewriteNode_of_none found, rewritten_rebuilt]
      simp only [rewriteNode, site?_union_right found]
    | some shape =>
      have site := site?_eq_some_iff.1 found
      have both := site?_eq_some_iff.1 (site?_union_left site two)
      cases ok : shape.settle p with
      | ok settled =>
        obtain ⟨value, -, rfl⟩ := settle_eq_ok.1 ok
        have off := disjoint _ site.has
        rw [rewriteNode_of_site site ok, rewriteNode_of_site both ok,
          site.rewritten_emit (site.site?_emit off value _ _) (RuleSet.coalesce_of_off off)]
      | error err =>
        -- A site that cannot be settled is rebuilt, and the second set has no site there.
        have stays : ∀ operands, rewriteNode p one e operands = e.withOperands operands := by
          simp [rewriteNode, found, ok]
        rw [stays, rewritten_rebuilt, rewriteNode_of_none (site.site?_of_disjoint disjoint)]
        simp [rewriteNode, both.site?_eq, ok]

end QueryDefaults
