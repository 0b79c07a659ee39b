import QueryDefaults.Normalizer
import QueryDefaults.Proofs.Tree.Fold

/-!
# Sites

A site is a node that a rule applies to: its shape is found, the rule is switched on, and the
governing type can be built without arguments. `Site` lists the cases, `Shape.site?` decides them
(`site?_eq_some_iff`). Of its operands a shape reads only how many there are, their static types and
whether they are constants or null literals, so exchanging operands for others that look like them
keeps it (`of?_withOperands`). `Alike` trees also hold the same value when they are constants.
-/

set_option autoImplicit false

namespace QueryDefaults

/-- The nodes that a rule applies to, each with its shape. -/
inductive Site (p : Provider) (rules : RuleSet) : Expr → Shape → Prop where
  /-- A one-argument `DefaultIfEmpty`. -/
  | empty {typeArgs : List Ty} {source : Expr} {ty elem : Ty}
      (on : rules.defaultIfEmpty = true) (works : Expr.elementTypeOf? typeArgs [source] = some elem)
      (gate : p.hasDefault elem = true) :
      Site p rules (.call .defaultIfEmpty typeArgs [source] ty) (.emptyFallback elem)
  /-- A `FirstOrDefault` over all rows. -/
  | first {typeArgs : List Ty} {source : Expr} {ty elem : Ty}
      (on : rules.firstOrDefault = true) (works : Expr.elementTypeOf? typeArgs [source] = some elem)
      (gate : p.hasDefault elem = true) :
      Site p rules (.call .firstOrDefault typeArgs [source] ty) (.firstFallback elem)
  /-- A `FirstOrDefault` over the rows that pass a predicate. -/
  | firstMatch {typeArgs : List Ty} {source predicate : Expr} {ty elem : Ty}
      (on : rules.firstOrDefault = true)
      (works : Expr.elementTypeOf? typeArgs [source, predicate] = some elem)
      (gate : p.hasDefault elem = true) :
      Site p rules (.call .firstOrDefault typeArgs [source, predicate] ty) (.firstFallback elem)
  /-- A `??` whose right operand is no constant. -/
  | coalesce {left right : Expr} {ty : Ty}
      (on : rules.coalesce = true) (dynamic : right.isConstant = false)
      (gate : p.hasDefault ty = true) :
      Site p rules (.binary .coalesce left right ty) (.openCoalesce ty)
  /-- A comparison of an optional wrapper with a null literal on its right. -/
  | nullRight {op : BinaryOp} {left right : Expr} {ty inner : Ty}
      (on : rules.optionalCompare = true) (compares : op = .equal ∨ op = .notEqual)
      (literal : right.isNullLiteral = true) (other : left.isNullLiteral = false)
      (wraps : p.innerOfOptional? left.staticType = some inner) (gate : p.hasDefault inner = true) :
      Site p rules (.binary op left right ty) (.nullComparison left.staticType inner)
  /-- A comparison of an optional wrapper with a null literal on its left. -/
  | nullLeft {op : BinaryOp} {left right : Expr} {ty inner : Ty}
      (on : rules.optionalCompare = true) (compares : op = .equal ∨ op = .notEqual)
      (literal : left.isNullLiteral = true) (other : right.isNullLiteral = false)
      (wraps : p.innerOfOptional? right.staticType = some inner)
      (gate : p.hasDefault inner = true) :
      Site p rules (.binary op left right ty) (.nullComparison right.staticType inner)

namespace Shape

/-- The shape of a node that a rule applies to. -/
def site? (p : Provider) (rules : RuleSet) (e : Expr) : Option Shape :=
  (find? p rules e).filter fun shape => p.hasDefault shape.governing

end Shape

open Shape

variable {p : Provider} {rules : RuleSet} {e : Expr} {shape : Shape}

theorem site?_eq_some (h : site? p rules e = some shape) :
    of? p e = some shape ∧ rules.has shape.rule = true ∧ p.hasDefault shape.governing = true := by
  simp only [site?, find?, Option.filter_eq_some_iff] at h
  exact ⟨h.1.1, h.1.2, h.2⟩

theorem Site.site?_eq (h : Site p rules e shape) : site? p rules e = some shape := by
  cases h with
  | empty on works gate | first on works gate | firstMatch on works gate =>
    simp [site?, find?, of?, works, RuleSet.has, rule, on, governing, gate]
  | coalesce on dynamic gate =>
    simp [site?, find?, of?, dynamic, RuleSet.has, rule, on, governing, gate]
  | nullRight on compares literal other wraps gate =>
    obtain rfl | rfl := compares <;>
    simp [site?, find?, of?, ofComparison?, literal, other, wraps, RuleSet.has, rule, on, governing,
      gate]
  | nullLeft on compares literal other wraps gate =>
    obtain rfl | rfl := compares <;>
    simp [site?, find?, of?, ofComparison?, literal, other, wraps, RuleSet.has, rule, on, governing,
      gate]

/-- The wrapper of a comparison that is a site was recognised as one. -/
theorem Site.wraps_inner {wrapper inner : Ty}
    (site : Site p rules e (.nullComparison wrapper inner)) :
    p.innerOfOptional? wrapper = some inner := by
  cases site with
  | nullRight _ _ _ _ wraps | nullLeft _ _ _ _ wraps => exact wraps

/-- The table has the overload of every call that takes the place of a site. -/
theorem Site.lookUp_eq (site : Site p rules e shape) : shape.lookUp e.operands.length = .ok () := by
  cases site <;> rfl

/-- A comparison with a shape has the null literal on one side only. -/
theorem ofComparison?_eq_some {left right : Expr} (h : ofComparison? p left right = some shape) :
    ∃ inner, (right.isNullLiteral = true ∧ left.isNullLiteral = false ∧
        p.innerOfOptional? left.staticType = some inner ∧
        shape = .nullComparison left.staticType inner) ∨
      (left.isNullLiteral = true ∧ right.isNullLiteral = false ∧
        p.innerOfOptional? right.staticType = some inner ∧
        shape = .nullComparison right.staticType inner) := by
  unfold ofComparison? at h
  split at h
  · cases h
  · rename_i differ
    obtain ⟨inner, wraps, rfl⟩ := Option.map_eq_some_iff.1 h
    refine ⟨inner, ?_⟩
    cases hl : left.isNullLiteral <;> cases hr : right.isNullLiteral <;> simp_all

theorem site_of_comparison {op : BinaryOp} {left right : Expr} {ty : Ty}
    (compares : op = .equal ∨ op = .notEqual) (found : ofComparison? p left right = some shape)
    (on : rules.has shape.rule = true) (gate : p.hasDefault shape.governing = true) :
    Site p rules (.binary op left right ty) shape := by
  obtain ⟨inner, ⟨hr, hl, wraps, rfl⟩ | ⟨hl, hr, wraps, rfl⟩⟩ := ofComparison?_eq_some found
  · exact .nullRight on compares hr hl wraps gate
  · exact .nullLeft on compares hl hr wraps gate

/-- The decision procedure finds exactly the sites. -/
theorem site?_eq_some_iff : site? p rules e = some shape ↔ Site p rules e shape := by
  refine ⟨fun h => ?_, Site.site?_eq⟩
  obtain ⟨found, on, gate⟩ := site?_eq_some h
  unfold of? at found
  split at found
  · obtain ⟨elem, works, rfl⟩ := Option.map_eq_some_iff.1 found
    exact .empty on works gate
  · obtain ⟨elem, works, rfl⟩ := Option.map_eq_some_iff.1 found
    exact .first on works gate
  · obtain ⟨elem, works, rfl⟩ := Option.map_eq_some_iff.1 found
    exact .firstMatch on works gate
  · split at found
    · cases found
    · cases found
      exact .coalesce on (by simp_all) gate
  · exact site_of_comparison (.inl rfl) found on gate
  · exact site_of_comparison (.inr rfl) found on gate
  · cases found

theorem site?_eq_none_iff : site? p rules e = none ↔ ∀ shape, ¬ Site p rules e shape := by
  rw [Option.eq_none_iff_forall_ne_some]
  exact forall_congr' fun shape => not_congr site?_eq_some_iff

/-- Two trees of one type that are the same constant, if one of them is a constant. -/
structure Expr.Alike (a b : Expr) : Prop where
  staticType : a.staticType = b.staticType
  constant : a.asConstant? = b.asConstant?

namespace Expr.Alike

variable {a b : Expr}

theorem trans {c : Expr} (h : Alike a b) (h' : Alike b c) : Alike a c :=
  ⟨h.staticType.trans h'.staticType, h.constant.trans h'.constant⟩

theorem isConstant (h : Alike a b) : a.isConstant = b.isConstant := by
  rw [Expr.isConstant, h.constant, Expr.isConstant]

theorem isNullLiteral (h : Alike a b) : a.isNullLiteral = b.isNullLiteral := by
  have same := h.constant
  cases a <;> cases b <;> simp_all [asConstant?, Expr.isNullLiteral]

/-- Only a constant is alike to a null literal. -/
theorem eq_constant (h : Alike a b) (literal : b.isNullLiteral = true) :
    ∃ value ty, a = .constant value ty := by
  have same := h.isNullLiteral.trans literal
  cases a with
  | constant value ty => exact ⟨value, ty, rfl⟩
  | call | binary | plain => cases same

end Expr.Alike

/-- Two trees that agree in all that shapes read of an operand. -/
structure Expr.LooksLike (a b : Expr) : Prop where
  staticType : a.staticType = b.staticType
  isConstant : a.isConstant = b.isConstant
  isNullLiteral : a.isNullLiteral = b.isNullLiteral

theorem Expr.Alike.looks {a b : Expr} (h : a.Alike b) : a.LooksLike b :=
  ⟨h.staticType, h.isConstant, h.isNullLiteral⟩

theorem elementTypeOf?_congr {as bs : List Expr} (looks : List.Forall₂ Expr.LooksLike as bs)
    (typeArgs : List Ty) : Expr.elementTypeOf? typeArgs as = Expr.elementTypeOf? typeArgs bs := by
  cases looks with
  | nil => rfl
  | cons first _ => simp [Expr.elementTypeOf?, first.staticType]

theorem ofComparison?_congr {left left' right right' : Expr} (hl : left'.LooksLike left)
    (hr : right'.LooksLike right) : ofComparison? p left' right' = ofComparison? p left right := by
  unfold ofComparison?
  rw [hl.isNullLiteral, hr.isNullLiteral, apply_ite Expr.staticType, apply_ite Expr.staticType,
    hl.staticType, hr.staticType]

/-- Exchanging the operands of a node for others that look like them keeps its shape. -/
theorem of?_withOperands {operands : List Expr}
    (looks : List.Forall₂ Expr.LooksLike operands e.operands) :
    of? p (e.withOperands operands) = of? p e := by
  cases e with
  | call op typeArgs args ty =>
    have works := elementTypeOf?_congr looks typeArgs
    cases op with
    | defaultIfEmpty =>
      obtain _ | ⟨_, _ | _⟩ := looks
      · rfl
      · exact congrArg (Option.map _) works
      · rfl
    | firstOrDefault =>
      obtain _ | ⟨_, _ | ⟨_, _ | _⟩⟩ := looks
      · rfl
      · exact congrArg (Option.map _) works
      · exact congrArg (Option.map _) works
      · rfl
    | _ => rfl
  | binary op left right ty =>
    obtain _ | ⟨hl, _ | ⟨hr, _ | _⟩⟩ := looks
    cases op with
    | coalesce => simp only [Expr.withOperands, of?, hr.isConstant]
    | equal | notEqual => exact ofComparison?_congr hl hr
    | _ => rfl
  | constant value ty =>
    obtain _ | _ := looks
    rfl
  | plain kind children ty => rfl

theorem site?_withOperands {f : Expr → Expr} (alike : ∀ a ∈ e.operands, (f a).Alike a) :
    site? p rules (e.withOperands (e.operands.map f)) = site? p rules e := by
  have looks : List.Forall₂ Expr.LooksLike (e.operands.map f) e.operands := by
    rw [List.forall₂_map_left_iff, List.forall₂_same]
    exact fun a ha => (alike a ha).looks
  rw [site?, find?, of?_withOperands looks, site?, find?]

end QueryDefaults
