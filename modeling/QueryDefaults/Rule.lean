/-!
# The four rules

Each rule makes one sort of implicit fallback explicit. A rule can be switched off, and how often
each one was applied is counted.
-/

set_option autoImplicit false

namespace QueryDefaults

/-- A rule of the default-value normalizer. -/
inductive Rule where
  /-- A one-argument `DefaultIfEmpty` gets its default as a second argument. -/
  | defaultIfEmpty
  /-- `FirstOrDefault` becomes `FirstOrFallback` with its default as last argument. -/
  | firstOrDefault
  /-- `left ?? right` becomes `(left ?? right) ?? default`. -/
  | coalesce
  /-- The null literal that an optional wrapper is compared with becomes the empty wrapper. -/
  | optionalCompare
deriving DecidableEq

/-- The name that a rule is logged under. -/
def Rule.name : Rule → String
  | .defaultIfEmpty => "DefaultIfEmpty"
  | .firstOrDefault => "FirstOrDefault"
  | .coalesce => "Coalesce"
  | .optionalCompare => "OptionalCompare"

/-- Which rules are switched on; all of them unless said otherwise. -/
structure RuleSet where
  defaultIfEmpty : Bool := true
  firstOrDefault : Bool := true
  coalesce : Bool := true
  optionalCompare : Bool := true
deriving DecidableEq

/-- Whether a rule is switched on. -/
def RuleSet.has (rules : RuleSet) : Rule → Bool
  | .defaultIfEmpty => rules.defaultIfEmpty
  | .firstOrDefault => rules.firstOrDefault
  | .coalesce => rules.coalesce
  | .optionalCompare => rules.optionalCompare

/-- How often each rule was applied. -/
structure RuleCounts where
  defaultIfEmpty : Nat := 0
  firstOrDefault : Nat := 0
  coalesce : Nat := 0
  optionalCompare : Nat := 0
deriving DecidableEq

namespace RuleCounts

/-- How often one rule was applied. -/
def of (counts : RuleCounts) : Rule → Nat
  | .defaultIfEmpty => counts.defaultIfEmpty
  | .firstOrDefault => counts.firstOrDefault
  | .coalesce => counts.coalesce
  | .optionalCompare => counts.optionalCompare

/-- One application of a rule. -/
def one : Rule → RuleCounts
  | .defaultIfEmpty => ⟨1, 0, 0, 0⟩
  | .firstOrDefault => ⟨0, 1, 0, 0⟩
  | .coalesce => ⟨0, 0, 1, 0⟩
  | .optionalCompare => ⟨0, 0, 0, 1⟩

/-- How often any rule was applied. -/
def total (counts : RuleCounts) : Nat :=
  counts.defaultIfEmpty + counts.firstOrDefault + counts.coalesce + counts.optionalCompare

instance : Zero RuleCounts := ⟨{}⟩

instance : Add RuleCounts where
  add a b :=
    ⟨a.defaultIfEmpty + b.defaultIfEmpty, a.firstOrDefault + b.firstOrDefault,
      a.coalesce + b.coalesce, a.optionalCompare + b.optionalCompare⟩

@[simp] theorem of_zero (rule : Rule) : (0 : RuleCounts).of rule = 0 := by cases rule <;> rfl

@[simp] theorem of_add (a b : RuleCounts) (rule : Rule) :
    (a + b).of rule = a.of rule + b.of rule := by
  cases rule <;> rfl

theorem of_one (rule other : Rule) : (one rule).of other = if rule = other then 1 else 0 := by
  cases rule <;> cases other <;> rfl

/-- Counts are equal when they agree on every rule. -/
theorem ext_of {a b : RuleCounts} (h : ∀ rule, a.of rule = b.of rule) : a = b := by
  obtain ⟨_, _, _, _⟩ := a
  obtain ⟨_, _, _, _⟩ := b
  simp only [mk.injEq]
  exact ⟨h .defaultIfEmpty, h .firstOrDefault, h .coalesce, h .optionalCompare⟩

end RuleCounts

end QueryDefaults
