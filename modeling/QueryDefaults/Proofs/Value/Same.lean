import QueryDefaults.Value
import Mathlib.Data.List.Forall2

/-!
# Equality of values

Equality of values is structural, down to the floats: a NaN is equal to every NaN, and the two zeros
are equal. So equal values have one form and differ in the bits of floats only (`same_iff`), and
equality is an equivalence relation that their fields, their rows and every comparison keep.
-/

set_option autoImplicit false

namespace QueryDefaults

theorem Binary64.same_self (x : Binary64) : same x x = true := by
  simp [same]

theorem Binary64.same_comm (x y : Binary64) : same x y = same y x := by
  simp only [same, Bool.beq_comm (a := x.bits), Bool.and_comm (x := x.magnitude == 0),
    Bool.and_comm (x := x.isNaN)]

/-- Floats are equal when they are one float, both NaNs or both zeros. -/
theorem Binary64.same_iff {x y : Binary64} :
    same x y = true ↔
      x = y ∨ x.isNaN = true ∧ y.isNaN = true ∨ x.magnitude = 0 ∧ y.magnitude = 0 := by
  obtain ⟨bits⟩ := x
  obtain ⟨bits'⟩ := y
  simp only [same, Bool.or_eq_true, Bool.and_eq_true, beq_iff_eq, or_assoc, mk.injEq]
  exact or_congr_right or_comm

theorem Binary64.same_trans {x y z : Binary64} (h : same x y = true) (h' : same y z = true) :
    same x z = true := by
  rw [same_iff] at h h' ⊢
  -- Two links of different sorts would make the middle a zero that is no number.
  have number : y.magnitude = 0 → ¬ y.isNaN = true := fun zero => by simp [isNaN, zero]
  obtain rfl | nans | zeros := h
  · exact h'
  · obtain rfl | nans' | zeros' := h'
    · exact .inr (.inl nans)
    · exact .inr (.inl ⟨nans.1, nans'.2⟩)
    · exact (number zeros'.1 nans.2).elim
  · obtain rfl | nans' | zeros' := h'
    · exact .inr (.inr zeros)
    · exact (number zeros.2 nans'.1).elim
    · exact .inr (.inr ⟨zeros.1, zeros'.2⟩)

namespace Value

mutual

theorem same_self : ∀ v : Value, same v v = true
  | .null => rfl
  | .bool b => by simp [same]
  | .int64 n => by simp [same]
  | .float64 x => by simp [same, Binary64.beq_def, Binary64.same_self]
  | .utf8 text => by simp [same]
  | .record name fields => by simp [same, sameFields_self fields]
  | .wrapped family payload => by simp [same, same_self payload]
  | .sequence items => by simp [same, sameAll_self items]

theorem sameFields_self : ∀ fields : List (String × Value), sameFields fields fields = true
  | [] => rfl
  | (name, v) :: fields => by simp [sameFields, same_self v, sameFields_self fields]

theorem sameAll_self : ∀ vs : List Value, sameAll vs vs = true
  | [] => rfl
  | v :: vs => by simp [sameAll, same_self v, sameAll_self vs]

end

mutual

theorem same_comm : ∀ a b : Value, same a b = same b a
  | .null, b => by cases b <;> rfl
  | .bool _, b => by cases b <;> simp [same, Bool.beq_comm]
  | .int64 _, b => by cases b <;> simp [same, Bool.beq_comm]
  | .float64 x, b => by cases b <;> simp [same, Binary64.beq_def, Binary64.same_comm x]
  | .utf8 _, b => by cases b <;> simp [same, Bool.beq_comm]
  | .record m as, b => by cases b <;> simp [same, sameFields_comm as, Bool.beq_comm (a := m)]
  | .wrapped f a, b => by cases b <;> simp [same, same_comm a, Bool.beq_comm (a := f)]
  | .sequence as, b => by cases b <;> simp [same, sameAll_comm as]

theorem sameFields_comm : ∀ as bs : List (String × Value), sameFields as bs = sameFields bs as
  | [], bs => by cases bs <;> rfl
  | (m, a) :: as, bs => by
    cases bs <;> simp [sameFields, same_comm a, sameFields_comm as, Bool.beq_comm (a := m)]

theorem sameAll_comm : ∀ as bs : List Value, sameAll as bs = sameAll bs as
  | [], bs => by cases bs <;> rfl
  | a :: as, bs => by cases bs <;> simp [sameAll, same_comm a, sameAll_comm as]

end

mutual

theorem same_trans : ∀ {a b c : Value}, same a b = true → same b c = true → same a c = true
  | .null, b, c, h, h' => by
    cases b <;> simp only [same, Bool.false_eq_true] at h
    exact h'
  | .bool _, b, c, h, h' | .int64 _, b, c, h, h' | .utf8 _, b, c, h, h' => by
    cases b <;> simp only [same, beq_iff_eq, Bool.false_eq_true] at h
    rwa [h]
  | .float64 _, b, c, h, h' => by
    cases b <;> simp only [same, Bool.false_eq_true] at h
    cases c <;> simp only [same, Bool.false_eq_true] at h' ⊢
    exact Binary64.same_trans h h'
  | .record _ as, b, c, h, h' => by
    cases b <;> simp only [same, Bool.and_eq_true, beq_iff_eq, Bool.false_eq_true] at h
    cases c <;> simp only [same, Bool.and_eq_true, beq_iff_eq, Bool.false_eq_true] at h' ⊢
    exact ⟨h.1.trans h'.1, sameFields_trans h.2 h'.2⟩
  | .wrapped _ a, b, c, h, h' => by
    cases b <;> simp only [same, Bool.and_eq_true, beq_iff_eq, Bool.false_eq_true] at h
    cases c <;> simp only [same, Bool.and_eq_true, beq_iff_eq, Bool.false_eq_true] at h' ⊢
    exact ⟨h.1.trans h'.1, same_trans h.2 h'.2⟩
  | .sequence as, b, c, h, h' => by
    cases b <;> simp only [same, Bool.false_eq_true] at h
    cases c <;> simp only [same, Bool.false_eq_true] at h' ⊢
    exact sameAll_trans h h'

theorem sameFields_trans : ∀ {as bs cs : List (String × Value)},
    sameFields as bs = true → sameFields bs cs = true → sameFields as cs = true
  | [], bs, cs, h, h' => by cases bs <;> simp_all [sameFields]
  | (_, a) :: as, bs, cs, h, h' => by
    cases bs <;> cases cs <;>
      simp only [sameFields, Bool.and_eq_true, beq_iff_eq, Bool.false_eq_true] at h h' ⊢
    exact ⟨⟨h.1.1.trans h'.1.1, same_trans h.1.2 h'.1.2⟩, sameFields_trans h.2 h'.2⟩

theorem sameAll_trans : ∀ {as bs cs : List Value},
    sameAll as bs = true → sameAll bs cs = true → sameAll as cs = true
  | [], bs, cs, h, h' => by cases bs <;> simp_all [sameAll]
  | a :: as, bs, cs, h, h' => by
    cases bs <;> cases cs <;> simp only [sameAll, Bool.and_eq_true, Bool.false_eq_true] at h h' ⊢
    exact ⟨same_trans h.1 h'.1, sameAll_trans h.2 h'.2⟩

end

/-- Equal values compare alike. -/
theorem same_congr {a a' b b' : Value} (ha : same a a' = true) (hb : same b b' = true) :
    same a b = same a' b' := by
  rw [Bool.eq_iff_iff]
  constructor
  · intro h
    rw [same_comm] at ha
    exact same_trans (same_trans ha h) hb
  · intro h
    rw [same_comm] at hb
    exact same_trans (same_trans ha h) hb

/-- Only the absent value is equal to the absent value. -/
theorem same_null (v : Value) : same v .null = v.isNull := by
  cases v <;> rfl

/-- Field lists are equal when they have the same names and equal values, place by place. -/
theorem sameFields_iff {as bs : List (String × Value)} :
    sameFields as bs = true ↔
      List.Forall₂ (fun a b => a.1 = b.1 ∧ same a.2 b.2 = true) as bs := by
  induction as generalizing bs with
  | nil => cases bs <;> simp [sameFields]
  | cons a as ih =>
    obtain ⟨m, v⟩ := a
    cases bs with
    | nil => simp [sameFields]
    | cons b bs => simp [sameFields, ih]

/-- Lists of values are equal when their values are, place by place. -/
theorem sameAll_iff {as bs : List Value} :
    sameAll as bs = true ↔ List.Forall₂ (fun a b => same a b = true) as bs := by
  induction as generalizing bs with
  | nil => cases bs <;> simp [sameAll]
  | cons a as ih => cases bs <;> simp [sameAll, ih]

/-- Two values of one form, with equal parts. -/
inductive SameForm : Value → Value → Prop where
  | null : SameForm .null .null
  | bool (b : Bool) : SameForm (.bool b) (.bool b)
  | int64 (n : Int64) : SameForm (.int64 n) (.int64 n)
  | float64 {x y : Binary64} (number : Binary64.same x y = true) :
      SameForm (.float64 x) (.float64 y)
  | utf8 (text : String) : SameForm (.utf8 text) (.utf8 text)
  | record (name : String) {as bs : List (String × Value)}
      (fields : List.Forall₂ (fun a b => a.1 = b.1 ∧ same a.2 b.2 = true) as bs) :
      SameForm (.record name as) (.record name bs)
  | wrapped (family : String) {a b : Value} (payload : same a b = true) :
      SameForm (.wrapped family a) (.wrapped family b)
  | sequence {as bs : List Value} (items : List.Forall₂ (fun a b => same a b = true) as bs) :
      SameForm (.sequence as) (.sequence bs)

/-- Values are equal when they have one form and equal parts. -/
theorem same_iff {a b : Value} : same a b = true ↔ SameForm a b := by
  constructor
  · intro h
    cases a <;> cases b <;> simp only [same, Bool.and_eq_true, beq_iff_eq, Bool.false_eq_true] at h
    case null.null => exact .null
    case bool.bool => exact h ▸ .bool _
    case int64.int64 => exact h ▸ .int64 _
    case float64.float64 => exact .float64 h
    case utf8.utf8 => exact h ▸ .utf8 _
    case record.record => exact h.1 ▸ .record _ (sameFields_iff.1 h.2)
    case wrapped.wrapped => exact h.1 ▸ .wrapped _ h.2
    case sequence.sequence => exact .sequence (sameAll_iff.1 h)
  · intro h
    cases h with
    | null | bool | int64 | utf8 => exact same_self _
    | float64 number => exact number
    | record name fields => simp [same, sameFields_iff, fields]
    | wrapped family payload => simp [same, payload]
    | sequence items => exact sameAll_iff.2 items

theorem isTrue_of_same {a b : Value} (h : same a b = true) : a.isTrue = b.isTrue := by
  cases same_iff.1 h <;> rfl

/-- Equal records have equal fields. -/
theorem field?_of_same {a b : Value} (h : same a b = true) (name : String) :
    Option.Rel (fun v w => same v w = true) (a.field? name) (b.field? name) := by
  cases same_iff.1 h with
  | record _ fields =>
    clear h
    induction fields with
    | nil => exact .none
    | @cons f g _ _ first _ ih =>
      simp only [field?, List.find?_cons, first.1]
      cases g.1 == name with
      | true => exact .some first.2
      | false => exact ih
  | _ => exact .none

end Value

end QueryDefaults
