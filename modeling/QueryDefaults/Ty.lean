/-!
# Static types

Every node of a query carries the type of what it evaluates to. Records and wrapper families are
named only; their shapes live in a registry.
-/

set_option autoImplicit false

namespace QueryDefaults

/-- A static type. -/
inductive Ty where
  | bool
  | int64
  | float64
  | utf8
  /-- A record type by its name. -/
  | record (name : String)
  /-- The optional wrapper of a family around an inner type. -/
  | optional (family : String) (inner : Ty)
  | sequence (elem : Ty)
  /-- The type of a predicate or selector. -/
  | function (params : List Ty) (result : Ty)
deriving Inhabited

namespace Ty

mutual

/-- Whether two types are the same. -/
def same : Ty → Ty → Bool
  | .bool, .bool | .int64, .int64 | .float64, .float64 | .utf8, .utf8 => true
  | .record a, .record b => a == b
  | .optional f a, .optional g b => f == g && same a b
  | .sequence a, .sequence b => same a b
  | .function ps a, .function qs b => sameAll ps qs && same a b
  | _, _ => false

/-- Whether two lists of types are the same. -/
def sameAll : List Ty → List Ty → Bool
  | [], [] => true
  | a :: as, b :: bs => same a b && sameAll as bs
  | _, _ => false

end

mutual

theorem same_self : ∀ a : Ty, same a a = true
  | .bool | .int64 | .float64 | .utf8 => rfl
  | .record _ => by simp [same]
  | .optional _ a => by simp [same, same_self a]
  | .sequence a => by simp [same, same_self a]
  | .function ps a => by simp [same, sameAll_self ps, same_self a]

theorem sameAll_self : ∀ as : List Ty, sameAll as as = true
  | [] => rfl
  | a :: as => by simp [sameAll, same_self a, sameAll_self as]

end

mutual

theorem eq_of_same : ∀ {a b : Ty}, same a b = true → a = b
  | .bool, b, h | .int64, b, h | .float64, b, h | .utf8, b, h => by cases b <;> simp_all [same]
  | .record _, b, h => by cases b <;> simp_all [same]
  | .optional _ a, b, h => by
    cases b <;> simp_all [same]
    exact eq_of_same h.2
  | .sequence a, b, h => by
    cases b <;> simp_all [same]
    exact eq_of_same h
  | .function ps a, b, h => by
    cases b <;> simp_all [same]
    exact ⟨eq_of_sameAll h.1, eq_of_same h.2⟩

theorem eq_of_sameAll : ∀ {as bs : List Ty}, sameAll as bs = true → as = bs
  | [], bs, h => by cases bs <;> simp_all [sameAll]
  | a :: as, bs, h => by
    cases bs <;> simp_all [sameAll]
    exact ⟨eq_of_same h.1, eq_of_sameAll h.2⟩

end

instance : DecidableEq Ty := fun a b =>
  decidable_of_iff (same a b = true) ⟨eq_of_same, fun h => h ▸ same_self a⟩

/-- The element type of a sequence type. -/
def elementType? : Ty → Option Ty
  | .sequence elem => some elem
  | _ => none

mutual

/-- The shown form of a type. -/
def display : Ty → String
  | .bool => "bool"
  | .int64 => "i64"
  | .float64 => "f64"
  | .utf8 => "string"
  | .record name => name
  | .optional family inner => family ++ "<" ++ inner.display ++ ">"
  | .sequence elem => "Seq<" ++ elem.display ++ ">"
  | .function params result =>
    "fn(" ++ ", ".intercalate (displayAll params) ++ ") -> " ++ result.display

/-- The shown forms of several types. -/
def displayAll : List Ty → List String
  | [] => []
  | ty :: tys => ty.display :: displayAll tys

end

theorem displayAll_eq_map (tys : List Ty) : displayAll tys = tys.map display := by
  induction tys with
  | nil => rfl
  | cons ty tys ih => simp [displayAll, ih]

end Ty

end QueryDefaults
