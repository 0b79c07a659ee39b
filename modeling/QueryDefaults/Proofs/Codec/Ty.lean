import QueryDefaults.Codec.Ty
import QueryDefaults.Proofs.Codec.Layout

/-!
# Types are read back

A type is read back from its written form within a budget of levels when this form nests no deeper
(`ofJson?_toJson`), and so from its text when it nests at most `maxDepth` levels.
-/

set_option autoImplicit false

namespace QueryDefaults.Ty

open Json

/-! ## Reading one type -/

theorem ofJson?_optional (budget : Nat) (family : String) (inner : Json) :
    ofJson? (budget + 2) (variantParts "Optional" [("wrapper", ofText family), ("inner", inner)]) =
      (ofJson? budget inner).map (optional family) := by
  rw [Option.map_eq_bind]
  rfl

theorem ofJson?_sequence (budget : Nat) (elem : Json) :
    ofJson? (budget + 1) (variant "Sequence" elem) = (ofJson? budget elem).map sequence := rfl

theorem ofJson?_function (budget : Nat) (params : List Json) (result : Json) :
    ofJson? (budget + 3)
        (variantParts "Function" [("params", .array params), ("ret", result)]) =
      (params.mapM (ofJson? budget)).bind fun params =>
        (ofJson? (budget + 1) result).bind fun result => some (function params result) := rfl

/-! ## Every type -/

mutual

theorem ofJson?_toJson : ∀ (ty : Ty) (budget : Nat),
    ofJson? budget ty.toJson = if ty.toJson.depth ≤ budget then some ty else none
  | .bool, budget | .int64, budget | .float64, budget | .utf8, budget => by
    simp [toJson, ofJson?, ofText, unitTag?, ofTag?, depth]
  | .record name, budget => by
    have nests : (record name).toJson.depth = 1 := by simp [toJson]
    rw [nests]
    match budget with
    | 0 => rfl
    | budget + 1 => simp [toJson, ofJson?, variant, ofText, text?]
  | .optional family inner, budget => by
    have nests : (optional family inner).toJson.depth = 2 + inner.toJson.depth := by
      simp [toJson, depthAll]
    rw [nests]
    match budget with
    | 0 | 1 =>
      rw [if_neg (by omega)]
      rfl
    | budget + 2 =>
      rw [toJson, ofJson?_optional, ofJson?_toJson inner budget, map_guarded]
      exact if_congr (by omega) rfl rfl
  | .sequence elem, budget => by
    have nests : (sequence elem).toJson.depth = 1 + elem.toJson.depth := by simp [toJson]
    rw [nests]
    match budget with
    | 0 =>
      rw [if_neg (by omega)]
      simp [toJson, ofJson?, variant, unitTag?]
    | budget + 1 =>
      rw [toJson, ofJson?_sequence, ofJson?_toJson elem budget, map_guarded]
      exact if_congr (by omega) rfl rfl
  | .function params result, budget => by
    have nests : (function params result).toJson.depth =
        2 + max (1 + depthAll (toJsonAll params)) result.toJson.depth := by
      simp [toJson, depthAll]
    rw [nests]
    match budget with
    | 0 | 1 | 2 =>
      rw [if_neg (by omega)]
      rfl
    | budget + 3 =>
      rw [toJson, ofJson?_function, ofJson?_toJsonAll params budget,
        ofJson?_toJson result (budget + 1)]
      simp only [bind_guarded, ← ite_and]
      exact if_congr (by omega) rfl rfl

theorem ofJson?_toJsonAll : ∀ (tys : List Ty) (budget : Nat),
    (toJsonAll tys).mapM (ofJson? budget) =
      if depthAll (toJsonAll tys) ≤ budget then some tys else none
  | [], budget => by simp [toJsonAll, depthAll]
  | ty :: tys, budget => by
    rw [toJsonAll, mapM_cons_guarded (ofJson?_toJson ty budget) (ofJson?_toJsonAll tys budget)]
    refine if_congr ?_ rfl rfl
    rw [depthAll, Nat.max_le]

end

mutual

theorem printable_toJson : ∀ ty : Ty, ty.toJson.Printable
  | .bool | .int64 | .float64 | .utf8 => printable_ofText _
  | .record _ => by simp [toJson]
  | .optional _ inner => by simp [toJson, PrintableAll, printable_toJson inner]
  | .sequence elem => by simp [toJson, printable_toJson elem]
  | .function params result => by
    simp [toJson, PrintableAll, printable_toJsonAll params, printable_toJson result]

theorem printable_toJsonAll : ∀ tys : List Ty, PrintableAll (toJsonAll tys)
  | [] => trivial
  | ty :: tys => ⟨printable_toJson ty, printable_toJsonAll tys⟩

end

/-- A type is read back from its text, unless it nests too deep to be read. -/
theorem decode?_encode (ty : Ty) :
    decode? ty.encode = if ty.toJson.depth ≤ maxDepth then some ty else none := by
  rw [decode?, encode, parse?_render (printable_toJson ty)]
  exact ofJson?_toJson ty maxDepth

end QueryDefaults.Ty
