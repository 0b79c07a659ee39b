import QueryDefaults.Codec.Value
import QueryDefaults.Proofs.Codec.Layout

/-!
# Values are read back

A value whose floats are finite is read back from its written form within a budget of levels when
this form nests no deeper; a value that holds a float that is not finite is read back as nothing
(`ofJson?_toJson`). Of the way in which floats are read, only correct rounding is used.
-/

set_option autoImplicit false

namespace QueryDefaults.Value

open Json

mutual

/-- Whether every float of a value is finite. -/
def isFinite : Value → Bool
  | .null | .bool _ | .int64 _ | .utf8 _ => true
  | .float64 x => x.isFinite
  | .record _ fields => finiteFields fields
  | .wrapped _ payload => payload.isFinite
  | .sequence items => finiteAll items

/-- Whether every float of the fields of a record is finite. -/
def finiteFields : List (String × Value) → Bool
  | [] => true
  | (_, v) :: fields => v.isFinite && finiteFields fields

/-- Whether every float of several values is finite. -/
def finiteAll : List Value → Bool
  | [] => true
  | v :: vs => v.isFinite && finiteAll vs

end

/-! ## Reading one value -/

variable {float? : Numeral → Option Binary64}

/-- A variant that nests nothing takes one level. -/
theorem ofJson?_scalar {tag : String} (scalar : tag ∈ ["Bool", "Int64", "Float64", "Utf8"])
    (content : Json) (budget : Nat) :
    ofJson? float? budget (variant tag content) =
      if 1 ≤ budget then ofScalar? float? tag content else none := by
  simp only [List.mem_cons, List.not_mem_nil, or_false] at scalar
  cases budget with
  | zero => rfl
  | succ budget =>
    rw [if_pos (Nat.le_add_left 1 budget)]
    obtain rfl | rfl | rfl | rfl := scalar <;> simp [variant, ofJson?]

theorem ofJson?_sequence (budget : Nat) (items : List Json) :
    ofJson? float? (budget + 2) (variant "Sequence" (.array items)) =
      (items.mapM (ofJson? float? budget)).map sequence := by
  rw [Option.map_eq_bind]
  rfl

theorem ofJson?_wrapped (budget : Nat) (family : String) (payload : Json) :
    ofJson? float? (budget + 2)
        (variantParts "Wrapped" [("wrapper", ofText family), ("payload", payload)]) =
      (ofJson? float? budget payload).map (wrapped family) := by
  rw [Option.map_eq_bind]
  rfl

theorem ofJson?_record (budget : Nat) (typeName : String) (fields : List Json) :
    ofJson? float? (budget + 3)
        (variantParts "Record" [("type_name", ofText typeName), ("fields", .array fields)]) =
      (fields.mapM (fieldOfJson? float? budget)).map (record typeName) := by
  rw [Option.map_eq_bind]
  rfl

theorem fieldOfJson?_pair (budget : Nat) (name : String) (value : Json) :
    fieldOfJson? float? (budget + 1) (.array [ofText name, value]) =
      (ofJson? float? budget value).map (Prod.mk name) := by
  rw [Option.map_eq_bind]
  rfl

/-- A float is read back when it is finite; otherwise nothing is. -/
theorem ofScalar?_float64 (rounds : Numeral.RoundsCorrectly float?) (x : Binary64) :
    ofScalar? float? "Float64" (((Numeral.ofBinary64? x).map Json.number).getD .null) =
      if x.isFinite then some (float64 x) else none := by
  by_cases finite : x.isFinite = true
  · obtain ⟨n, spelled, reads⟩ := Option.bind_eq_some_iff.1 (rounds.bind_ofBinary64? finite)
    rw [spelled, if_pos finite]
    exact congrArg (Option.map float64) reads
  · rw [Numeral.ofBinary64?, if_neg finite, if_neg finite]
    rfl

/-! ## Every value -/

mutual

theorem ofJson?_toJson (rounds : Numeral.RoundsCorrectly float?) : ∀ (v : Value) (budget : Nat),
    ofJson? float? budget v.toJson =
      if v.isFinite = true ∧ v.toJson.depth ≤ budget then some v else none
  | .null, budget => by simp [toJson, ofJson?, ofText, isFinite, depth]
  | .bool b, budget => by
    rw [toJson, ofJson?_scalar (by decide), depth_variant, isFinite]
    simp [depth, ofScalar?]
  | .int64 n, budget => by
    rw [toJson, ofJson?_scalar (by decide), depth_variant, isFinite]
    simp [depth, ofScalar?, Numeral.toInt64?_ofInt64]
  | .float64 x, budget => by
    have flat : (((Numeral.ofBinary64? x).map Json.number).getD .null).depth = 0 := by
      cases Numeral.ofBinary64? x <;> rfl
    rw [toJson, ofJson?_scalar (by decide), ofScalar?_float64 rounds, depth_variant, isFinite, flat,
      ← ite_and]
    exact if_congr and_comm rfl rfl
  | .utf8 text, budget => by
    rw [toJson, ofJson?_scalar (by decide), depth_variant, isFinite]
    simp [ofText, depth, ofScalar?]
  | .record typeName fields, budget => by
    have nests : (record typeName fields).toJson.depth = 3 + depthAll (toJsonFields fields) := by
      simp [toJson, depthAll]
      omega
    rw [nests, isFinite]
    match budget with
    | 0 | 1 | 2 =>
      rw [if_neg (by omega)]
      rfl
    | budget + 3 =>
      rw [toJson, ofJson?_record, ofJson?_toJsonFields rounds fields budget, map_guarded]
      exact if_congr (and_congr_right fun _ => by omega) rfl rfl
  | .wrapped family payload, budget => by
    have nests : (wrapped family payload).toJson.depth = 2 + payload.toJson.depth := by
      simp [toJson, depthAll]
    rw [nests, isFinite]
    match budget with
    | 0 | 1 =>
      rw [if_neg (by omega)]
      rfl
    | budget + 2 =>
      rw [toJson, ofJson?_wrapped, ofJson?_toJson rounds payload budget, map_guarded]
      exact if_congr (and_congr_right fun _ => by omega) rfl rfl
  | .sequence items, budget => by
    have nests : (sequence items).toJson.depth = 2 + depthAll (toJsonAll items) := by
      simp [toJson]
      omega
    rw [nests, isFinite]
    match budget with
    | 0 | 1 =>
      rw [if_neg (by omega)]
      rfl
    | budget + 2 =>
      rw [toJson, ofJson?_sequence, ofJson?_toJsonAll rounds items budget, map_guarded]
      exact if_congr (and_congr_right fun _ => by omega) rfl rfl

theorem ofJson?_toJsonFields (rounds : Numeral.RoundsCorrectly float?) :
    ∀ (fields : List (String × Value)) (budget : Nat),
    (toJsonFields fields).mapM (fieldOfJson? float? budget) =
      if finiteFields fields = true ∧ depthAll (toJsonFields fields) ≤ budget then some fields
      else none
  | [], budget => by simp [toJsonFields, finiteFields, depthAll]
  | (name, v) :: fields, budget => by
    have nests : (Json.array [ofText name, v.toJson]).depth = 1 + v.toJson.depth := by
      simp [depthAll]
    have first : fieldOfJson? float? budget (.array [ofText name, v.toJson]) =
        if v.isFinite = true ∧ 1 + v.toJson.depth ≤ budget then some (name, v) else none := by
      match budget with
      | 0 =>
        rw [if_neg (by omega)]
        rfl
      | budget + 1 =>
        rw [fieldOfJson?_pair, ofJson?_toJson rounds v budget, map_guarded]
        exact if_congr (and_congr_right fun _ => by omega) rfl rfl
    rw [toJsonFields, mapM_cons_guarded first (ofJson?_toJsonFields rounds fields budget)]
    refine if_congr ?_ rfl rfl
    rw [depthAll, nests, finiteFields, Bool.and_eq_true, Nat.max_le, and_and_and_comm]

theorem ofJson?_toJsonAll (rounds : Numeral.RoundsCorrectly float?) :
    ∀ (vs : List Value) (budget : Nat),
    (toJsonAll vs).mapM (ofJson? float? budget) =
      if finiteAll vs = true ∧ depthAll (toJsonAll vs) ≤ budget then some vs else none
  | [], budget => by simp [toJsonAll, finiteAll, depthAll]
  | v :: vs, budget => by
    rw [toJsonAll, mapM_cons_guarded (ofJson?_toJson rounds v budget)
      (ofJson?_toJsonAll rounds vs budget)]
    refine if_congr ?_ rfl rfl
    rw [depthAll, finiteAll, Bool.and_eq_true, Nat.max_le, and_and_and_comm]

end

mutual

theorem printable_toJson : ∀ v : Value, v.toJson.Printable
  | .null => printable_ofText _
  | .bool _ => by simp [toJson, Printable]
  | .int64 n => by simp [toJson, Printable, Numeral.ofInt64_wellFormed n]
  | .float64 x => by
    rw [toJson, printable_variant]
    by_cases finite : x.isFinite = true
    · obtain ⟨n, spelled, formed, -⟩ := Numeral.ofBinary64?_isNearest finite
      rw [spelled]
      exact formed
    · rw [Numeral.ofBinary64?, if_neg finite]
      trivial
  | .utf8 _ => by simp [toJson]
  | .record _ fields => by simp [toJson, PrintableAll, printable_toJsonFields fields]
  | .wrapped _ payload => by simp [toJson, PrintableAll, printable_toJson payload]
  | .sequence items => by simp [toJson, printable_toJsonAll items]

theorem printable_toJsonFields : ∀ fields : List (String × Value),
    PrintableAll (toJsonFields fields)
  | [] => trivial
  | (name, v) :: fields =>
    ⟨⟨printable_ofText name, printable_toJson v, trivial⟩, printable_toJsonFields fields⟩

theorem printable_toJsonAll : ∀ vs : List Value, PrintableAll (toJsonAll vs)
  | [] => trivial
  | v :: vs => ⟨printable_toJson v, printable_toJsonAll vs⟩

end

/-- A value is read back from its text by every reader that rounds floats correctly, unless it nests
too deep to be read or holds a float that is not finite. -/
theorem decodeBy?_encode (rounds : Numeral.RoundsCorrectly float?) (v : Value) :
    decodeBy? float? v.encode =
      if v.isFinite = true ∧ v.toJson.depth ≤ maxDepth then some v else none := by
  rw [decodeBy?, encode, parse?_render (printable_toJson v)]
  exact ofJson?_toJson rounds v maxDepth

end QueryDefaults.Value
