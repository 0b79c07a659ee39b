import QueryDefaults.Codec.Expr
import QueryDefaults.Proofs.Codec.Ty
import QueryDefaults.Proofs.Codec.Value

/-!
# Trees are read back

Types, values and trees are read back from their texts, exactly and without a change of any bit,
when their floats are finite and their texts nest at most `maxDepth` levels. Any other text of the
writer is rejected (`codec_round_trip`).
-/

set_option autoImplicit false

namespace QueryDefaults

open Json

/-! ## Plain nodes -/

namespace PlainKind

theorem depthAll_map_ofText (names : List String) : depthAll (names.map ofText) = 0 := by
  induction names with
  | nil => rfl
  | cons name names ih => rw [List.map_cons, depthAll, ih]; rfl

theorem mapM_text?_map_ofText (names : List String) :
    (names.map ofText).mapM Json.text? = some names := by
  induction names with
  | nil => rfl
  | cons name names ih => rw [List.map_cons, List.mapM_cons, ih]; rfl

theorem ofJson?_lambda (budget : Nat) (params : List Json) :
    ofJson? (budget + 3) (variantParts "Lambda" [("params", .array params)]) =
      (params.mapM Json.text?).map lambda := by
  rw [Option.map_eq_bind]
  rfl

theorem ofJson?_toJson (kind : PlainKind) (budget : Nat) :
    ofJson? budget kind.toJson = if kind.toJson.depth ≤ budget then some kind else none := by
  cases kind with
  | source name | parameter name | field name =>
    simp only [toJson, depth_variantParts, List.map_cons, List.map_nil, depthAll, depth_ofText,
      Nat.max_self, Nat.add_zero]
    rcases budget with _ | _ | budget
    · rfl
    · rfl
    · rw [if_pos (by omega)]
      rfl
  | lambda params =>
    simp only [toJson, depth_variantParts, List.map_cons, List.map_nil, depthAll, depth_array,
      depthAll_map_ofText, Nat.max_zero, Nat.add_zero, Nat.reduceAdd]
    rcases budget with _ | _ | _ | budget
    · rfl
    · rfl
    · rfl
    · rw [if_pos (by omega), ofJson?_lambda, mapM_text?_map_ofText]
      rfl
  | newArray | not => simp [toJson, ofJson?, ofText, unitTag?, depth]

theorem printableAll_map_ofText (names : List String) : PrintableAll (names.map ofText) := by
  induction names with
  | nil => trivial
  | cons name names ih => exact ⟨printable_ofText name, ih⟩

theorem printable_toJson (kind : PlainKind) : kind.toJson.Printable := by
  cases kind <;> simp [toJson, PrintableAll, printableAll_map_ofText]

end PlainKind

namespace Expr

mutual

/-- Whether every float of the constants of a tree is finite. -/
def isFinite : Expr → Bool
  | .call _ _ args _ => finiteAll args
  | .binary _ left right _ => left.isFinite && right.isFinite
  | .constant value _ => value.isFinite
  | .plain _ children _ => finiteAll children

/-- Whether every float of the constants of several trees is finite. -/
def finiteAll : List Expr → Bool
  | [] => true
  | e :: es => e.isFinite && finiteAll es

end

/-! ## Reading one node -/

variable {float? : Numeral → Option Binary64}

theorem ofJson?_call (budget : Nat) (op : String) (typeArgs args : List Json) (ty : Json) :
    ofJson? float? (budget + 3) (variantParts "MethodCall"
        [("operator", ofText op), ("type_args", .array typeArgs), ("args", .array args),
          ("ty", ty)]) =
      (Operator.ofName? op).bind fun op => (typeArgs.mapM (Ty.ofJson? budget)).bind fun typeArgs =>
        (args.mapM (ofJson? float? budget)).bind fun args =>
          (Ty.ofJson? (budget + 1) ty).bind fun ty => some (call op typeArgs args ty) := rfl

theorem ofJson?_binary (budget : Nat) (op : String) (left right ty : Json) :
    ofJson? float? (budget + 2) (variantParts "Binary"
        [("op", ofText op), ("left", left), ("right", right), ("ty", ty)]) =
      (BinaryOp.ofName? op).bind fun op => (ofJson? float? budget left).bind fun left =>
        (ofJson? float? budget right).bind fun right =>
          (Ty.ofJson? budget ty).bind fun ty => some (binary op left right ty) := by
  cases budget <;> rfl

theorem ofJson?_constant (budget : Nat) (value ty : Json) :
    ofJson? float? (budget + 2) (variantParts "Constant" [("value", value), ("ty", ty)]) =
      (Value.ofJson? float? budget value).bind fun value =>
        (Ty.ofJson? budget ty).bind fun ty => some (constant value ty) := by
  cases budget <;> rfl

theorem ofJson?_plain (budget : Nat) (kind : Json) (children : List Json) (ty : Json) :
    ofJson? float? (budget + 3) (variantParts "Opaque"
        [("kind", kind), ("children", .array children), ("ty", ty)]) =
      (PlainKind.ofJson? (budget + 1) kind).bind fun kind =>
        (children.mapM (ofJson? float? budget)).bind fun children =>
          (Ty.ofJson? (budget + 1) ty).bind fun ty => some (plain kind children ty) := rfl

/-! ## Every tree -/

mutual

theorem ofJson?_toJson (rounds : Numeral.RoundsCorrectly float?) : ∀ (e : Expr) (budget : Nat),
    ofJson? float? budget e.toJson =
      if e.isFinite = true ∧ e.toJson.depth ≤ budget then some e else none
  | .call op typeArgs args ty, budget => by
    have nests : (call op typeArgs args ty).toJson.depth =
        2 + max (1 + depthAll (Ty.toJsonAll typeArgs))
          (max (1 + depthAll (toJsonAll args)) ty.toJson.depth) := by
      simp [toJson, depthAll]
    rw [nests, isFinite]
    match budget with
    | 0 | 1 | 2 =>
      rw [if_neg (by omega)]
      rfl
    | budget + 3 =>
      rw [toJson, ofJson?_call, Operator.ofName?_name, Ty.ofJson?_toJsonAll,
        ofJson?_toJsonAll rounds args budget, Ty.ofJson?_toJson]
      simp only [Option.bind_some, bind_guarded, ← ite_and]
      exact if_congr (by grind) rfl rfl
  | .binary op left right ty, budget => by
    have nests : (binary op left right ty).toJson.depth =
        2 + max left.toJson.depth (max right.toJson.depth ty.toJson.depth) := by
      simp [toJson, depthAll]
    rw [nests, isFinite]
    match budget with
    | 0 | 1 =>
      rw [if_neg (by omega)]
      rfl
    | budget + 2 =>
      rw [toJson, ofJson?_binary, BinaryOp.ofName?_name, ofJson?_toJson rounds left budget,
        ofJson?_toJson rounds right budget, Ty.ofJson?_toJson]
      simp only [Option.bind_some, bind_guarded, ← ite_and]
      exact if_congr (by grind) rfl rfl
  | .constant value ty, budget => by
    have nests : (constant value ty).toJson.depth = 2 + max value.toJson.depth ty.toJson.depth := by
      simp [toJson, depthAll]
    rw [nests, isFinite]
    match budget with
    | 0 | 1 =>
      rw [if_neg (by omega)]
      rfl
    | budget + 2 =>
      rw [toJson, ofJson?_constant, Value.ofJson?_toJson rounds, Ty.ofJson?_toJson]
      simp only [bind_guarded, ← ite_and]
      exact if_congr (by grind) rfl rfl
  | .plain kind children ty, budget => by
    have nests : (plain kind children ty).toJson.depth =
        2 + max kind.toJson.depth
          (max (1 + depthAll (toJsonAll children)) ty.toJson.depth) := by
      simp [toJson, depthAll]
    rw [nests, isFinite]
    match budget with
    | 0 | 1 | 2 =>
      rw [if_neg (by omega)]
      rfl
    | budget + 3 =>
      rw [toJson, ofJson?_plain, PlainKind.ofJson?_toJson, ofJson?_toJsonAll rounds children budget,
        Ty.ofJson?_toJson]
      simp only [bind_guarded, ← ite_and]
      exact if_congr (by grind) rfl rfl

theorem ofJson?_toJsonAll (rounds : Numeral.RoundsCorrectly float?) :
    ∀ (es : List Expr) (budget : Nat),
    (toJsonAll es).mapM (ofJson? float? budget) =
      if finiteAll es = true ∧ depthAll (toJsonAll es) ≤ budget then some es else none
  | [], budget => by simp [toJsonAll, finiteAll, depthAll]
  | e :: es, budget => by
    rw [toJsonAll, mapM_cons_guarded (ofJson?_toJson rounds e budget)
      (ofJson?_toJsonAll rounds es budget)]
    refine if_congr ?_ rfl rfl
    rw [depthAll, finiteAll, Bool.and_eq_true, Nat.max_le, and_and_and_comm]

end

mutual

theorem printable_toJson : ∀ e : Expr, e.toJson.Printable
  | .call _ typeArgs args ty => by
    simp [toJson, PrintableAll, Ty.printable_toJsonAll typeArgs, printable_toJsonAll args,
      Ty.printable_toJson ty]
  | .binary _ left right ty => by
    simp [toJson, PrintableAll, printable_toJson left, printable_toJson right,
      Ty.printable_toJson ty]
  | .constant value ty => by
    simp [toJson, PrintableAll, Value.printable_toJson value, Ty.printable_toJson ty]
  | .plain kind children ty => by
    simp [toJson, PrintableAll, kind.printable_toJson, printable_toJsonAll children,
      Ty.printable_toJson ty]

theorem printable_toJsonAll : ∀ es : List Expr, PrintableAll (toJsonAll es)
  | [] => trivial
  | e :: es => ⟨printable_toJson e, printable_toJsonAll es⟩

end

/-- A tree is read back from its text by every reader that rounds floats correctly, unless it nests
too deep to be read or holds a float that is not finite. -/
theorem decodeBy?_encode (rounds : Numeral.RoundsCorrectly float?) (e : Expr) :
    decodeBy? float? e.encode =
      if e.isFinite = true ∧ e.toJson.depth ≤ maxDepth then some e else none := by
  rw [decodeBy?, encode, parse?_render (printable_toJson e)]
  exact ofJson?_toJson rounds e maxDepth

end Expr

/-- **Round trip of the codec.** What is written of a type, a value or a tree is read back as the
very same item, when every float in it is finite and the text nests at most `maxDepth` levels. When
one of the two does not hold, the text is rejected. -/
theorem codec_round_trip :
    (∀ ty : Ty, Ty.decode? ty.encode = if ty.toJson.depth ≤ maxDepth then some ty else none) ∧
    (∀ v : Value, Value.decode? v.encode =
      if v.isFinite = true ∧ v.toJson.depth ≤ maxDepth then some v else none) ∧
    ∀ e : Expr, Expr.decode? e.encode =
      if e.isFinite = true ∧ e.toJson.depth ≤ maxDepth then some e else none :=
  ⟨Ty.decode?_encode, Value.decodeBy?_encode Numeral.roundsCorrectly_toBinary64?,
    Expr.decodeBy?_encode Numeral.roundsCorrectly_toBinary64?⟩

example : (Value.float64 ⟨0x8000000000000001⟩).encode = "\x7b\"Float64\":-5e-324\x7d" := by
  decide +kernel

end QueryDefaults
