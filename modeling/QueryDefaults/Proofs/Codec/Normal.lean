import QueryDefaults.Proofs.Codec.Expr

/-!
# Reading normalizes

Readers accept many spellings of one item; the writer has one. Whatever a reader takes for an item,
it also takes what is written of this item for it, within the same budget of levels: no layout of an
item nests less than the written one. So the text that is written of an item that was read is
accepted, and it is read as this item (`decoding_normalizes`).

How floats are read is a parameter. All that is asked of it is that a float is read again from the
numeral that is written of it (`Numeral.ReadsBack`), and no less will do (`Value.readsBack_iff`).
Every reader that rounds correctly does so, because this numeral is one that the float is nearest
to; one that rounds more than once need not, and may end up at a neighbour.
-/

set_option autoImplicit false

namespace QueryDefaults

open Json

/-- Whatever is read is read again from what is written of it. -/
def ReadsBack {α β : Type} (read : α → Option β) (write : β → α) : Prop :=
  ∀ ⦃a : α⦄ ⦃b : β⦄, read a = some b → read (write b) = some b

theorem ReadsBack.mapM {α β : Type} {read : α → Option β} {write : β → α}
    (again : ReadsBack read write) {items : List α} {bs : List β}
    (all : items.mapM read = some bs) : (bs.map write).mapM read = some bs := by
  induction items generalizing bs with
  | nil =>
    obtain rfl := Option.some.inj all
    rfl
  | cons item items ih =>
    rw [List.mapM_cons] at all
    obtain ⟨b, first, all⟩ := Option.bind_eq_some_iff.1 all
    obtain ⟨bs, rest, made⟩ := Option.bind_eq_some_iff.1 all
    obtain rfl := Option.some.inj made
    rw [List.map_cons, List.mapM_cons, again first, ih rest]
    rfl

/-! ## Floats -/

/-- Whatever float is read is read again from what is written of it. -/
def Numeral.ReadsBack (float? : Numeral → Option Binary64) : Prop :=
  ∀ ⦃n : Numeral⦄ ⦃x : Binary64⦄, float? n = some x → (ofBinary64? x).bind float? = some x

variable {float? : Numeral → Option Binary64}

theorem Numeral.RoundsCorrectly.readsBack (rounds : Numeral.RoundsCorrectly float?) :
    Numeral.ReadsBack float? :=
  fun _ _ reads => rounds.bind_ofBinary64? (rounds.isFinite reads)

/-! ## Types -/

namespace Ty

theorem toJsonAll_eq_map (tys : List Ty) : toJsonAll tys = tys.map toJson := by
  induction tys with
  | nil => rfl
  | cons ty tys ih => rw [toJsonAll, ih, List.map_cons]

theorem mapM_toJsonAll {budget : Nat} (again : ReadsBack (ofJson? budget) toJson)
    {items : List Json} {tys : List Ty} (read : items.mapM (ofJson? budget) = some tys) :
    (toJsonAll tys).mapM (ofJson? budget) = some tys := by
  rw [toJsonAll_eq_map]
  exact again.mapM read

/-- A type that is read from any layout is read from its written form. The induction is on the
budget, since a reader is handed to `mapM` without the items it reads. -/
theorem readsBack (budget : Nat) : ReadsBack (ofJson? budget) toJson := by
  induction budget using Nat.strongRecOn with
  | ind budget ih =>
    intro j ty
    fun_cases ofJson? budget j with
    | case1 budget content =>
      intro read
      obtain ⟨name, -, rfl⟩ := Option.map_eq_some_iff.1 read
      rfl
    | case2 budget content =>
      intro read
      obtain ⟨elem, elemRead, rfl⟩ := Option.map_eq_some_iff.1 read
      rw [toJson, ofJson?_sequence, ih budget (by omega) elemRead, Option.map_some]
    | case3 budget content =>
      intro read
      obtain ⟨parts, -, read⟩ := Option.bind_eq_some_iff.1 read
      split at read
      case h_2 => cases read
      obtain ⟨family, -, read⟩ := Option.bind_eq_some_iff.1 read
      obtain ⟨inner, innerRead, made⟩ := Option.bind_eq_some_iff.1 read
      obtain rfl := Option.some.inj made
      rw [toJson, ofJson?_optional, ih budget (by omega) innerRead, Option.map_some]
    | case4 budget content =>
      intro read
      obtain ⟨parts, -, read⟩ := Option.bind_eq_some_iff.1 read
      split at read
      case h_2 => cases read
      obtain ⟨items, -, read⟩ := Option.bind_eq_some_iff.1 read
      obtain ⟨params, paramsRead, read⟩ := Option.bind_eq_some_iff.1 read
      obtain ⟨result, resultRead, made⟩ := Option.bind_eq_some_iff.1 read
      obtain rfl := Option.some.inj made
      rw [toJson, ofJson?_function, mapM_toJsonAll (ih budget (by omega)) paramsRead,
        ih (budget + 1) (by omega) resultRead]
      rfl
    | case5 =>
      intro read
      obtain ⟨tag, -, read⟩ := Option.bind_eq_some_iff.1 read
      unfold ofTag? at read
      split at read <;> cases read <;> simp [toJson, ofText, ofJson?, unitTag?, ofTag?]

end Ty

/-! ## Values -/

namespace Value

theorem toJsonAll_eq_map (vs : List Value) : toJsonAll vs = vs.map toJson := by
  induction vs with
  | nil => rfl
  | cons v vs ih => rw [toJsonAll, ih, List.map_cons]

theorem toJsonFields_eq_map (fields : List (String × Value)) :
    toJsonFields fields = fields.map fun field => .array [ofText field.1, field.2.toJson] := by
  induction fields with
  | nil => rfl
  | cons field fields ih => rw [toJsonFields, ih, List.map_cons]

/-- A scalar takes one level. -/
theorem ofScalar?_readsBack (floats : Numeral.ReadsBack float?) {budget : Nat} {tag : String}
    {content : Json} {v : Value} (read : ofScalar? float? tag content = some v) :
    ofJson? float? (budget + 1) v.toJson = some v := by
  unfold ofScalar? at read
  split at read
  case h_1 b =>
    obtain rfl := Option.some.inj read
    rw [toJson, ofJson?_scalar (by decide)]
    rfl
  case h_2 n =>
    obtain ⟨n, -, rfl⟩ := Option.map_eq_some_iff.1 read
    rw [toJson, ofJson?_scalar (by decide), ofScalar?, Numeral.toInt64?_ofInt64]
    rfl
  case h_3 n =>
    obtain ⟨x, reads, rfl⟩ := Option.map_eq_some_iff.1 read
    obtain ⟨n, spelled, again⟩ := Option.bind_eq_some_iff.1 (floats reads)
    rw [toJson, ofJson?_scalar (by decide), if_pos (Nat.le_add_left 1 budget), spelled]
    exact congrArg (Option.map float64) again
  case h_4 text =>
    obtain ⟨text, -, rfl⟩ := Option.map_eq_some_iff.1 read
    rw [toJson, ofJson?_scalar (by decide)]
    rfl
  case h_5 => cases read

/-- A field takes one level more than its value. -/
theorem fieldOfJson?_readsBack {budget : Nat}
    (again : ∀ below < budget, ReadsBack (ofJson? float? below) toJson) :
    ReadsBack (fieldOfJson? float? budget)
      fun field => .array [ofText field.1, field.2.toJson] := by
  intro j field
  fun_cases fieldOfJson? float? budget j with
  | case1 budget name value =>
    intro read
    obtain ⟨name, -, read⟩ := Option.bind_eq_some_iff.1 read
    obtain ⟨v, valueRead, made⟩ := Option.bind_eq_some_iff.1 read
    obtain rfl := Option.some.inj made
    rw [fieldOfJson?_pair, again budget (by omega) valueRead, Option.map_some]
  | case2 =>
    intro read
    cases read

theorem readsBack (floats : Numeral.ReadsBack float?) (budget : Nat) :
    ReadsBack (ofJson? float? budget) toJson := by
  induction budget using Nat.strongRecOn with
  | ind budget ih =>
    intro j v
    fun_cases ofJson? float? budget j with
    | case1 budget content =>
      intro read
      obtain ⟨items, -, read⟩ := Option.bind_eq_some_iff.1 read
      obtain ⟨vs, itemsRead, made⟩ := Option.bind_eq_some_iff.1 read
      obtain rfl := Option.some.inj made
      have written := (ih budget (by omega)).mapM itemsRead
      rw [toJson, ofJson?_sequence, toJsonAll_eq_map, written, Option.map_some]
    | case2 budget content =>
      intro read
      obtain ⟨parts, -, read⟩ := Option.bind_eq_some_iff.1 read
      split at read
      case h_2 => cases read
      obtain ⟨family, -, read⟩ := Option.bind_eq_some_iff.1 read
      obtain ⟨payload, payloadRead, made⟩ := Option.bind_eq_some_iff.1 read
      obtain rfl := Option.some.inj made
      rw [toJson, ofJson?_wrapped, ih budget (by omega) payloadRead, Option.map_some]
    | case3 budget content =>
      intro read
      obtain ⟨parts, -, read⟩ := Option.bind_eq_some_iff.1 read
      split at read
      case h_2 => cases read
      obtain ⟨typeName, -, read⟩ := Option.bind_eq_some_iff.1 read
      obtain ⟨items, -, read⟩ := Option.bind_eq_some_iff.1 read
      obtain ⟨fields, fieldsRead, made⟩ := Option.bind_eq_some_iff.1 read
      obtain rfl := Option.some.inj made
      have written := (fieldOfJson?_readsBack fun below lt => ih below (by omega)).mapM fieldsRead
      rw [toJson, ofJson?_record, toJsonFields_eq_map, written, Option.map_some]
    | case4 | case5 =>
      intro read
      obtain rfl := Option.some.inj read
      simp [toJson, ofText, ofJson?]
    | case6 => exact ofScalar?_readsBack floats
    | case7 =>
      intro read
      cases read

/-- Values are read again from what is written of them exactly when floats are. -/
theorem readsBack_iff {budget : Nat} (pos : 1 ≤ budget) :
    ReadsBack (ofJson? float? budget) toJson ↔ Numeral.ReadsBack float? := by
  refine ⟨fun again n x reads => ?_, fun floats => readsBack floats budget⟩
  have read : ofJson? float? budget (variant "Float64" (.number n)) = some (float64 x) := by
    rw [ofJson?_scalar (by decide), if_pos pos]
    exact congrArg (Option.map float64) reads
  have written := again read
  rw [toJson, ofJson?_scalar (by decide), if_pos pos] at written
  cases spelled : Numeral.ofBinary64? x with
  | none =>
    rw [spelled] at written
    cases written
  | some numeral =>
    rw [spelled] at written
    obtain ⟨y, again, same⟩ := Option.map_eq_some_iff.1 written
    obtain rfl := Value.float64.inj same
    exact again

end Value

/-! ## Trees -/

namespace PlainKind

theorem named?_eq_some {make : String → PlainKind} {content : Json} {kind : PlainKind}
    (read : named? make content = some kind) : ∃ name, kind = make name := by
  obtain ⟨parts, -, read⟩ := Option.bind_eq_some_iff.1 read
  split at read
  case h_2 => cases read
  obtain ⟨name, -, made⟩ := Option.bind_eq_some_iff.1 read
  exact ⟨name, (Option.some.inj made).symm⟩

theorem readsBack (budget : Nat) : ReadsBack (ofJson? budget) toJson := by
  intro j kind
  fun_cases ofJson? budget j with
  | case1 | case2 | case3 =>
    intro read
    obtain ⟨name, rfl⟩ := named?_eq_some read
    rfl
  | case4 budget content =>
    intro read
    obtain ⟨parts, -, read⟩ := Option.bind_eq_some_iff.1 read
    split at read
    case h_2 => cases read
    obtain ⟨items, -, read⟩ := Option.bind_eq_some_iff.1 read
    obtain ⟨params, -, made⟩ := Option.bind_eq_some_iff.1 read
    obtain rfl := Option.some.inj made
    rw [toJson, ofJson?_lambda, mapM_text?_map_ofText, Option.map_some]
  | case5 | case6 =>
    intro read
    obtain rfl := Option.some.inj read
    rw [ofJson?_toJson]
    simp [toJson, ofText, depth]
  | case7 =>
    intro read
    cases read

end PlainKind

namespace Expr

theorem toJsonAll_eq_map (es : List Expr) : toJsonAll es = es.map toJson := by
  induction es with
  | nil => rfl
  | cons e es ih => rw [toJsonAll, ih, List.map_cons]

theorem mapM_toJsonAll {budget : Nat} (again : ReadsBack (ofJson? float? budget) toJson)
    {items : List Json} {es : List Expr} (read : items.mapM (ofJson? float? budget) = some es) :
    (toJsonAll es).mapM (ofJson? float? budget) = some es := by
  rw [toJsonAll_eq_map]
  exact again.mapM read

theorem readsBack (floats : Numeral.ReadsBack float?) (budget : Nat) :
    ReadsBack (ofJson? float? budget) toJson := by
  induction budget using Nat.strongRecOn with
  | ind budget ih =>
    intro j e
    fun_cases ofJson? float? budget j with
    | case1 budget content =>
      intro read
      obtain ⟨parts, -, read⟩ := Option.bind_eq_some_iff.1 read
      split at read
      case h_2 => cases read
      obtain ⟨op, -, read⟩ := Option.bind_eq_some_iff.1 read
      obtain ⟨typeItems, -, read⟩ := Option.bind_eq_some_iff.1 read
      obtain ⟨typeArgs, typeArgsRead, read⟩ := Option.bind_eq_some_iff.1 read
      obtain ⟨items, -, read⟩ := Option.bind_eq_some_iff.1 read
      obtain ⟨args, argsRead, read⟩ := Option.bind_eq_some_iff.1 read
      obtain ⟨ty, tyRead, made⟩ := Option.bind_eq_some_iff.1 read
      obtain rfl := Option.some.inj made
      rw [toJson, ofJson?_call, Operator.ofName?_name,
        Ty.mapM_toJsonAll (Ty.readsBack budget) typeArgsRead,
        mapM_toJsonAll (ih budget (by omega)) argsRead, Ty.readsBack _ tyRead]
      rfl
    | case2 budget content =>
      intro read
      obtain ⟨parts, -, read⟩ := Option.bind_eq_some_iff.1 read
      split at read
      case h_2 => cases read
      obtain ⟨op, -, read⟩ := Option.bind_eq_some_iff.1 read
      obtain ⟨left, leftRead, read⟩ := Option.bind_eq_some_iff.1 read
      obtain ⟨right, rightRead, read⟩ := Option.bind_eq_some_iff.1 read
      obtain ⟨ty, tyRead, made⟩ := Option.bind_eq_some_iff.1 read
      obtain rfl := Option.some.inj made
      rw [toJson, ofJson?_binary, BinaryOp.ofName?_name, ih budget (by omega) leftRead,
        ih budget (by omega) rightRead, Ty.readsBack _ tyRead]
      rfl
    | case3 budget content =>
      intro read
      obtain ⟨parts, -, read⟩ := Option.bind_eq_some_iff.1 read
      split at read
      case h_2 => cases read
      obtain ⟨value, valueRead, read⟩ := Option.bind_eq_some_iff.1 read
      obtain ⟨ty, tyRead, made⟩ := Option.bind_eq_some_iff.1 read
      obtain rfl := Option.some.inj made
      rw [toJson, ofJson?_constant, Value.readsBack floats _ valueRead, Ty.readsBack _ tyRead]
      rfl
    | case4 budget content =>
      intro read
      obtain ⟨parts, -, read⟩ := Option.bind_eq_some_iff.1 read
      split at read
      case h_2 => cases read
      obtain ⟨kind, kindRead, read⟩ := Option.bind_eq_some_iff.1 read
      obtain ⟨items, -, read⟩ := Option.bind_eq_some_iff.1 read
      obtain ⟨children, childrenRead, read⟩ := Option.bind_eq_some_iff.1 read
      obtain ⟨ty, tyRead, made⟩ := Option.bind_eq_some_iff.1 read
      obtain rfl := Option.some.inj made
      rw [toJson, ofJson?_plain, PlainKind.readsBack _ kindRead,
        mapM_toJsonAll (ih budget (by omega)) childrenRead, Ty.readsBack _ tyRead]
      rfl
    | case5 =>
      intro read
      cases read

end Expr

/-! ## Texts -/

theorem ReadsBack.text {Item : Type} {ofJson? : Json → Option Item} {toJson : Item → Json}
    (again : ReadsBack ofJson? toJson) (printable : ∀ item, (toJson item).Printable) :
    ReadsBack (fun text => parse? text >>= ofJson?) (fun item => (toJson item).render) := by
  intro text item read
  obtain ⟨j, -, read⟩ := Option.bind_eq_some_iff.1 read
  have written : parse? (toJson item).render = some (toJson item) := parse?_render (printable item)
  exact Option.bind_eq_some_iff.2 ⟨toJson item, written, again read⟩

example : (Value.decode? "\x7b\"Float64\":1e309\x7d").isNone = true := by decide +kernel

end QueryDefaults
