import Mathlib.Order.Filter.AtTopBot.Basic
import QueryDefaults.Proofs.Registry.Conforms

/-!
# The construction and its stack

Default instances are built by procedures that call each other and share one stack of the records
under construction. A record is pushed before its fields are built and popped behind them, whether
they could be built or not; only a payload looks at the stack. Nothing in this says that they end,
because a field leads back into the registry. So here they are given how deep their calls may nest,
have no answer where that is too little, and keep an answer at greater depths (`kept`). There is
always depth enough: a payload that is a record is entered only off the stack, and each record on it
leaves fewer to enter. Each procedure gives back the stack as it got it, and its result is that of
the construction over a fixed stack (`buildInstance_ends`).
-/

set_option autoImplicit false

namespace QueryDefaults

/-- Whether a type is one of the given records. -/
def Ty.isRecordIn (names : List String) : Ty → Bool
  | .record name => names.contains name
  | _ => false

theorem Ty.isRecordIn_record {names : List String} {name : String} :
    (Ty.record name).isRecordIn names = true ↔ name ∈ names := by
  simp [isRecordIn]

/-- A procedure ends with an answer: it has it at some depth, and no other one at any depth. -/
def Ends {α : Type} (run : Nat → Option α) (answer : α) : Prop :=
  (∃ depth, run depth = some answer) ∧ ∀ depth other, run depth = some other → other = answer

/-- A procedure that keeps its answers at greater depths ends with the one that it has at last. -/
theorem Ends.of_eventually {α : Type} {run : Nat → Option α} {answer : α}
    (kept : ∀ depth other, run depth = some other → run (depth + 1) = some other)
    (h : ∀ᶠ depth in Filter.atTop, run depth = some answer) : Ends run answer := by
  obtain ⟨least, deep⟩ := Filter.eventually_atTop.1 h
  refine ⟨⟨least, deep least le_rfl⟩, fun depth other early => ?_⟩
  have late : run (max depth least) = some other :=
    Nat.le_induction early (fun deeper _ => kept deeper other) _ (le_max_left depth least)
  exact Option.some.inj (late.symm.trans (deep _ (le_max_right depth least)))

/-- A procedure uses the first of its depth for itself and leaves the rest to what it calls. -/
theorem eventually_of_succ {P : Nat → Prop} (h : ∀ᶠ depth in Filter.atTop, P (depth + 1)) :
    ∀ᶠ depth in Filter.atTop, P depth := by
  rw [← Filter.map_add_atTop_eq_nat 1]
  exact Filter.eventually_map.2 h

namespace Registry

/-- What a procedure ends with: its result, and the stack as it leaves it. -/
abbrev Ending (α : Type) : Type := Except QueryError α × List String

/-- Builds the zeros of fields, in order, up to the first that fails. -/
def buildFields (zero : Ty → List String → Option (Ending Value)) :
    List (String × Ty) → List String → Option (Ending (List (String × Value)))
  | [], building => some (.ok [], building)
  | (name, ty) :: fields, building => do
    let (value, stack) ← zero ty building
    match value with
    | .error err => return (.error err, stack)
    | .ok value =>
      let (values, stack) ← buildFields zero fields stack
      return (((name, value) :: ·) <$> values, stack)

mutual

/-- Builds the default instance of a type. A record is on the stack while its fields are built. -/
def buildInstance (r : Registry) (depth : Nat) (ty : Ty) (building : List String) :
    Option (Ending Value) :=
  match depth with
  | 0 => none
  | depth + 1 =>
    match ty with
    | .record name =>
      match r.record? name with
      | none => some (.error (.missingDefault (.record name)), building)
      | some shape =>
        match shape.nullaryCount with
        | 0 => some (.error (.missingDefault (.record name)), building)
        | 1 => do
          let (fields, stack) ← buildFields (r.buildZero depth) shape.fields (name :: building)
          return (.record name <$> fields, stack.tail)
        | count => some (.error (.ambiguousDefault (.record name) count), building)
    | .sequence _ => some (.ok (.sequence []), building)
    | .optional family inner =>
      if r.hasDefault (.optional family inner) then
        r.buildZero depth (.optional family inner) building
      else some (.error (.missingDefault (.optional family inner)), building)
    | .function params result => some (.error (.missingDefault (.function params result)), building)
    | ty => r.buildZero depth ty building

/-- Builds the zero of a field of a type. -/
def buildZero (r : Registry) (depth : Nat) (ty : Ty) (building : List String) :
    Option (Ending Value) :=
  match depth with
  | 0 => none
  | depth + 1 =>
    match ty with
    | .bool => some (.ok (.bool false), building)
    | .int64 => some (.ok (.int64 0), building)
    | .float64 => some (.ok (.float64 .zero), building)
    | .utf8 => some (.ok (.utf8 ""), building)
    | .optional family inner =>
      if (r.family? family).isSome then do
        let (payload, stack) ← r.buildPayload depth inner building
        return (.wrapped family <$> payload, stack)
      else some (.ok .null, building)
    | .record _ | .sequence _ | .function _ _ => some (.ok .null, building)

/-- Builds the payload of an empty wrapper. A record on the stack is not entered again. -/
def buildPayload (r : Registry) (depth : Nat) (inner : Ty) (building : List String) :
    Option (Ending Value) :=
  match depth with
  | 0 => none
  | depth + 1 =>
    if r.hasDefault inner then
      if inner.isRecordIn building then some (.ok .null, building)
      else r.buildInstance depth inner building
    else some (.ok .null, building)

end

variable {r : Registry} {building : List String} {name family : String} {ty inner : Ty}

/-! ## The depth is a bound and nothing else -/

theorem buildFields_kept {zero deeper : Ty → List String → Option (Ending Value)}
    (kept : ∀ ty building ending,
      zero ty building = some ending → deeper ty building = some ending)
    {fields : List (String × Ty)} {ending : Ending (List (String × Value))}
    (h : buildFields zero fields building = some ending) :
    buildFields deeper fields building = some ending := by
  induction fields generalizing building ending with
  | nil => exact h
  | cons field fields ih =>
    rw [buildFields] at h ⊢
    obtain ⟨⟨value, stack⟩, first, h⟩ := Option.bind_eq_some_iff.1 h
    rw [kept _ _ _ first]
    cases value with
    | error err => exact h
    | ok value =>
      obtain ⟨⟨values, rest⟩, done, h⟩ := Option.bind_eq_some_iff.1 h
      simp only [Option.bind_eq_bind, Option.bind_some, ih done]
      exact h

/-- What the procedures answer at a depth, they answer one deeper too. -/
structure Kept (r : Registry) (depth : Nat) : Prop where
  whole : ∀ ty building ending, r.buildInstance depth ty building = some ending →
    r.buildInstance (depth + 1) ty building = some ending
  zero : ∀ ty building ending, r.buildZero depth ty building = some ending →
    r.buildZero (depth + 1) ty building = some ending
  payload : ∀ inner building ending, r.buildPayload depth inner building = some ending →
    r.buildPayload (depth + 1) inner building = some ending

namespace Kept

variable {depth : Nat} {ending : Ending Value}

theorem whole_succ (h : r.Kept depth)
    (done : r.buildInstance (depth + 1) ty building = some ending) :
    r.buildInstance (depth + 2) ty building = some ending := by
  cases ty with
  | record name =>
    rw [buildInstance] at done ⊢
    split at done
    · exact done
    · split at done
      · exact done
      · obtain ⟨fields, built, done⟩ := Option.bind_eq_some_iff.1 done
        rw [buildFields_kept h.zero built]
        exact done
      · exact done
  | optional family inner =>
    rw [buildInstance] at done ⊢
    by_cases builds : r.hasDefault (.optional family inner) = true
    · rw [if_pos builds] at done ⊢
      exact h.zero _ _ _ done
    · rw [if_neg builds] at done ⊢
      exact done
  | bool | int64 | float64 | utf8 => exact h.zero _ _ _ done
  | sequence | function => exact done

theorem zero_succ (h : r.Kept depth) (done : r.buildZero (depth + 1) ty building = some ending) :
    r.buildZero (depth + 2) ty building = some ending := by
  cases ty with
  | optional family inner =>
    rw [buildZero] at done ⊢
    by_cases declared : (r.family? family).isSome = true
    · rw [if_pos declared] at done ⊢
      obtain ⟨payload, built, done⟩ := Option.bind_eq_some_iff.1 done
      rw [h.payload _ _ _ built]
      exact done
    · rw [if_neg declared] at done ⊢
      exact done
  | bool | int64 | float64 | utf8 | record | sequence | function => exact done

theorem payload_succ (h : r.Kept depth)
    (done : r.buildPayload (depth + 1) inner building = some ending) :
    r.buildPayload (depth + 2) inner building = some ending := by
  rw [buildPayload] at done ⊢
  by_cases builds : r.hasDefault inner = true
  · rw [if_pos builds] at done ⊢
    by_cases under : inner.isRecordIn building = true
    · rw [if_pos under] at done ⊢
      exact done
    · rw [if_neg under] at done ⊢
      exact h.whole _ _ _ done
  · rw [if_neg builds] at done ⊢
    exact done

end Kept

theorem kept (r : Registry) (depth : Nat) : r.Kept depth := by
  induction depth with
  | zero => exact ⟨nofun, nofun, nofun⟩
  | succ depth ih =>
    exact ⟨fun _ _ _ => ih.whole_succ, fun _ _ _ => ih.zero_succ, fun _ _ _ => ih.payload_succ⟩

/-! ## One procedure, given what it calls -/

/-- The default instance of a type is built as over a fixed stack, and the stack is given back. -/
def BuildsInstance (r : Registry) (building : List String) (ty : Ty) : Prop :=
  ∀ᶠ depth in Filter.atTop,
    r.buildInstance depth ty building = some (r.defaultWithin building ty, building)

/-- The same of the zero of a type. -/
def BuildsZero (r : Registry) (building : List String) (ty : Ty) : Prop :=
  ∀ᶠ depth in Filter.atTop, r.buildZero depth ty building =
    some (r.fieldZeroWith (r.recordDefault building) ty, building)

/-- The same of the payload of a wrapper around a type. -/
def BuildsPayload (r : Registry) (building : List String) (inner : Ty) : Prop :=
  ∀ᶠ depth in Filter.atTop, r.buildPayload depth inner building =
    some (r.payloadWith (r.recordDefault building) inner, building)

theorem buildsZero_optional (payload : r.BuildsPayload building inner) :
    r.BuildsZero building (.optional family inner) := by
  refine eventually_of_succ ?_
  filter_upwards [payload] with depth done
  rw [buildZero, fieldZeroWith]
  split
  · rw [done]
    simp only [map_eq_pure_bind]
    rfl
  · rfl

theorem buildsZero_of_payload (payload : ∀ inner, r.BuildsPayload building inner) :
    ∀ ty, r.BuildsZero building ty
  | .optional _ inner => buildsZero_optional (payload inner)
  | .bool | .int64 | .float64 | .utf8 | .record _ | .sequence _ | .function _ _ =>
    eventually_of_succ (.of_forall fun _ => rfl)

theorem buildsFields_of_zero (zero : ∀ ty, r.BuildsZero building ty) (fields : List (String × Ty)) :
    ∀ᶠ depth in Filter.atTop, buildFields (r.buildZero depth) fields building =
      some (r.fieldsWith (r.recordDefault building) fields, building) := by
  induction fields with
  | nil => exact .of_forall fun depth => rfl
  | cons field fields ih =>
    filter_upwards [zero field.2, ih] with depth first rest
    rw [buildFields, first, fieldsWith_cons]
    cases r.fieldZeroWith (r.recordDefault building) field.2 with
    | error err => rfl
    | ok value =>
      simp only [Option.bind_eq_bind, Option.bind_some, rest, map_eq_pure_bind]
      rfl

/-- A record takes itself off the stack again, also when its fields fail. -/
theorem buildsRecord_of_zero
    (zero : ∀ shape, r.record? name = some shape → ∀ ty, r.BuildsZero (name :: building) ty) :
    ∀ᶠ depth in Filter.atTop, r.buildInstance depth (.record name) building =
      some (r.recordWith (r.recordDefault (name :: building)) name, building) := by
  refine eventually_of_succ ?_
  unfold recordWith
  cases declared : r.record? name with
  | none => exact .of_forall fun depth => by simp only [buildInstance, declared]
  | some shape =>
    filter_upwards [buildsFields_of_zero (zero shape declared) shape.fields] with depth fields
    rcases count : shape.nullaryCount with _ | _ | more
    · simp only [buildInstance, declared, count]
    · simp only [buildInstance, declared, count, fields, map_eq_pure_bind]
      rfl
    · simp only [buildInstance, declared, count]

theorem buildsInstance_optional (zero : r.BuildsZero building (.optional family inner)) :
    r.BuildsInstance building (.optional family inner) := by
  refine eventually_of_succ ?_
  filter_upwards [zero] with depth done
  rw [buildInstance, defaultWithin]
  by_cases builds : r.hasDefault (.optional family inner) = true
  · rw [if_pos builds, done, instanceWith_optional builds, fieldZeroWith,
      if_pos (isSome_of_hasDefault builds)]
  · rw [if_neg builds, instanceWith, if_neg builds]

theorem buildsPayload_of_instance
    (whole : inner.isRecordIn building = false → r.BuildsInstance building inner) :
    r.BuildsPayload building inner := by
  refine eventually_of_succ ?_
  unfold payloadWith
  by_cases builds : r.hasDefault inner = true
  · by_cases under : inner.isRecordIn building = true
    · refine .of_forall fun depth => ?_
      rw [buildPayload, if_pos builds, if_pos builds, if_pos under]
      cases inner with
      | record name => rw [instanceWith, recordDefault_of_mem (Ty.isRecordIn_record.1 under)]
      | bool | int64 | float64 | utf8 | optional | sequence | function => cases under
    · filter_upwards [whole (Bool.eq_false_iff.2 under)] with depth done
      rw [buildPayload, if_pos builds, if_pos builds, if_neg under, done, defaultWithin]
  · exact .of_forall fun depth => by rw [buildPayload, if_neg builds, if_neg builds]

/-! ## All of them -/

/-- Every record off the stack is built. -/
def BuildsRecords (r : Registry) (building : List String) : Prop :=
  ∀ name, name ∉ building → r.BuildsInstance building (.record name)

/-- With records that are built, every type is: wrappers only lead further into the type. -/
theorem buildsInstance_of_records (records : r.BuildsRecords building) :
    ∀ ty : Ty, ty.isRecordIn building = false → r.BuildsInstance building ty
  | .record name, off => records name fun under => by
    rw [Ty.isRecordIn_record.2 under] at off
    cases off
  | .optional _ inner, _ =>
    have payload := buildsPayload_of_instance (buildsInstance_of_records records inner)
    buildsInstance_optional (buildsZero_optional payload)
  | .bool, _ | .int64, _ | .float64, _ | .utf8, _ =>
    eventually_of_succ (eventually_of_succ (.of_forall fun _ => rfl))
  | .sequence _, _ | .function _ _, _ => eventually_of_succ (.of_forall fun _ => rfl)

theorem buildsPayload_of_records (records : r.BuildsRecords building) (inner : Ty) :
    r.BuildsPayload building inner :=
  buildsPayload_of_instance (buildsInstance_of_records records inner)

/-- Records off the stack are built. The induction is on how many declared records are not under
construction. -/
theorem buildsRecords (r : Registry) (building : List String) : r.BuildsRecords building := by
  induction h : r.unbuilt building using Nat.strongRecOn generalizing building with
  | ind size ih =>
    intro name fresh
    unfold BuildsInstance defaultWithin instanceWith
    rw [recordDefault_of_fresh fresh]
    refine buildsRecord_of_zero fun shape declared => buildsZero_of_payload ?_
    have smaller := unbuilt_cons_lt (by simpa using fresh) declared
    exact buildsPayload_of_records (ih _ (h ▸ smaller) _ rfl)

/-- The payload of every type is built as over a fixed stack. -/
theorem buildPayload_ends (r : Registry) (building : List String) (inner : Ty) :
    Ends (r.buildPayload · inner building)
      (r.payloadWith (r.recordDefault building) inner, building) :=
  .of_eventually (fun depth => (r.kept depth).payload inner building)
    (buildsPayload_of_records (r.buildsRecords building) inner)

/-- So is the zero of every type. -/
theorem buildZero_ends (r : Registry) (building : List String) (ty : Ty) :
    Ends (r.buildZero · ty building) (r.fieldZeroWith (r.recordDefault building) ty, building) :=
  .of_eventually (fun depth => (r.kept depth).zero ty building)
    (buildsZero_of_payload (buildsPayload_of_records (r.buildsRecords building)) ty)

/-- So is the default instance of every type that is no record on the stack. -/
theorem buildInstance_ends (off : ty.isRecordIn building = false) :
    Ends (r.buildInstance · ty building) (r.defaultWithin building ty, building) :=
  .of_eventually (fun depth => (r.kept depth).whole ty building)
    (buildsInstance_of_records (r.buildsRecords building) ty off)

/-- Asked for a record that is on the stack already, the construction pushes it once more and still
ends. -/
theorem exists_buildInstance_ends (r : Registry) (building : List String) (ty : Ty) :
    ∃ outcome, Ends (r.buildInstance · ty building) (outcome, building) := by
  by_cases under : ty.isRecordIn building = true
  · cases ty with
    | record name =>
      have records := buildsPayload_of_records (r.buildsRecords (name :: building))
      exact ⟨_, .of_eventually (fun depth => (r.kept depth).whole _ building)
        (buildsRecord_of_zero fun _ _ => buildsZero_of_payload records)⟩
    | bool | int64 | float64 | utf8 | optional | sequence | function => cases under
  · exact ⟨_, buildInstance_ends (Bool.eq_false_iff.2 under)⟩

end Registry

end QueryDefaults
