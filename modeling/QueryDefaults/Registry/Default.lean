import QueryDefaults.Provider
import QueryDefaults.Registry

/-!
# Default instances

The default instance of a record has every field at its zero: primitives at their zero value, a
wrapper of a declared family around the default of its inner type, and everything else absent. A
wrapper field that leads back to a record under construction has no finite default, so its payload
is absent; this is what makes the construction end on every registry.
-/

set_option autoImplicit false

namespace QueryDefaults.Registry

/-- The default instance of a type, given the one of each record. -/
def instanceWith (r : Registry) (record : String → Except QueryError Value) :
    Ty → Except QueryError Value
  | .bool => .ok (.bool false)
  | .int64 => .ok (.int64 0)
  | .float64 => .ok (.float64 .zero)
  | .utf8 => .ok (.utf8 "")
  | .sequence _ => .ok (.sequence [])
  | .record name => record name
  | .optional family inner =>
    if r.hasDefault (.optional family inner) then do
      let payload ← if r.hasDefault inner then r.instanceWith record inner else .ok .null
      return .wrapped family payload
    else .error (.missingDefault (.optional family inner))
  | .function params result => .error (.missingDefault (.function params result))

/-- The payload of the empty wrapper around a type: its default, and absent when it has none. -/
def payloadWith (r : Registry) (record : String → Except QueryError Value) (inner : Ty) :
    Except QueryError Value :=
  if r.hasDefault inner then r.instanceWith record inner else .ok .null

/-- The value of a field that nothing has been written to. Wrappers of declared families are values
and hold a payload; records, sequences and functions are references and start out absent. -/
def fieldZeroWith (r : Registry) (record : String → Except QueryError Value) :
    Ty → Except QueryError Value
  | .optional family inner =>
    if (r.family? family).isSome then do
      let payload ← r.payloadWith record inner
      return .wrapped family payload
    else .ok .null
  | .record _ | .sequence _ | .function _ _ => .ok .null
  | ty => r.instanceWith record ty

/-- The zero of every field, in order. -/
def fieldsWith (r : Registry) (record : String → Except QueryError Value)
    (fields : List (String × Ty)) : Except QueryError (List (String × Value)) :=
  fields.mapM fun (name, ty) => do
    let zero ← r.fieldZeroWith record ty
    return (name, zero)

/-- How many declarations are of records that are not under construction. -/
def unbuilt (r : Registry) (building : List String) : Nat :=
  (r.records.filter fun entry => !building.contains entry.1).length

/-- Taking up one more declared record leaves fewer that are not under construction. -/
theorem unbuilt_cons_lt {r : Registry} {building : List String} {name : String}
    {shape : RecordShape} (fresh : ¬ building.contains name) (found : r.record? name = some shape) :
    r.unbuilt (name :: building) < r.unbuilt building := by
  have split : r.records.filter (fun entry => !(name :: building).contains entry.1) =
      (r.records.filter fun entry => !building.contains entry.1).filter
        fun entry => entry.1 != name := by
    rw [List.filter_filter]
    congr 1
    funext entry
    cases h : entry.1 == name <;> simp_all
  unfold unbuilt
  rw [split]
  refine List.length_filter_lt_length_iff_exists.2 ⟨(name, shape), ?_, by simp⟩
  rw [List.mem_filter]
  refine ⟨?_, by simpa using fresh⟩
  unfold record? at found
  obtain ⟨before, after, h, -⟩ := List.lookup_eq_some_iff.1 found
  simp [h]

/-- The default instance of a record while the records `building` are under construction. -/
def recordDefault (r : Registry) (building : List String) (name : String) :
    Except QueryError Value :=
  if _fresh : building.contains name then .ok .null
  else
    match _found : r.record? name with
    | none => .error (.missingDefault (.record name))
    | some shape =>
      match shape.nullaryCount with
      | 0 => .error (.missingDefault (.record name))
      | 1 => do
        let fields ← r.fieldsWith (fun inner => r.recordDefault (name :: building) inner) shape.fields
        return .record name fields
      | count => .error (.ambiguousDefault (.record name) count)
termination_by r.unbuilt building
decreasing_by exact unbuilt_cons_lt _fresh _found

/-- The default instance of a type while the records `building` are under construction. -/
def defaultWithin (r : Registry) (building : List String) (ty : Ty) : Except QueryError Value :=
  r.instanceWith (r.recordDefault building) ty

/-- The default instance of a type. -/
def constructDefault (r : Registry) (ty : Ty) : Except QueryError Value := r.defaultWithin [] ty

/-- The wrapper of the given type around a value, built by the only constructor of the family that
takes arguments, which must take exactly one. -/
def constructWrapper (r : Registry) (ty : Ty) (inner : Value) : Except QueryError Value :=
  match ty with
  | .optional family _ =>
    match r.family? family with
    | none => .error (.notOptional ty)
    | some arities =>
      match arities.filter (0 < ·) with
      | [1] => .ok (.wrapped family inner)
      | [arity] => .error (.wrapperArity ty arity)
      | others => .error (.ambiguousWrapper ty others.length)
  | _ => .error (.notOptional ty)

/-- What a registry builds for an optional wrapper is the wrapped value; for other types it builds
nothing. -/
theorem wrapped_of_constructWrapper {r : Registry} {ty : Ty} {value wrapper : Value}
    (built : r.constructWrapper ty value = .ok wrapper) :
    ∃ family inner, ty = .optional family inner ∧ wrapper = .wrapped family value := by
  unfold constructWrapper at built
  split at built
  · split at built
    · cases built
    · split at built <;> cases built
      exact ⟨_, _, rfl, rfl⟩
  · cases built

/-- The registry as a provider. -/
def provider (r : Registry) : Provider where
  hasDefault := r.hasDefault
  constructDefault := r.constructDefault
  innerOfOptional? := r.innerOfOptional?
  constructWrapper := r.constructWrapper

end QueryDefaults.Registry
