import Mathlib.Data.List.Dedup
import Mathlib.Data.List.Perm.Subperm
import QueryDefaults.Proofs.Registry.EmptyWrapper
import QueryDefaults.Proofs.Registry.Stack

/-!
# How deep default instances nest

Declarations may refer to each other in circles, but the records that lie on the way from the root of
a default instance to one of its leaves all have different names: what is built inside a record is
built with that record on the stack, and holds no instance of it. So records nest at most as deep as
there are declared records (`construction_ends_unnested`).
-/

set_option autoImplicit false

namespace QueryDefaults

namespace Value

/-- The values that a value is directly made of. -/
def parts : Value → List Value
  | .record _ fields => fields.map Prod.snd
  | .wrapped _ payload => [payload]
  | .sequence items => items
  | _ => []

/-- The name of a record. -/
def recordName? : Value → Option String
  | .record name _ => some name
  | _ => none

/-- The values on the way from the root of a value to one of its leaves. -/
inductive Path : Value → List Value → Prop where
  | leaf {v : Value} (bare : v.parts = []) : Path v [v]
  | down {v part : Value} {path : List Value} (mem : part ∈ v.parts) (rest : Path part path) :
      Path v (v :: path)

/-- The names of the records on a path. -/
def recordNames (path : List Value) : List String := path.filterMap recordName?

end Value

open Value

namespace Registry

/-- The names that records are declared under. -/
def recordNames (r : Registry) : List String := (r.records.map Prod.fst).dedup

/-- On every path of a value, the records are declared ones that are not on the stack, and none of
them comes twice. -/
def Unnested (r : Registry) (building : List String) (v : Value) : Prop :=
  ∀ path, v.Path path → (Value.recordNames path).Nodup ∧
    ∀ name ∈ Value.recordNames path, name ∉ building ∧ (r.record? name).isSome = true

variable {r : Registry} {building : List String} {v : Value} {name : String}

theorem mem_recordNames : name ∈ r.recordNames ↔ (r.record? name).isSome = true := by
  rw [recordNames, List.mem_dedup, record?, List.lookup_isSome_iff]
  simp

/-- Declared names without a repetition are at most as many as there are. -/
theorem length_le_recordNames {names : List String} (distinct : names.Nodup)
    (declared : ∀ name ∈ names, (r.record? name).isSome = true) :
    names.length ≤ r.recordNames.length :=
  have sub : names ⊆ r.recordNames := fun name here => mem_recordNames.2 (declared name here)
  (List.subperm_of_subset distinct sub).length_le

/-! ## Values from their parts -/

theorem unnested_of_parts (plain : v.recordName? = none)
    (each : ∀ part ∈ v.parts, r.Unnested building part) : r.Unnested building v := by
  intro path onPath
  cases onPath with
  | leaf bare => simp [Value.recordNames, plain]
  | down mem rest =>
    rw [Value.recordNames, List.filterMap_cons_none plain]
    exact each _ mem _ rest

/-- A record is added to the paths of its fields, none of which leads through it. -/
theorem unnested_record {fields : List (String × Value)} (fresh : name ∉ building)
    (declared : (r.record? name).isSome = true)
    (each : ∀ field ∈ fields, r.Unnested (name :: building) field.2) :
    r.Unnested building (.record name fields) := by
  intro path onPath
  cases onPath with
  | leaf bare => simp [Value.recordNames, recordName?, fresh, declared]
  | @down _ part path mem rest =>
    obtain ⟨field, here, rfl⟩ := List.mem_map.1 mem
    obtain ⟨distinct, off⟩ := each field here path rest
    have names : Value.recordNames (.record name fields :: path) =
      name :: Value.recordNames path := rfl
    rw [names, List.nodup_cons, List.forall_mem_cons]
    refine ⟨⟨fun again => (off name again).1 List.mem_cons_self, distinct⟩, ⟨fresh, declared⟩, ?_⟩
    intro other onRest
    exact ⟨fun under => (off other onRest).1 (List.mem_cons_of_mem _ under), (off other onRest).2⟩

/-- A value without parts that is no record adds nothing to a path. -/
theorem unnested_bare (plain : v.recordName? = none) (bare : v.parts = []) :
    r.Unnested building v :=
  unnested_of_parts plain fun part here => by
    rw [bare] at here
    cases here

theorem unnested_wrapped {family : String} (payload : r.Unnested building v) :
    r.Unnested building (.wrapped family v) :=
  unnested_of_parts rfl fun _ here => List.mem_singleton.1 here ▸ payload

/-! ## The parts of a default instance -/

variable {record : String → Except QueryError Value} {ty inner : Ty}

theorem unnested_payloadWith
    (whole : ∀ v, r.instanceWith record inner = .ok v → r.Unnested building v)
    (built : r.payloadWith record inner = .ok v) : r.Unnested building v := by
  unfold payloadWith at built
  split at built
  · exact whole v built
  · cases built
    exact unnested_bare rfl rfl

theorem unnested_instanceWith
    (records : ∀ name v, record name = .ok v → r.Unnested building v) :
    ∀ (ty : Ty) (v : Value), r.instanceWith record ty = .ok v → r.Unnested building v
  | .bool, _, built | .int64, _, built | .float64, _, built | .utf8, _, built
  | .sequence _, _, built => by
    cases built
    exact unnested_bare rfl rfl
  | .record name, v, built => records name v built
  | .function _ _, _, built => nomatch built
  | .optional family inner, v, built => by
    by_cases builds : r.hasDefault (.optional family inner) = true
    · rw [instanceWith_optional builds] at built
      obtain ⟨payload, done, rest⟩ := except_bind_eq_ok_iff.1 built
      cases rest
      exact unnested_wrapped (unnested_payloadWith (unnested_instanceWith records inner) done)
    · rw [instanceWith, if_neg builds] at built
      cases built

theorem unnested_fieldZeroWith
    (records : ∀ name v, record name = .ok v → r.Unnested building v)
    (built : r.fieldZeroWith record ty = .ok v) : r.Unnested building v := by
  cases ty with
  | optional family inner =>
    rw [fieldZeroWith] at built
    split at built
    · obtain ⟨payload, done, rest⟩ := except_bind_eq_ok_iff.1 built
      cases rest
      exact unnested_wrapped (unnested_payloadWith (unnested_instanceWith records inner) done)
    · cases built
      exact unnested_bare rfl rfl
  | bool | int64 | float64 | utf8 | record | sequence | function =>
    cases built
    exact unnested_bare rfl rfl

/-! ## Whole default instances -/

/-- The default instance of a record keeps off the stack. The induction is on how many declared
records are not under construction. -/
theorem unnested_recordDefault (built : r.recordDefault building name = .ok v) :
    r.Unnested building v := by
  induction h : r.unbuilt building using Nat.strongRecOn generalizing building name v with
  | ind size ih =>
    by_cases fresh : name ∈ building
    · rw [recordDefault_of_mem fresh] at built
      cases built
      exact unnested_bare rfl rfl
    · obtain ⟨shape, fields, declared, done, rfl⟩ := recordDefault_eq_ok fresh built
      have smaller := unbuilt_cons_lt (by simpa using fresh) declared
      refine unnested_record fresh (by rw [declared]; rfl) fun field here => ?_
      obtain ⟨i, at_i⟩ := List.mem_iff_getElem?.1 here
      obtain ⟨_, -, -, zero⟩ := forall₂_getElem? (fieldsWith_eq_ok_iff.1 done).flip at_i
      exact unnested_fieldZeroWith (fun name v built => ih _ (h ▸ smaller) built rfl) zero

theorem unnested_constructDefault (built : r.constructDefault ty = .ok v) : r.Unnested [] v :=
  unnested_instanceWith (fun _ _ => unnested_recordDefault) ty v built

/-- **Default construction ends, and it does not nest a record in itself.** Whatever the declarations
refer to and whatever is on the stack, each procedure of the construction ends, well or not, with the
stack as it was; from the empty stack, the result is the default instance. On every path from the
root of a default instance to a leaf the records are declared ones and their names are all different,
so there are at most as many of them as there are declared records. -/
theorem construction_ends_unnested (r : Registry) (ty : Ty) :
    (∀ building,
      (∃ outcome, Ends (r.buildInstance · ty building) (outcome, building)) ∧
      (∃ outcome, Ends (r.buildZero · ty building) (outcome, building)) ∧
      ∃ outcome, Ends (r.buildPayload · ty building) (outcome, building)) ∧
    Ends (r.buildInstance · ty []) (r.constructDefault ty, []) ∧
    ∀ value, r.constructDefault ty = .ok value → ∀ path, value.Path path →
      (Value.recordNames path).Nodup ∧
      (∀ name ∈ Value.recordNames path, (r.record? name).isSome = true) ∧
      (Value.recordNames path).length ≤ r.recordNames.length := by
  refine ⟨fun building => ?_, ?_, fun value built path onPath => ?_⟩
  · exact ⟨r.exists_buildInstance_ends building ty, ⟨_, r.buildZero_ends building ty⟩,
      ⟨_, r.buildPayload_ends building ty⟩⟩
  · exact buildInstance_ends (by cases ty <;> rfl)
  · obtain ⟨distinct, off⟩ := unnested_constructDefault built path onPath
    have declared := fun name here => (off name here).2
    exact ⟨distinct, declared, length_le_recordNames distinct declared⟩

/-- Two records that wrap each other: the default of the first one holds the second, and there the
construction stops. -/
theorem construction_ends_unnested_circle :
    let pong : Value := .record "Pong" [("ping", .wrapped "Nullable" .null)]
    let path := [defaultPing, .wrapped "Nullable" pong, pong, .wrapped "Nullable" .null, .null]
    Ends (pingPong.buildInstance · (.record "Ping") []) (.ok defaultPing, []) ∧
      (∃ outcome, Ends (pingPong.buildInstance · (.record "Ping") ["Ping"]) (outcome, ["Ping"])) ∧
      defaultPing.Path path ∧ Value.recordNames path = ["Ping", "Pong"] ∧
      (Value.recordNames path).length ≤ pingPong.recordNames.length ∧
      pingPong.recordNames.length = 2 := by
  intro pong path
  obtain ⟨ends, built, unnested⟩ := construction_ends_unnested pingPong (.record "Ping")
  have onPath : defaultPing.Path path :=
    .down (by simp [defaultPing, pong, parts]) <| .down (by simp [parts]) <|
      .down (by simp [pong, parts]) <| .down (by simp [parts]) (.leaf rfl)
  have bounded := (unnested _ constructDefault_ping path onPath).2.2
  rw [constructDefault_ping] at built
  exact ⟨built, (ends ["Ping"]).1, onPath, rfl, bounded, by decide⟩

end Registry

end QueryDefaults
