import QueryDefaults.Proofs.Registry.Context

/-!
# The shape of a default instance

Whether a type can be built without arguments is asked before it is built, and the two are decided
apart. They agree (`constructDefault_follows_gate`): a type that cannot be built is reported as
missing its own default, and a type that can be built is built, unless the construction comes upon a
record with several nullary constructors. What is built is never absent, and it conforms to its
type: a record has its declared fields, and only the payload of a wrapper may be absent in place of
a default.
-/

set_option autoImplicit false

namespace QueryDefaults

/-- The zero of a primitive type. -/
def Ty.zero? : Ty → Option Value
  | .bool => some (.bool false)
  | .int64 => some (.int64 0)
  | .float64 => some (.float64 .zero)
  | .utf8 => some (.utf8 "")
  | _ => none

/-- Whether a type is a wrapper of a declared family. -/
def Registry.wraps (r : Registry) : Ty → Bool
  | .optional family _ => (r.family? family).isSome
  | _ => false

namespace Registry

mutual

/-- What the default instance of a type looks like. -/
inductive Conforms (r : Registry) : Ty → Value → Prop where
  | zero {ty : Ty} {value : Value} (primitive : ty.zero? = some value) : Conforms r ty value
  | sequence (elem : Ty) : Conforms r (.sequence elem) (.sequence [])
  | record {name : String} {shape : RecordShape} {fields : List (String × Value)}
      (declared : r.record? name = some shape) (each : FieldsConform r shape.fields fields) :
      Conforms r (.record name) (.record name fields)
  | wrapper {family : String} {inner : Ty} {payload : Value}
      (registered : (r.family? family).isSome = true) (holds : PayloadConforms r inner payload) :
      Conforms r (.optional family inner) (.wrapped family payload)

/-- What a wrapper around a type holds by default. -/
inductive PayloadConforms (r : Registry) : Ty → Value → Prop where
  /-- The type has no default, or it leads back to a record under construction. -/
  | absent (inner : Ty) : PayloadConforms r inner .null
  | present {inner : Ty} {value : Value} (conforms : Conforms r inner value) :
      PayloadConforms r inner value

/-- What a field of a type holds by default. -/
inductive FieldConforms (r : Registry) : Ty → Value → Prop where
  | zero {ty : Ty} {value : Value} (primitive : ty.zero? = some value) : FieldConforms r ty value
  | wrapper {family : String} {inner : Ty} {payload : Value}
      (registered : (r.family? family).isSome = true) (holds : PayloadConforms r inner payload) :
      FieldConforms r (.optional family inner) (.wrapped family payload)
  | absent {ty : Ty} (reference : ty.zero? = none) (unwrapped : r.wraps ty = false) :
      FieldConforms r ty .null

/-- What the fields of a record hold by default, under the declared names and in their order. -/
inductive FieldsConform (r : Registry) : List (String × Ty) → List (String × Value) → Prop where
  | nil : FieldsConform r [] []
  | cons {name : String} {ty : Ty} {value : Value} {fields : List (String × Ty)}
      {values : List (String × Value)} (first : FieldConforms r ty value)
      (rest : FieldsConform r fields values) :
      FieldsConform r ((name, ty) :: fields) ((name, value) :: values)

end

/-- The error that reports a declared record with several nullary constructors. -/
inductive Ambiguous (r : Registry) : QueryError → Prop where
  | record {name : String} {shape : RecordShape} (declared : r.record? name = some shape)
      (several : 2 ≤ shape.nullaryCount) :
      Ambiguous r (.ambiguousDefault (.record name) shape.nullaryCount)

variable {r : Registry} {α β : Type}

/-! ## Constructions that only ambiguity stops -/

/-- A construction that gives what is expected of it, unless it comes upon an ambiguous record. -/
def Builds (r : Registry) (expected : α → Prop) (x : Except QueryError α) : Prop :=
  match x with
  | .ok a => expected a
  | .error err => r.Ambiguous err

variable {expected : α → Prop} {x : Except QueryError α}

theorem Builds.pure {a : α} (h : expected a) : r.Builds expected (pure a) := h

theorem Builds.imp {other : α → Prop} (h : r.Builds expected x)
    (weaken : ∀ a, expected a → other a) : r.Builds other x := by
  cases x with
  | ok a => exact weaken a h
  | error err => exact h

/-- Constructions can be put one behind the other. -/
theorem Builds.bind {other : β → Prop} {f : α → Except QueryError β} (h : r.Builds expected x)
    (next : ∀ a, expected a → r.Builds other (f a)) : r.Builds other (x >>= f) := by
  cases x with
  | ok a => exact next a h
  | error err => exact h

/-! ## The parts of a default instance -/

/-- A record that can be built has a nullary constructor. -/
theorem hasDefault_record_iff {name : String} :
    r.hasDefault (.record name) = true ↔
      ∃ shape, r.record? name = some shape ∧ shape.nullaryCount ≠ 0 := by
  simp [hasDefault, Option.any_eq_true, RecordShape.nullaryCount, List.countP_eq_zero]

/-- Only a declared family has a nullary constructor. -/
theorem isSome_of_hasDefault {family : String} {inner : Ty}
    (builds : r.hasDefault (.optional family inner) = true) :
    (r.family? family).isSome = true := by
  obtain ⟨arities, declared, -⟩ := Option.any_eq_true _ _ |>.1 builds
  rw [declared]
  rfl

/-- What is known of the records under construction: those that can be built are payloads of their
type. -/
def RecordsBuild (r : Registry) (record : String → Except QueryError Value) : Prop :=
  ∀ name, r.hasDefault (.record name) = true →
    r.Builds (r.PayloadConforms (.record name)) (record name)

variable {record : String → Except QueryError Value}

/-- A wrapper that can be built is built around the payload of its inner type. -/
theorem instanceWith_optional {family : String} {inner : Ty}
    (builds : r.hasDefault (.optional family inner) = true) :
    r.instanceWith record (.optional family inner) = (do
      let payload ← r.payloadWith record inner
      return .wrapped family payload) := by
  rw [instanceWith, if_pos builds, payloadWith]
  split <;> rfl

theorem builds_wrapper {family : String} {inner : Ty}
    (payload : r.Builds (r.PayloadConforms inner) (r.payloadWith record inner))
    (builds : r.hasDefault (.optional family inner) = true) :
    r.Builds (r.Conforms (.optional family inner))
      (r.instanceWith record (.optional family inner)) := by
  rw [instanceWith_optional builds]
  exact payload.bind fun value holds => .pure (.wrapper (isSome_of_hasDefault builds) holds)

theorem builds_payloadWith {inner : Ty}
    (whole : r.hasDefault inner = true →
      r.Builds (r.PayloadConforms inner) (r.instanceWith record inner)) :
    r.Builds (r.PayloadConforms inner) (r.payloadWith record inner) := by
  unfold payloadWith
  split
  · rename_i builds
    exact whole builds
  · exact .pure (.absent inner)

/-- With records that build, every type that can be built gives a payload. -/
theorem builds_instanceWith (records : r.RecordsBuild record) :
    ∀ ty : Ty, r.hasDefault ty = true →
      r.Builds (r.PayloadConforms ty) (r.instanceWith record ty)
  | .bool, _ | .int64, _ | .float64, _ | .utf8, _ => .pure (.present (.zero rfl))
  | .sequence elem, _ => .pure (.present (.sequence elem))
  | .record name, builds => records name builds
  | .function _ _, builds => nomatch builds
  | .optional _ inner, builds =>
    (builds_wrapper (builds_payloadWith (builds_instanceWith records inner)) builds).imp
      fun _ => .present

theorem builds_fieldZeroWith (records : r.RecordsBuild record) (ty : Ty) :
    r.Builds (r.FieldConforms ty) (r.fieldZeroWith record ty) := by
  cases ty with
  | bool | int64 | float64 | utf8 => exact .pure (.zero rfl)
  | record | sequence | function => exact .pure (.absent rfl rfl)
  | optional family inner =>
    simp only [fieldZeroWith]
    split
    · rename_i registered
      have payload := builds_payloadWith (builds_instanceWith records inner)
      exact payload.bind fun value holds => .pure (.wrapper registered holds)
    · rename_i unregistered
      exact .pure (.absent rfl (Bool.eq_false_iff.2 unregistered))

theorem builds_fieldsWith (records : r.RecordsBuild record) (fields : List (String × Ty)) :
    r.Builds (r.FieldsConform fields) (r.fieldsWith record fields) := by
  induction fields with
  | nil => exact .pure .nil
  | cons field fields ih =>
    rw [fieldsWith_cons]
    exact (builds_fieldZeroWith records field.2).bind fun zero first =>
      ih.bind fun zeros rest => .pure (.cons first rest)

/-- A record that can be built is an instance of itself, unless it is ambiguous, or a record in its
fields is. -/
theorem builds_recordWith (records : r.RecordsBuild record) {name : String}
    (builds : r.hasDefault (.record name) = true) :
    r.Builds (r.Conforms (.record name)) (r.recordWith record name) := by
  obtain ⟨shape, declared, nullary⟩ := hasDefault_record_iff.1 builds
  simp only [recordWith, declared]
  rcases count : shape.nullaryCount with _ | _ | more
  · exact absurd count nullary
  · exact (builds_fieldsWith records shape.fields).bind fun fields each =>
      .pure (.record declared each)
  · have several : 2 ≤ shape.nullaryCount := by omega
    have ambiguous := Ambiguous.record declared several
    rw [count] at ambiguous
    exact ambiguous

/-! ## Whole default instances -/

/-- Whatever is under construction, a record that can be built is a payload of its type. The
induction is on how many declared records are not under construction. -/
theorem recordsBuild_recordDefault (r : Registry) (building : List String) :
    r.RecordsBuild (r.recordDefault building) := by
  induction h : r.unbuilt building using Nat.strongRecOn generalizing building with
  | ind size ih =>
    intro name builds
    by_cases fresh : name ∈ building
    · rw [recordDefault_of_mem fresh]
      exact .pure (.absent _)
    · obtain ⟨shape, declared, -⟩ := hasDefault_record_iff.1 builds
      have smaller := unbuilt_cons_lt (by simpa using fresh) declared
      rw [recordDefault_of_fresh fresh]
      exact (builds_recordWith (ih _ (h ▸ smaller) _ rfl) builds).imp fun _ => .present

/-- With nothing under construction, a type that can be built is built as a whole. -/
theorem builds_constructDefault {ty : Ty} (builds : r.hasDefault ty = true) :
    r.Builds (r.Conforms ty) (r.constructDefault ty) := by
  cases ty with
  | bool | int64 | float64 | utf8 => exact .pure (.zero rfl)
  | sequence elem => exact .pure (.sequence elem)
  | function => cases builds
  | record name =>
    have built := builds_recordWith (r.recordsBuild_recordDefault [name]) builds
    rw [← recordDefault_of_fresh List.not_mem_nil] at built
    exact built
  | optional family inner =>
    have records := r.recordsBuild_recordDefault []
    exact builds_wrapper (builds_payloadWith (builds_instanceWith records inner)) builds

theorem Conforms.ne_null {ty : Ty} {value : Value} (conforms : r.Conforms ty value) :
    value ≠ .null := by
  rintro rfl
  cases conforms with
  | zero primitive => cases ty <;> cases primitive

/-- A type that cannot be built is missing its own default. -/
theorem constructDefault_of_closed {ty : Ty} (closed : r.hasDefault ty = false) :
    r.constructDefault ty = .error (.missingDefault ty) := by
  unfold constructDefault defaultWithin
  cases ty with
  | bool | int64 | float64 | utf8 | sequence => cases closed
  | function => rfl
  | optional family inner => rw [instanceWith, if_neg (by simp [closed])]
  | record name =>
    rw [instanceWith, recordDefault_of_fresh List.not_mem_nil, recordWith]
    cases declared : r.record? name with
    | none => rfl
    | some shape =>
      have none_nullary : shape.nullaryCount = 0 := by
        by_contra nullary
        have builds := hasDefault_record_iff.2 ⟨shape, declared, nullary⟩
        rw [closed] at builds
        cases builds
      simp only [none_nullary]

/-- **The gate and the construction agree.** A type that cannot be built without arguments is
reported as missing its own default. A type that can be built is built, and its default is not
absent and conforms to it, unless the construction comes upon a declared record with several nullary
constructors, which it reports. -/
theorem constructDefault_follows_gate (r : Registry) (ty : Ty) :
    (r.hasDefault ty = false → r.constructDefault ty = .error (.missingDefault ty)) ∧
    (r.hasDefault ty = true →
      (∃ name shape, r.record? name = some shape ∧ 2 ≤ shape.nullaryCount ∧
        r.constructDefault ty = .error (.ambiguousDefault (.record name) shape.nullaryCount)) ∨
      ∃ value, r.constructDefault ty = .ok value ∧ value ≠ .null ∧ r.Conforms ty value) := by
  refine ⟨constructDefault_of_closed, fun builds => ?_⟩
  have built := builds_constructDefault builds
  cases done : r.constructDefault ty with
  | ok value =>
    rw [done] at built
    exact .inr ⟨value, rfl, built.ne_null, built⟩
  | error err =>
    rw [done] at built
    obtain ⟨declared, several⟩ := built
    exact .inl ⟨_, _, declared, several, rfl⟩

/-- A record with wrappers around itself and around an undeclared record is built, a record with a
wrapper around an ambiguous one is not, and the undeclared record is missing its own default. -/
theorem constructDefault_follows_gate_wrappers :
    let r := ((standard.registerFamily "Maybe" [0, 1]).registerRecord "Twin"
        { constructors := [[], []] }).registerRecord "Pair"
        { fields := [("one", .int64), ("other", .optional "Nullable" (.record "Twin"))],
          constructors := [[]] }
    let r := r.registerRecord "Node"
        { fields := [("next", .optional "Nullable" (.record "Node")),
            ("owner", .optional "Maybe" (.record "Ghost")), ("tags", .sequence .utf8)],
          constructors := [[.int64], []] }
    (r.hasDefault (.record "Node") = true ∧ ∃ value,
      r.constructDefault (.record "Node") = .ok value ∧ value ≠ .null ∧
        r.Conforms (.record "Node") value) ∧
    (r.hasDefault (.record "Pair") = true ∧ r.constructDefault (.record "Pair") =
      .error (.ambiguousDefault (.record "Twin") 2)) ∧
    r.hasDefault (.record "Ghost") = false ∧
      r.constructDefault (.record "Ghost") = .error (.missingDefault (.record "Ghost")) := by
  intro _ r
  have node : r.constructDefault (.record "Node") = .ok (.record "Node"
      [("next", .wrapped "Nullable" .null), ("owner", .wrapped "Maybe" .null),
        ("tags", .null)]) := by
    have next : r.recordDefault ["Node"] "Node" = .ok .null := recordDefault_of_mem (by simp)
    refine (recordDefault_of_fresh (by simp)).trans ?_
    refine recordWith_eq_ok_iff.2 ⟨_, _, rfl, rfl, fieldsWith_eq_ok_iff.2 ?_, rfl⟩
    exact .cons ⟨rfl, (fieldZeroWith_wrapper rfl rfl).2 ⟨_, next, rfl⟩⟩
      (.cons ⟨rfl, rfl⟩ (.cons ⟨rfl, rfl⟩ .nil))
  have pair : r.constructDefault (.record "Pair") =
      .error (.ambiguousDefault (.record "Twin") 2) := by
    have twin : r.recordDefault ["Pair"] "Twin" =
        .error (.ambiguousDefault (.record "Twin") 2) := by
      rw [recordDefault_of_fresh (by simp)]
      rfl
    have other : r.fieldZeroWith (r.recordDefault ["Pair"])
        (.optional "Nullable" (.record "Twin")) = .error (.ambiguousDefault (.record "Twin") 2) :=
      congrArg (· >>= _) twin
    have fields : r.fieldsWith (r.recordDefault ["Pair"])
        [("one", .int64), ("other", .optional "Nullable" (.record "Twin"))] =
          .error (.ambiguousDefault (.record "Twin") 2) := by
      rw [fieldsWith_cons, fieldsWith_cons, other]
      rfl
    exact (recordDefault_of_fresh (by simp)).trans (congrArg (· >>= _) fields)
  refine ⟨⟨rfl, ?_⟩, ⟨rfl, pair⟩, rfl, (constructDefault_follows_gate r _).1 rfl⟩
  obtain ⟨_, _, -, -, fails⟩ | built := (constructDefault_follows_gate r (.record "Node")).2 rfl
  · cases node.symm.trans fails
  · exact built

end Registry

end QueryDefaults
