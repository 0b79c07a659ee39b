import QueryDefaults.Proofs.Registry.Reach
import QueryDefaults.Proofs.Value.Same

/-!
# Defaults under construction

What a default instance is depends on the stack of records under construction only through the ones
that it meets. Where it meets none, the stack does not matter (`recordDefault_append`); where it
meets one, the payload there is cut, so that the default differs from the one without the stack
(`differs_of_meets`). For a type, the records that it leads to are the ones that matter
(`defaultWithin_of_apart`, `differs_of_leadsTo`).
-/

set_option autoImplicit false

namespace QueryDefaults

/-- A computation in two parts ends well when both do. -/
theorem except_bind_eq_ok_iff {ε α β : Type} {x : Except ε α} {f : α → Except ε β} {b : β} :
    x >>= f = .ok b ↔ ∃ a, x = .ok a ∧ f a = .ok b := by
  constructor
  · intro h
    cases x with
    | error err => cases h
    | ok a => exact ⟨a, rfl, h⟩
  · rintro ⟨a, rfl, h⟩
    exact h

namespace Registry

variable {r : Registry} {record record' : String → Except QueryError Value} {name : String}

/-! ## The steps of the construction -/

/-- The default instance of a record, given the ones of the records in its wrapper fields. -/
def recordWith (r : Registry) (record : String → Except QueryError Value) (name : String) :
    Except QueryError Value :=
  match r.record? name with
  | none => .error (.missingDefault (.record name))
  | some shape =>
    match shape.nullaryCount with
    | 0 => .error (.missingDefault (.record name))
    | 1 => do
      let fields ← r.fieldsWith record shape.fields
      return .record name fields
    | count => .error (.ambiguousDefault (.record name) count)

theorem recordDefault_eq (r : Registry) (building : List String) (name : String) :
    r.recordDefault building name =
      if name ∈ building then .ok .null
      else r.recordWith (r.recordDefault (name :: building)) name := by
  rw [recordDefault]
  by_cases h : name ∈ building
  · simp [h]
  · rw [dif_neg (by simpa using h), if_neg h]
    split
    · rename_i found
      simp only [recordWith, found]
    · rename_i shape found
      rcases count : shape.nullaryCount with _ | _ | more <;> simp only [recordWith, found, count]

theorem recordDefault_of_mem {building : List String} (h : name ∈ building) :
    r.recordDefault building name = .ok .null := by
  rw [recordDefault_eq, if_pos h]

theorem recordDefault_of_fresh {building : List String} (h : name ∉ building) :
    r.recordDefault building name = r.recordWith (r.recordDefault (name :: building)) name := by
  rw [recordDefault_eq, if_neg h]

/-! ## The same records give the same default -/

theorem instanceWith_congr {ty : Ty}
    (same : ∀ name, r.coreRecord? ty = some name → record name = record' name) :
    r.instanceWith record ty = r.instanceWith record' ty := by
  fun_induction coreRecord? r ty with
  | case1 name => exact same name rfl
  | case2 family inner builds ih =>
    rw [instanceWith, instanceWith, ih same]
  | case3 family inner builds =>
    rw [instanceWith, instanceWith]
    by_cases outer : r.hasDefault (.optional family inner) = true
    · have inside : ¬ r.hasDefault inner = true := fun inside => builds ⟨outer, inside⟩
      rw [if_neg inside, if_neg inside]
    · rw [if_neg outer, if_neg outer]
  | case4 ty notRecord notOptional =>
    cases ty with
    | record name => exact absurd rfl (notRecord name)
    | optional family inner => exact absurd rfl (notOptional family inner)
    | bool | int64 | float64 | utf8 | sequence | function => rfl

theorem fieldZeroWith_congr {outer : String} {shape : RecordShape}
    (declared : r.record? outer = some shape)
    (same : ∀ inner, r.Embeds outer inner → record inner = record' inner) {field : String × Ty}
    (mem : field ∈ shape.fields) :
    r.fieldZeroWith record field.2 = r.fieldZeroWith record' field.2 := by
  obtain ⟨name, ty⟩ := field
  cases ty with
  | optional family payload =>
    simp only [fieldZeroWith, payloadWith]
    by_cases registered : (r.family? family).isSome = true
    · by_cases builds : r.hasDefault payload = true
      · rw [instanceWith_congr fun inner core =>
          same inner ⟨declared, mem, registered, builds, core⟩]
      · simp only [if_neg builds]
    · rw [if_neg registered, if_neg registered]
  | bool | int64 | float64 | utf8 | record | sequence | function => rfl

theorem fieldsWith_congr {s : Registry} {fields : List (String × Ty)}
    (same : ∀ field ∈ fields, r.fieldZeroWith record field.2 = s.fieldZeroWith record' field.2) :
    r.fieldsWith record fields = s.fieldsWith record' fields := by
  induction fields with
  | nil => rfl
  | cons field fields ih =>
    obtain ⟨name, ty⟩ := field
    have first : r.fieldZeroWith record ty = s.fieldZeroWith record' ty :=
      same (name, ty) List.mem_cons_self
    have rest := ih fun other hother => same other (List.mem_cons_of_mem _ hother)
    unfold fieldsWith at rest ⊢
    rw [List.mapM_cons, List.mapM_cons, rest]
    simp only [first]

theorem recordWith_congr
    (same : ∀ inner, r.Embeds name inner → record inner = record' inner) :
    r.recordWith record name = r.recordWith record' name := by
  unfold recordWith
  cases declared : r.record? name with
  | none => rfl
  | some shape =>
    simp only []
    rw [fieldsWith_congr fun field mem => fieldZeroWith_congr declared same mem]

/-- Records under construction that a record does not meet make no difference to its default. -/
theorem recordDefault_append {targets building : List String}
    (apart : ¬ r.Meets targets building name) :
    r.recordDefault (building ++ targets) name = r.recordDefault building name := by
  induction h : r.unbuilt building using Nat.strongRecOn generalizing building name with
  | ind size ih =>
    by_cases fresh : name ∈ building
    · rw [recordDefault_of_mem fresh, recordDefault_of_mem (List.mem_append_left _ fresh)]
    · have miss : name ∉ targets := fun hit => apart (.here fresh hit)
      have off : name ∉ building ++ targets := by simp [fresh, miss]
      rw [recordDefault_of_fresh fresh, recordDefault_of_fresh off]
      refine recordWith_congr fun inner embeds => ?_
      obtain ⟨declared⟩ := id embeds
      have smaller := unbuilt_cons_lt (by simpa using fresh) declared
      exact ih _ (h ▸ smaller) (fun later => apart (.step fresh miss embeds later)) rfl

/-- Records under construction that a type does not lead to make no difference to its default. -/
theorem defaultWithin_of_apart {building : List String} {ty : Ty}
    (apart : ∀ name ∈ building, ¬ r.LeadsTo ty name) :
    r.defaultWithin building ty = r.constructDefault ty := by
  refine instanceWith_congr fun core found => ?_
  have off : ¬ r.Meets building [] core := fun meets => by
    obtain ⟨target, hit, path⟩ := meets_iff.1 meets
    exact apart target hit ⟨core, found, path⟩
  exact recordDefault_append off

/-! ## What a construction that ends well has built -/

/-- A record is built when it has one nullary constructor and all its fields have zeros. -/
theorem recordWith_eq_ok_iff {value : Value} :
    r.recordWith record name = .ok value ↔
      ∃ shape fields, r.record? name = some shape ∧ shape.nullaryCount = 1 ∧
        r.fieldsWith record shape.fields = .ok fields ∧ value = .record name fields := by
  constructor
  · intro built
    unfold recordWith at built
    split at built
    · cases built
    · rename_i shape declared
      split at built
      · cases built
      · rename_i single
        obtain ⟨fields, done, rest⟩ := except_bind_eq_ok_iff.1 built
        cases rest
        exact ⟨shape, fields, declared, single, done, rfl⟩
      · cases built
  · rintro ⟨shape, fields, declared, single, done, rfl⟩
    simp only [recordWith, declared, single, done]
    rfl

/-- Outside the stack, the default of a record is an instance of it. -/
theorem recordDefault_eq_ok {building : List String} {value : Value} (fresh : name ∉ building)
    (built : r.recordDefault building name = .ok value) :
    ∃ shape fields, r.record? name = some shape ∧
      r.fieldsWith (r.recordDefault (name :: building)) shape.fields = .ok fields ∧
      value = .record name fields := by
  rw [recordDefault_of_fresh fresh, recordWith_eq_ok_iff] at built
  obtain ⟨shape, fields, declared, -, done, rfl⟩ := built
  exact ⟨shape, fields, declared, done, rfl⟩

/-- Lists that go together place by place do so at each place. -/
theorem forall₂_getElem? {α β : Type} {R : α → β → Prop} {as : List α} {bs : List β}
    (together : List.Forall₂ R as bs) {i : Nat} {a : α} (here : as[i]? = some a) :
    ∃ b, bs[i]? = some b ∧ R a b := by
  induction together generalizing i with
  | nil => cases here
  | cons head tail ih =>
    cases i with
    | zero =>
      cases here
      exact ⟨_, rfl, head⟩
    | succ i => exact ih here

theorem fieldsWith_cons (field : String × Ty) (fields : List (String × Ty)) :
    r.fieldsWith record (field :: fields) = (do
      let zero ← r.fieldZeroWith record field.2
      let zeros ← r.fieldsWith record fields
      return (field.1, zero) :: zeros) := by
  unfold fieldsWith
  rw [List.mapM_cons, bind_assoc]
  rfl

/-- The fields of a default instance have the declared names, in order, and are at their zeros. -/
theorem fieldsWith_eq_ok_iff {fields : List (String × Ty)} {values : List (String × Value)} :
    r.fieldsWith record fields = .ok values ↔
      List.Forall₂ (fun field value => value.1 = field.1 ∧
        r.fieldZeroWith record field.2 = .ok value.2) fields values := by
  induction fields generalizing values with
  | nil =>
    rw [List.forall₂_nil_left_iff]
    exact ⟨fun h => (Except.ok.inj h).symm, fun h => congrArg Except.ok h.symm⟩
  | cons field fields ih =>
    rw [fieldsWith_cons, List.forall₂_cons_left_iff, except_bind_eq_ok_iff]
    constructor
    · rintro ⟨zero, first, built⟩
      obtain ⟨zeros, rest, built⟩ := except_bind_eq_ok_iff.1 built
      cases built
      exact ⟨(field.1, zero), zeros, ⟨rfl, first⟩, ih.1 rest, rfl⟩
    · rintro ⟨⟨name, zero⟩, zeros, ⟨rfl, first⟩, rest, rfl⟩
      exact ⟨zero, first, except_bind_eq_ok_iff.2 ⟨zeros, ih.2 rest, rfl⟩⟩

theorem map_fst_of_fieldsWith {fields : List (String × Ty)} {values : List (String × Value)}
    (built : r.fieldsWith record fields = .ok values) :
    values.map Prod.fst = fields.map Prod.fst := by
  rw [← List.forall₂_eq_eq_eq, List.forall₂_map_left_iff, List.forall₂_map_right_iff]
  exact (fieldsWith_eq_ok_iff.1 built).flip.imp fun _ _ together => together.1

/-- The zero of a wrapper field whose payload can be built. -/
theorem fieldZeroWith_wrapper {family : String} {payload : Ty} {value : Value}
    (registered : (r.family? family).isSome = true) (builds : r.hasDefault payload = true) :
    r.fieldZeroWith record (.optional family payload) = .ok value ↔
      ∃ inner, r.instanceWith record payload = .ok inner ∧ value = .wrapped family inner := by
  rw [fieldZeroWith, if_pos registered, payloadWith, if_pos builds, except_bind_eq_ok_iff]
  refine exists_congr fun inner => and_congr_right fun _ => ?_
  exact ⟨fun h => (Except.ok.inj h).symm, fun h => congrArg Except.ok h.symm⟩

/-! ## Different records give a different default -/

/-- Two default instances of a type differ as much as those of its core record do. -/
theorem instanceWith_same {ty : Ty} {core : String} (found : r.coreRecord? ty = some core)
    {value value' : Value} (built : r.instanceWith record ty = .ok value)
    (built' : r.instanceWith record' ty = .ok value') :
    ∃ inner inner', record core = .ok inner ∧ record' core = .ok inner' ∧
      Value.same value value' = Value.same inner inner' := by
  fun_induction coreRecord? r ty generalizing value value' with
  | case1 name =>
    cases found
    exact ⟨value, value', built, built', rfl⟩
  | case2 family inner builds ih =>
    rw [instanceWith, if_pos builds.1, if_pos builds.2] at built built'
    obtain ⟨payload, done, rest⟩ := except_bind_eq_ok_iff.1 built
    obtain ⟨payload', done', rest'⟩ := except_bind_eq_ok_iff.1 built'
    cases rest
    cases rest'
    obtain ⟨a, b, ha, hb, same⟩ := ih found done done'
    exact ⟨a, b, ha, hb, by simp [Value.same, same]⟩
  | case3 => cases found
  | case4 => cases found

/-- Where a record meets the stack, its default is not the one without the stack. -/
theorem differs_of_meets {targets building : List String} (meets : r.Meets targets building name)
    {value cut : Value} (built : r.recordDefault building name = .ok value)
    (builtCut : r.recordDefault (building ++ targets) name = .ok cut) :
    Value.same cut value = false := by
  induction meets generalizing value cut with
  | here fresh hit =>
    rw [recordDefault_of_mem (List.mem_append_right _ hit)] at builtCut
    obtain ⟨shape, fields, -, -, rfl⟩ := recordDefault_eq_ok fresh built
    cases builtCut
    rfl
  | @step building name inner fresh miss embeds later ih =>
    have off : name ∉ building ++ targets := by simp [fresh, miss]
    obtain ⟨shape, fields, declared, done, rfl⟩ := recordDefault_eq_ok fresh built
    obtain ⟨shape', fields', declared', done', rfl⟩ := recordDefault_eq_ok off builtCut
    obtain rfl : shape = shape' := Option.some.inj (declared.symm.trans declared')
    obtain ⟨known, mem, registered, builds, core⟩ := embeds
    obtain rfl := Option.some.inj (declared.symm.trans known)
    rw [Value.same, beq_self_eq_true, Bool.true_and, ← Bool.not_eq_true, Value.sameFields_iff]
    intro equal
    obtain ⟨i, here⟩ := List.mem_iff_getElem?.1 mem
    obtain ⟨zero, hi, -, hzero⟩ := forall₂_getElem? (fieldsWith_eq_ok_iff.1 done) here
    obtain ⟨zero', hi', -, hzero'⟩ := forall₂_getElem? (fieldsWith_eq_ok_iff.1 done') here
    obtain ⟨other, hother, -, same⟩ := forall₂_getElem? equal hi'
    obtain rfl : zero = other := Option.some.inj (hi.symm.trans hother)
    obtain ⟨payload, hpayload, wrapped⟩ := (fieldZeroWith_wrapper registered builds).1 hzero
    obtain ⟨payload', hpayload', wrapped'⟩ := (fieldZeroWith_wrapper registered builds).1 hzero'
    obtain ⟨a, b, ha, hb, asCore⟩ := instanceWith_same core hpayload' hpayload
    have differ := ih hb ha
    rw [wrapped, wrapped', Value.same, asCore, differ] at same
    simp at same

/-- A default that leads to a record under construction is cut. -/
theorem differs_of_leadsTo {building : List String} {ty : Ty} (hit : name ∈ building)
    (leads : r.LeadsTo ty name) {value cut : Value} (built : r.constructDefault ty = .ok value)
    (builtCut : r.defaultWithin building ty = .ok cut) : Value.same cut value = false := by
  obtain ⟨core, found, path⟩ := leads
  obtain ⟨a, b, ha, hb, same⟩ := instanceWith_same found builtCut built
  rw [same]
  exact differs_of_meets (meets_iff.2 ⟨name, hit, path⟩) hb ha

end Registry

end QueryDefaults
