import QueryDefaults.Proofs.Eval.Below
import QueryDefaults.Proofs.Normalizer.Failure
import QueryDefaults.Proofs.Registry.Context

/-!
# Wrapper fields of a default record

The wrapper fields of a default record hold empty wrappers, and a comparison with the null literal
is rewritten to a comparison with the empty wrapper. The two are the same value exactly when the
wrapped type does not lead back to the record (`default_field_iff`). A record that is its own
wrapped type is one case of leading back; two records that wrap each other are another one, and
there the default of the first holds a payload that is no default of the second
(`mutual_records_differ`).
-/

set_option autoImplicit false

namespace QueryDefaults

open Shape

namespace Registry

variable {r : Registry} {outer : String} {inner : Ty}

/-- The payload of a wrapper field is the default of its type exactly when it does not lead back. -/
theorem payload_eq_iff {value payload : Value} (built : r.constructDefault inner = .ok value)
    (builtWithin : r.defaultWithin [outer] inner = .ok payload) :
    (payload = value ↔ ¬ r.LeadsTo inner outer) ∧
      (Value.same payload value = true ↔ ¬ r.LeadsTo inner outer) := by
  by_cases leads : r.LeadsTo inner outer
  · have differ := differs_of_leadsTo (List.mem_singleton_self outer) leads built builtWithin
    refine ⟨⟨?_, fun apart => absurd leads apart⟩, ?_⟩
    · rintro rfl
      rw [Value.same_self] at differ
      cases differ
    · simp [differ, leads]
  · have same : payload = value := by
      rw [defaultWithin_of_apart (by simpa using leads), built] at builtWithin
      exact (Except.ok.inj builtWithin).symm
    subst same
    simp [leads, Value.same_self]

theorem constructWrapper_eq_ok {family : String} {value wrapper : Value}
    (wrapped : r.constructWrapper (.optional family inner) value = .ok wrapper) :
    wrapper = .wrapped family value := by
  obtain ⟨_, _, same, rfl⟩ := wrapped_of_constructWrapper wrapped
  cases same
  rfl

end Registry

/-- The comparison of a field of a row with the null literal. -/
def Expr.fieldIsNull (param record field : String) (wrapper : Ty) : Expr :=
  .binary .equal (.plain (.field field) [.plain (.parameter param) [] (.record record)] wrapper)
    (.constant .null wrapper) .bool

/-- The rewritten comparison compares the field with the empty wrapper. -/
theorem visit_fieldIsNull {r : Registry} {rules : RuleSet} {param record field family : String}
    {inner : Ty} {value empty : Value} (on : rules.optionalCompare = true)
    (registered : (r.family? family).isSome = true) (builds : r.hasDefault inner = true)
    (filled : r.constructDefault inner = .ok value)
    (wrapped : r.constructWrapper (.optional family inner) value = .ok empty) :
    ((defaultValues r.provider rules).visit
        (.fieldIsNull param record field (.optional family inner))).outcome =
      .ok ⟨.binary .equal
        (.plain (.field field) [.plain (.parameter param) [] (.record record)]
          (.optional family inner))
        (.constant empty (.optional family inner)) .bool, true⟩ := by
  have wraps : r.provider.innerOfOptional? (.optional family inner) = some inner := by
    simp [Registry.provider, Registry.innerOfOptional?, registered]
  have site : Site r.provider rules (.fieldIsNull param record field (.optional family inner))
      (.nullComparison (.optional family inner) inner) :=
    .nullRight on (.inl rfl) rfl rfl wraps builds
  have built : filler r.provider (.nullComparison (.optional family inner) inner) = .ok empty := by
    simp only [filler, governing, Registry.provider, filled, wrapped]
  have settled : settle r.provider (.nullComparison (.optional family inner) inner) =
      .ok (.constant empty (.optional family inner)) :=
    settle_eq_ok.2 ⟨empty, built, rfl⟩
  rw [visit_of_site site settled rfl]
  rfl

/-- A field that is the first one of its name is found by its name. -/
theorem field?_of_first {record name : String} {fields : List (String × Value)} {x : Value}
    {i : Nat} (here : fields[i]? = some (name, x)) (first : name ∉ (fields.take i).map Prod.fst) :
    (Value.record record fields).field? name = some x := by
  have found : fields.find? (fun field => field.1 == name) = some (name, x) := by
    rw [List.find?_eq_some_iff_append]
    obtain ⟨inside, at_place⟩ := List.getElem?_eq_some_iff.1 here
    refine ⟨by simp, fields.take i, fields.drop (i + 1), ?_, fun field hfield => ?_⟩
    · rw [← at_place, List.getElem_cons_drop, List.take_append_drop]
    · simp only [Bool.not_eq_true', beq_eq_false_iff_ne]
      rintro rfl
      exact first (List.mem_map_of_mem hfield)
  rw [Value.field?, found]
  rfl

theorem eval_field {env : Env} {param record field : String} {fields : List (String × Value)}
    {x : Value} {ty wrapper : Ty} (bound : env.param? param = some (.record record fields))
    (found : (Value.record record fields).field? field = some x) :
    (Expr.plain (.field field) [.plain (.parameter param) [] ty] wrapper).eval env = .ok x := by
  simp only [Expr.eval, Expr.meaning, Expr.meanings, Meaning.plain, bound, pure_bind, found]
  rfl

theorem eval_equal (left right : Expr) (ty : Ty) {env : Env} {a b : Value}
    (hleft : left.eval env = .ok a) (hright : right.eval env = .ok b) :
    (Expr.binary .equal left right ty).eval env = .ok (.bool (Value.same a b)) := by
  have compared := Meaning.comparands_inMemory left right env
  rw [hleft, hright] at compared
  exact congrArg (· >>= _) compared

/-! ## Two records that wrap each other -/

/-- Two records, each with the other one in its only field. -/
def pingPong : Registry :=
  (Registry.standard.registerRecord "Ping"
      { fields := [("pong", .optional "Nullable" (.record "Pong"))], constructors := [[]] }
    ).registerRecord "Pong"
      { fields := [("ping", .optional "Nullable" (.record "Ping"))], constructors := [[]] }

/-- The default of the first record. -/
def defaultPing : Value :=
  .record "Ping"
    [("pong", .wrapped "Nullable" (.record "Pong" [("ping", .wrapped "Nullable" .null)]))]

/-- The default of the second record. -/
def defaultPong : Value :=
  .record "Pong"
    [("ping", .wrapped "Nullable" (.record "Ping" [("pong", .wrapped "Nullable" .null)]))]

/-- The default of a record whose only field is a wrapper around another record. -/
theorem recordDefault_single {r : Registry} {building : List String} {name field other : String}
    {payload : Value}
    (declared : r.record? name =
      some { fields := [(field, .optional "Nullable" (.record other))], constructors := [[]] })
    (registered : (r.family? "Nullable").isSome = true)
    (builds : r.hasDefault (.record other) = true) (fresh : name ∉ building)
    (built : r.recordDefault (name :: building) other = .ok payload) :
    r.recordDefault building name = .ok (.record name [(field, .wrapped "Nullable" payload)]) := by
  rw [Registry.recordDefault_of_fresh fresh, Registry.recordWith_eq_ok_iff]
  refine ⟨_, _, declared, rfl, Registry.fieldsWith_eq_ok_iff.2 (.cons ⟨rfl, ?_⟩ .nil), rfl⟩
  exact (Registry.fieldZeroWith_wrapper registered builds).2 ⟨payload, built, rfl⟩

theorem constructDefault_ping : pingPong.constructDefault (.record "Ping") = .ok defaultPing :=
  recordDefault_single rfl rfl rfl (by simp)
    (recordDefault_single rfl rfl rfl (by simp) (Registry.recordDefault_of_mem (by simp)))

theorem constructDefault_pong : pingPong.constructDefault (.record "Pong") = .ok defaultPong :=
  recordDefault_single rfl rfl rfl (by simp)
    (recordDefault_single rfl rfl rfl (by simp) (Registry.recordDefault_of_mem (by simp)))

/-- The two records, and a third one that holds the first in a wrapper. -/
def pingPongHolder : Registry :=
  pingPong.registerRecord "Holder"
    { fields := [("ping", .optional "Nullable" (.record "Ping"))], constructors := [[]] }

/-! ## The empty wrapper in a default record -/

/-- **Wrapper fields of a default record.** A field whose wrapped type can be built holds the empty
wrapper exactly when the wrapped type does not lead back to the record; and exactly then the
rewritten comparison of the field with the null literal is true of the default record. -/
theorem default_field_iff (r : Registry) {record name family : String} {shape : RecordShape}
    {i : Nat} {inner : Ty} {row value empty : Value}
    (built : r.constructDefault (.record record) = .ok row)
    (declared : r.record? record = some shape)
    (field : shape.fields[i]? = some (name, .optional family inner))
    (registered : (r.family? family).isSome = true) (builds : r.hasDefault inner = true)
    (filled : r.constructDefault inner = .ok value)
    (wrapped : r.constructWrapper (.optional family inner) value = .ok empty) :
    ∃ fields zero, row = .record record fields ∧ fields[i]? = some (name, zero) ∧
      (zero = empty ↔ ¬ r.LeadsTo inner record) ∧
      (name ∉ (shape.fields.take i).map Prod.fst →
        ∀ (rules : RuleSet) (env : Env) (param : String), rules.optionalCompare = true →
          env.param? param = some row →
          ∃ visit truth,
            ((defaultValues r.provider rules).visit
              (.fieldIsNull param record name (.optional family inner))).outcome = .ok visit ∧
            visit.tree.eval env = .ok (.bool truth) ∧
            (truth = true ↔ ¬ r.LeadsTo inner record)) := by
  obtain ⟨shape', fields, declared', done, rfl⟩ :=
    Registry.recordDefault_eq_ok List.not_mem_nil built
  obtain rfl : shape = shape' := Option.some.inj (declared.symm.trans declared')
  obtain ⟨⟨name', zero⟩, here, rfl, hzero⟩ :=
    Registry.forall₂_getElem? (Registry.fieldsWith_eq_ok_iff.1 done) field
  obtain ⟨payload, within, rfl⟩ := (Registry.fieldZeroWith_wrapper registered builds).1 hzero
  obtain rfl := Registry.constructWrapper_eq_ok wrapped
  obtain ⟨equal, same⟩ := Registry.payload_eq_iff filled within
  refine ⟨fields, _, rfl, here, by simpa using equal, ?_⟩
  intro first rules env param on bound
  have names : (fields.take i).map Prod.fst = (shape.fields.take i).map Prod.fst := by
    rw [List.map_take, List.map_take, Registry.map_fst_of_fieldsWith done]
  rw [← names] at first
  refine ⟨_, _, visit_fieldIsNull on registered builds filled wrapped,
    eval_equal _ _ _ (eval_field bound (field?_of_first here first)) rfl, ?_⟩
  simpa [Value.same] using same

/-- The two records lead to each other and not to the holder. So its default holds the empty
wrapper, and the rewritten comparison is true of it. -/
theorem default_field_iff_holder :
    let holder : Value := .record "Holder" [("ping", .wrapped "Nullable" defaultPing)]
    pingPongHolder.constructDefault (.record "Holder") = .ok holder ∧
      pingPongHolder.constructDefault (.record "Ping") = .ok defaultPing ∧
      ¬ pingPongHolder.LeadsTo (.record "Ping") "Holder" ∧
      ∃ visit,
        ((defaultValues pingPongHolder.provider {}).visit
          (.fieldIsNull "r" "Holder" "ping" (.optional "Nullable" (.record "Ping")))).outcome =
            .ok visit ∧
        visit.tree.eval (Env.bindParam {} "r" holder) = .ok (.bool true) := by
  intro holder
  have built : pingPongHolder.constructDefault (.record "Holder") = .ok holder :=
    recordDefault_single rfl rfl rfl (by simp) (recordDefault_single rfl rfl rfl (by simp)
      (recordDefault_single rfl rfl rfl (by simp) (Registry.recordDefault_of_mem (by simp))))
  have ping : pingPongHolder.constructDefault (.record "Ping") = .ok defaultPing :=
    recordDefault_single rfl rfl rfl (by simp)
      (recordDefault_single rfl rfl rfl (by simp) (Registry.recordDefault_of_mem (by simp)))
  obtain ⟨fields, zero, split, here, equal, compared⟩ :=
    default_field_iff pingPongHolder (i := 0) built rfl rfl rfl rfl ping rfl
  obtain ⟨-, rfl⟩ := Value.record.inj split
  cases here
  have apart := equal.1 rfl
  obtain ⟨visit, truth, run, value, known⟩ :=
    compared (by simp) {} (Env.bindParam {} "r" holder) "r" rfl rfl
  exact ⟨built, ping, apart, visit, run, by rw [value, known.2 apart]⟩

/-- The wrapper field of a default record need not hold the empty wrapper, even when its wrapped
type is another record. -/
theorem mutual_records_differ :
    ¬ ∀ (r : Registry) (record name family : String) (shape : RecordShape) (i : Nat) (inner : Ty)
      (row value empty : Value), r.constructDefault (.record record) = .ok row →
      r.record? record = some shape → shape.fields[i]? = some (name, .optional family inner) →
      (r.family? family).isSome = true → r.hasDefault inner = true → inner ≠ .record record →
      r.constructDefault inner = .ok value →
      r.constructWrapper (.optional family inner) value = .ok empty →
      ∃ fields, row = .record record fields ∧ fields[i]? = some (name, empty) := by
  intro claim
  obtain ⟨fields, split, here⟩ := claim pingPong "Ping" "pong" "Nullable" _ 0 (.record "Pong")
    defaultPing defaultPong (.wrapped "Nullable" defaultPong) constructDefault_ping rfl rfl rfl rfl
    (by decide) constructDefault_pong rfl
  cases split
  simp [defaultPong] at here

end QueryDefaults
