import QueryDefaults.Proofs.Normalizer.Questions
import QueryDefaults.Proofs.Registry.Conflict

/-!
# What a registry is looked up for

The answers about a type depend on the declarations of the names that occur in it, and of those in
the field types of the records among them, and so on (`Reaches`). Two registries that agree on all of
these give the same answers, although the construction of a default leaves the type and goes on in
the registry. A tree mentions types at its nodes, and so a declaration that none of them reaches
does not matter to what is done with the tree (`registry_answers_local`).
-/

set_option autoImplicit false

namespace QueryDefaults

/-- What a type can name. -/
inductive TypeName where
  | record (name : String)
  | family (name : String)
deriving DecidableEq

namespace Ty

mutual

/-- The records and wrapper families that occur in a type. -/
def names : Ty → List TypeName
  | .bool | .int64 | .float64 | .utf8 => []
  | .record name => [.record name]
  | .optional family inner => .family family :: inner.names
  | .sequence elem => elem.names
  | .function params result => namesAll params ++ result.names

/-- The records and wrapper families that occur in several types. -/
def namesAll : List Ty → List TypeName
  | [] => []
  | ty :: tys => ty.names ++ namesAll tys

end

end Ty

namespace Registry

variable {r s : Registry} {ty : Ty} {name : TypeName}

/-- The names that occur in a type, or in a field type of a record that is reached. -/
inductive Reaches (r : Registry) (ty : Ty) : TypeName → Prop where
  | here {name : TypeName} (occurs : name ∈ ty.names) : Reaches r ty name
  | field {record : String} {shape : RecordShape} {field : String × Ty} {name : TypeName}
      (earlier : Reaches r ty (.record record)) (declared : r.record? record = some shape)
      (mem : field ∈ shape.fields) (occurs : name ∈ field.2.names) : Reaches r ty name

/-- Two registries have the same declaration for a name, or both have none. -/
def SameAt (r s : Registry) : TypeName → Prop
  | .record name => r.record? name = s.record? name
  | .family name => r.family? name = s.family? name

/-- Two registries agree on all that a type reaches. -/
def AgreesOn (r s : Registry) (ty : Ty) : Prop := ∀ name, r.Reaches ty name → r.SameAt s name

/-! ## Parts of a type -/

/-- A type reaches what its parts reach. -/
theorem Reaches.of_part {part : Ty} (occurs : ∀ name ∈ part.names, r.Reaches ty name)
    (reached : r.Reaches part name) : r.Reaches ty name := by
  induction reached with
  | here mem => exact occurs _ mem
  | field _ declared mem found ih => exact .field ih declared mem found

theorem AgreesOn.part {part : Ty} (agree : r.AgreesOn s ty)
    (occurs : ∀ name ∈ part.names, name ∈ ty.names) : r.AgreesOn s part :=
  fun name reached => agree name (reached.of_part fun _ mem => .here (occurs _ mem))

/-- A type reaches what the fields of its records reach. -/
theorem AgreesOn.field {record : String} {shape : RecordShape} {field : String × Ty}
    (agree : r.AgreesOn s (.record record)) (declared : r.record? record = some shape)
    (mem : field ∈ shape.fields) : r.AgreesOn s field.2 :=
  fun name reached => agree name (reached.of_part fun _ occurs =>
    .field (.here List.mem_cons_self) declared mem occurs)

theorem AgreesOn.record {record : String} (agree : r.AgreesOn s ty)
    (occurs : .record record ∈ ty.names) : r.AgreesOn s (.record record) :=
  agree.part fun _ mem => List.mem_singleton.1 mem ▸ occurs

theorem AgreesOn.inner {family : String} {inner : Ty}
    (agree : r.AgreesOn s (.optional family inner)) : r.AgreesOn s inner :=
  agree.part fun _ mem => List.mem_cons_of_mem _ mem

theorem AgreesOn.family?_eq {family : String} {inner : Ty}
    (agree : r.AgreesOn s (.optional family inner)) : r.family? family = s.family? family :=
  agree (.family family) (.here List.mem_cons_self)

/-! ## The answers about a type -/

theorem hasDefault_of_agreesOn (agree : r.AgreesOn s ty) : r.hasDefault ty = s.hasDefault ty := by
  cases ty with
  | record name =>
    have same : r.record? name = s.record? name := agree (.record name) (.here List.mem_cons_self)
    rw [hasDefault, hasDefault, same]
  | optional family inner => rw [hasDefault, hasDefault, agree.family?_eq]
  | bool | int64 | float64 | utf8 | sequence | function => rfl

theorem innerOfOptional?_of_agreesOn (agree : r.AgreesOn s ty) :
    r.innerOfOptional? ty = s.innerOfOptional? ty := by
  cases ty with
  | optional family inner => rw [innerOfOptional?, innerOfOptional?, agree.family?_eq]
  | bool | int64 | float64 | utf8 | record | sequence | function => rfl

theorem constructWrapper_of_agreesOn (agree : r.AgreesOn s ty) (value : Value) :
    r.constructWrapper ty value = s.constructWrapper ty value := by
  cases ty with
  | optional family inner => rw [constructWrapper, constructWrapper, agree.family?_eq]
  | bool | int64 | float64 | utf8 | record | sequence | function => rfl

section Default

variable {record record' : String → Except QueryError Value}

theorem instanceWith_of_agreesOn : ∀ {ty : Ty}, r.AgreesOn s ty →
    (∀ name, .record name ∈ ty.names → record name = record' name) →
    r.instanceWith record ty = s.instanceWith record' ty
  | .bool, _, _ | .int64, _, _ | .float64, _, _ | .utf8, _, _ | .sequence _, _, _
  | .function _ _, _, _ => rfl
  | .record name, _, same => same name List.mem_cons_self
  | .optional family inner, agree, same => by
    have payload := instanceWith_of_agreesOn agree.inner fun name mem =>
      same name (List.mem_cons_of_mem _ mem)
    rw [instanceWith, instanceWith, hasDefault_of_agreesOn agree, hasDefault_of_agreesOn agree.inner,
      payload]

theorem fieldZeroWith_of_agreesOn (agree : r.AgreesOn s ty)
    (same : ∀ name, .record name ∈ ty.names → record name = record' name) :
    r.fieldZeroWith record ty = s.fieldZeroWith record' ty := by
  cases ty with
  | optional family inner =>
    have payload := instanceWith_of_agreesOn agree.inner fun name mem =>
      same name (List.mem_cons_of_mem _ mem)
    rw [fieldZeroWith, fieldZeroWith, payloadWith, payloadWith, agree.family?_eq,
      hasDefault_of_agreesOn agree.inner, payload]
  | bool | int64 | float64 | utf8 | record | sequence | function => rfl

/-- The default of a record is the same when its declaration is, and so are the zeros of its
fields. -/
theorem recordWith_of_agreesOn {name : String} (agree : r.AgreesOn s (.record name))
    (same : ∀ shape, r.record? name = some shape → ∀ field ∈ shape.fields, ∀ inner,
      .record inner ∈ field.2.names → record inner = record' inner) :
    r.recordWith record name = s.recordWith record' name := by
  have declared : r.record? name = s.record? name := agree (.record name) (.here List.mem_cons_self)
  unfold recordWith
  rw [← declared]
  cases found : r.record? name with
  | none => rfl
  | some shape =>
    have zeros : r.fieldsWith record shape.fields = s.fieldsWith record' shape.fields :=
      fieldsWith_congr fun field mem =>
        fieldZeroWith_of_agreesOn (agree.field found mem) (same shape found field mem)
    simp only [zeros]

end Default

/-- The stack of records under construction is the same in both registries, and each record that is
taken up leaves fewer to take up. -/
theorem recordDefault_of_agreesOn {building : List String} {name : String}
    (agree : r.AgreesOn s (.record name)) :
    r.recordDefault building name = s.recordDefault building name := by
  induction h : r.unbuilt building using Nat.strongRecOn generalizing building name with
  | ind size ih =>
    rw [recordDefault_eq, recordDefault_eq]
    by_cases fresh : name ∈ building
    · rw [if_pos fresh, if_pos fresh]
    · rw [if_neg fresh, if_neg fresh]
      refine recordWith_of_agreesOn agree fun shape declared field mem inner occurs => ?_
      have smaller := unbuilt_cons_lt (by simpa using fresh) declared
      exact ih _ (h ▸ smaller) ((agree.field declared mem).record occurs) rfl

theorem constructDefault_of_agreesOn (agree : r.AgreesOn s ty) :
    r.constructDefault ty = s.constructDefault ty :=
  instanceWith_of_agreesOn agree fun _ occurs => recordDefault_of_agreesOn (agree.record occurs)

/-! ## Further declarations -/

theorem agreesOn_registerRecord {name : String} (shape : RecordShape)
    (apart : ¬ r.Reaches ty (.record name)) : r.AgreesOn (r.registerRecord name shape) ty := by
  intro other reached
  cases other with
  | record other =>
    have differ : other ≠ name := by
      rintro rfl
      exact apart reached
    rw [SameAt, record?_registerRecord, if_neg differ]
  | family family => rfl

theorem agreesOn_registerFamily {family : String} (arities : List Nat)
    (apart : ¬ r.Reaches ty (.family family)) : r.AgreesOn (r.registerFamily family arities) ty := by
  intro other reached
  cases other with
  | record name => rfl
  | family other =>
    have differ : other ≠ family := by
      rintro rfl
      exact apart reached
    rw [SameAt, family?_registerFamily, if_neg differ]

end Registry

/-! ## Trees -/

namespace Expr

/-- The types that are written at a node. -/
def ownTypes : Expr → List Ty
  | .call _ typeArgs _ ty => ty :: typeArgs
  | e => [e.staticType]

/-- The types that a tree mentions. -/
def types (e : Expr) : List Ty := e.nodes.flatMap ownTypes

theorem staticType_mem_ownTypes (e : Expr) : e.staticType ∈ e.ownTypes := by
  cases e <;> exact List.mem_cons_self

theorem mem_nodes_self (e : Expr) : e ∈ e.nodes := by
  rw [nodes_eq]
  exact List.mem_cons_self

/-- The operands of a node of a tree are nodes of the tree. -/
theorem operands_mem_nodes {e node a : Expr} (here : node ∈ e.nodes) (operand : a ∈ node.operands) :
    a ∈ e.nodes := by
  induction e using induction_operands with
  | step e ih =>
    rw [nodes_eq, List.mem_cons, List.mem_flatMap] at here ⊢
    obtain rfl | ⟨child, mem, below⟩ := here
    · exact .inr ⟨a, operand, a.mem_nodes_self⟩
    · exact .inr ⟨child, mem, ih child mem below⟩

/-- The element type of a call is one of its type arguments, or that of a sequence it works on. -/
theorem elementTypeOf?_eq_some {typeArgs : List Ty} {args : List Expr} {elem : Ty}
    (works : elementTypeOf? typeArgs args = some elem) :
    elem ∈ typeArgs ∨ ∃ a ∈ args, a.staticType = .sequence elem := by
  cases typeArgs with
  | cons ty typeArgs =>
    cases works
    exact .inl List.mem_cons_self
  | nil =>
    obtain ⟨a, first, elementType⟩ := Option.bind_eq_some_iff.1 works
    refine .inr ⟨a, List.mem_of_head? first, ?_⟩
    cases ty : a.staticType <;> rw [ty] at elementType <;> cases elementType
    rfl

end Expr

open Shape

variable {r s : Registry} {rules : RuleSet} {e : Expr} {shape : Shape}

/-- Two registries agree on the types at a node: on those written there, and on those of the
operands. -/
structure Registry.AgreesAt (r s : Registry) (e : Expr) : Prop where
  own : ∀ ty ∈ e.ownTypes, r.AgreesOn s ty
  operand : ∀ a ∈ e.operands, r.AgreesOn s a.staticType

theorem Registry.AgreesAt.of_types (agree : ∀ ty ∈ e.types, r.AgreesOn s ty) :
    ∀ node ∈ e.nodes, r.AgreesAt s node := fun node here =>
  ⟨fun ty mem => agree ty (List.mem_flatMap.2 ⟨node, here, mem⟩), fun a operand =>
    agree _ (List.mem_flatMap.2 ⟨a, Expr.operands_mem_nodes here operand, a.staticType_mem_ownTypes⟩)⟩

/-- Of a call, the element type is agreed on. -/
theorem Registry.AgreesAt.elementType {op : Operator} {typeArgs : List Ty} {args : List Expr}
    {ty elem : Ty} (agree : r.AgreesAt s (.call op typeArgs args ty))
    (works : Expr.elementTypeOf? typeArgs args = some elem) : r.AgreesOn s elem := by
  obtain written | ⟨a, mem, sequence⟩ := Expr.elementTypeOf?_eq_some works
  · exact agree.own elem (List.mem_cons_of_mem _ written)
  · have whole : r.AgreesOn s (.sequence elem) := sequence ▸ agree.operand a mem
    exact whole.part fun _ occurs => occurs

/-- A comparison with the null literal compares an operand. -/
theorem Registry.AgreesAt.compared {wrapper : Ty} (agree : r.AgreesAt s e)
    (compares : ComparesNull e wrapper) : r.AgreesOn s wrapper := by
  cases compares with
  | right => exact agree.operand _ List.mem_cons_self
  | left => exact agree.operand _ (List.mem_cons_of_mem _ List.mem_cons_self)

/-- The shape of a comparison is that of the wrapper beside the null literal. -/
theorem compared_of_ofComparison? {p : Provider} {op : BinaryOp}
    (compares : op = .equal ∨ op = .notEqual) {left right : Expr} {ty : Ty}
    (found : ofComparison? p left right = some shape) :
    ∃ wrapper inner, shape = .nullComparison wrapper inner ∧
      ComparesNull (.binary op left right ty) wrapper ∧ p.innerOfOptional? wrapper = some inner := by
  obtain ⟨inner, ⟨hr, hl, wraps, rfl⟩ | ⟨hl, hr, wraps, rfl⟩⟩ := ofComparison?_eq_some found
  · exact ⟨_, inner, rfl, .right compares hr hl, wraps⟩
  · exact ⟨_, inner, rfl, .left compares hl hr, wraps⟩

theorem Registry.AgreesOn.of_wrapper {wrapper inner : Ty} (agree : r.AgreesOn s wrapper)
    (wraps : r.innerOfOptional? wrapper = some inner) : r.AgreesOn s inner := by
  obtain ⟨family, arities, rfl, -⟩ := r.optional_of_innerOfOptional? wraps
  exact agree.inner

/-- At a node with a shape, the governing type is agreed on. -/
theorem Registry.AgreesAt.governing (agree : r.AgreesAt s e)
    (found : of? r.provider e = some shape) : r.AgreesOn s shape.governing := by
  unfold of? at found
  split at found
  case h_4 =>
    split at found <;> cases found
    exact agree.own _ (Expr.staticType_mem_ownTypes _)
  case h_5 =>
    obtain ⟨wrapper, inner, rfl, compares, wraps⟩ := compared_of_ofComparison? (.inl rfl) found
    exact (agree.compared compares).of_wrapper wraps
  case h_6 =>
    obtain ⟨wrapper, inner, rfl, compares, wraps⟩ := compared_of_ofComparison? (.inr rfl) found
    exact (agree.compared compares).of_wrapper wraps
  case h_7 => cases found
  all_goals
    obtain ⟨elem, works, rfl⟩ := Option.map_eq_some_iff.1 found
    exact agree.elementType works

/-- The compared type of a comparison with a shape is the wrapper. -/
theorem Site.comparesNull {p : Provider} {wrapper inner : Ty}
    (site : Site p rules e (.nullComparison wrapper inner)) : ComparesNull e wrapper := by
  cases site with
  | nullRight on compares literal other => exact .right compares literal other
  | nullLeft on compares literal other => exact .left compares literal other

/-- Registries that agree at a node answer alike whatever a run asks there. -/
theorem Registry.AgreesAt.sameAnswers (agree : r.AgreesAt s e) (rules : RuleSet) :
    SameAnswers r.provider s.provider rules e where
  inner _ _ compares := innerOfOptional?_of_agreesOn (agree.compared compares)
  gate _ found :=
    hasDefault_of_agreesOn (agree.governing (Option.filter_eq_some_iff.1 found).1)
  default _ site :=
    constructDefault_of_agreesOn (agree.governing (site?_eq_some site.site?_eq).1)
  wrapper _ _ value site _ :=
    constructWrapper_of_agreesOn (agree.compared site.comparesNull) value

/-- Registries that agree on the types of a tree make the same run on it. -/
theorem visit_of_agreesOn (rules : RuleSet) {tree : Expr}
    (agree : ∀ ty ∈ tree.types, r.AgreesOn s ty) :
    (defaultValues r.provider rules).visit tree = (defaultValues s.provider rules).visit tree :=
  Pass.visit_congr (fun node here =>
    ((Registry.AgreesAt.of_types agree node here).sameAnswers rules).enter_eq) rfl

/-- With two providers, the pipeline of the normalizer does the same to a tree: it ends with the same
tree or the same error, reports the same and logs the same. -/
structure DefaultsAlike (p q : Provider) (tree : Expr) : Prop where
  run : (Pipeline.default p).run tree = (Pipeline.default q).run tree
  report : (Pipeline.default p).report tree = (Pipeline.default q).report tree

theorem defaultsAlike_of_visit {p q : Provider} {tree : Expr}
    (same : (defaultValues p {}).visit tree = (defaultValues q {}).visit tree) :
    DefaultsAlike p q tree := by
  have reports : (Pipeline.default p).runWith false tree = (Pipeline.default q).runWith false tree := by
    simp only [Pipeline.runWith, Pipeline.default, Stage.runAll, Stage.defaultValues, same,
      List.length_singleton]
  exact ⟨congrArg (· >>= _) reports, reports⟩

/-- **Locality.** Registries that agree on every name that a type reaches give the same answers about
the type. So what the pipeline of the normalizer does to a tree is the same with registries that
agree on what the types of the tree reach, and a record or a family that none of these types reaches
can be declared, or declared anew, without a change to the run and to the report. -/
theorem registry_answers_local (r s : Registry) :
    (∀ ty, r.AgreesOn s ty →
      r.hasDefault ty = s.hasDefault ty ∧ r.constructDefault ty = s.constructDefault ty ∧
        r.innerOfOptional? ty = s.innerOfOptional? ty ∧
        ∀ value, r.constructWrapper ty value = s.constructWrapper ty value) ∧
    (∀ tree : Expr, (∀ ty ∈ tree.types, r.AgreesOn s ty) →
      DefaultsAlike r.provider s.provider tree) ∧
    (∀ (tree : Expr) (name : String) (shape : RecordShape),
      (∀ ty ∈ tree.types, ¬ r.Reaches ty (.record name)) →
      DefaultsAlike r.provider (r.registerRecord name shape).provider tree) ∧
    ∀ (tree : Expr) (family : String) (arities : List Nat),
      (∀ ty ∈ tree.types, ¬ r.Reaches ty (.family family)) →
      DefaultsAlike r.provider (r.registerFamily family arities).provider tree := by
  refine ⟨fun ty agree => ?_, fun tree agree => ?_, fun tree name shape apart => ?_,
    fun tree family arities apart => ?_⟩
  · exact ⟨Registry.hasDefault_of_agreesOn agree, Registry.constructDefault_of_agreesOn agree,
      Registry.innerOfOptional?_of_agreesOn agree, Registry.constructWrapper_of_agreesOn agree⟩
  · exact defaultsAlike_of_visit (visit_of_agreesOn {} agree)
  · refine defaultsAlike_of_visit (visit_of_agreesOn {} fun ty mem => ?_)
    exact Registry.agreesOn_registerRecord shape (apart ty mem)
  · refine defaultsAlike_of_visit (visit_of_agreesOn {} fun ty mem => ?_)
    exact Registry.agreesOn_registerFamily arities (apart ty mem)

/-- Orders and customers lead to each other, and neither leads to invoices or to the family `Maybe`:
these can be declared anew without a change to a query for an order. -/
theorem registry_answers_local_orders :
    let maybe (record : String) : Ty := .optional "Nullable" (.record record)
    let r := ((Registry.standard.registerRecord "Invoice" ⟨[("order", maybe "Order")], [[]]⟩)
      |>.registerRecord "Order" ⟨[("customer", maybe "Customer"), ("id", .int64)], [[]]⟩)
      |>.registerRecord "Customer" ⟨[("last", maybe "Order"), ("name", .utf8)], [[]]⟩
    let order : Ty := .record "Order"
    let rows : Expr := .plain (.source "orders") [] (.sequence order)
    let tree : Expr := .call .firstOrDefault [order] [rows] order
    let invoice : RecordShape := ⟨[("paid", .bool)], []⟩
    let s := r.registerRecord "Invoice" invoice
    r.hasDefault (.record "Invoice") ≠ s.hasDefault (.record "Invoice") ∧
      r.constructDefault order = s.constructDefault order ∧
      (Pipeline.default r.provider).run tree = (Pipeline.default s.provider).run tree ∧
      (Pipeline.default r.provider).report tree = (Pipeline.default s.provider).report tree ∧
      (Pipeline.default r.provider).run tree =
        (Pipeline.default (r.registerFamily "Maybe" [0, 2]).provider).run tree := by
  intro maybe r order rows tree invoice s
  have reached : ∀ name, r.Reaches order name →
      name ∈ [.record "Order", .record "Customer", .family "Nullable"] := by
    intro name reaches
    induction reaches with
    | here occurs => exact List.mem_append_left _ occurs
    | @field record shape field name earlier declared mem occurs ih =>
      have known : record = "Order" ∨ record = "Customer" := by simpa using ih
      obtain rfl | rfl := known <;> cases Option.some.inj declared <;>
        simp only [List.mem_cons, List.not_mem_nil, or_false] at mem ⊢ <;>
        obtain rfl | rfl := mem <;> simp only [maybe, Ty.names, List.mem_cons, List.not_mem_nil,
          or_false] at occurs <;> tauto
  have apart : ∀ ty ∈ tree.types, ¬ r.Reaches ty (.record "Invoice") ∧
      ¬ r.Reaches ty (.family "Maybe") := by
    have mentioned : tree.types = [order, order, .sequence order] := rfl
    have part : ∀ name, r.Reaches (.sequence order) name → r.Reaches order name := fun name =>
      Registry.Reaches.of_part fun _ occurs => .here occurs
    rw [mentioned]
    simp only [List.forall_mem_cons]
    have here : ¬ r.Reaches order (.record "Invoice") ∧ ¬ r.Reaches order (.family "Maybe") :=
      ⟨fun h => by simpa using reached _ h, fun h => by simpa using reached _ h⟩
    exact ⟨here, here, ⟨fun h => here.1 (part _ h), fun h => here.2 (part _ h)⟩, nofun⟩
  have agree : ∀ ty ∈ tree.types, r.AgreesOn s ty := fun ty mem =>
    Registry.agreesOn_registerRecord invoice (apart ty mem).1
  obtain ⟨answers, run, record, family⟩ := registry_answers_local r s
  refine ⟨by decide, (answers order (agree order List.mem_cons_self)).2.1, (run tree agree).run, ?_, ?_⟩
  · exact (record tree "Invoice" invoice fun ty mem => (apart ty mem).1).report
  · exact (family tree "Maybe" [0, 2] fun ty mem => (apart ty mem).2).run

end QueryDefaults
