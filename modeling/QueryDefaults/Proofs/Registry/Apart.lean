import QueryDefaults.Proofs.Registry.EmptyWrapper
import QueryDefaults.Proofs.Registry.Stack

/-!
# Construction apart from the stack

Whether a payload is cut depends on the stack, and the stack is another one at every step of a
construction. Yet it only matters for the records that the construction can come to: from a type it
comes to the record that the type names under nested wrappers, and from a record to those that its
wrapper fields name so. Plain record fields and sequences start out without an instance, so it does
not come to what they name. When none of these records is under construction, the default of the
type is built as from the empty stack, well or not (`build_ends_as_from_empty`).
-/

set_option autoImplicit false

namespace QueryDefaults

/-- The record that a type names, directly or under nested wrappers. -/
def Ty.namedRecord? : Ty → Option String
  | .record name => some name
  | .optional _ inner => inner.namedRecord?
  | _ => none

namespace Registry

/-- The records that the fields of a record name, where their types are wrappers of declared
families. -/
def fieldRecords (r : Registry) (name : String) : List String :=
  match r.record? name with
  | none => []
  | some shape => shape.fields.filterMap fun field =>
    (r.innerOfOptional? field.2).bind Ty.namedRecord?

/-- A record that the construction can come to from a type: the one that the type names, or one that
a field of such a record names. -/
inductive ComesTo (r : Registry) (ty : Ty) : String → Prop where
  | named {name : String} (names : ty.namedRecord? = some name) : ComesTo r ty name
  | field {outer inner : String} (earlier : ComesTo r ty outer)
      (names : inner ∈ r.fieldRecords outer) : ComesTo r ty inner

variable {r : Registry} {building : List String} {ty : Ty} {name : String}

/-- The construction stays among records that name only each other. -/
theorem ComesTo.mem_of_closed {names : List String} (first : ∀ name ∈ ty.namedRecord?, name ∈ names)
    (closed : ∀ outer ∈ names, ∀ inner ∈ r.fieldRecords outer, inner ∈ names)
    (h : r.ComesTo ty name) : name ∈ names := by
  induction h with
  | named here => exact first _ here
  | field _ here ih => exact closed _ ih _ here

/-- So it does not come to a stack apart from them. -/
theorem apart_of_closed (names : List String) (first : ∀ name ∈ ty.namedRecord?, name ∈ names)
    (closed : ∀ outer ∈ names, ∀ inner ∈ r.fieldRecords outer, inner ∈ names)
    (apart : ∀ name ∈ building, name ∉ names) : ∀ name ∈ building, ¬ r.ComesTo ty name :=
  fun name under comes => apart name under (comes.mem_of_closed first closed)

/-- The record that a default is built around is named by the type. -/
theorem namedRecord?_of_coreRecord? (h : r.coreRecord? ty = some name) :
    ty.namedRecord? = some name := by
  fun_induction coreRecord? r ty with
  | case1 => exact h
  | case2 family inner builds ih => exact ih h
  | case3 | case4 => cases h

theorem Embeds.mem_fieldRecords {outer inner : String} (h : r.Embeds outer inner) :
    inner ∈ r.fieldRecords outer := by
  obtain ⟨declared, mem, registered, -, core⟩ := h
  simp only [fieldRecords, declared]
  refine List.mem_filterMap.2 ⟨_, mem, ?_⟩
  rw [innerOfOptional?, if_pos registered]
  exact namedRecord?_of_coreRecord? core

/-- The construction only goes where it can. -/
theorem LeadsTo.comesTo (h : r.LeadsTo ty name) : r.ComesTo ty name := by
  obtain ⟨core, found, path⟩ := h
  induction path with
  | refl => exact .named (namedRecord?_of_coreRecord? found)
  | tail _ embeds ih => exact .field ih embeds.mem_fieldRecords

/-- **Independence of the stack.** If the construction can come from a type to none of the records
under construction, then it ends with the default instance of the type, or with the error for which
there is none, and gives back the stack; from the empty stack it ends with the same. -/
theorem build_ends_as_from_empty (r : Registry) (building : List String) (ty : Ty)
    (apart : ∀ name ∈ building, ¬ r.ComesTo ty name) :
    Ends (r.buildInstance · ty building) (r.constructDefault ty, building) ∧
      Ends (r.buildInstance · ty []) (r.constructDefault ty, []) := by
  have same : r.defaultWithin building ty = r.constructDefault ty :=
    defaultWithin_of_apart fun name under leads => apart name under leads.comesTo
  have off : ty.isRecordIn building = false := by
    cases ty with
    | record name =>
      exact Bool.eq_false_iff.2 fun under => apart name (Ty.isRecordIn_record.1 under) (.named rfl)
    | bool | int64 | float64 | utf8 | optional | sequence | function => rfl
  refine ⟨?_, buildInstance_ends (by cases ty <;> rfl)⟩
  rw [← same]
  exact buildInstance_ends off

/-- Two records that wrap each other are built under other ones as alone; under one of them they are
cut. A wrapper field of a record with two nullary constructors fails, with the same error under a
record that it does not come to. -/
theorem build_ends_as_from_empty_circle :
    let twice : RecordShape := { constructors := [[], []] }
    let outer : RecordShape :=
      { fields := [("twice", .optional "Nullable" (.record "Twice"))], constructors := [[]] }
    let r := (pingPongHolder.registerRecord "Twice" twice).registerRecord "Outer" outer
    let cut : Value := .record "Ping" [("pong", .wrapped "Nullable" .null)]
    let ambiguous : QueryError := .ambiguousDefault (.record "Twice") 2
    Ends (r.buildInstance · (.record "Ping") ["Holder", "Outer"])
        (.ok defaultPing, ["Holder", "Outer"]) ∧
      Ends (r.buildInstance · (.record "Ping") ["Pong"]) (.ok cut, ["Pong"]) ∧
      Ends (r.buildInstance · (.record "Outer") ["Ping"]) (.error ambiguous, ["Ping"]) ∧
      Ends (r.buildInstance · (.record "Outer") []) (.error ambiguous, []) := by
  intro twice outer r cut ambiguous
  have ping : r.constructDefault (.record "Ping") = .ok defaultPing :=
    recordDefault_single rfl rfl rfl (by simp)
      (recordDefault_single rfl rfl rfl (by simp) (recordDefault_of_mem (by simp)))
  have pingCut : r.defaultWithin ["Pong"] (.record "Ping") = .ok cut :=
    recordDefault_single rfl rfl rfl (by simp) (recordDefault_of_mem (by simp))
  have fails : r.constructDefault (.record "Outer") = .error ambiguous := by
    have inner : r.recordDefault ["Outer"] "Twice" = .error ambiguous :=
      recordDefault_of_fresh (by simp)
    have zero : r.fieldZeroWith (r.recordDefault ["Outer"])
        (.optional "Nullable" (.record "Twice")) = .error ambiguous := congrArg (· >>= _) inner
    have fields : r.fieldsWith (r.recordDefault ["Outer"]) outer.fields = .error ambiguous := by
      rw [fieldsWith_cons, zero]
      rfl
    exact (recordDefault_of_fresh (by simp)).trans (congrArg (· >>= _) fields)
  have circle : ∀ name ∈ ["Holder", "Outer"], ¬ r.ComesTo (.record "Ping") name :=
    apart_of_closed ["Ping", "Pong"] (by decide) (by decide) (by decide)
  have pair : ∀ name ∈ ["Ping"], ¬ r.ComesTo (.record "Outer") name :=
    apart_of_closed ["Outer", "Twice"] (by decide) (by decide) (by decide)
  have alone := build_ends_as_from_empty r _ _ circle
  have failing := build_ends_as_from_empty r _ _ pair
  rw [ping] at alone
  rw [fails] at failing
  exact ⟨alone.1, pingCut ▸ buildInstance_ends rfl, failing.1, failing.2⟩

end Registry

end QueryDefaults
