import QueryDefaults.Registry.Default
import Mathlib.Logic.Relation

/-!
# Records that lead to records

The default instance of a type is built around at most one record, and the default instance of a
record holds the default instances of those that its wrapper fields are built around. Along such
steps a type leads to records. The construction keeps the records under construction on a stack and
does not enter one of them again, so it follows paths without a repetition: a record `Meets` a
target when such a path starts from it and keeps off the stack. Every path can be cut to one without
a repetition (`meets_iff`).
-/

set_option autoImplicit false

namespace QueryDefaults.Registry

/-- The record that the default instance of a type is built around: the record itself, or the one
inside nested wrappers whose types can all be built. -/
def coreRecord? (r : Registry) : Ty → Option String
  | .record name => some name
  | .optional family inner =>
    if r.hasDefault (.optional family inner) ∧ r.hasDefault inner then r.coreRecord? inner else none
  | _ => none

/-- A wrapper field of a record holds the default instance of a type that is built around another
record. -/
inductive Embeds (r : Registry) (outer inner : String) : Prop where
  | field {shape : RecordShape} {name family : String} {payload : Ty}
      (declared : r.record? outer = some shape)
      (mem : (name, .optional family payload) ∈ shape.fields)
      (registered : (r.family? family).isSome = true) (builds : r.hasDefault payload = true)
      (core : r.coreRecord? payload = some inner)

/-- The default instance of a type is built around a record from which wrapper fields lead to the
given one. -/
def LeadsTo (r : Registry) (ty : Ty) (name : String) : Prop :=
  ∃ core, r.coreRecord? ty = some core ∧ Relation.ReflTransGen r.Embeds core name

/-- A path from a record to one of the targets that keeps off the stack and off itself. -/
inductive Meets (r : Registry) (targets : List String) : List String → String → Prop where
  | here {building : List String} {name : String} (fresh : name ∉ building)
      (hit : name ∈ targets) : Meets r targets building name
  | step {building : List String} {name inner : String} (fresh : name ∉ building)
      (miss : name ∉ targets) (embeds : r.Embeds name inner)
      (later : Meets r targets (name :: building) inner) : Meets r targets building name

variable {r : Registry} {targets building : List String} {name : String}

/-- A path either keeps off a name, or it can be taken up where it leaves the name for good. -/
theorem path_leaves {α : Type} {step : α → α → Prop} {start stop avoid : α}
    (path : Relation.ReflTransGen step start stop) (differ : stop ≠ avoid) :
    (start ≠ avoid ∧ Relation.ReflTransGen (fun a b => step a b ∧ b ≠ avoid) start stop) ∨
      ∃ next, step avoid next ∧ next ≠ avoid ∧
        Relation.ReflTransGen (fun a b => step a b ∧ b ≠ avoid) next stop := by
  induction path using Relation.ReflTransGen.head_induction_on with
  | refl => exact .inl ⟨differ, .refl⟩
  | @head start next first rest ih =>
    obtain ⟨off, rest⟩ | found := ih
    · by_cases same : start = avoid
      · subst same
        exact .inr ⟨next, first, off, rest⟩
      · exact .inl ⟨same, .head ⟨first, off⟩ rest⟩
    · exact .inr found

theorem Meets.reaches (h : r.Meets targets building name) :
    ∃ target ∈ targets, Relation.ReflTransGen r.Embeds name target := by
  induction h with
  | here fresh hit => exact ⟨_, hit, .refl⟩
  | step fresh miss embeds later ih =>
    obtain ⟨target, hit, path⟩ := ih
    exact ⟨target, hit, .head embeds path⟩

/-- A path that keeps off the stack can be cut to one that keeps off itself, too. -/
theorem Meets.of_path {target : String} (hit : target ∈ targets) (fresh : name ∉ building)
    (path : Relation.ReflTransGen (fun a b => r.Embeds a b ∧ b ∉ building) name target) :
    r.Meets targets building name := by
  induction h : r.unbuilt building using Nat.strongRecOn generalizing building name with
  | ind size ih =>
    by_cases found : name ∈ targets
    · exact .here fresh found
    -- Where the path leaves `name` for good, the rest of it keeps off the longer stack.
    · have differ : target ≠ name := fun same => found (same ▸ hit)
      obtain ⟨off, -⟩ | ⟨next, ⟨embeds, outside⟩, off, rest⟩ := path_leaves path differ
      · exact absurd rfl off
      · obtain ⟨declared⟩ := id embeds
        have smaller := unbuilt_cons_lt (by simpa using fresh) declared
        refine .step fresh found embeds (ih _ (h ▸ smaller) (by simp [off, outside]) ?_ rfl)
        refine rest.lift id fun a b hab => ⟨hab.1.1, ?_⟩
        simp [hab.1.2, hab.2]

/-- From the empty stack, a record meets the targets that it leads to. -/
theorem meets_iff :
    r.Meets targets [] name ↔ ∃ target ∈ targets, Relation.ReflTransGen r.Embeds name target := by
  refine ⟨Meets.reaches, ?_⟩
  rintro ⟨target, hit, path⟩
  exact .of_path hit List.not_mem_nil (path.lift id fun a b hab => ⟨hab, List.not_mem_nil⟩)

end QueryDefaults.Registry
