import Mathlib.Logic.Basic
import QueryDefaults.Codec
import QueryDefaults.Proofs.Json.RoundTrip

/-!
# The layout of variants and records

How deep the written forms of variants and records nest, and that they can be written when their
parts can. Reading is a chain of steps that each give back what was written or, when it nests too
deep, nothing; `bind_guarded` passes from one step of such a chain to the next, and
`mapM_cons_guarded` from one item of a list to the rest.
-/

set_option autoImplicit false

namespace QueryDefaults

/-- A step that gives its value under a condition is followed by the next one under it. -/
theorem bind_guarded {α β : Type} {p : Prop} [Decidable p] (a : α) (f : α → Option β) :
    (if p then some a else none).bind f = if p then f a else none := by
  split <;> rfl

theorem map_guarded {α β : Type} {p : Prop} [Decidable p] (a : α) (f : α → β) :
    (if p then some a else none).map f = if p then some (f a) else none := by
  split <;> rfl

theorem mapM_cons_guarded {α β : Type} {read : α → Option β} {p q : Prop} [Decidable p]
    [Decidable q] {item : α} {items : List α} {b : β} {bs : List β}
    (first : read item = if p then some b else none)
    (rest : items.mapM read = if q then some bs else none) :
    (item :: items).mapM read = if p ∧ q then some (b :: bs) else none := by
  rw [List.mapM_cons, first, rest]
  simp only [Option.bind_eq_bind, bind_guarded, Option.pure_def, ← ite_and]

namespace Json

@[simp] theorem depth_ofText (text : String) : (ofText text).depth = 0 := rfl

@[simp] theorem depth_array (items : List Json) : (array items).depth = 1 + depthAll items := rfl

@[simp] theorem depth_variant (tag : String) (content : Json) :
    (variant tag content).depth = 1 + content.depth := by
  simp [variant, depth, depthMembers]

theorem depthMembers_map (members : List (String × Json)) :
    depthMembers (members.map fun (name, value) => (some name, value)) =
      depthAll (members.map Prod.snd) := by
  induction members with
  | nil => rfl
  | cons member members ih => simp [depthMembers, depthAll, ih]

@[simp] theorem depth_variantParts (tag : String) (members : List (String × Json)) :
    (variantParts tag members).depth = 2 + depthAll (members.map Prod.snd) := by
  rw [variantParts, depth_variant, parts, depth, depthMembers_map, ← Nat.add_assoc]

@[simp] theorem printable_ofText (text : String) : (ofText text).Printable := rfl

@[simp] theorem printable_array {items : List Json} :
    (array items).Printable ↔ PrintableAll items := Iff.rfl

@[simp] theorem printable_variant {tag : String} {content : Json} :
    (variant tag content).Printable ↔ content.Printable := by
  simp [variant, Printable, PrintableMembers]

theorem printableMembers_map {members : List (String × Json)} :
    PrintableMembers (members.map fun (name, value) => (some name, value)) ↔
      PrintableAll (members.map Prod.snd) := by
  induction members with
  | nil => exact Iff.rfl
  | cons member members ih => simp [PrintableMembers, PrintableAll, ih]

@[simp] theorem printable_variantParts {tag : String} {members : List (String × Json)} :
    (variantParts tag members).Printable ↔ PrintableAll (members.map Prod.snd) := by
  rw [variantParts, printable_variant, parts, Printable, printableMembers_map]

end Json

end QueryDefaults
