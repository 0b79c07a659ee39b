import QueryDefaults.QueryError
import QueryDefaults.Value

/-!
# Type capabilities

The normalizer never looks into a type. It asks a provider whether a type can be built without
arguments, whether it is an optional wrapper and of what, and has it build the values that go into
the tree.
-/

set_option autoImplicit false

namespace QueryDefaults

/-- Answers about the types of a host. -/
structure Provider where
  /-- Whether a type can be built without arguments. -/
  hasDefault : Ty → Bool
  /-- The default instance of a type. -/
  constructDefault : Ty → Except QueryError Value
  /-- The inner type of an optional wrapper. -/
  innerOfOptional? : Ty → Option Ty
  /-- The wrapper of the given type around a value. -/
  constructWrapper : Ty → Value → Except QueryError Value

/-- Answers for single types that take precedence over those of another provider; the first entry
for a type counts. Wrappers are always built by the other provider. -/
structure Overrides where
  hasDefault : List (Ty × Bool) := []
  constructDefault : List (Ty × Value) := []
  innerOfOptional : List (Ty × Option Ty) := []

namespace Overrides

/-- The first entry for a type. -/
def lookup? {α : Type} (entries : List (Ty × α)) (ty : Ty) : Option α :=
  (entries.find? fun entry => entry.1 == ty).map (·.2)

/-- A provider with some of its answers replaced. -/
def applyTo (o : Overrides) (p : Provider) : Provider where
  hasDefault ty := (lookup? o.hasDefault ty).getD (p.hasDefault ty)
  constructDefault ty :=
    match lookup? o.constructDefault ty with
    | some value => .ok value
    | none => p.constructDefault ty
  innerOfOptional? ty := (lookup? o.innerOfOptional ty).getD (p.innerOfOptional? ty)
  constructWrapper := p.constructWrapper

end Overrides

end QueryDefaults
