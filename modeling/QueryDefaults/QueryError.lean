import QueryDefaults.Operator
import QueryDefaults.Ty

/-!
# Query errors

A shape that a rule does not know is never an error. An error says that a capability query, an
overload lookup or a helper expansion needed exactly one match and found none or several.
-/

set_option autoImplicit false

namespace QueryDefaults

/-- Why a query cannot be normalized, built or expanded. -/
inductive QueryError where
  /-- A record declares several constructors without parameters. -/
  | ambiguousDefault (ty : Ty) (found : Nat)
  /-- A default is asked of a type that cannot be built without arguments. -/
  | missingDefault (ty : Ty)
  /-- A wrapper family declares no constructor with parameters, or several. -/
  | ambiguousWrapper (ty : Ty) (found : Nat)
  /-- The only constructor with parameters does not take the inner value alone. -/
  | wrapperArity (ty : Ty) (arity : Nat)
  /-- A wrapper is asked of a type that is no optional wrapper. -/
  | notOptional (ty : Ty)
  /-- No overload of the operator takes this many arguments. -/
  | unknownOverload (op : Operator) (arity : Nat)
  /-- Helper expansion is asked of a node that is no call of the helper. -/
  | malformedHelper (op : Operator)
deriving DecidableEq

/-- The text of an error. -/
def QueryError.message : QueryError → String
  | .ambiguousDefault ty found =>
    "construct_default(" ++ ty.display
      ++ "): expected exactly one zero-argument constructor, found " ++ toString found
  | .missingDefault ty =>
    "construct_default(" ++ ty.display ++ "): type has no zero-argument constructor"
  | .ambiguousWrapper ty found =>
    "construct_optional_wrapper(" ++ ty.display
      ++ "): expected exactly one non-nullary constructor, found " ++ toString found
  | .wrapperArity ty arity =>
    "construct_optional_wrapper(" ++ ty.display ++ "): constructor takes " ++ toString arity
      ++ " arguments, expected 1"
  | .notOptional ty =>
    "construct_optional_wrapper(" ++ ty.display ++ "): not an optional-wrapper type"
  | .unknownOverload op arity =>
    "no overload of " ++ op.name ++ " takes " ++ toString arity ++ " arguments"
  | .malformedHelper op =>
    "cannot expand " ++ op.name ++ ": not a FirstOrFallback call"

end QueryDefaults
