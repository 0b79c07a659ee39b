import QueryDefaults.Ty

/-!
# The registry of records and wrapper families

A registry declares up front what the type names stand for: the fields and constructors of records,
and the constructor arities of wrapper families. Registering a name again replaces what it stood
for.
-/

set_option autoImplicit false

namespace QueryDefaults

/-- What is declared about a record: its fields in order, and the parameter types of each of its
constructors. -/
structure RecordShape where
  fields : List (String × Ty) := []
  constructors : List (List Ty) := []
deriving DecidableEq

/-- How many constructors of a record take no parameters. -/
def RecordShape.nullaryCount (shape : RecordShape) : Nat := shape.constructors.countP List.isEmpty

/-- The declared records, and for each declared wrapper family the arities of its constructors. The
first entry of a name is the one that counts. -/
structure Registry where
  records : List (String × RecordShape) := []
  families : List (String × List Nat) := []

namespace Registry

/-- The registry without any declaration. -/
def empty : Registry := {}

/-- Declares a record. -/
def registerRecord (r : Registry) (name : String) (shape : RecordShape) : Registry :=
  { r with records := (name, shape) :: r.records }

/-- Declares a wrapper family. -/
def registerFamily (r : Registry) (family : String) (arities : List Nat) : Registry :=
  { r with families := (family, arities) :: r.families }

/-- The registry of the built-in family `Nullable`, which has one constructor of one argument. -/
def standard : Registry := empty.registerFamily "Nullable" [1]

/-- The declared shape of a record. -/
def record? (r : Registry) (name : String) : Option RecordShape := r.records.lookup name

/-- The declared constructor arities of a wrapper family. -/
def family? (r : Registry) (family : String) : Option (List Nat) := r.families.lookup family

/-- Whether a type can be built without arguments. Primitives and sequences always can, a record
with a nullary constructor, a wrapper whose family has one, and a function type never. -/
def hasDefault (r : Registry) : Ty → Bool
  | .bool | .int64 | .float64 | .utf8 | .sequence _ => true
  | .record name => (r.record? name).any fun shape => shape.constructors.any List.isEmpty
  | .optional family _ => (r.family? family).any fun arities => arities.contains 0
  | .function _ _ => false

/-- The inner type of a wrapper of a declared family. -/
def innerOfOptional? (r : Registry) : Ty → Option Ty
  | .optional family inner => if (r.family? family).isSome then some inner else none
  | _ => none

theorem record?_registerRecord (r : Registry) (name other : String) (shape : RecordShape) :
    (r.registerRecord name shape).record? other =
      if other = name then some shape else r.record? other := by
  unfold registerRecord record?
  rw [List.lookup_cons]
  cases h : other == name <;> simp_all

theorem family?_registerFamily (r : Registry) (family other : String) (arities : List Nat) :
    (r.registerFamily family arities).family? other =
      if other = family then some arities else r.family? other := by
  unfold registerFamily family?
  rw [List.lookup_cons]
  cases h : other == family <;> simp_all

end Registry

end QueryDefaults
