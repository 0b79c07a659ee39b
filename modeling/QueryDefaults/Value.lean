import QueryDefaults.Binary64.Display
import QueryDefaults.Text.Quoted

/-!
# Constant values

`null` is the sentinel for an absent value. A wrapper value is always a concrete value, also when it
stands for "no payload": the empty wrapper is the wrapper around the default of its inner type. So
`null` and an empty wrapper are different values, and an empty wrapper and a wrapper that holds the
default are the same value.
-/

set_option autoImplicit false

namespace QueryDefaults

/-- A constant of a query, or what evaluating a query gives. -/
inductive Value where
  /-- The absent value. -/
  | null
  | bool (b : Bool)
  | int64 (n : Int64)
  | float64 (x : Binary64)
  | utf8 (text : String)
  /-- A record instance; its fields are in declaration order, and names may repeat. -/
  | record (typeName : String) (fields : List (String × Value))
  /-- An instance of a wrapper family around its payload. -/
  | wrapped (family : String) (payload : Value)
  | sequence (items : List Value)
deriving Inhabited

namespace Value

/-- Whether a value is the absent value. -/
def isNull : Value → Bool
  | .null => true
  | _ => false

theorem isNull_iff {v : Value} : v.isNull = true ↔ v = .null := by
  cases v <;> simp [isNull]

/-- The first field of a record with the given name. -/
def field? (v : Value) (name : String) : Option Value :=
  match v with
  | .record _ fields => (fields.find? fun f => f.1 == name).map (·.2)
  | _ => none

/-- Only the Boolean `true` counts as true. -/
def isTrue : Value → Bool
  | .bool b => b
  | _ => false

mutual

/-- Structural equality; floats are compared as numbers. -/
def same : Value → Value → Bool
  | .null, .null => true
  | .bool a, .bool b => a == b
  | .int64 a, .int64 b => a == b
  | .float64 a, .float64 b => a == b
  | .utf8 a, .utf8 b => a == b
  | .record m as, .record n bs => m == n && sameFields as bs
  | .wrapped f a, .wrapped g b => f == g && same a b
  | .sequence as, .sequence bs => sameAll as bs
  | _, _ => false

/-- Equality of field lists: the same names in the same order, with equal values. -/
def sameFields : List (String × Value) → List (String × Value) → Bool
  | [], [] => true
  | (m, a) :: as, (n, b) :: bs => m == n && same a b && sameFields as bs
  | _, _ => false

/-- Equality of value lists, place by place. -/
def sameAll : List Value → List Value → Bool
  | [], [] => true
  | a :: as, b :: bs => same a b && sameAll as bs
  | _, _ => false

end

instance : BEq Value := ⟨same⟩

theorem beq_def (a b : Value) : (a == b) = same a b := rfl

mutual

/-- The shown form of a value. -/
def display : Value → String
  | .null => "null"
  | .bool b => if b then "true" else "false"
  | .int64 n => toString n.toInt
  | .float64 x => x.display
  | .utf8 text => Text.quoted text
  | .record name fields =>
    name ++ " \x7b" ++ ",".intercalate (displayFields fields) ++ " \x7d"
  | .wrapped family payload => family ++ "(" ++ payload.display ++ ")"
  | .sequence items => "[" ++ ", ".intercalate (displayAll items) ++ "]"

/-- Each field as its name and value, with a blank in front. -/
def displayFields : List (String × Value) → List String
  | [] => []
  | (name, v) :: fields => (" " ++ name ++ ": " ++ v.display) :: displayFields fields

/-- The shown forms of several values. -/
def displayAll : List Value → List String
  | [] => []
  | v :: vs => v.display :: displayAll vs

end

example : (Value.record "P" []).display = "P \x7b \x7d" := by decide +kernel

end Value

end QueryDefaults
