import QueryDefaults.Json.Parse
import QueryDefaults.Json.Print

/-!
# The layout of types, values and trees in JSON

A variant is an object whose only member is its tag, and its content stands behind the tag; a
variant without content is the bare tag. A record of named parts is an object of its parts.

Reading is more liberal than writing. A variant without content may also be an object with `null`
behind the tag; the parts of a record may stand in any order and among other members, or without
their names, in order, in an array. What is read may nest at most `maxDepth` arrays and objects,
while members that nobody reads may nest without bound, so readers carry a budget of levels.
-/

set_option autoImplicit false

namespace QueryDefaults

namespace Json

/-- How many arrays and objects an item may nest. -/
def maxDepth : Nat := 127

/-- A string that holds a text. -/
def ofText (text : String) : Json := .string (some text)

/-- A variant with content. -/
def variant (tag : String) (content : Json) : Json := .object [(some tag, content)]

/-- A record of named parts. -/
def parts (members : List (String × Json)) : Json :=
  .object (members.map fun (name, value) => (some name, value))

/-- A variant whose content is a record. -/
def variantParts (tag : String) (members : List (String × Json)) : Json :=
  variant tag (parts members)

/-- The tag of a variant without content. -/
def unitTag? : Nat → Json → Option String
  | _, .string tag => tag
  | _ + 1, .object [(tag, .null)] => tag
  | _, _ => none

/-- The only member of a name. -/
def member? (members : List (Option String × Json)) (name : String) : Option Json :=
  match members.filter fun member => member.1 == some name with
  | [(_, value)] => some value
  | _ => none

/-- The parts of a record, in the order of their names. Every name of an object is read, so each of
them has to be a text. -/
def parts? (names : List String) : Json → Option (List Json)
  | .array items => if items.length = names.length then some items else none
  | .object members =>
    if members.all fun member => member.1.isSome then names.mapM (member? members) else none
  | _ => none

end Json

end QueryDefaults
