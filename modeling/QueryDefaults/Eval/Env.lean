import QueryDefaults.Value

/-!
# Environments

An environment says what the names of a query stand for: sources for their rows, and lambda
parameters for values.
-/

set_option autoImplicit false

namespace QueryDefaults

/-- What sources and parameters stand for. The first entry of a name is the one that counts, so
binding a name again hides what it stood for. -/
structure Env where
  sources : List (String × List Value) := []
  params : List (String × Value) := []

namespace Env

/-- Binds a source to its rows. -/
def bindSource (env : Env) (name : String) (rows : List Value) : Env :=
  { env with sources := (name, rows) :: env.sources }

/-- Binds a parameter. -/
def bindParam (env : Env) (name : String) (value : Value) : Env :=
  { env with params := (name, value) :: env.params }

/-- The rows of a source. -/
def source? (env : Env) (name : String) : Option (List Value) := env.sources.lookup name

/-- The value of a parameter. -/
def param? (env : Env) (name : String) : Option Value := env.params.lookup name

end Env

end QueryDefaults
