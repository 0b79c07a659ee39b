import QueryDefaults.Expr.Display

/-!
# Faults of the evaluator

Evaluation ends in a fault where a query makes no sense: a name is not bound, an operand is missing
or of the wrong sort, an integer leaves its range.
-/

set_option autoImplicit false

namespace QueryDefaults

/-- Why an evaluation ends without a value. -/
inductive Fault where
  /-- A node has fewer operands, or a lambda fewer parameters, than its meaning needs. -/
  | missingOperand
  /-- The result of an integer operation is out of range. -/
  | overflow
  | unboundParameter (name : String)
  | unknownSource (name : String)
  | noField (name : String)
  /-- A lambda stands where a value is needed. -/
  | strayLambda
  /-- `First` found no row. -/
  | firstOfNone
  /-- No overload of `FirstOrFallback` takes so many arguments. -/
  | unknownFallback (arity : Nat)
  /-- The operator means nothing with so many arguments. -/
  | unsupportedCall (op : Operator) (arity : Nat)
  /-- A node that is no lambda is applied to a row. -/
  | notLambda (e : Expr)
  /-- A value that is no sequence is asked for its rows. -/
  | notSequence (v : Value)

/-- The text of a fault; a missing operand and an overflow have none. -/
def Fault.message? : Fault → Option String
  | .missingOperand | .overflow => none
  | .unboundParameter name => some ("unbound parameter " ++ name)
  | .unknownSource name => some ("unknown source " ++ name)
  | .noField name => some ("no field " ++ name)
  | .strayLambda => some "lambda evaluated outside an operator"
  | .firstOfNone => some "First on an empty sequence"
  | .unknownFallback arity =>
    some ("helper expands: UnknownOverload \x7b operator: " ++ Operator.firstOrFallback.name
      ++ ", arity: " ++ toString arity ++ " \x7d")
  | .unsupportedCall op arity =>
    some ("unsupported call " ++ op.name ++ "/" ++ toString arity)
  | .notLambda e => some ("expected lambda, got " ++ e.display)
  | .notSequence v => some ("expected a sequence, got " ++ v.display)

end QueryDefaults
