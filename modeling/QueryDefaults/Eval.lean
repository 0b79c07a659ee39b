import QueryDefaults.Eval.Env
import QueryDefaults.Eval.Fault
import QueryDefaults.Integer

/-!
# The meaning of a query

The meaning of a node is put together from the meanings of its operands: what it evaluates to in an
environment, and what it gives when it is applied to a row. Evaluators differ only in what they make
of absence, so that part is a parameter; the in-memory evaluator takes the absent value for what it
is, also in comparisons, which are structural.
-/

set_option autoImplicit false

namespace QueryDefaults

/-- What an evaluator makes of absence. Both questions are about a node as it is written. -/
structure Absence where
  /-- What a node gives when its operands leave it without a value: the row of a `DefaultIfEmpty`
  without fallback over no rows, the result of a `FirstOrDefault` without a row, and the result of a
  `??` whose operands are both absent. -/
  missing : Expr → Except Fault Value
  /-- What the null literal of a comparison stands for, beside the value of the other operand. -/
  nullBeside : Expr → Value → Except Fault Value

/-- In memory, absence is the absent value. -/
def Absence.inMemory : Absence := ⟨fun _ => .ok .null, fun _ _ => .ok .null⟩

/-- The meaning of a node. -/
structure Meaning where
  /-- What the node evaluates to. -/
  value : Env → Except Fault Value
  /-- What the node, as a lambda, gives for a row. -/
  apply : Value → Env → Except Fault Value

/-- The rows of a sequence. -/
def Value.rows : Value → Except Fault (List Value)
  | .sequence items => .ok items
  | v => .error (.notSequence v)

/-- An integer as a value, if it is in range. -/
def Value.ofInt (n : Int) : Except Fault Value :=
  match int64OfInt? n with
  | some n => .ok (.int64 n)
  | none => .error .overflow

namespace Meaning

/-- The meaning of a node that is no lambda. -/
def ofValue (e : Expr) (value : Env → Except Fault Value) : Meaning :=
  ⟨value, fun _ _ => .error (.notLambda e)⟩

/-- The rows that a node evaluates to. -/
def rows (m : Meaning) (env : Env) : Except Fault (List Value) := do
  (← m.value env).rows

/-- Whether a node, as a predicate, holds of a row. -/
def holds (m : Meaning) (env : Env) (row : Value) : Except Fault Bool := do
  return (← m.apply row env).isTrue

/-- The rows that pass a test. Every row is tested, in order. -/
def keep (test : Value → Except Fault Bool) : List Value → Except Fault (List Value)
  | [] => .ok []
  | row :: rows => do
    let holds ← test row
    let rest ← keep test rows
    return if holds then row :: rest else rest

/-- The rows of the first argument that pass the second one, if there is a second one. -/
def matching (args : List Meaning) (env : Env) : Except Fault (List Value) :=
  match args with
  | [] => .error .missingOperand
  | [source] => source.rows env
  | source :: predicate :: _ => do
    let rows ← source.rows env
    keep (predicate.holds env) rows

/-- What a method call evaluates to. -/
def call (missing : Except Fault Value) (op : Operator) (args : List Meaning) (env : Env) :
    Except Fault Value :=
  match op, args with
  | .filter, [source, predicate] => return .sequence (← matching [source, predicate] env)
  | .select, [source, selector] => do
    let rows ← source.rows env
    return .sequence (← rows.mapM fun row => selector.apply row env)
  | .defaultIfEmpty, source :: rest => do
    let rows ← source.rows env
    if rows.isEmpty then
      match rest with
      | [fallback] => return .sequence [← fallback.value env]
      | _ => return .sequence [← missing]
    else return .sequence rows
  | .defaultIfEmpty, [] => .error .missingOperand
  | .firstOrDefault, args => do
    match ← matching args env with
    | row :: _ => return row
    | [] => missing
  | .first, args => do
    match ← matching args env with
    | row :: _ => return row
    | [] => .error .firstOfNone
  | .concat, [left, right] => do
    let before ← left.rows env
    let behind ← right.rows env
    return .sequence (before ++ behind)
  | .count, args => return .int64 (.ofNat (← matching args env).length)
  | .any, args => return .bool !(← matching args env).isEmpty
  | .firstOrFallback, [source, fallback] => do
    let rows ← source.rows env
    return rows.headD (← fallback.value env)
  | .firstOrFallback, [source, predicate, fallback] => do
    let rows ← matching [source, predicate] env
    return rows.headD (← fallback.value env)
  | .firstOrFallback, args => .error (.unknownFallback args.length)
  | op, args => .error (.unsupportedCall op args.length)

/-- What an ordering or arithmetic operator gives for two integers. -/
def arithmetic (op : BinaryOp) (left right : Int64) : Except Fault Value :=
  match op with
  | .lessThan => .ok (.bool (left < right))
  | .lessThanOrEqual => .ok (.bool (left ≤ right))
  | .greaterThan => .ok (.bool (right < left))
  | .greaterThanOrEqual => .ok (.bool (right ≤ left))
  | .add => Value.ofInt (left.toInt + right.toInt)
  | .subtract => Value.ofInt (left.toInt - right.toInt)
  | .multiply => Value.ofInt (left.toInt * right.toInt)
  | _ => .ok .null

/-- What a binary operation other than `==` and `!=` evaluates to. Ordering and arithmetic evaluate
both operands, and give the absent value for anything but two integers. -/
def binary (missing : Except Fault Value) (op : BinaryOp) (left right : Meaning) (env : Env) :
    Except Fault Value :=
  match op with
  | .coalesce => do
    match ← left.value env with
    | .null =>
      match ← right.value env with
      | .null => missing
      | value => return value
    | value => return value
  | .andAlso => do
    if (← left.value env).isTrue then return .bool (← right.value env).isTrue
    else return .bool false
  | .orElse => do
    if (← left.value env).isTrue then return .bool true
    else return .bool (← right.value env).isTrue
  | op => do
    match ← left.value env, ← right.value env with
    | .int64 a, .int64 b => arithmetic op a b
    | _, _ => return .null

/-- The two values that a comparison compares. A null literal beside another operand stands for what
the evaluator makes of it. -/
def comparands (nullBeside : Value → Except Fault Value) (left right : Expr)
    (leftMeaning rightMeaning : Meaning) (env : Env) : Except Fault (Value × Value) := do
  match left.isNullLiteral, right.isNullLiteral with
  | true, false => do
    let value ← rightMeaning.value env
    return (← nullBeside value, value)
  | false, true => do
    let value ← leftMeaning.value env
    return (value, ← nullBeside value)
  | _, _ => return (← leftMeaning.value env, ← rightMeaning.value env)

/-- What a plain node evaluates to. -/
def plain (kind : PlainKind) (operands : List Meaning) (env : Env) : Except Fault Value :=
  match kind, operands with
  | .source name, _ =>
    match env.source? name with
    | some rows => return .sequence rows
    | none => .error (.unknownSource name)
  | .parameter name, _ =>
    match env.param? name with
    | some value => return value
    | none => .error (.unboundParameter name)
  | .field name, target :: _ => do
    match ← target.value env with
    | .null => return .null
    | value =>
      match value.field? name with
      | some inner => return inner
      | none => .error (.noField name)
  | .newArray, operands => return .sequence (← operands.mapM fun operand => operand.value env)
  | .not, operand :: _ => return .bool !(← operand.value env).isTrue
  | .lambda _, _ => .error .strayLambda
  | .field _, [] | .not, [] => .error .missingOperand

/-- What a lambda gives for a row: its body where the first parameter is bound to the row. -/
def lambda (params : List String) (operands : List Meaning) (row : Value) (env : Env) :
    Except Fault Value :=
  match params, operands with
  | param :: _, body :: _ => body.value (env.bindParam param row)
  | _, _ => .error .missingOperand

end Meaning

namespace Expr

mutual

/-- The meaning of a tree. -/
def meaning (absence : Absence) : Expr → Meaning
  | .call op typeArgs args ty =>
    let node := Expr.call op typeArgs args ty
    .ofValue node (Meaning.call (absence.missing node) op (meanings absence args))
  | .binary op left right ty =>
    let node := Expr.binary op left right ty
    let l := left.meaning absence
    let r := right.meaning absence
    .ofValue node fun env =>
      match op with
      | .equal => do
        let (a, b) ← Meaning.comparands (absence.nullBeside node) left right l r env
        return .bool (a == b)
      | .notEqual => do
        let (a, b) ← Meaning.comparands (absence.nullBeside node) left right l r env
        return .bool (a != b)
      | op => Meaning.binary (absence.missing node) op l r env
  | .constant value ty => .ofValue (.constant value ty) fun _ => .ok value
  | .plain kind children ty =>
    let operands := meanings absence children
    let node := Expr.plain kind children ty
    { value := Meaning.plain kind operands
      apply := fun row env =>
        match kind with
        | .lambda params => Meaning.lambda params operands row env
        | _ => .error (.notLambda node) }

/-- The meanings of several trees. -/
def meanings (absence : Absence) : List Expr → List Meaning
  | [] => []
  | e :: es => e.meaning absence :: meanings absence es

end

/-- What a tree evaluates to in memory. -/
def eval (e : Expr) (env : Env) : Except Fault Value := (e.meaning .inMemory).value env

end Expr

end QueryDefaults
