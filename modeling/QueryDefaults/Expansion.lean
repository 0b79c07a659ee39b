import QueryDefaults.Overload

/-!
# The first-or-fallback helper

`FirstOrFallback` is defined by its expansion into the other operators:

* `FirstOrFallback(source, fallback)` is `First(Concat(source, [fallback]))`;
* `FirstOrFallback(source, predicate, fallback)` is
  `First(Concat(Where(source, predicate), [fallback]))`.

The fallback is appended after filtering, so it is never tested against the predicate.
-/

set_option autoImplicit false

namespace QueryDefaults.Expr

/-- The expansion of a helper call over the rows that `source` gives. The result type of the call is
the element type of every node of the expansion. -/
def expansionOver (elem : Ty) (source fallback : Expr) : Except QueryError Expr := do
  let rows := Ty.sequence elem
  let concat ← call? .concat [elem] [source, .plain .newArray [fallback] rows] rows
  call? .first [elem] [concat] elem

/-- The expansion of a call of `FirstOrFallback`. -/
def expandFirstOrFallback (op : Operator) (args : List Expr) (elem : Ty) :
    Except QueryError Expr := do
  if op = .firstOrFallback then
    match args with
    | [source, fallback] => expansionOver elem source fallback
    | [source, predicate, fallback] =>
      let filtered ← call? .filter [elem] [source, predicate] (.sequence elem)
      expansionOver elem filtered fallback
    | args => throw (.unknownOverload op args.length)
  else throw (.malformedHelper op)

/-- The expansion of a node, which must be a call of `FirstOrFallback`; `none` for a node that is no
method call at all. -/
def expand? : Expr → Option (Except QueryError Expr)
  | .call op _ args ty => some (expandFirstOrFallback op args ty)
  | _ => none

end QueryDefaults.Expr
