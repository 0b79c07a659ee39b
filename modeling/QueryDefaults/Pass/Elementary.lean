import QueryDefaults.Expansion
import QueryDefaults.Pass

/-!
# Elementary passes

Passes beside the default-value normalizer, each with one rule of its own and a plain count.
-/

set_option autoImplicit false

namespace QueryDefaults.Pass

/-- The pass that changes nothing. -/
def identity : Pass Nat Unit := ofLeave fun e operands => pure (.rebuild e operands)

/-- Replaces every integer constant by its successor, with wrap-around, and counts each one. -/
def increment : Pass Nat Unit := ofLeave fun e operands =>
  match e with
  | .constant (.int64 n) ty => do
    Traced.tally 1
    return ⟨.constant (.int64 (n + 1)) ty, true⟩
  | e => pure (.rebuild e operands)

/-- Replaces, from the leaves up, every sum of two integer constants by a constant of the type of
the sum, with wrap-around, and counts each one. -/
def foldAdd : Pass Nat Unit := ofLeave fun e operands =>
  let visited := Visit.rebuild e operands
  match visited.tree with
  | .binary .add (.constant (.int64 a) _) (.constant (.int64 b) _) ty => do
    Traced.tally 1
    return ⟨.constant (.int64 (a + b)) ty, true⟩
  | _ => pure visited

/-- Replaces every source of one name by a fresh source of another name and the same type. A source
so replaced counts as changed, also when the two names are equal. -/
def renameSource (old new : String) : Pass Nat Unit := ofLeave fun e operands =>
  match e with
  | .plain (.source name) _ ty =>
    if name = old then pure ⟨.plain (.source new) [] ty, true⟩ else pure (.rebuild e operands)
  | e => pure (.rebuild e operands)

/-- Replaces, from the leaves up, every call of `FirstOrFallback` by its expansion, and counts each
one. The expansion itself is not visited. -/
def lower : Pass Nat Unit := ofLeave fun e operands =>
  let visited := Visit.rebuild e operands
  match visited.tree with
  | .call .firstOrFallback _ args ty => do
    Traced.tally 1
    let expansion ← Traced.ofExcept (Expr.expandFirstOrFallback .firstOrFallback args ty)
    return ⟨expansion, true⟩
  | _ => pure visited

end QueryDefaults.Pass
