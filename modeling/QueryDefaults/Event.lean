import QueryDefaults.Rule
import QueryDefaults.Ty

/-!
# Log events

The rules log at the finest level whether they skip a node or apply to it, and the pipeline logs its
stages.
-/

set_option autoImplicit false

namespace QueryDefaults

/-- What a run logs. -/
inductive Event where
  /-- A rule left a node as it is, because the type cannot be built without arguments. -/
  | skipped (rule : Rule) (ty : Ty)
  /-- A `DefaultIfEmpty` got its default. -/
  | suppliedDefault (elem : Ty)
  /-- A `FirstOrDefault` of so many arguments became a `FirstOrFallback`. -/
  | routedCall (arity : Nat) (elem : Ty)
  /-- A `??` got a default behind it. -/
  | terminatedCoalesce (ty : Ty)
  /-- A null literal became the empty wrapper. -/
  | replacedLiteral (wrapper : Ty)
  | pipelineStarted (stages nodes : Nat)
  | stageStarted (stage : String)
  | stageFinished (stage : String) (applied : Nat)
  | pipelineFinished (applied : Nat)
deriving DecidableEq

namespace Event

/-- The rule whose application an event reports. -/
def appliedRule? : Event → Option Rule
  | .suppliedDefault _ => some .defaultIfEmpty
  | .routedCall _ _ => some .firstOrDefault
  | .terminatedCoalesce _ => some .coalesce
  | .replacedLiteral _ => some .optionalCompare
  | _ => none

/-- The rule that an event reports as having passed a node by. -/
def skippedRule? : Event → Option Rule
  | .skipped rule _ => some rule
  | _ => none

/-- A type between backquotes. -/
def quotedType (ty : Ty) : String := "`" ++ ty.display ++ "`"

/-- The level and text of an event. -/
def render : Event → String
  | .skipped rule ty =>
    "TRACE " ++ rule.name ++ ": skipping, " ++ quotedType ty ++ " has no zero-argument constructor"
  | .suppliedDefault elem =>
    "TRACE " ++ Rule.defaultIfEmpty.name ++ ": supplying explicit default for " ++ quotedType elem
  | .routedCall arity elem =>
    "TRACE " ++ Rule.firstOrDefault.name ++ ": routing " ++ toString arity
      ++ "-argument call through FirstOrFallback for " ++ quotedType elem
  | .terminatedCoalesce ty =>
    "TRACE " ++ Rule.coalesce.name ++ ": terminating " ++ quotedType ty ++ " with its default"
  | .replacedLiteral wrapper =>
    "TRACE " ++ Rule.optionalCompare.name ++ ": replacing null literal with empty "
      ++ quotedType wrapper
  | .pipelineStarted stages nodes =>
    "DEBUG Starting rewrite: stages=" ++ toString stages ++ ", nodes=" ++ toString nodes
  | .stageStarted stage => "DEBUG Running rewrite stage '" ++ stage ++ "'"
  | .stageFinished stage applied =>
    "DEBUG Stage '" ++ stage ++ "' finished: rewrites=" ++ toString applied
  | .pipelineFinished applied => "DEBUG Rewrite complete: rewrites=" ++ toString applied

end Event

end QueryDefaults
