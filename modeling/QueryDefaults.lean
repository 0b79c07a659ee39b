import QueryDefaults.Codec.Expr
import QueryDefaults.Eval
import QueryDefaults.Pipeline
import QueryDefaults.Registry.Default
import QueryDefaults.Proofs.Codec.Expr
import QueryDefaults.Proofs.Congruence
import QueryDefaults.Proofs.Conservative
import QueryDefaults.Proofs.Lowering.Checked
import QueryDefaults.Proofs.Lowering.Commute
import QueryDefaults.Proofs.Lowering.Complete
import QueryDefaults.Proofs.Normalizer.Outline
import QueryDefaults.Proofs.Normalizer.Questions
import QueryDefaults.Proofs.Normalizer.Unchanged
import QueryDefaults.Proofs.Pipeline.Repeated
import QueryDefaults.Proofs.Registry.Apart
import QueryDefaults.Proofs.Registry.Conflict
import QueryDefaults.Proofs.Registry.Conforms
import QueryDefaults.Proofs.Registry.EmptyWrapper
import QueryDefaults.Proofs.Pipeline.Compose
import QueryDefaults.Proofs.Pipeline.History
import QueryDefaults.Proofs.Registry.Locality
import QueryDefaults.Proofs.Registry.Nesting
import QueryDefaults.Proofs.Codec.Normal
import QueryDefaults.Proofs.Normalizer.Mirror
import QueryDefaults.Proofs.Lowering.Fallback
import QueryDefaults.Proofs.Normalizer.Log
import QueryDefaults.Proofs.Presence
import QueryDefaults.Proofs.Summing
