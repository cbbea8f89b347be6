import PoolScaler.Source.Service
import PoolScaler.Store.Basic
set_option autoImplicit false

/-!
# Keeping a pool at its demand

The settings of a pool's keeper, what one pass over the pool can come to, and
why a pass can fail.
-/

namespace PoolScaler.Reconcile

/-- The settings of a pool's keeper. -/
structure Config where
  /-- Where the job source is, for people and for runners. -/
  webUrl : String
  /-- How long after pods were created none may be deleted. -/
  scaleDownDelay : Span
  /-- The age up to which a pod's runner need not be registered. -/
  registrationTimeout : Span
  /-- How long to stay away from a source that asks for fewer calls. -/
  rateLimitBackoff : Span
  /-- How long a probe may take. -/
  probeTimeout : Span
  deriving DecidableEq, Repr, Inhabited

/-- What a pass asks of whoever runs it. -/
inductive Verdict where
  /-- Nothing more for now. -/
  | done
  /-- Another pass after this span. -/
  | requeueAfter (span : Span)
  /-- No other pass before this span is over. -/
  | rateLimited (span : Span)
  deriving DecidableEq, Repr, Inhabited

/-- Why a pass failed. -/
inductive Fault where
  /-- The store failed. -/
  | state (fault : StoreFault)
  /-- The source failed to tell about the runner of a pod. -/
  | probe (pod : String) (fault : SourceFault)
  /-- The source took too long to tell about the runner of a pod. -/
  | probeTimeout (pod : String)
  /-- The source did not let new runners join. -/
  | runners (fault : SourceFault)
  deriving DecidableEq, Repr, Inhabited

/-- The wording of a fault. -/
def Fault.message : Fault → String
  | state fault => "state store error: " ++ fault.message
  | probe pod fault => "runner probe for pod " ++ pod ++ " failed: " ++ fault.message
  | probeTimeout pod => "runner probe for pod " ++ pod ++ " timed out"
  | runners fault => "job source error: " ++ fault.message

/-- Why a round of probes was broken off. -/
inductive Halt where
  /-- The source asks for fewer calls. -/
  | rateLimited
  /-- The pass fails. -/
  | fault (fault : Fault)
  deriving DecidableEq, Repr, Inhabited

end PoolScaler.Reconcile
