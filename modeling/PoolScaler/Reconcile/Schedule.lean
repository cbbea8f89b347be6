import PoolScaler.Reconcile.Basic
set_option autoImplicit false

/-!
# When to look at a pool

Between two passes a pool's keeper waits for its timer, for news of demand or
for the signal to stop.  While it backs off from a source that asked for fewer
calls, news does not shorten the wait; it is kept and heeded afterwards.  Times
are milliseconds on a clock that never goes back.
-/

namespace PoolScaler.Reconcile

/-- The timer of a keeper that waits. -/
structure Timer where
  /-- When the next pass is due. -/
  due : Nat
  /-- News does not bring the pass forward. -/
  backingOff : Bool
  deriving DecidableEq, Repr, Inhabited

/-- Why waiting ends. -/
inductive Wake where
  /-- The signal to stop has come. -/
  | stop
  /-- The time is over. -/
  | due
  /-- There is news of demand, which is taken. -/
  | news
  deriving DecidableEq, Repr, Inhabited

namespace Timer

/-- The first pass is due at once. -/
def start (now : Nat) : Timer := ⟨now, false⟩

/-- How long to wait after a pass, and whether news may shorten that. -/
def pause (interval : Span) : Except Fault Verdict → Span × Bool
  | .ok .done => (interval, false)
  | .ok (.requeueAfter span) => (span.min interval, false)
  | .ok (.rateLimited span) => (span, true)
  | .error _ => (interval, false)

/-- The timer after a pass that ended at `ended`. -/
def after (interval : Span) (ended : Nat) (outcome : Except Fault Verdict) : Timer :=
  let (span, backingOff) := pause interval outcome
  ⟨ended + span.millis, backingOff⟩

/-- Whether and why waiting ends at `now`. -/
def wake? (t : Timer) (now : Nat) (news stop : Bool) : Option Wake :=
  if stop then some .stop
  else if t.due ≤ now then some .due
  else if news && !t.backingOff then some .news
  else none

end Timer

end PoolScaler.Reconcile
