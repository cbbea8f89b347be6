import PoolScaler.Source.Service
set_option autoImplicit false

/-!
# Cues

How a scripted source treats one question: whether and how it answers, how
long that takes, and whether asking makes somebody signal to stop.
-/

namespace PoolScaler.Simulation

/-- The time of day in a simulation, which stands still. -/
def today : Instant := 1800000000

/-- How one question is treated. -/
structure Cue (α : Type) where
  /-- The answer, if there ever is one. -/
  answer : Option (Sourced α)
  /-- How long the answer takes. -/
  delay : Span
  /-- Asking the question makes the signal to stop come. -/
  stops : Bool

namespace Cue

variable {α : Type}

/-- An answer at once. -/
def ofAnswer (answer : Sourced α) : Cue α := ⟨some answer, .zero, false⟩

/-- No answer at all. -/
def never : Cue α := ⟨none, .zero, false⟩

/-- The answer comes without any waiting. -/
def isImmediate (c : Cue α) : Bool := c.answer.isSome && c.delay.millis == 0

/-- What someone sees who waits no longer than a span. -/
def within (c : Cue α) (limit : Span) : Option (Sourced α) :=
  if c.delay.millis ≤ limit.millis then c.answer else none

/-- How long someone waits who waits no longer than a span. -/
def wait (c : Cue α) (limit : Span) : Span :=
  if (c.within limit).isSome then c.delay else limit

end Cue

end PoolScaler.Simulation
