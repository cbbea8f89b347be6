import PoolScaler.Listener.Loop
import PoolScaler.Simulation.Cue
set_option autoImplicit false

/-!
# A scripted source of sessions

A source that answers the questions of a session holder by a script, on a clock
that moves only while somebody waits.  Every question is written down together
with the demand at its moment.
-/

namespace PoolScaler.Simulation

/-- How the n-th question of its kind is treated; numbers count from 1. -/
abbrev SessionScript : Type := (call : SessionCall) → Nat → Cue call.Value

/-- A session as it is granted unless a script says otherwise. -/
def usualSession : Session := ⟨42, "sess-1", "host-1", "http://queue.test/1", "qt-1", none⟩

/-- What the n-th question of its kind is answered with unless a script says
otherwise. -/
def usualAnswer : (call : SessionCall) → Nat → call.Value
  | .adminConnection _, n =>
    ({ url := "http://svc.test", token := "admin-" ++ toString n } : AdminConnection)
  | .getRunnerPool _ _, _ => (none : Option RunnerPool)
  | .createRunnerPool _ pool, _ => { pool with id := 42 }
  | .replaceRunnerPool _ poolId pool, _ => { pool with id := poolId }
  | .createMessageSession _ _ _, _ => usualSession
  | .refreshMessageSession _ _ sessionId, n =>
    { usualSession with sessionId := sessionId, queueToken := "qt-" ++ toString (n + 1) }
  | .deleteMessageSession _ _ _, _ => ()
  | .getMessage _ _ _, _ => (none : Option QueueMessage)
  | .deleteMessage _ _ _, _ => ()
  | .acquireJobs _ _ _ ids, _ => ids

/-- How a question is treated that its script does not know: it is answered as
usual, but one for a message is not answered and makes the signal to stop come. -/
def usualCue (call : SessionCall) (n : Nat) : Cue call.Value :=
  match call with
  | .getMessage url token cursor =>
    ({ answer := none, delay := .zero, stops := true }
      : Cue (SessionCall.getMessage url token cursor).Value)
  | call => .ofAnswer (.ok (usualAnswer call n))

/-- A question that was asked. -/
structure Asked where
  call : SessionCall
  /-- Demand when it was asked. -/
  demand : Demand.Snapshot

/-- The state of the source and of those around it. -/
structure SessionStage where
  /-- Milliseconds that have passed. -/
  clock : Nat
  /-- The signal to stop has come. -/
  stopped : Bool
  tracker : Demand.Tracker
  /-- How many questions of each kind there were. -/
  counts : Keyed Nat
  /-- The questions, the last one first. -/
  asked : List Asked

namespace SessionStage

/-- Nothing has been asked. -/
def start (tracker : Demand.Tracker) : SessionStage := ⟨0, false, tracker, .empty, []⟩

/-- Ask a question. -/
def ask (script : SessionScript) (s : SessionStage) (call : SessionCall) :
    Cue call.Value × SessionStage :=
  let number := (s.counts.find? call.name).getD 0 + 1
  let cue := script call number
  (cue,
    { s with
      counts := s.counts.insert call.name number
      stopped := s.stopped || cue.stops
      asked := ⟨call, s.tracker.view⟩ :: s.asked })

/-- Let time pass. -/
def elapse (s : SessionStage) (span : Span) : SessionStage :=
  { s with clock := s.clock + span.millis }

/-- What somebody gets who waits for as long as it takes.  A question that is
never answered counts as one whose time ran out. -/
def steady (script : SessionScript) :
    Surroundings SessionNeed.interface SessionStage := fun s need =>
  match need with
  | .source call =>
    let (cue, s) := s.ask script call
    (cue.answer.getD (.error (.http true)), s.elapse cue.delay)
  | .wait span => ((), s.elapse span)
  | .clock => (today, s)
  | .tell event => ((), { s with tracker := s.tracker.apply event })

/-- What somebody gets who waits until the signal to stop comes: an answer that
takes no waiting is heard even so. -/
def raced (script : SessionScript) (s : SessionStage) :
    (need : SessionNeed) → Option need.Answer × SessionStage
  | .source call =>
    let (cue, s) := s.ask script call
    if s.stopped && !cue.isImmediate then (none, s)
    else (cue.answer, s.elapse cue.delay)
  | .wait span =>
    if s.stopped && span.millis ≠ 0 then (none, s) else (some (), s.elapse span)
  | .clock => (some today, s)
  | .tell event => (some (), { s with tracker := s.tracker.apply event })

/-- The surroundings of somebody who heeds the signal to stop. -/
def surroundings (script : SessionScript) :
    Surroundings SessionNeed.interface.withSignal SessionStage := fun s need =>
  match need with
  | .steady need => steady script s need
  | .raced need => raced script s need
  | .signalled => (s.stopped, s)

end SessionStage

end PoolScaler.Simulation
