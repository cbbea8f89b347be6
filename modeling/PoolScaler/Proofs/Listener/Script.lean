import PoolScaler.Listener.Loop
import PoolScaler.Proofs.Dialogue
set_option autoImplicit false

/-!
# A listener and its script

The surroundings of a polling listener as a script: for each turn the answer to
the poll and the answers to whatever is asked before the next one.  When the
script is over the signal comes, between two polls or while the listener waits
for one more.  A run asks, turn by turn, what the listener's state and the turn
determine, and leaves the demand that it has told.
-/

namespace PoolScaler.Listener

open Dialogue (Runs steady_bind)

/-- What is answered in one turn. -/
structure Turn where
  /-- The answer to the poll. -/
  poll : Sourced (Option QueueMessage)
  /-- The answer to an acknowledgement. -/
  acknowledge : Sourced Unit
  /-- The answer to whoever asks for the service of the scope. -/
  connect : Sourced AdminConnection
  /-- The answer to whoever has a lease issued anew. -/
  lease : Sourced Session
  /-- The answer to a claim. -/
  acquire : Sourced (List RequestId)
  /-- The time of the turn. -/
  clock : Instant
  deriving Inhabited

namespace Turn

/-- The message that the poll brought. -/
def message? (t : Turn) : Option QueueMessage :=
  match t.poll with
  | .ok message => message
  | .error _ => none

/-- The answer to a question of the session's holder; the questions of setup are
no part of a script. -/
def answer (t : Turn) : (call : SessionCall) → Sourced call.Value
  | .getMessage _ _ _ => t.poll
  | .deleteMessage _ _ _ => t.acknowledge
  | .adminConnection _ => t.connect
  | .refreshMessageSession _ _ _ => t.lease
  | .acquireJobs _ _ _ _ => t.acquire
  | .getRunnerPool _ _ | .createRunnerPool _ _ | .replaceRunnerPool _ _ _
  | .createMessageSession _ _ _ | .deleteMessageSession _ _ _ => .error (.http true)

end Turn

/-- How far a script has come, and the demand as it was told. -/
structure Stand where
  /-- The turn under way. -/
  turn : Turn
  /-- The turns after it. -/
  ahead : List Turn
  /-- The signal comes while the listener waits for one more message, not before. -/
  late : Bool
  tracker : Demand.Tracker

namespace Stand

/-- Before the first turn. -/
def start (script : List Turn) (late : Bool) (tracker : Demand.Tracker) : Stand :=
  ⟨default, script, late, tracker⟩

/-- What somebody gets who waits for as long as it takes. -/
def steady (s : Stand) : (need : SessionNeed) → need.Answer × Stand
  | .source call => (s.turn.answer call, s)
  | .wait _ => ((), s)
  | .clock => (s.turn.clock, s)
  | .tell event => ((), { s with tracker := s.tracker.apply event })

/-- What somebody gets who waits until the signal comes: a poll begins the next
turn, if there is one. -/
def raced (s : Stand) : (need : SessionNeed) → Option need.Answer × Stand
  | .source (.getMessage _ _ _) =>
    match s.ahead with
    | [] => (none, s)
    | t :: rest => (some t.poll, { s with turn := t, ahead := rest })
  | need => ((s.steady need).1, (s.steady need).2)

/-- A script as surroundings of a listener. -/
def surroundings : Surroundings SessionNeed.interface.withSignal Stand := fun s need =>
  match need with
  | .steady need => s.steady need
  | .raced need => s.raced need
  | .signalled => (s.ahead.isEmpty && !s.late, s)

end Stand

/-! ## What a turn asks for -/

/-- A question of a polling listener. -/
abbrev Question : Type := SessionNeed.interface.withSignal.Call

/-- A question to the source that is waited for. -/
def askSource (call : SessionCall) : Question := .steady (.source call)

/-- The questions of a listener about news: a claim, which is followed up if it
is granted, or something to tell the keeper of the pool. -/
def newsQuestions (l : Listener) (t : Turn) : News → List Question
  | .available ids =>
    match l.manager.conn with
    | none => []
    | some conn =>
      if ids = [] then []
      else askSource (.acquireJobs conn l.session.poolId l.session.queueToken ids) ::
        match t.acquire with
        | .error _ => []
        | .ok granted => [.steady .clock, .steady (.tell (.reserve granted t.clock))]
  | .assigned id poolId _ =>
    if poolId = 0 ∨ poolId = l.session.poolId then [.steady (.tell (.assign id))] else []
  | .completed id _ _ => [.steady (.tell (.complete id))]
  | .unknown _ => []

/-- The questions of a listener about a message that it acts on. -/
def dispatchQuestions (l : Listener) (t : Turn) (raw : QueueMessage) : List Question :=
  match Message.parse raw with
  | .ok message => l.newsQuestions t message.news
  | .error _ => []

/-- The questions of a listener that has its lease issued anew. -/
def renewQuestions (l : Listener) (t : Turn) : List Question :=
  askSource (.adminConnection l.manager.config.identity) ::
    match t.connect with
    | .error _ => []
    | .ok conn => [askSource (.refreshMessageSession conn l.session.poolId l.session.sessionId)]

/-- The questions of a listener that got the answer to a poll.  A message is
acknowledged first, and acted on only if its id is above the cursor. -/
def answerQuestions (l : Listener) (t : Turn) : List Question :=
  match t.poll with
  | .ok (some raw) =>
    askSource (.deleteMessage l.session.queueUrl l.session.queueToken raw.id) ::
      if l.cursor < raw.id then l.dispatchQuestions t raw else []
  | .ok none => []
  | .error fault => if fault.kind = .tokenExpired then l.renewQuestions t else []

/-- The poll of a listener. -/
def pollQuestion (l : Listener) : Question :=
  .raced (.source (.getMessage l.session.queueUrl l.session.queueToken l.cursor))

/-- The questions of a listener in one turn: whether to stop, the poll, and what
the answer to the poll asks for. -/
def turnQuestions (l : Listener) (t : Turn) : List Question :=
  .signalled :: l.pollQuestion :: l.answerQuestions t

/-- The listener after it tried to have its lease issued anew. -/
def afterRenewal (l : Listener) (t : Turn) : Listener :=
  match t.connect, t.lease with
  | .ok conn, .ok lease =>
    let session := { lease with poolId := l.session.poolId }
    { l with
      manager := { l.manager with conn := some conn, active := some session }
      session := session }
  | _, _ => l

/-- The listener after a turn. -/
def afterTurn (l : Listener) (t : Turn) : Listener :=
  match t.poll with
  | .ok (some raw) => { l with cursor := max l.cursor raw.id }
  | .ok none => l
  | .error fault => if fault.kind = .tokenExpired then l.afterRenewal t else l

/-- What news tells about the demand of a pool, given the answer to the claim it
leads to. -/
def Turn.newsEvent? (poolId : Int64) (t : Turn) : News → Option Demand.Event
  | .available ids =>
    match t.acquire with
    | .ok granted => if ids = [] then none else some (.reserve granted t.clock)
    | .error _ => none
  | .assigned id pool _ => if pool = 0 ∨ pool = poolId then some (.assign id) else none
  | .completed id _ _ => some (.complete id)
  | .unknown _ => none

/-- What the message of a turn tells about the demand of a pool. -/
def Turn.event? (poolId : Int64) (t : Turn) : Option Demand.Event :=
  match t.message? with
  | none => none
  | some raw =>
    match Message.parse raw with
    | .ok message => t.newsEvent? poolId message.news
    | .error _ => none

/-- Whether the message of a turn, if it has one, is above a listener's cursor. -/
def isAbove (l : Listener) (t : Turn) : Bool := t.message?.any fun raw => l.cursor < raw.id

/-- The listener's questions over a script. -/
def scriptQuestions (l : Listener) : List Turn → List Question
  | [] => []
  | t :: rest => l.turnQuestions t ++ (l.afterTurn t).scriptQuestions rest

/-- The listener after a script. -/
def afterScript (l : Listener) (script : List Turn) : Listener := script.foldl afterTurn l

/-- The questions of a listener to which the signal comes. -/
def lastQuestions (l : Listener) (late : Bool) : List Question :=
  if late then [.signalled, l.pollQuestion] else [.signalled]

/-! ## One turn -/

/-- The same stand after an event, if there is one. -/
def Stand.hear (s : Stand) (event : Option Demand.Event) : Stand :=
  { s with tracker := event.elim s.tracker s.tracker.apply }

theorem runs_tell (event : Demand.Event) (s : Stand) :
    Runs Stand.surroundings (tell event).steady s () [.steady (.tell event)]
      (s.hear (some event)) :=
  .ask rfl (.done ())

theorem runs_source (call : SessionCall) (s : Stand) :
    Runs Stand.surroundings call.ask.steady s (s.turn.answer call) [askSource call] s :=
  .ask rfl (.done _)

theorem runs_claim (conn : AdminConnection) (session : Session) (ids : List RequestId)
    (s : Stand) :
    Runs Stand.surroundings (claim conn session ids).steady s ()
      (askSource (.acquireJobs conn session.poolId session.queueToken ids) ::
        match s.turn.acquire with
        | .error _ => []
        | .ok granted => [.steady .clock, .steady (.tell (.reserve granted s.turn.clock))])
      (s.hear (s.turn.acquire.toOption.map (.reserve · s.turn.clock))) := by
  unfold claim
  rw [steady_bind]
  refine (runs_source _ s).bind ?_
  simp only [Turn.answer]
  cases s.turn.acquire with
  | error fault => exact .done ()
  | ok granted => exact .ask rfl (runs_tell _ s)

theorem runs_act (l : Listener) (hconn : l.manager.conn.isSome) (news : News) (s : Stand) :
    Runs Stand.surroundings (l.act news).steady s () (l.newsQuestions s.turn news)
      (s.hear (s.turn.newsEvent? l.session.poolId news)) := by
  obtain ⟨conn, hconn⟩ := Option.isSome_iff_exists.mp hconn
  cases news with
  | available ids =>
    have hclaim := runs_claim conn l.session ids s
    simp only [act, newsQuestions, Turn.newsEvent?, hconn, List.isEmpty_iff]
    by_cases hids : ids = []
    · simp only [hids, if_true]
      cases s.turn.acquire with
      | error fault => exact .done ()
      | ok granted => exact .done ()
    · simp only [hids, if_false]
      cases hacquire : s.turn.acquire with
      | error fault => simpa only [hacquire, Except.toOption, Option.map_none] using hclaim
      | ok granted => simpa only [hacquire, Except.toOption, Option.map_some] using hclaim
  | assigned id poolId jobId =>
    simp only [act, newsQuestions, Turn.newsEvent?]
    by_cases hpool : poolId = 0 ∨ poolId = l.session.poolId
    · rw [if_neg fun h => hpool.elim h.1 h.2, if_pos hpool, if_pos hpool]
      exact runs_tell _ s
    · rw [if_pos (not_or.mp hpool), if_neg hpool, if_neg hpool]
      exact .done ()
  | completed id result name => exact runs_tell _ s
  | unknown kind => exact .done ()

theorem max_eq_of_le {a b : Int64} (h : b ≤ a) : max a b = a := by
  change (if a ≤ b then b else a) = a
  split
  · rename_i h'
    exact Int64.le_antisymm h h'
  · rfl

theorem max_eq_of_lt {a b : Int64} (h : a < b) : max a b = b := by
  change (if a ≤ b then b else a) = b
  exact if_pos (Int64.le_of_lt h)

theorem le_max_left (a b : Int64) : a ≤ max a b := by
  change a ≤ (if a ≤ b then b else a)
  split
  · assumption
  · exact Int64.le_refl a

theorem le_max_right (a b : Int64) : b ≤ max a b := by
  rcases Int64.le_total b a with h | h
  · rw [max_eq_of_le h]
    exact h
  · change b ≤ (if a ≤ b then b else a)
    rw [if_pos h]
    exact Int64.le_refl b

theorem runs_take (l : Listener) (hconn : l.manager.conn.isSome) (raw : QueueMessage) (s : Stand)
    (hraw : s.turn.message? = some raw) :
    Runs Stand.surroundings (l.take raw).steady s { l with cursor := max l.cursor raw.id }
      (askSource (.deleteMessage l.session.queueUrl l.session.queueToken raw.id) ::
        if l.cursor < raw.id then l.dispatchQuestions s.turn raw else [])
      (s.hear (if l.cursor < raw.id then s.turn.event? l.session.poolId else none)) := by
  unfold take
  dsimp only
  by_cases hseen : raw.id ≤ l.cursor
  · have hnew : ¬ l.cursor < raw.id := Int64.not_lt.mpr hseen
    rw [if_pos hseen, if_neg hnew, if_neg hnew, max_eq_of_le hseen, steady_bind]
    simp only [if_pos hseen]
    exact (runs_source _ s).bind (.done l)
  · have hnew : l.cursor < raw.id := Int64.not_le.mp hseen
    rw [if_neg hseen, if_pos hnew, if_pos hnew, max_eq_of_lt hnew, steady_bind]
    simp only [if_neg hseen]
    refine (runs_source _ s).bind ?_
    simp only [Turn.event?, hraw]
    cases Message.parse raw with
    | error fault => exact .done _
    | ok message =>
      -- what acting on news asks depends on the manager and the session only
      have hact := runs_act { l with cursor := raw.id } hconn message.news s
      simp only [steady_bind]
      rw [← List.append_nil (l.newsQuestions s.turn message.news)]
      exact hact.bind (.done _)

theorem runs_renew (l : Listener) (s : Stand) :
    Runs Stand.surroundings l.renew.steady s (l.afterRenewal s.turn) (l.renewQuestions s.turn)
      s := by
  obtain ⟨⟨poll, acknowledge, connect, lease, acquire, clock⟩, ahead, late, tracker⟩ := s
  -- the two answers decide the run, which then is a computation
  cases connect with
  | error fault => exact ⟨rfl, rfl, rfl⟩
  | ok conn =>
    cases lease with
    | error fault => exact ⟨rfl, rfl, rfl⟩
    | ok lease => exact ⟨rfl, rfl, rfl⟩

theorem runs_answered (l : Listener) (hconn : l.manager.conn.isSome) (s : Stand) :
    Runs Stand.surroundings (l.answered s.turn.poll).steady s (l.afterTurn s.turn)
      (l.answerQuestions s.turn)
      (s.hear (if l.isAbove s.turn then s.turn.event? l.session.poolId else none)) := by
  unfold answered afterTurn answerQuestions
  cases hpoll : s.turn.poll with
  | error fault =>
    have hmessage : s.turn.message? = none := by rw [Turn.message?, hpoll]
    simp only [isAbove, hmessage]
    by_cases hexpired : fault.kind = .tokenExpired
    · simp only [if_pos hexpired]
      exact runs_renew l s
    · simp only [if_neg hexpired]
      exact .done l
  | ok message =>
    have hmessage : s.turn.message? = message := by rw [Turn.message?, hpoll]
    cases message with
    | none =>
      simp only [isAbove, hmessage]
      exact .done l
    | some raw =>
      simp only [isAbove, hmessage, Option.any_some, decide_eq_true_eq]
      exact runs_take l hconn raw s hmessage

/-- The stand after a turn of a listener. -/
def Stand.next (s : Stand) (l : Listener) (t : Turn) (rest : List Turn) : Stand :=
  { s with turn := t, ahead := rest }.hear
    (if l.isAbove t then t.event? l.session.poolId else none)

theorem runs_turn (l : Listener) (hconn : l.manager.conn.isSome) (s : Stand) (t : Turn)
    (rest : List Turn) (hahead : s.ahead = t :: rest) :
    Runs Stand.surroundings l.turn s (some (l.afterTurn t))
      (l.pollQuestion :: l.answerQuestions t) (s.next l t rest) := by
  obtain ⟨turn, ahead, late, tracker⟩ := s
  subst hahead
  have hanswered := runs_answered l hconn ⟨t, rest, late, tracker⟩
  have hturn := hanswered.bind (f := fun l => .done (some l)) (.done (some (l.afterTurn t)))
  rw [List.append_nil] at hturn
  exact (Runs.raced_some rfl).bind hturn

theorem runs_turn_nil (l : Listener) (s : Stand) (hahead : s.ahead = []) :
    Runs Stand.surroundings l.turn s none [l.pollQuestion] s := by
  obtain ⟨turn, ahead, late, tracker⟩ := s
  subst hahead
  exact (Runs.raced_none rfl).bind (.done none)

/-- The stand at the end of a script that a listener has come through. -/
def Stand.done (s : Stand) (l : Listener) (script : List Turn) : Stand :=
  match script with
  | [] => s
  | t :: rest => (s.next l t rest).done (l.afterTurn t) rest

theorem afterTurn_conn (l : Listener) (t : Turn) (hconn : l.manager.conn.isSome) :
    (l.afterTurn t).manager.conn.isSome := by
  unfold afterTurn afterRenewal
  split
  · exact hconn
  · exact hconn
  · split
    · split
      · rfl
      · exact hconn
    · exact hconn

theorem runs_poll (l : Listener) (hconn : l.manager.conn.isSome) (turns : Nat)
    (script : List Turn) (hturns : script.length < turns) (s : Stand) (hahead : s.ahead = script) :
    Runs Stand.surroundings (poll turns l) s (l.afterScript script)
      (l.scriptQuestions script ++ (l.afterScript script).lastQuestions s.late)
      (s.done l script) := by
  induction script generalizing l turns s with
  | nil =>
    obtain ⟨turns, rfl⟩ := Nat.exists_eq_succ_of_ne_zero (Nat.pos_iff_ne_zero.mp hturns)
    obtain ⟨turn, ahead, late, tracker⟩ := s
    subst hahead
    cases late with
    | false => exact ⟨rfl, rfl, rfl⟩
    | true => exact .ask rfl ((runs_turn_nil l _ rfl).bind (.done l))
  | cons t rest ih =>
    obtain ⟨turns, rfl⟩ := Nat.exists_eq_succ_of_ne_zero (by omega : turns ≠ 0)
    have hturn := runs_turn l hconn s t rest hahead
    have hrest := ih (l.afterTurn t) (afterTurn_conn l t hconn) turns (by simpa using hturns)
      (s.next l t rest) rfl
    obtain ⟨turn, ahead, late, tracker⟩ := s
    subst hahead
    rw [scriptQuestions, List.append_assoc]
    exact .ask rfl (hturn.bind hrest)

end PoolScaler.Listener
