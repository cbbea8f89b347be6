import Mathlib.Data.List.Induction
import PoolScaler.Proofs.Listener.Script
set_option autoImplicit false

/-!
# What a listener makes of a script

Over a whole script the cursor is the running maximum of the ids received,
every message is acknowledged once, and exactly those above the maximum at their
arrival are acted on.  The demand in the end is the fold of what they tell.
-/

namespace PoolScaler.Listener

open Dialogue (Runs)

/-! ## What a script brings -/

/-- The highest id of the messages in some turns, and at least 0. -/
def highest (before : List Turn) : Int64 :=
  (before.filterMap Turn.message?).foldl (fun most raw => max most raw.id) 0

/-- Whether the message of a turn, if it has one, is above all before it. -/
def isNew (before : List Turn) (t : Turn) : Bool :=
  t.message?.any fun raw => highest before < raw.id

/-- The turns whose message is above all before it, those of some turns before
included. -/
def newTurns (before : List Turn) : List Turn → List Turn
  | [] => []
  | t :: rest =>
    if isNew before t then t :: newTurns (before ++ [t]) rest else newTurns (before ++ [t]) rest

/-- The turns of a script whose message is to be acted on. -/
def dispatched (script : List Turn) : List Turn := newTurns [] script

/-- The turn with its acknowledgement taken. -/
def Turn.acknowledged (t : Turn) : Turn := { t with acknowledge := .ok () }

/-- The cursor of a poll. -/
def cursor? : Question → Option Int64
  | .raced (.source (.getMessage _ _ cursor)) => some cursor
  | _ => none

/-- The message that is acknowledged. -/
def acknowledgedId? : Question → Option Int64
  | .steady (.source (.deleteMessage _ _ id)) => some id
  | _ => none

theorem highest_concat (before : List Turn) (t : Turn) :
    highest (before ++ [t]) =
      t.message?.elim (highest before) fun raw => max (highest before) raw.id := by
  unfold highest
  rw [List.filterMap_append, List.foldl_append]
  cases hmessage : t.message? with
  | none => simp [hmessage]
  | some raw => simp [hmessage]

/-! ## The listener along a script -/

theorem afterScript_append (l : Listener) (before after : List Turn) :
    l.afterScript (before ++ after) = (l.afterScript before).afterScript after :=
  List.foldl_append

theorem afterRenewal_cursor (l : Listener) (t : Turn) : (l.afterRenewal t).cursor = l.cursor := by
  unfold afterRenewal
  split
  · rfl
  · rfl

theorem afterRenewal_poolId (l : Listener) (t : Turn) :
    (l.afterRenewal t).session.poolId = l.session.poolId := by
  unfold afterRenewal
  split
  · rfl
  · rfl

theorem afterTurn_cursor (l : Listener) (t : Turn) :
    (l.afterTurn t).cursor = t.message?.elim l.cursor fun raw => max l.cursor raw.id := by
  unfold afterTurn Turn.message?
  cases t.poll with
  | ok message =>
    cases message with
    | none => rfl
    | some raw => rfl
  | error fault =>
    dsimp only [Option.elim_none]
    split
    · exact afterRenewal_cursor l t
    · rfl

theorem afterTurn_poolId (l : Listener) (t : Turn) :
    (l.afterTurn t).session.poolId = l.session.poolId := by
  unfold afterTurn
  split
  · rfl
  · rfl
  · split
    · exact afterRenewal_poolId l t
    · rfl

/-- The cursor goes on being the highest id. -/
theorem afterTurn_cursor_highest {l : Listener} {before : List Turn}
    (hcursor : l.cursor = highest before) (t : Turn) :
    (l.afterTurn t).cursor = highest (before ++ [t]) := by
  rw [afterTurn_cursor, highest_concat, hcursor]

theorem isAbove_eq {l : Listener} {before : List Turn} (hcursor : l.cursor = highest before)
    (t : Turn) : l.isAbove t = isNew before t := by
  rw [isAbove, isNew, hcursor]

theorem afterScript_cursor {l : Listener} (hcursor : l.cursor = 0) (before : List Turn) :
    (l.afterScript before).cursor = highest before := by
  induction before using List.reverseRecOn with
  | nil => exact hcursor
  | append_singleton before t ih =>
    rw [afterScript_append]
    exact afterTurn_cursor_highest ih t

/-! ## Polls, acknowledgements and the demand -/

/-- Questions that neither poll nor acknowledge. -/
def Work (questions : List Question) : Prop :=
  questions.filterMap cursor? = [] ∧ questions.filterMap acknowledgedId? = []

theorem work_newsQuestions (l : Listener) (t : Turn) (news : News) :
    Work (l.newsQuestions t news) := by
  unfold newsQuestions
  cases news with
  | available ids =>
    dsimp only
    split
    · exact ⟨rfl, rfl⟩
    · split
      · exact ⟨rfl, rfl⟩
      · split
        · exact ⟨rfl, rfl⟩
        · exact ⟨rfl, rfl⟩
  | assigned id poolId jobId =>
    dsimp only
    split
    · exact ⟨rfl, rfl⟩
    · exact ⟨rfl, rfl⟩
  | completed id result name => exact ⟨rfl, rfl⟩
  | unknown kind => exact ⟨rfl, rfl⟩

theorem work_dispatchQuestions (l : Listener) (t : Turn) (raw : QueueMessage) :
    Work (l.dispatchQuestions t raw) := by
  unfold dispatchQuestions
  split
  · exact work_newsQuestions l t _
  · exact ⟨rfl, rfl⟩

theorem work_renewQuestions (l : Listener) (t : Turn) : Work (l.renewQuestions t) := by
  unfold renewQuestions
  split
  · exact ⟨rfl, rfl⟩
  · exact ⟨rfl, rfl⟩

/-- Past the poll a turn's questions acknowledge its message, and do nothing of
the kind besides. -/
theorem answerQuestions_eq (l : Listener) (t : Turn) :
    ∃ work : List Question,
      l.answerQuestions t =
        t.message?.toList.map (fun raw =>
          askSource (.deleteMessage l.session.queueUrl l.session.queueToken raw.id)) ++ work ∧
      Work work := by
  unfold answerQuestions Turn.message?
  cases t.poll with
  | ok message =>
    cases message with
    | none => exact ⟨[], rfl, rfl, rfl⟩
    | some raw =>
      refine ⟨if l.cursor < raw.id then l.dispatchQuestions t raw else [], rfl, ?_⟩
      split
      · exact work_dispatchQuestions l t raw
      · exact ⟨rfl, rfl⟩
  | error fault =>
    refine ⟨if fault.kind = .tokenExpired then l.renewQuestions t else [], rfl, ?_⟩
    split
    · exact work_renewQuestions l t
    · exact ⟨rfl, rfl⟩

theorem answerQuestions_of_message (l : Listener) {t : Turn} {raw : QueueMessage}
    (hraw : t.message? = some raw) :
    l.answerQuestions t =
      askSource (.deleteMessage l.session.queueUrl l.session.queueToken raw.id) ::
        if l.cursor < raw.id then l.dispatchQuestions t raw else [] := by
  unfold Turn.message? at hraw
  unfold answerQuestions
  cases hpoll : t.poll with
  | ok message =>
    rw [hpoll] at hraw
    subst hraw
    rfl
  | error fault =>
    rw [hpoll] at hraw
    cases hraw

theorem cursors_turnQuestions (l : Listener) (t : Turn) :
    (l.turnQuestions t).filterMap cursor? = [l.cursor] := by
  obtain ⟨work, hquestions, hcursors, -⟩ := answerQuestions_eq l t
  rw [turnQuestions, hquestions]
  cases t.message? with
  | none => exact congrArg (l.cursor :: ·) hcursors
  | some raw => exact congrArg (l.cursor :: ·) hcursors

theorem acknowledgements_turnQuestions (l : Listener) (t : Turn) :
    (l.turnQuestions t).filterMap acknowledgedId? = t.message?.toList.map (·.id) := by
  obtain ⟨work, hquestions, -, hacknowledged⟩ := answerQuestions_eq l t
  rw [turnQuestions, hquestions]
  cases t.message? with
  | none => exact hacknowledged
  | some raw => exact congrArg (raw.id :: ·) hacknowledged

theorem cursors_scriptQuestions {l : Listener} {before : List Turn}
    (hcursor : l.cursor = highest before) (script : List Turn) :
    (l.scriptQuestions script).filterMap cursor? =
      (List.range script.length).map fun k => highest (before ++ script.take k) := by
  induction script generalizing l before with
  | nil => rfl
  | cons t rest ih =>
    rw [scriptQuestions, List.filterMap_append, cursors_turnQuestions,
      ih (afterTurn_cursor_highest hcursor t), List.length_cons, List.range_succ_eq_map,
      List.map_cons, List.map_map, hcursor]
    simp [Function.comp_def]

theorem acknowledgements_scriptQuestions (l : Listener) (script : List Turn) :
    (l.scriptQuestions script).filterMap acknowledgedId? =
      (script.filterMap Turn.message?).map (·.id) := by
  induction script generalizing l with
  | nil => rfl
  | cons t rest ih =>
    rw [scriptQuestions, List.filterMap_append, acknowledgements_turnQuestions, ih]
    cases hmessage : t.message? with
    | none => simp [hmessage]
    | some raw => simp [hmessage]

theorem done_tracker {l : Listener} {before : List Turn} (hcursor : l.cursor = highest before)
    (script : List Turn) (s : Stand) :
    (s.done l script).tracker =
      ((newTurns before script).filterMap (Turn.event? l.session.poolId)).foldl
        Demand.Tracker.apply s.tracker := by
  induction script generalizing l before s with
  | nil => rfl
  | cons t rest ih =>
    rw [Stand.done, ih (afterTurn_cursor_highest hcursor t), afterTurn_poolId, newTurns]
    rw [Stand.next, isAbove_eq hcursor]
    split
    · rw [List.filterMap_cons]
      cases t.event? l.session.poolId with
      | none => rfl
      | some event => rfl
    · rfl

/-! ## What is acted on -/

theorem highest_le_concat (before : List Turn) (t : Turn) :
    highest before ≤ highest (before ++ [t]) := by
  rw [highest_concat]
  cases t.message? with
  | none => exact Int64.le_refl _
  | some raw => exact le_max_left _ _

theorem le_highest_concat {t : Turn} {raw : QueueMessage} (hraw : t.message? = some raw)
    (before : List Turn) : raw.id ≤ highest (before ++ [t]) := by
  rw [highest_concat, hraw]
  exact le_max_right _ _

theorem highest_lt_of_newTurns (before script : List Turn) :
    ∀ raw ∈ (newTurns before script).filterMap Turn.message?, highest before < raw.id := by
  induction script generalizing before with
  | nil =>
    intro raw hraw
    simp [newTurns] at hraw
  | cons t rest ih =>
    intro raw hraw
    have hlater : ∀ raw ∈ (newTurns (before ++ [t]) rest).filterMap Turn.message?,
        highest before < raw.id := fun raw hraw =>
      Int64.lt_of_le_of_lt (highest_le_concat before t) (ih _ raw hraw)
    rw [newTurns] at hraw
    split at hraw
    · rename_i hnew
      unfold isNew at hnew
      cases hmessage : t.message? with
      | none => simp [hmessage] at hnew
      | some first =>
        rw [List.filterMap_cons_some hmessage] at hraw
        rcases List.mem_cons.mp hraw with rfl | hraw
        · simpa [hmessage] using hnew
        · exact hlater raw hraw
    · exact hlater raw hraw

/-- Messages are acted on in strictly increasing order of their ids. -/
theorem newTurns_pairwise (before script : List Turn) :
    ((newTurns before script).filterMap Turn.message?).Pairwise (·.id < ·.id) := by
  induction script generalizing before with
  | nil => exact .nil
  | cons t rest ih =>
    rw [newTurns]
    split
    · cases hmessage : t.message? with
      | none =>
        rw [List.filterMap_cons_none hmessage]
        exact ih _
      | some raw =>
        rw [List.filterMap_cons_some hmessage]
        refine .cons (fun later hlater => ?_) (ih _)
        exact Int64.lt_of_le_of_lt (le_highest_concat hmessage before)
          (highest_lt_of_newTurns _ _ later hlater)
    · exact ih _

/-! ## Acknowledgements that fail -/

theorem afterScript_acknowledged (l : Listener) (script : List Turn) :
    l.afterScript (script.map Turn.acknowledged) = l.afterScript script := by
  rw [afterScript, List.foldl_map]
  rfl

theorem scriptQuestions_acknowledged (l : Listener) (script : List Turn) :
    l.scriptQuestions (script.map Turn.acknowledged) = l.scriptQuestions script := by
  induction script generalizing l with
  | nil => rfl
  | cons t rest ih =>
    rw [List.map_cons, scriptQuestions, scriptQuestions, ← ih]
    rfl

theorem done_acknowledged_tracker (l : Listener) (script : List Turn) {s s' : Stand}
    (htracker : s'.tracker = s.tracker) :
    (s'.done l (script.map Turn.acknowledged)).tracker = (s.done l script).tracker := by
  induction script generalizing l s s' with
  | nil => exact htracker
  | cons t rest ih =>
    refine ih (l.afterTurn t) ?_
    change (if l.isAbove t then t.event? l.session.poolId else none).elim s'.tracker
      s'.tracker.apply = _
    rw [htracker]
    rfl

/-! ## Whole runs -/

/-- How the acknowledgements are answered makes no difference to what a listener
asks, to where it ends and to the demand. -/
theorem poll_acknowledged {l : Listener} (hconn : l.manager.conn.isSome) {turns : Nat}
    {script script' : List Turn} (hturns : script.length < turns)
    (hsame : script'.map Turn.acknowledged = script.map Turn.acknowledged) (late : Bool)
    (tracker : Demand.Tracker) :
    let out := (poll turns l).run Stand.surroundings (.start script late tracker)
    let out' := (poll turns l).run Stand.surroundings (.start script' late tracker)
    out'.exchanges.map (·.call) = out.exchanges.map (·.call) ∧ out'.result = out.result ∧
      out'.state.tracker = out.state.tracker := by
  have hlength : script'.length = script.length := by
    simpa only [List.length_map] using congrArg List.length hsame
  have hafter : l.afterScript script' = l.afterScript script := by
    rw [← afterScript_acknowledged, hsame, afterScript_acknowledged]
  have hasked : l.scriptQuestions script' = l.scriptQuestions script := by
    rw [← scriptQuestions_acknowledged, hsame, scriptQuestions_acknowledged]
  have hrun := runs_poll l hconn turns script hturns (.start script late tracker) rfl
  have hrun' := runs_poll l hconn turns script' (by omega) (.start script' late tracker) rfl
  refine ⟨?_, ?_, ?_⟩
  · rw [hrun'.calls, hrun.calls, hafter, hasked]
    rfl
  · rw [hrun'.result, hrun.result, hafter]
  · rw [hrun'.state, hrun.state, ← done_acknowledged_tracker l script' rfl, hsame]
    exact done_acknowledged_tracker l script rfl

/-- A listener with a service, as opening its session leaves it, that polls from
cursor 0 until a script is over:

* it asks turn by turn what its state and the turn determine, and its polls
  carry the highest id so far;
* in a turn with a message it acknowledges the message first, and then asks what
  acting on it asks exactly if its id is above all before it; so messages are
  acted on in strictly increasing order of their ids;
* over the script the messages are acknowledged once each as they come, and how
  the acknowledgements are answered makes no difference;
* the demand in the end is the fold of what the messages acted on tell. -/
theorem poll_script {l : Listener} (hcursor : l.cursor = 0) (hconn : l.manager.conn.isSome)
    {turns : Nat} {script : List Turn} (hturns : script.length < turns) (late : Bool)
    (tracker : Demand.Tracker) :
    let out := (poll turns l).run Stand.surroundings (.start script late tracker)
    let questions := out.exchanges.map (·.call)
    questions = l.scriptQuestions script ++ (l.afterScript script).lastQuestions late ∧
    (questions.filterMap cursor? =
      (List.range (script.length + late.toNat)).map fun k => highest (script.take k)) ∧
    (∀ before t raw, t.message? = some raw →
      (l.afterScript before).turnQuestions t =
        .signalled :: (l.afterScript before).pollQuestion ::
          askSource (.deleteMessage (l.afterScript before).session.queueUrl
            (l.afterScript before).session.queueToken raw.id) ::
          if highest before < raw.id then (l.afterScript before).dispatchQuestions t raw
          else []) ∧
    ((dispatched script).filterMap Turn.message?).Pairwise (·.id < ·.id) ∧
    questions.filterMap acknowledgedId? = (script.filterMap Turn.message?).map (·.id) ∧
    (∀ script' : List Turn,
      script'.map Turn.acknowledged = script.map Turn.acknowledged →
      let out' := (poll turns l).run Stand.surroundings (.start script' late tracker)
      out'.exchanges.map (·.call) = questions ∧ out'.result = out.result ∧
        out'.state.tracker = out.state.tracker) ∧
    out.state.tracker =
      ((dispatched script).filterMap (Turn.event? l.session.poolId)).foldl
        Demand.Tracker.apply tracker := by
  intro out questions
  have hzero : l.cursor = highest [] := hcursor
  have hrun := runs_poll l hconn turns script hturns (.start script late tracker) rfl
  have hquestions : questions =
      l.scriptQuestions script ++ (l.afterScript script).lastQuestions late := hrun.calls
  refine ⟨hquestions, ?_, ?_, newTurns_pairwise [] script, ?_, ?_, ?_⟩
  · rw [hquestions, List.filterMap_append,
      cursors_scriptQuestions hzero script]
    cases late with
    | false => exact List.append_nil _
    | true =>
      rw [Bool.toNat_true, List.range_succ, List.map_append]
      have hlast : (l.afterScript script).cursor = highest (script.take script.length) := by
        rw [List.take_length, afterScript_cursor hcursor]
      exact congrArg (_ ++ [·]) hlast
  · intro before t raw hraw
    rw [turnQuestions, answerQuestions_of_message _ hraw, afterScript_cursor hcursor]
  · rw [hquestions, List.filterMap_append, acknowledgements_scriptQuestions]
    cases late with
    | false => exact List.append_nil _
    | true => exact List.append_nil _
  · exact fun script' hsame => poll_acknowledged hconn hturns hsame late tracker
  · rw [hrun.state]
    exact done_tracker hzero script _

/-- A listener whose service is known and that has polled for nothing yet. -/
def beginner : Listener :=
  let session : Session := ⟨3, "s", "o", "https://queue", "qt", none⟩
  ⟨⟨⟨⟨"", "acme", "", "ci"⟩, "o", 1, ⟨0⟩⟩, some ⟨"https://admin", "a"⟩, none, some session⟩,
    session, 0⟩

/-- A turn with a message at time 100; the acknowledgement fails, the lease is
issued anew, and a claim is granted for job 7. -/
def turnWith (id : Int64) (kind body : String) : Turn :=
  { poll := .ok (some ⟨id, kind, body⟩)
    acknowledge := .error (.http true)
    connect := .ok ⟨"https://admin", "b"⟩
    lease := .ok ⟨0, "s", "o", "https://queue", "qt2", none⟩
    acquire := .ok [7]
    clock := 100 }

/-- A claim, an assignment that comes behind it, a queue token that lapses, an
assignment to another pool and one to the pool. -/
def mixedScript : List Turn := [
  turnWith 5 "RunnerScaleSetJobAvailable" "\x7b\"runnerRequestIds\": [7, 8]\x7d",
  turnWith 3 "RunnerScaleSetJobAssigned" "\x7b\"runnerRequestId\": 9\x7d",
  { turnWith 0 "" "" with poll := .error (.tokenExpired "lapsed") },
  turnWith 6 "RunnerScaleSetJobAssigned" "\x7b\"runnerRequestId\": 9, \"runnerScaleSetId\": 4\x7d",
  turnWith 8 "RunnerScaleSetJobAssigned" "\x7b\"runnerRequestId\": 7, \"runnerScaleSetId\": 3\x7d"]

theorem poll_script_mixed :
    let out := (poll 9 beginner).run Stand.surroundings (.start mixedScript true (.new ⟨600000⟩))
    let questions := out.exchanges.map (·.call)
    beginner.cursor = 0 ∧ beginner.manager.conn.isSome ∧ mixedScript.length < 9 ∧
      questions.filterMap cursor? = [0, 5, 5, 5, 6, 8] ∧
      questions.filterMap acknowledgedId? = [5, 3, 6, 8] ∧
      out.state.tracker = ⟨600, [], [7], [], true⟩ := by
  obtain ⟨-, hcursors, -, -, hacknowledged, -, htracker⟩ :=
    poll_script (l := beginner) rfl rfl (show mixedScript.length < 9 by decide) true
      (.new ⟨600000⟩)
  refine ⟨rfl, rfl, by decide, hcursors.trans (by decide), hacknowledged.trans (by decide), ?_⟩
  exact htracker.trans (by decide +kernel)

end PoolScaler.Listener
