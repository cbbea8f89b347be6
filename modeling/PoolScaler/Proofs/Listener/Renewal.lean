import PoolScaler.Proofs.Listener.Delivery
import PoolScaler.Proofs.Listener.Order
set_option autoImplicit false

/-!
# Renewals go unnoticed

Polls that bring no message, be it that none came, that they failed or that the queue
token has lapsed, change neither what a listener acknowledges, claims and tells, nor
the cursor it reaches.  What a renewal does change is the lease that the queue is asked
with from then on.
-/

namespace PoolScaler.Listener

open Dialogue (Runs)

/-! ## Deeds -/

/-- What a listener does that others see, whatever it does it with. -/
inductive Deed where
  /-- It acknowledges a message. -/
  | acknowledge (id : Int64)
  /-- It claims jobs for a pool. -/
  | claim (poolId : Int64) (ids : List RequestId)
  /-- It tells the keeper of the pool. -/
  | tell (event : Demand.Event)
  deriving DecidableEq

/-- An event without the time it is told at. -/
def timeless : Demand.Event → Demand.Event
  | .reserve ids _ => .reserve ids 0
  | .assign id => .assign id
  | .complete id => .complete id

/-- The deed of a question. -/
def deed? : Question → Option Deed
  | .steady (.source (.deleteMessage _ _ id)) => some (.acknowledge id)
  | .steady (.source (.acquireJobs _ poolId _ ids)) => some (.claim poolId ids)
  | .steady (.tell event) => some (.tell (timeless event))
  | _ => none

/-- The deeds of questions, in order. -/
def deeds (questions : List Question) : List Deed := questions.filterMap deed?

theorem deeds_append (questions later : List Question) :
    deeds (questions ++ later) = deeds questions ++ deeds later := List.filterMap_append

/-- A script with turns added that bring no message.  Of the turns that are kept the
polls and the claims are answered as before. -/
inductive Inserted : List Turn → List Turn → Prop
  | nil : Inserted [] []
  | keep {t t' : Turn} {script script' : List Turn} (hpoll : t'.poll = t.poll)
    (hacquire : t'.acquire = t.acquire) (h : Inserted script script') :
    Inserted (t :: script) (t' :: script')
  | insert {t : Turn} {script script' : List Turn} (hquiet : t.message? = none)
    (h : Inserted script script') : Inserted script (t :: script')

/-- Two listeners serve the same pool from the same cursor, and both know a service. -/
structure Alike (l l' : Listener) : Prop where
  cursor_eq : l'.cursor = l.cursor
  poolId_eq : l'.session.poolId = l.session.poolId
  served : l.manager.conn.isSome
  served' : l'.manager.conn.isSome

section

variable {l l' : Listener} {t t' : Turn}

theorem message?_of_poll (hpoll : t'.poll = t.poll) : t'.message? = t.message? := by
  unfold Turn.message?
  rw [hpoll]

theorem Alike.turn (h : Alike l l') (hpoll : t'.poll = t.poll) :
    Alike (l.afterTurn t) (l'.afterTurn t') := by
  constructor
  · rw [afterTurn_cursor, afterTurn_cursor, message?_of_poll hpoll, h.cursor_eq]
  · rw [afterTurn_poolId, afterTurn_poolId, h.poolId_eq]
  · exact afterTurn_conn l t h.served
  · exact afterTurn_conn l' t' h.served'

theorem Alike.quiet (h : Alike l l') (hquiet : t.message? = none) : Alike l (l'.afterTurn t) := by
  constructor
  · rw [afterTurn_cursor, hquiet]
    exact h.cursor_eq
  · rw [afterTurn_poolId, h.poolId_eq]
  · exact h.served
  · exact afterTurn_conn l' t h.served'

theorem deeds_newsQuestions (h : Alike l l') (hacquire : t'.acquire = t.acquire) (news : News) :
    deeds (l'.newsQuestions t' news) = deeds (l.newsQuestions t news) := by
  obtain ⟨conn, hconn⟩ := Option.isSome_iff_exists.mp h.served
  obtain ⟨conn', hconn'⟩ := Option.isSome_iff_exists.mp h.served'
  cases news with
  | available ids =>
    simp only [newsQuestions, hconn, hconn', hacquire]
    by_cases hids : ids = []
    · rw [if_pos hids, if_pos hids]
    · rw [if_neg hids, if_neg hids]
      cases t.acquire with
      | error fault => exact congrArg (fun poolId => [Deed.claim poolId ids]) h.poolId_eq
      | ok granted =>
        exact congrArg (fun poolId => [Deed.claim poolId ids, .tell (.reserve granted 0)])
          h.poolId_eq
  | assigned id poolId jobId => simp only [newsQuestions, h.poolId_eq]
  | completed id result name => rfl
  | unknown kind => rfl

/-- A renewal is no deed. -/
theorem deeds_renewQuestions (l : Listener) (t : Turn) : deeds (l.renewQuestions t) = [] := by
  unfold renewQuestions
  split
  · rfl
  · rfl

theorem deeds_answerQuestions_quiet (l : Listener) (hquiet : t.message? = none) :
    deeds (l.answerQuestions t) = [] := by
  unfold Turn.message? at hquiet
  unfold answerQuestions
  cases hpoll : t.poll with
  | ok message =>
    rw [hpoll] at hquiet
    subst hquiet
    rfl
  | error fault =>
    dsimp only
    split
    · exact deeds_renewQuestions l t
    · rfl

theorem deeds_dispatchQuestions (h : Alike l l') (hacquire : t'.acquire = t.acquire)
    (raw : QueueMessage) :
    deeds (l'.dispatchQuestions t' raw) = deeds (l.dispatchQuestions t raw) := by
  unfold dispatchQuestions
  split
  · exact deeds_newsQuestions h hacquire _
  · rfl

theorem deeds_answerQuestions (h : Alike l l') (hpoll : t'.poll = t.poll)
    (hacquire : t'.acquire = t.acquire) :
    deeds (l'.answerQuestions t') = deeds (l.answerQuestions t) := by
  have hsame := message?_of_poll hpoll
  cases hmessage : t.message? with
  | none =>
    rw [deeds_answerQuestions_quiet l hmessage,
      deeds_answerQuestions_quiet l' (hsame.trans hmessage)]
  | some raw =>
    rw [answerQuestions_of_message l hmessage,
      answerQuestions_of_message l' (hsame.trans hmessage), h.cursor_eq]
    refine congrArg (Deed.acknowledge raw.id :: ·) ?_
    change deeds (if l.cursor < raw.id then _ else _) = deeds (if l.cursor < raw.id then _ else _)
    split
    · exact deeds_dispatchQuestions h hacquire raw
    · rfl

end

/-! ## Whole scripts -/

/-- What is inserted makes no difference to the deeds, nor to the cursor. -/
theorem Inserted.deeds_eq {script script' : List Turn} (h : Inserted script script')
    {l l' : Listener} (halike : Alike l l') :
    deeds (l'.scriptQuestions script') = deeds (l.scriptQuestions script) ∧
      Alike (l.afterScript script) (l'.afterScript script') := by
  induction h generalizing l l' with
  | nil => exact ⟨rfl, halike⟩
  | @keep t t' script script' hpoll hacquire h ih =>
    obtain ⟨hrest, hafter⟩ := ih (halike.turn hpoll)
    refine ⟨?_, hafter⟩
    rw [scriptQuestions, scriptQuestions, deeds_append, deeds_append, hrest]
    exact congrArg (· ++ _) (deeds_answerQuestions halike hpoll hacquire)
  | @insert t script script' hquiet h ih =>
    obtain ⟨hrest, hafter⟩ := ih (halike.quiet hquiet)
    refine ⟨?_, hafter⟩
    rw [scriptQuestions, deeds_append, hrest]
    exact congrArg (· ++ _) (deeds_answerQuestions_quiet l' hquiet)

theorem highest_concat_congr {before before' : List Turn} {t t' : Turn}
    (hhighest : highest before' = highest before) (hmessage : t'.message? = t.message?) :
    highest (before' ++ [t']) = highest (before ++ [t]) := by
  rw [highest_concat, highest_concat, hhighest, hmessage]

/-- The same messages are acted on. -/
theorem Inserted.newTurns_eq {script script' : List Turn} (h : Inserted script script')
    {before before' : List Turn} (hhighest : highest before' = highest before) :
    (newTurns before' script').filterMap Turn.message? =
      (newTurns before script).filterMap Turn.message? := by
  induction h generalizing before before' with
  | nil => rfl
  | @keep t t' script script' hpoll _ h ih =>
    have hmessage := message?_of_poll hpoll
    have hrest := ih (highest_concat_congr hhighest hmessage)
    rw [newTurns, newTurns, isNew, isNew, hmessage, hhighest]
    split
    · rw [List.filterMap_cons, List.filterMap_cons, hmessage, hrest]
    · exact hrest
  | @insert t script script' hquiet h ih =>
    have hrest : highest (before' ++ [t]) = highest before := by
      rw [highest_concat, hquiet, hhighest]
      rfl
    rw [newTurns, isNew, hquiet]
    exact ih hrest

/-- The deeds of a run over a script, and the cursor it reaches. -/
theorem poll_deeds {l : Listener} (hconn : l.manager.conn.isSome) {turns : Nat}
    {script : List Turn} (hturns : script.length < turns) (late : Bool)
    (tracker : Demand.Tracker) :
    let out := (poll turns l).run Stand.surroundings (.start script late tracker)
    deeds (out.exchanges.map (·.call)) = deeds (l.scriptQuestions script) ∧
      out.result = l.afterScript script := by
  have hrun := runs_poll l hconn turns script hturns (.start script late tracker) rfl
  refine ⟨?_, hrun.result⟩
  rw [hrun.calls, deeds_append]
  cases late with
  | false => exact List.append_nil _
  | true => exact List.append_nil _

/-- Turns that bring no message go unnoticed.  Over two scripts of which one has such
turns added, a listener that polls from cursor 0 does the same deeds in the same order,
but for the times that reservations are told at, acts on the same messages and reaches
the same cursor.

And in every run, whatever is answered, each question has its place:

* the queue is asked with the address and the token of the lease that was granted last,
  new or anew, jobs are claimed for the pool that was registered, and polls start from
  the highest id that came;
* a lease is only issued anew right after a poll that the queue refused the token of and
  one answer of the source, and the next poll starts from the same cursor;
* a pool is looked up, created or replaced only before there is a lease. -/
theorem renewal_goes_unnoticed :
    (∀ (l : Listener) (script script' : List Turn) (turns turns' : Nat) (late late' : Bool)
      (tracker tracker' : Demand.Tracker), l.cursor = 0 → l.manager.conn.isSome →
      script.length < turns → script'.length < turns' → Inserted script script' →
      let out := (poll turns l).run Stand.surroundings (.start script late tracker)
      let out' := (poll turns' l).run Stand.surroundings (.start script' late' tracker')
      deeds (out'.exchanges.map (·.call)) = deeds (out.exchanges.map (·.call)) ∧
        (dispatched script').filterMap Turn.message? =
          (dispatched script).filterMap Turn.message? ∧
        out'.result.cursor = out.result.cursor) ∧
    ∀ (config : SessionConfig) (turns : Nat) {σ : Type}
      (env : Surroundings SessionNeed.interface.withSignal σ) (s : σ),
      let heard := ((run config turns).run env s).exchanges
      (∀ before x after call, heard = before ++ x :: after → call? x.call = some call →
        Placed before call) ∧
      ∀ before x middle y after cursor cursor', heard = before ++ x :: middle ++ y :: after →
        isExpired x = true → polledFrom? x = some cursor → (∀ z ∈ middle, polledFrom? z = none) →
        polledFrom? y = some cursor' → cursor' = cursor := by
  constructor
  · intro l script script' turns turns' late late' tracker tracker' hcursor hconn hturns hturns'
      hinserted out out'
    obtain ⟨hdeeds, hresult⟩ := poll_deeds hconn hturns late tracker
    obtain ⟨hdeeds', hresult'⟩ := poll_deeds hconn hturns' late' tracker'
    obtain ⟨hsame, halike⟩ := hinserted.deeds_eq ⟨rfl, rfl, hconn, hconn⟩
    refine ⟨?_, hinserted.newTurns_eq rfl, ?_⟩
    · rw [hdeeds', hdeeds, hsame]
    · rw [hresult', hresult]
      exact halike.cursor_eq
  · intro config turns σ env s heard
    have horderly : Orderly [] heard := orderly_ran ((traces_run config turns).run env s)
    constructor
    · intro before x after call hheard hcall
      rw [hheard] at horderly
      exact horderly.placed hcall
    · intro before x middle y after cursor cursor' hheard hexpired hpoll hmiddle hpoll'
      rw [hheard] at horderly
      exact horderly.same_cursor hexpired hpoll hmiddle hpoll'

/-- A source that grants everything, but refuses the first queue token. -/
def grudging : (call : SessionCall) → Sourced call.Value
  | .adminConnection _ => .ok ⟨"https://admin", "a"⟩
  | .getRunnerPool _ _ => .ok none
  | .createRunnerPool _ pool => .ok { pool with id := 3 }
  | .replaceRunnerPool _ _ pool => .ok pool
  | .createMessageSession _ _ owner => .ok ⟨0, "s", owner, "https://queue", "qt", none⟩
  | .refreshMessageSession _ _ id => .ok ⟨0, id, "o", "https://queue2", "qt2", none⟩
  | .deleteMessageSession _ _ _ => .ok ()
  | .getMessage _ token _ => if token = "qt" then .error (.tokenExpired "lapsed") else .ok none
  | .deleteMessage _ _ _ => .ok ()
  | .acquireJobs _ _ _ ids => .ok ids

/-- What there is of a source at a time that stands still. -/
def stillAnswer (source : (call : SessionCall) → Sourced call.Value) :
    (need : SessionNeed) → need.Answer
  | .source call => source call
  | .wait _ => ()
  | .clock => (0 : Instant)
  | .tell _ => ()

/-- The surroundings that a source makes at a time that stands still, with no signal. -/
def still (source : (call : SessionCall) → Sourced call.Value) :
    Surroundings SessionNeed.interface.withSignal Unit := fun s need =>
  match need with
  | .steady need => (stillAnswer source need, s)
  | .raced need => (some (stillAnswer source need), s)
  | .signalled => (false, s)

/-- The script in which the queue token does not lapse. -/
def calmScript : List Turn := mixedScript.take 2 ++ mixedScript.drop 3

/-- A pool to listen for. -/
def acmeSession : SessionConfig := ⟨⟨"", "acme", "", "ci"⟩, "o", 1, ⟨0⟩⟩

/-- What two turns of that listener lead to, as far as polls go. -/
theorem polls_grudging :
    ((run acmeSession 2).run (still grudging) ()).exchanges.map
        (fun x => (polledFrom? x, isExpired x)) =
      List.replicate 5 (none, false) ++ (some 0, true) :: List.replicate 3 (none, false) ++
        (some 0, false) :: [(none, false)] := by
  decide +kernel

theorem renewal_goes_unnoticed_mixed :
    (let out := (poll 9 beginner).run Stand.surroundings (.start calmScript true (.new ⟨600000⟩))
      let out' := (poll 9 beginner).run Stand.surroundings (.start mixedScript true (.new ⟨600000⟩))
      beginner.cursor = 0 ∧ beginner.manager.conn.isSome ∧ calmScript.length < 9 ∧
        mixedScript.length < 9 ∧ Inserted calmScript mixedScript ∧
        deeds (out'.exchanges.map (·.call)) = deeds (out.exchanges.map (·.call)) ∧
        out'.result.cursor = out.result.cursor) ∧
      ∃ before x middle y after url token cursor,
        ((run acmeSession 2).run (still grudging) ()).exchanges =
          before ++ x :: middle ++ y :: after ∧
        isExpired x = true ∧ polledFrom? x = some 0 ∧ (∀ z ∈ middle, polledFrom? z = none) ∧
        call? y.call = some (.getMessage url token cursor) ∧
        Placed (before ++ x :: middle) (.getMessage url token cursor) ∧
        polledFrom? y = some cursor ∧ cursor = 0 := by
  obtain ⟨hscripts, hruns⟩ := renewal_goes_unnoticed
  have hinserted : Inserted calmScript mixedScript :=
    .keep rfl rfl (.keep rfl rfl (.insert rfl (.keep rfl rfl (.keep rfl rfl .nil))))
  obtain ⟨hdeeds, -, hcursor⟩ := hscripts beginner calmScript mixedScript 9 9 true true
    (.new ⟨600000⟩) (.new ⟨600000⟩) rfl rfl (by decide) (by decide) hinserted
  obtain ⟨hplaced, hsame⟩ := hruns acmeSession 2 (still grudging) ()
  obtain ⟨earlier, later, hheard, hearlier, hlater⟩ := List.map_eq_append_iff.mp polls_grudging
  obtain ⟨before, expired, rfl, -, hexpired⟩ := List.map_eq_append_iff.mp hearlier
  obtain ⟨x, middle, rfl, hx, hmiddle⟩ := List.map_eq_cons_iff.mp hexpired
  obtain ⟨y, after, rfl, hy, -⟩ := List.map_eq_cons_iff.mp hlater
  obtain ⟨hx, hlapsed⟩ := Prod.mk.inj hx
  obtain ⟨hy, -⟩ := Prod.mk.inj hy
  obtain ⟨url, token, hcall⟩ := call?_of_polledFrom? hy
  have hquiet : ∀ z ∈ middle, polledFrom? z = none := by
    intro z hz
    have hmem := List.mem_map_of_mem (f := fun z => (polledFrom? z, isExpired z)) hz
    rw [hmiddle] at hmem
    exact (Prod.mk.inj (List.eq_of_mem_replicate hmem)).1
  exact ⟨⟨rfl, rfl, by decide, by decide, hinserted, hdeeds, hcursor⟩, before, x, middle, y, after,
    url, token, 0, hheard, hlapsed, hx, hquiet, hcall, hplaced _ y after _ hheard hcall, hy,
    hsame before x middle y after 0 0 hheard hlapsed hx hquiet hy⟩

end PoolScaler.Listener
