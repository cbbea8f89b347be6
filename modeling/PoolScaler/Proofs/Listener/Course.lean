import PoolScaler.Proofs.Listener.Script
set_option autoImplicit false

/-!
# What a listener can do

Whatever its surroundings answer, a listener's run is an opening, turns and a release.
Each relation here lists what a listener can hear in one of these parts and what
becomes of it, a constructor for each case with its conditions; the listener's
dialogues keep to them.
-/

namespace PoolScaler.Listener

open Dialogue (Traces)

/-- A question of a listener together with its answer. -/
abbrev Heard : Type := Exchange SessionNeed.interface.withSignal

namespace Heard

/-- A question to the source that was waited for. -/
def source (call : SessionCall) (answer : Sourced call.Value) : Heard :=
  ⟨askSource call, answer⟩

/-- A poll; without answer when the signal came first. -/
def poll (l : Listener) (answer : Option (Sourced (Option QueueMessage))) : Heard :=
  ⟨l.pollQuestion, answer⟩

/-- A look at the clock. -/
def clock (now : Instant) : Heard := ⟨.steady .clock, now⟩

/-- The keeper of the pool was told. -/
def tell (event : Demand.Event) : Heard := ⟨.steady (.tell event), ()⟩

/-- Whether the signal has come. -/
def signal (come : Bool) : Heard := ⟨.signalled, come⟩

end Heard

/-! ## What was heard -/

/-- A question to the source together with its answer. -/
abbrev Reply : Type := (call : SessionCall) × Sourced call.Value

/-- What the source answered, if it came to an answer. -/
def reply? : Heard → Option Reply
  | ⟨.steady (.source call), answer⟩ => some ⟨call, answer⟩
  | ⟨.raced (.source call), some answer⟩ => some ⟨call, answer⟩
  | _ => none

/-- A lease that was granted, new or anew. -/
def leaseOf? : Reply → Option Session
  | ⟨.createMessageSession _ _ _, .ok lease⟩ => some lease
  | ⟨.refreshMessageSession _ _ _, .ok lease⟩ => some lease
  | _ => none

/-- A pool that was registered. -/
def poolOf? : Reply → Option RunnerPool
  | ⟨.createRunnerPool _ _, .ok pool⟩ => some pool
  | ⟨.replaceRunnerPool _ _ _, .ok pool⟩ => some pool
  | _ => none

/-- A message that a poll brought. -/
def messageOf? : Reply → Option QueueMessage
  | ⟨.getMessage _ _ _, .ok message⟩ => message
  | _ => none

/-- What the source answered, in order. -/
def replies (heard : List Heard) : List Reply := heard.filterMap reply?

/-- The lease that was granted last. -/
def lease? (heard : List Heard) : Option Session := ((replies heard).filterMap leaseOf?).getLast?

/-- The pool that was registered last. -/
def pool? (heard : List Heard) : Option RunnerPool := ((replies heard).filterMap poolOf?).getLast?

/-- The messages that came, in order. -/
def messages (heard : List Heard) : List QueueMessage := (replies heard).filterMap messageOf?

/-- The highest id of the messages that came, and at least 0. -/
def highestId (heard : List Heard) : Int64 :=
  (messages heard).foldl (fun most raw => max most raw.id) 0

theorem replies_append (heard later : List Heard) :
    replies (heard ++ later) = replies heard ++ replies later := List.filterMap_append

theorem lease?_append (heard later : List Heard) :
    lease? (heard ++ later) = (lease? later).or (lease? heard) := by
  unfold lease?
  rw [replies_append, List.filterMap_append, List.getLast?_append]

theorem pool?_append (heard later : List Heard) :
    pool? (heard ++ later) = (pool? later).or (pool? heard) := by
  unfold pool?
  rw [replies_append, List.filterMap_append, List.getLast?_append]

theorem messages_append (heard later : List Heard) :
    messages (heard ++ later) = messages heard ++ messages later := by
  unfold messages
  rw [replies_append, List.filterMap_append]

/-! ## Opening a session -/

/-- Something heard while a session is opened that is no lease. -/
inductive Preparing : Heard → Prop
  | service {identity : Identity} {answer : Option (Sourced AdminConnection)} :
    Preparing ⟨.raced (.source (.adminConnection identity)), answer⟩
  | lookUp {conn : AdminConnection} {name : String}
    {answer : Option (Sourced (Option RunnerPool))} :
    Preparing ⟨.raced (.source (.getRunnerPool conn name)), answer⟩
  | create {conn : AdminConnection} {pool : RunnerPool} {answer : Option (Sourced RunnerPool)} :
    Preparing ⟨.raced (.source (.createRunnerPool conn pool)), answer⟩
  | replace {conn : AdminConnection} {poolId : Int64} {pool : RunnerPool}
    {answer : Option (Sourced RunnerPool)} :
    Preparing ⟨.raced (.source (.replaceRunnerPool conn poolId pool)), answer⟩
  | refused {conn : AdminConnection} {poolId : Int64} {owner : String}
    {answer : Option (Sourced Session)} (hnone : ∀ lease, answer ≠ some (.ok lease)) :
    Preparing ⟨.raced (.source (.createMessageSession conn poolId owner)), answer⟩
  | wait {span : Span} {answer : Option Unit} : Preparing ⟨.raced (.wait span), answer⟩

/-- What opening a session leads to.  The lease comes last. -/
inductive Opened (config : SessionConfig) :
    List Heard → Option (Except SetupFault Session × SessionManager) → Prop
  /-- There is no session. -/
  | failed {heard : List Heard} {out : Option (Except SetupFault Session × SessionManager)}
    (hheard : ∀ x ∈ heard, Preparing x)
    (hout : ∀ session manager, out ≠ some (.ok session, manager)) : Opened config heard out
  /-- The queue of the registered pool is leased. -/
  | leased {earlier : List Heard} {pool : RunnerPool} (conn : AdminConnection) (lease : Session)
    (hearlier : ∀ x ∈ earlier, Preparing x) (hpool : pool? earlier = some pool) :
    Opened config
      (earlier ++ [⟨.raced (.source (.createMessageSession conn pool.id config.ownerName)),
        some (.ok lease)⟩])
      (some (.ok { lease with poolId := pool.id },
        ⟨config, some conn, some pool, some { lease with poolId := pool.id }⟩))

theorem traces_ask_raced (call : SessionCall) :
    call.ask.raced.Traces fun heard out => heard = [⟨.raced (.source call), out⟩] :=
  Traces.raced_call _

theorem traces_step {α β : Type} {P : List Heard → Option (Sourced α) → Prop}
    {Q : List Heard → Option (Except SetupFault β) → Prop} {stage : SetupStep}
    {d : SessionDialogue (Sourced α)} {next : α → SessionDialogue (Except SetupFault β)}
    (h : d.raced.Traces P) (hcut : ∀ heard, P heard none → Q heard none)
    (hfault : ∀ heard fault, P heard (some (.error fault)) → Q heard (some (.error ⟨stage, fault⟩)))
    (hok : ∀ heard a, P heard (some (.ok a)) →
      (next a).raced.Traces fun later b => Q (heard ++ later) b) :
    (SessionManager.step stage d next).raced.Traces Q := by
  unfold SessionManager.step
  refine h.raced_bind hcut fun heard answer hanswer => ?_
  cases answer with
  | error fault =>
    have hend : Q (heard ++ []) (some (.error ⟨stage, fault⟩)) := by
      rw [List.append_nil]
      exact hfault heard fault hanswer
    exact hend
  | ok a => exact hok heard a hanswer

theorem traces_registerPool (conn : AdminConnection) (name : String) :
    (SessionManager.registerPool conn name).raced.Traces fun heard out =>
      (∀ x ∈ heard, Preparing x) ∧ ∀ pool, out = some (.ok pool) → pool? heard = some pool := by
  unfold SessionManager.registerPool
  refine (traces_ask_raced _).raced_bind ?_ ?_
  · rintro _ rfl
    exact ⟨List.forall_mem_singleton.mpr .lookUp, nofun⟩
  · rintro _ answer rfl
    rcases answer with fault | (_ | existing)
    · exact ⟨List.forall_mem_singleton.mpr .lookUp, nofun⟩
    · refine (traces_ask_raced _).imp ?_
      rintro _ out rfl
      refine ⟨List.forall_mem_cons.mpr ⟨.lookUp, List.forall_mem_singleton.mpr .create⟩, ?_⟩
      rintro pool rfl
      rfl
    · refine (traces_ask_raced _).imp ?_
      rintro _ out rfl
      refine ⟨List.forall_mem_cons.mpr ⟨.lookUp, List.forall_mem_singleton.mpr .replace⟩, ?_⟩
      rintro pool rfl
      rfl

/-- What asking for a lease leads to.  The lease comes last. -/
inductive Leased (conn : AdminConnection) (config : SessionConfig) (poolId : Int64) :
    List Heard → Option (Sourced Session) → Prop
  | refused {heard : List Heard} {out : Option (Sourced Session)}
    (hheard : ∀ x ∈ heard, Preparing x) (hout : ∀ lease, out ≠ some (.ok lease)) :
    Leased conn config poolId heard out
  | granted {earlier : List Heard} {lease : Session} (hearlier : ∀ x ∈ earlier, Preparing x)
    (hpool : pool? earlier = none) :
    Leased conn config poolId
      (earlier ++ [⟨.raced (.source (.createMessageSession conn poolId config.ownerName)),
        some (.ok lease)⟩]) (some (.ok lease))

/-- A refusal and the wait after it go before whatever follows. -/
theorem Leased.again {conn : AdminConnection} {config : SessionConfig} {poolId : Int64}
    {later : List Heard} {out : Option (Sourced Session)} {fault : SourceFault}
    (h : Leased conn config poolId later out) :
    Leased conn config poolId
      ([⟨.raced (.source (.createMessageSession conn poolId config.ownerName)),
        some (.error fault)⟩, ⟨.raced (.wait config.createRetryDelay), some ()⟩] ++ later) out := by
  have hwaited : ∀ x ∈ ([⟨.raced (.source (.createMessageSession conn poolId config.ownerName)),
      some (.error fault)⟩, ⟨.raced (.wait config.createRetryDelay), some ()⟩] : List Heard),
        Preparing x :=
    List.forall_mem_cons.mpr ⟨.refused nofun, List.forall_mem_singleton.mpr .wait⟩
  cases h with
  | refused hheard hout => exact .refused (List.forall_mem_append.mpr ⟨hwaited, hheard⟩) hout
  | granted hearlier hpool =>
    rw [← List.append_assoc]
    exact .granted (List.forall_mem_append.mpr ⟨hwaited, hearlier⟩) hpool

theorem traces_leaseQueue (conn : AdminConnection) (config : SessionConfig) (poolId : Int64)
    (retries : Nat) :
    (SessionManager.leaseQueue conn config poolId retries).raced.Traces
      (Leased conn config poolId) := by
  induction retries with
  | zero =>
    refine (traces_ask_raced _).imp ?_
    rintro _ out rfl
    rcases out with _ | (fault | lease)
    · exact .refused (List.forall_mem_singleton.mpr (.refused nofun)) nofun
    · exact .refused (List.forall_mem_singleton.mpr (.refused nofun)) nofun
    · exact .granted (List.forall_mem_nil _) rfl
  | succ retries ih =>
    unfold SessionManager.leaseQueue
    refine (traces_ask_raced _).raced_bind ?_ ?_
    · rintro _ rfl
      exact .refused (List.forall_mem_singleton.mpr (.refused nofun)) nofun
    · rintro _ answer rfl
      rcases answer with fault | lease
      · refine Traces.raced_ask ?_ fun _ => ih.imp fun later out h => h.again
        exact .refused (List.forall_mem_cons.mpr ⟨.refused nofun,
          List.forall_mem_singleton.mpr .wait⟩) nofun
      · exact .granted (List.forall_mem_nil _) rfl

/-- The steps of opening a session. -/
def setup (config : SessionConfig) :
    SessionDialogue (Except SetupFault (AdminConnection × RunnerPool × Session)) :=
  SessionManager.step .adminHandshake (SessionCall.adminConnection config.identity).ask fun conn =>
    SessionManager.step .runnerPool (SessionManager.registerPool conn config.identity.poolName)
      fun pool =>
        SessionManager.step .messageSession
          (SessionManager.leaseQueue conn config pool.id (config.attempts - 1)) fun session =>
            .done (.ok (conn, pool, { session with poolId := pool.id }))

/-- What a manager makes of the steps of opening a session. -/
def opened (m : SessionManager) :
    Except SetupFault (AdminConnection × RunnerPool × Session) →
      Except SetupFault Session × SessionManager
  | .error fault => (.error fault, m)
  | .ok (conn, pool, session) =>
    (.ok session, { m with conn := some conn, pool := some pool, active := some session })

/-- Giving the live session back before another is opened. -/
def vacate (m : SessionManager) : SessionDialogue SessionManager :=
  match m.active with
  | none => .done m
  | some prior => (m.close prior).bind fun out => .done out.2

theorem openSession_eq (m : SessionManager) :
    m.openSession =
      (vacate m).bind fun m => (setup m.config).bind fun out => .done (opened m out) := by
  unfold SessionManager.openSession
  refine congrArg ((vacate m).bind ·) (funext fun m => ?_)
  refine congrArg ((setup m.config).bind ·) (funext fun out => ?_)
  rcases out with fault | ⟨conn, pool, session⟩
  · rfl
  · rfl

/-- Giving the live session back asks the service, if there is one. -/
theorem close_active {m : SessionManager} {s : Session} (hactive : m.active = some s) :
    m.close s =
      match m.conn with
      | none => .done (.ok (), { m with active := none })
      | some conn =>
        (SessionCall.deleteMessageSession conn s.poolId s.sessionId).ask.bind fun answer =>
          .done (answer, { m with active := none }) := by
  have hlive : (m.active.any fun live => live.sessionId = s.sessionId) = true := by
    simp [hactive]
  cases hconn : m.conn with
  | none => simp [SessionManager.close, hlive, hconn]
  | some conn => simp [SessionManager.close, hlive, hconn]

theorem Opened.failed_append {m : SessionManager} {heard later : List Heard}
    {out : Option (Except SetupFault (AdminConnection × RunnerPool × Session))}
    (hheard : ∀ x ∈ heard, Preparing x) (hlater : ∀ x ∈ later, Preparing x)
    (hout : ∀ steps, out ≠ some (.ok steps)) :
    Opened m.config (heard ++ later) (out.map (opened m)) := by
  refine .failed (List.forall_mem_append.mpr ⟨hheard, hlater⟩) fun session manager hopened => ?_
  rcases out with _ | fault | steps
  · cases hopened
  · cases hopened
  · exact hout steps rfl

theorem traces_setup (m : SessionManager) :
    (setup m.config).raced.Traces fun heard out =>
      Opened m.config heard (out.map (opened m)) := by
  have hservice : ∀ answer : Option (Sourced AdminConnection),
      ∀ x ∈ [⟨.raced (.source (.adminConnection m.config.identity)), answer⟩], Preparing x :=
    fun answer => List.forall_mem_singleton.mpr .service
  refine traces_step (traces_ask_raced _) ?_ ?_ ?_
  · rintro _ rfl
    exact Opened.failed_append (hservice _) (List.forall_mem_nil _) nofun
  · rintro _ fault rfl
    exact Opened.failed_append (hservice _) (List.forall_mem_nil _) nofun
  · rintro _ conn rfl
    refine traces_step (traces_registerPool conn m.config.identity.poolName) ?_ ?_ ?_
    · rintro registered ⟨hregistered, -⟩
      exact Opened.failed_append (hservice _) hregistered nofun
    · rintro registered fault ⟨hregistered, -⟩
      exact Opened.failed_append (hservice _) hregistered nofun
    · rintro registered pool ⟨hregistered, hpool⟩
      refine traces_step (traces_leaseQueue conn m.config pool.id _) ?_ ?_ ?_
      · rintro _ ⟨hleasing, -⟩
        exact Opened.failed_append (hservice _) (List.forall_mem_append.mpr ⟨hregistered, hleasing⟩)
          nofun
      · rintro _ fault ⟨hleasing, -⟩
        exact Opened.failed_append (hservice _) (List.forall_mem_append.mpr ⟨hregistered, hleasing⟩)
          nofun
      · intro _ lease hleased
        cases hleased with
        | refused _ hout => exact absurd rfl (hout lease)
        | @granted earlier _ hearlier hnone =>
          have hprepared := List.forall_mem_append.mpr
            ⟨List.forall_mem_append.mpr ⟨hservice (some (.ok conn)), hregistered⟩, hearlier⟩
          have hpool' : pool? ([⟨.raced (.source (.adminConnection m.config.identity)),
              some (.ok conn)⟩] ++ registered ++ earlier) = some pool := by
            rw [pool?_append, hnone, Option.none_or, pool?_append, hpool pool rfl, Option.some_or]
          have hleased : Opened m.config _ _ := .leased conn lease hprepared hpool'
          change Opened m.config (_ ++ (_ ++ (earlier ++ [_] ++ []))) _
          rw [List.append_nil]
          simp only [List.append_assoc] at hleased
          exact hleased

/-- Opening a first session. -/
theorem traces_openSession (config : SessionConfig) :
    (SessionManager.new config).openSession.raced.Traces (Opened config) := by
  rw [openSession_eq]
  refine (traces_setup (.new config)).raced_bind (fun heard h => h) fun heard out h => ?_
  have hend : Opened config (heard ++ []) (some (opened (.new config) out)) := by
    rw [List.append_nil]
    exact h
  exact hend

/-! ## One turn -/

/-- What acting on news leads to. -/
inductive Acted (l : Listener) : News → List Heard → Prop
  /-- There is no service to claim jobs of. -/
  | unserved {ids : List RequestId} (hconn : l.manager.conn = none) :
    Acted l (.available ids) []
  /-- No jobs wait. -/
  | idle : Acted l (.available []) []
  /-- A claim is not granted. -/
  | refused {conn : AdminConnection} {ids : List RequestId} {fault : SourceFault}
    (hconn : l.manager.conn = some conn) (hids : ids ≠ []) :
    Acted l (.available ids) [.source (.acquireJobs conn l.session.poolId l.session.queueToken ids)
      (.error fault)]
  /-- A claim is granted, for some jobs. -/
  | granted {conn : AdminConnection} {ids granted : List RequestId} {now : Instant}
    (hconn : l.manager.conn = some conn) (hids : ids ≠ []) :
    Acted l (.available ids) [.source (.acquireJobs conn l.session.poolId l.session.queueToken ids)
      (.ok granted), .clock now, .tell (.reserve granted now)]
  /-- A job is given to a runner of the pool. -/
  | assigned {id : RequestId} {poolId : Int64} {jobId : Option String}
    (hpool : poolId = 0 ∨ poolId = l.session.poolId) :
    Acted l (.assigned id poolId jobId) [.tell (.assign id)]
  /-- A job is given to a runner of another pool. -/
  | foreign {id : RequestId} {poolId : Int64} {jobId : Option String}
    (hpool : poolId ≠ 0 ∧ poolId ≠ l.session.poolId) : Acted l (.assigned id poolId jobId) []
  /-- A job has ended. -/
  | completed {id : RequestId} {result name : Option String} :
    Acted l (.completed id result name) [.tell (.complete id)]
  /-- Nobody knows what happened. -/
  | unknown {kind : String} : Acted l (.unknown kind) []

/-- What taking a message leads to.  It is acknowledged first. -/
inductive Taken (l : Listener) (raw : QueueMessage) : List Heard → Listener → Prop
  /-- Its id is not above the cursor. -/
  | seen {answer : Sourced Unit} (hseen : raw.id ≤ l.cursor) :
    Taken l raw
      [.source (.deleteMessage l.session.queueUrl l.session.queueToken raw.id) answer] l
  /-- It cannot be read. -/
  | malformed {answer : Sourced Unit} {fault : MessageFault} (hnew : l.cursor < raw.id)
    (hparse : Message.parse raw = .error fault) :
    Taken l raw
      [.source (.deleteMessage l.session.queueUrl l.session.queueToken raw.id) answer]
      { l with cursor := raw.id }
  /-- It is acted on. -/
  | dispatched {answer : Sourced Unit} {message : Message} {work : List Heard}
    (hnew : l.cursor < raw.id) (hparse : Message.parse raw = .ok message)
    (hacted : Acted l message.news work) :
    Taken l raw
      (.source (.deleteMessage l.session.queueUrl l.session.queueToken raw.id) answer :: work)
      { l with cursor := raw.id }

/-- The session of a lease that was issued anew. -/
def renewedSession (l : Listener) (lease : Session) : Session :=
  { lease with poolId := l.session.poolId }

/-- What trying to have the lease issued anew leads to. -/
inductive Renewed (l : Listener) : List Heard → Listener → Prop
  /-- There is no service. -/
  | unserved {fault : SourceFault} :
    Renewed l [.source (.adminConnection l.manager.config.identity) (.error fault)] l
  /-- The lease is refused. -/
  | refused {conn : AdminConnection} {fault : SourceFault} :
    Renewed l [.source (.adminConnection l.manager.config.identity) (.ok conn),
      .source (.refreshMessageSession conn l.session.poolId l.session.sessionId) (.error fault)] l
  /-- The lease is issued. -/
  | leased {conn : AdminConnection} {lease : Session} :
    Renewed l [.source (.adminConnection l.manager.config.identity) (.ok conn),
      .source (.refreshMessageSession conn l.session.poolId l.session.sessionId) (.ok lease)]
      { l with
        manager :=
          { l.manager with conn := some conn, active := some (l.renewedSession lease) }
        session := l.renewedSession lease }

/-- What the answer to a poll leads to. -/
inductive Answered (l : Listener) : Sourced (Option QueueMessage) → List Heard → Listener → Prop
  /-- A message came. -/
  | message {raw : QueueMessage} {work : List Heard} {l' : Listener} (h : Taken l raw work l') :
    Answered l (.ok (some raw)) work l'
  /-- None came. -/
  | quiet : Answered l (.ok none) [] l
  /-- The queue refused the token. -/
  | expired {fault : SourceFault} {work : List Heard} {l' : Listener}
    (hkind : fault.kind = .tokenExpired) (h : Renewed l work l') :
    Answered l (.error fault) work l'
  /-- The poll failed. -/
  | failed {fault : SourceFault} (hkind : fault.kind ≠ .tokenExpired) :
    Answered l (.error fault) [] l

/-- What a listener can go through while it polls. -/
inductive Polled : Listener → List Heard → Listener → Prop
  /-- It polls no more. -/
  | limit {l : Listener} : Polled l [] l
  /-- The signal came between two polls. -/
  | stopped {l : Listener} : Polled l [.signal true] l
  /-- The signal came during a poll. -/
  | cut {l : Listener} : Polled l [.signal false, .poll l none] l
  /-- A poll was answered. -/
  | turn {l l' l'' : Listener} {answer : Sourced (Option QueueMessage)} {work later : List Heard}
    (h : Answered l answer work l') (h' : Polled l' later l'') :
    Polled l (.signal false :: .poll l (some answer) :: work ++ later) l''

theorem traces_claim (l : Listener) {conn : AdminConnection} {ids : List RequestId}
    (hconn : l.manager.conn = some conn) (hids : ids ≠ []) :
    (claim conn l.session ids).steady.Traces fun work _ => Acted l (.available ids) work := by
  rintro (fault | granted)
  · exact .refused hconn hids
  · intro now told
    exact .granted hconn hids

theorem traces_act (l : Listener) (news : News) :
    (l.act news).steady.Traces fun work _ => Acted l news work := by
  cases news with
  | available ids =>
    unfold act
    dsimp only
    split
    · rename_i hconn
      exact .unserved hconn
    · rename_i conn hconn
      cases ids with
      | nil => exact .idle
      | cons id ids => exact traces_claim l hconn (List.cons_ne_nil id ids)
  | assigned id poolId jobId =>
    unfold act
    dsimp only
    by_cases hpool : poolId = 0 ∨ poolId = l.session.poolId
    · rw [if_neg fun h => hpool.elim h.1 h.2]
      intro told
      exact .assigned hpool
    · rw [if_pos (not_or.mp hpool)]
      exact .foreign (not_or.mp hpool)
  | completed id result name =>
    intro told
    exact .completed
  | unknown kind => exact .unknown

theorem take_of_seen {l : Listener} {raw : QueueMessage} (hseen : raw.id ≤ l.cursor) :
    l.take raw =
      (SessionCall.deleteMessage l.session.queueUrl l.session.queueToken raw.id).ask.bind fun _ =>
        .done l := by
  unfold take
  dsimp only
  rw [if_pos hseen]
  simp only [if_pos hseen]

theorem take_of_new {l : Listener} {raw : QueueMessage} (hnew : l.cursor < raw.id) :
    l.take raw =
      (SessionCall.deleteMessage l.session.queueUrl l.session.queueToken raw.id).ask.bind fun _ =>
        match Message.parse raw with
        | .error _ => .done { l with cursor := raw.id }
        | .ok message => (act { l with cursor := raw.id } message.news).bind fun _ =>
          .done { l with cursor := raw.id } := by
  have hseen : ¬ raw.id ≤ l.cursor := Int64.not_le.mpr hnew
  unfold take
  dsimp only
  rw [if_neg hseen]
  refine congrArg (Dialogue.bind _) (funext fun told => ?_)
  exact if_neg hseen

/-- What acting on news leads to has nothing to do with the cursor. -/
theorem Acted.of_cursor {l : Listener} {cursor : Int64} {news : News} {work : List Heard}
    (h : Acted { l with cursor := cursor } news work) : Acted l news work := by
  cases h with
  | unserved hconn => exact .unserved hconn
  | idle => exact .idle
  | refused hconn hids => exact .refused hconn hids
  | granted hconn hids => exact .granted hconn hids
  | assigned hpool => exact .assigned hpool
  | foreign hpool => exact .foreign hpool
  | completed => exact .completed
  | unknown => exact .unknown

theorem traces_take (l : Listener) (raw : QueueMessage) :
    (l.take raw).steady.Traces (Taken l raw) := by
  by_cases hseen : raw.id ≤ l.cursor
  · rw [take_of_seen hseen]
    intro answer
    exact .seen hseen
  · have hnew : l.cursor < raw.id := Int64.not_le.mp hseen
    rw [take_of_new hnew]
    intro answer
    cases hparse : Message.parse raw with
    | error fault => exact .malformed hnew hparse
    | ok message =>
      have hact := traces_act { l with cursor := raw.id } message.news
      have hrest : ((act { l with cursor := raw.id } message.news).bind fun _ =>
          .done { l with cursor := raw.id }).steady.Traces fun work l' => Taken l raw
            (.source (.deleteMessage l.session.queueUrl l.session.queueToken raw.id) answer ::
              work) l' :=
        hact.steady_bind_done fun work told hacted =>
          ⟨_, rfl, .dispatched hnew hparse hacted.of_cursor⟩
      exact hrest

theorem traces_renew (l : Listener) : l.renew.steady.Traces (Renewed l) := by
  rintro (fault | conn)
  · exact .unserved
  · rintro (fault | lease)
    · exact .refused
    · exact .leased

theorem traces_answered (l : Listener) (answer : Sourced (Option QueueMessage)) :
    (l.answered answer).steady.Traces (Answered l answer) := by
  unfold answered
  split
  · rename_i raw
    exact (traces_take l raw).imp fun _ _ => .message
  · exact .quiet
  · rename_i fault
    by_cases hkind : fault.kind = .tokenExpired
    · rw [if_pos hkind]
      exact (traces_renew l).imp fun _ _ => .expired hkind
    · rw [if_neg hkind]
      exact .failed hkind

/-- What a turn leads to; without result if the signal cut it short. -/
inductive Turned (l : Listener) : List Heard → Option Listener → Prop
  /-- The signal came during the poll. -/
  | cut : Turned l [.poll l none] none
  /-- The poll was answered. -/
  | answered {answer : Sourced (Option QueueMessage)} {work : List Heard} {l' : Listener}
    (h : Answered l answer work l') : Turned l (.poll l (some answer) :: work) (some l')

theorem traces_turn (l : Listener) : l.turn.Traces (Turned l) := by
  unfold turn
  refine Traces.raced_call_bind .cut fun answer => ?_
  exact (traces_answered l answer).bind_done fun work l' h => ⟨_, rfl, .answered h⟩

/-- Polling is turns in a row. -/
theorem traces_poll (turns : Nat) (l : Listener) : (poll turns l).Traces (Polled l) := by
  induction turns generalizing l with
  | zero => exact .limit
  | succ turns ih =>
    rw [poll]
    refine Traces.call_bind fun stop => ?_
    cases stop with
    | true => exact .stopped
    | false =>
      refine (traces_turn l).bind fun work out hturned => ?_
      cases hturned with
      | cut => exact .cut
      | answered h => exact (ih _).imp fun later l'' h' => .turn h h'

/-! ## A whole run -/

/-- What giving the live session back leads to. -/
inductive Released (l : Listener) : List Heard → Prop
  /-- There is no session, or no service. -/
  | quiet (hnone : l.manager.active = none ∨ l.manager.conn = none) : Released l []
  /-- The service is told. -/
  | told {conn : AdminConnection} {session : Session} {answer : Sourced Unit}
    (hactive : l.manager.active = some session) (hconn : l.manager.conn = some conn) :
    Released l [.source (.deleteMessageSession conn session.poolId session.sessionId) answer]

theorem traces_release (l : Listener) :
    l.release.steady.Traces fun heard l' => Released l heard ∧ l'.cursor = l.cursor := by
  unfold release
  split
  · rename_i hactive
    exact ⟨.quiet (Or.inl hactive), rfl⟩
  · rename_i session hactive
    rw [close_active hactive]
    split
    · rename_i hconn
      exact ⟨.quiet (Or.inr hconn), rfl⟩
    · rename_i conn hconn
      intro answer
      exact ⟨.told hactive hconn, rfl⟩

/-- What a run leads to. -/
inductive Ran (config : SessionConfig) : List Heard → Except SetupFault Int64 → Prop
  /-- No session was opened. -/
  | unopened {heard : List Heard} {out : Except SetupFault Int64}
    (hheard : ∀ x ∈ heard, Preparing x) (hout : ∀ cursor, out = .ok cursor → cursor = 0) :
    Ran config heard out
  /-- A session was opened, its queue polled and the session given back. -/
  | polled {heard work later : List Heard} {session : Session} {manager : SessionManager}
    {l : Listener} (hopened : Opened config heard (some (.ok session, manager)))
    (hpolled : Polled ⟨manager, session, 0⟩ work l) (hreleased : Released l later) :
    Ran config (heard ++ work ++ later) (.ok l.cursor)

theorem traces_run (config : SessionConfig) (turns : Nat) :
    (run config turns).Traces (Ran config) := by
  unfold run
  refine (traces_openSession config).bind fun heard out hopened => ?_
  rcases out with _ | ⟨fault | session, manager⟩
  · obtain ⟨hheard, -⟩ := hopened
    have hend : Ran config (heard ++ []) (.ok 0) := by
      rw [List.append_nil]
      exact .unopened hheard fun cursor hcursor => (Except.ok.inj hcursor).symm
    exact hend
  · obtain ⟨hheard, -⟩ := hopened
    have hend : Ran config (heard ++ []) (.error fault) := by
      rw [List.append_nil]
      exact .unopened hheard nofun
    exact hend
  · refine (traces_poll turns ⟨manager, session, 0⟩).bind fun work l hpolled => ?_
    refine (traces_release l).bind_done fun later l' ⟨hreleased, hcursor⟩ => ⟨_, rfl, ?_⟩
    rw [hcursor, ← List.append_assoc]
    exact .polled hopened hpolled hreleased

end PoolScaler.Listener
