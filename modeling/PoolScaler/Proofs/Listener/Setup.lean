import PoolScaler.Proofs.Listener.Lease
set_option autoImplicit false

/-!
# Opening a session is all or nothing

Opening a session takes one step after the other and ends at the first that fails.  Only
a lease is asked for again when it is refused, a bounded number of times.  Nothing of the
steps that were taken is kept unless all of them were.
-/

namespace PoolScaler.Listener

open Dialogue (Traces)

/-- A question of a session holder together with its answer. -/
abbrev Said : Type := Exchange SessionNeed.interface

namespace Said

/-- A question to the source. -/
def source (call : SessionCall) (answer : Sourced call.Value) : Said := ⟨.source call, answer⟩

/-- Some time was let pass. -/
def wait (span : Span) : Said := ⟨.wait span, ()⟩

end Said

/-! ## What is asked -/

section

variable (config : SessionConfig)

/-- The service of the scope is asked for. -/
def shaking (answer : Sourced AdminConnection) : Said :=
  .source (.adminConnection config.identity) answer

/-- The pool is looked for. -/
def looking (conn : AdminConnection) (answer : Sourced (Option RunnerPool)) : Said :=
  .source (.getRunnerPool conn config.identity.poolName) answer

/-- The question that registers the pool with its canonical settings: in the place of the
pool that was found, or as a new one. -/
def registration (conn : AdminConnection) : Option RunnerPool → SessionCall
  | some existing => .replaceRunnerPool conn existing.id (.canonical config.identity.poolName)
  | none => .createRunnerPool conn (.canonical config.identity.poolName)

/-- The pool is registered. -/
def registering (conn : AdminConnection) (found : Option RunnerPool) (answer : Sourced RunnerPool) :
    Said :=
  match found with
  | some existing =>
    .source (.replaceRunnerPool conn existing.id (.canonical config.identity.poolName)) answer
  | none => .source (.createRunnerPool conn (.canonical config.identity.poolName)) answer

/-- A lease is asked for. -/
def leasing (conn : AdminConnection) (poolId : Int64) (answer : Sourced Session) : Said :=
  .source (.createMessageSession conn poolId config.ownerName) answer

/-- A lease is refused again and again.  After each refusal there is a wait. -/
def refused (conn : AdminConnection) (poolId : Int64) (faults : List SourceFault) : List Said :=
  faults.flatMap fun fault =>
    [leasing config conn poolId (.error fault), .wait config.createRetryDelay]

/-- A service is there, and the pool is looked for and registered. -/
def registered (conn : AdminConnection) (found : Option RunnerPool) (answer : Sourced RunnerPool) :
    List Said :=
  [shaking config (.ok conn), looking config conn (.ok found), registering config conn found answer]

/-- After some refusals a lease of the queue of the registered pool is asked for once more. -/
def leasedLast (conn : AdminConnection) (found : Option RunnerPool) (pool : RunnerPool)
    (faults : List SourceFault) (answer : Sourced Session) : List Said :=
  registered config conn found (.ok pool) ++ refused config conn pool.id faults ++
    [leasing config conn pool.id answer]

/-- What the steps of opening a session lead to. -/
inductive SetUp : List Said → Except SetupFault (AdminConnection × RunnerPool × Session) → Prop
  /-- There is no service. -/
  | unserved (fault : SourceFault) :
    SetUp [shaking config (.error fault)] (.error ⟨.adminHandshake, fault⟩)
  /-- The pool cannot be looked for. -/
  | unseen (conn : AdminConnection) (fault : SourceFault) :
    SetUp [shaking config (.ok conn), looking config conn (.error fault)]
      (.error ⟨.runnerPool, fault⟩)
  /-- The pool is not registered. -/
  | unregistered (conn : AdminConnection) (found : Option RunnerPool) (fault : SourceFault) :
    SetUp (registered config conn found (.error fault)) (.error ⟨.runnerPool, fault⟩)
  /-- Its queue is not leased, as often as that is asked for. -/
  | unleased (conn : AdminConnection) (found : Option RunnerPool) (pool : RunnerPool)
    {faults : List SourceFault} (fault : SourceFault) (hall : faults.length + 1 = config.attempts) :
    SetUp (leasedLast config conn found pool faults (.error fault))
      (.error ⟨.messageSession, fault⟩)
  /-- Its queue is leased, before that has been refused as often as it can be. -/
  | leased (conn : AdminConnection) (found : Option RunnerPool) (pool : RunnerPool)
    {faults : List SourceFault} (lease : Session) (hfew : faults.length < config.attempts) :
    SetUp (leasedLast config conn found pool faults (.ok lease))
      (.ok (conn, pool, { lease with poolId := pool.id }))

end

/-! ## What the steps do -/

theorem traces_leasing (conn : AdminConnection) (config : SessionConfig) (poolId : Int64)
    (retries : Nat) :
    (SessionManager.leaseQueue conn config poolId retries).Traces fun said out =>
      ∃ faults, said = refused config conn poolId faults ++ [leasing config conn poolId out] ∧
        faults.length ≤ retries ∧ ∀ fault, out = .error fault → faults.length = retries := by
  induction retries with
  | zero => exact fun answer => ⟨[], rfl, Nat.le_refl 0, fun _ _ => rfl⟩
  | succ retries ih =>
    rintro (fault | lease)
    · refine fun _ => ih.imp ?_
      rintro said out ⟨faults, rfl, hfew, hall⟩
      refine ⟨fault :: faults, rfl, Nat.succ_le_succ hfew, fun last hlast => ?_⟩
      rw [List.length_cons, hall last hlast]
    · exact ⟨[], rfl, Nat.zero_le _, nofun⟩

/-- A step fails with its answer, or others follow. -/
theorem traces_stage {α β : Type} {P : List Said → Sourced α → Prop}
    {Q : List Said → Except SetupFault β → Prop} {stage : SetupStep}
    {d : SessionDialogue (Sourced α)} {next : α → SessionDialogue (Except SetupFault β)}
    (h : d.Traces P) (hfault : ∀ said fault, P said (.error fault) →
      Q said (.error ⟨stage, fault⟩))
    (hok : ∀ said a, P said (.ok a) →
      (next a).Traces fun later out => Q (said ++ later) out) :
    (SessionManager.step stage d next).Traces Q := by
  unfold SessionManager.step
  refine h.bind fun said answer hanswer => ?_
  cases answer with
  | error fault =>
    have hend : Q (said ++ []) (.error ⟨stage, fault⟩) := by
      rw [List.append_nil]
      exact hfault said fault hanswer
    exact hend
  | ok a => exact hok said a hanswer

theorem traces_registering (conn : AdminConnection) (config : SessionConfig) :
    (SessionManager.registerPool conn config.identity.poolName).Traces fun said out =>
      (∃ fault, said = [looking config conn (.error fault)] ∧ out = .error fault) ∨
        ∃ found, said = [looking config conn (.ok found), registering config conn found out] := by
  rintro (fault | (_ | existing))
  · exact .inl ⟨fault, rfl, rfl⟩
  · exact fun answer => .inr ⟨none, rfl⟩
  · exact fun answer => .inr ⟨some existing, rfl⟩

theorem traces_shaking (config : SessionConfig) :
    (SessionCall.adminConnection config.identity).ask.Traces fun said out =>
      said = [shaking config out] := fun _ => rfl

theorem attempts_pos (config : SessionConfig) : 0 < config.attempts :=
  Nat.lt_of_lt_of_le Nat.one_pos (Nat.le_max_right _ _)

theorem traces_setUp (config : SessionConfig) : (setup config).Traces (SetUp config) := by
  have hpos := attempts_pos config
  refine traces_stage (traces_shaking config) ?_ ?_
  · rintro _ fault rfl
    exact .unserved fault
  · rintro _ conn rfl
    refine traces_stage (traces_registering conn config) ?_ ?_
    · rintro _ fault (⟨_, rfl, ⟨⟩⟩ | ⟨found, rfl⟩)
      · exact .unseen conn fault
      · exact .unregistered conn found fault
    · rintro _ pool (⟨_, -, ⟨⟩⟩ | ⟨found, rfl⟩)
      refine traces_stage (traces_leasing conn config pool.id _) ?_ ?_
      · rintro _ fault ⟨faults, rfl, -, hall⟩
        have hlast := hall fault rfl
        exact .unleased conn found pool fault (by omega)
      · rintro _ lease ⟨faults, rfl, hfew, -⟩
        change SetUp config ([_] ++ ([_, _] ++ (_ ++ [_] ++ []))) _
        rw [List.append_nil]
        exact .leased conn found pool lease (by omega)

/-! ## What fails -/

/-- What an answer fails a step of opening a session with. -/
def failure? : Reply → Option SetupFault
  | ⟨.adminConnection _, .error fault⟩ => some ⟨.adminHandshake, fault⟩
  | ⟨.getRunnerPool _ _, .error fault⟩ => some ⟨.runnerPool, fault⟩
  | ⟨.createRunnerPool _ _, .error fault⟩ => some ⟨.runnerPool, fault⟩
  | ⟨.replaceRunnerPool _ _ _, .error fault⟩ => some ⟨.runnerPool, fault⟩
  | ⟨.createMessageSession _ _ _, .error fault⟩ => some ⟨.messageSession, fault⟩
  | _ => none

/-- What the source was asked and answered while a session was opened. -/
def sourced (said : List Said) : List Reply := said.filterMap sourced?

/-- What it failed the steps with. -/
def failures (said : List Said) : List SetupFault := (sourced said).filterMap failure?

theorem sourced_append (said later : List Said) :
    sourced (said ++ later) = sourced said ++ sourced later := List.filterMap_append

theorem failures_append (said later : List Said) :
    failures (said ++ later) = failures said ++ failures later := by
  unfold failures
  rw [sourced_append, List.filterMap_append]

section

variable (config : SessionConfig) (conn : AdminConnection) (found : Option RunnerPool)

theorem calls_registered (answer : Sourced RunnerPool) :
    (sourced (registered config conn found answer)).map (·.1) =
      [.adminConnection config.identity, .getRunnerPool conn config.identity.poolName,
        registration config conn found] := by
  cases found <;> rfl

theorem failures_registered (answer : Sourced RunnerPool) :
    failures (registered config conn found answer) =
      match answer with
      | .ok _ => []
      | .error fault => [⟨.runnerPool, fault⟩] := by
  cases found <;> cases answer <;> rfl

theorem calls_refused (poolId : Int64) (faults : List SourceFault) :
    (sourced (refused config conn poolId faults)).map (·.1) =
      List.replicate faults.length (.createMessageSession conn poolId config.ownerName) := by
  induction faults with
  | nil => rfl
  | cons fault faults ih => exact congrArg (_ :: ·) ih

theorem failures_refused (poolId : Int64) (faults : List SourceFault) :
    failures (refused config conn poolId faults) = faults.map (⟨.messageSession, ·⟩) := by
  induction faults with
  | nil => rfl
  | cons fault faults ih => exact congrArg (_ :: ·) ih

variable (pool : RunnerPool) (faults : List SourceFault) (answer : Sourced Session)

theorem calls_leasedLast :
    (sourced (leasedLast config conn found pool faults answer)).map (·.1) =
      .adminConnection config.identity :: .getRunnerPool conn config.identity.poolName ::
        registration config conn found :: List.replicate (faults.length + 1)
          (.createMessageSession conn pool.id config.ownerName) := by
  unfold leasedLast
  rw [sourced_append, sourced_append, List.map_append, List.map_append, calls_registered,
    calls_refused, List.replicate_succ']
  rfl

theorem failures_leasedLast :
    failures (leasedLast config conn found pool faults answer) =
      match answer with
      | .ok _ => faults.map (⟨.messageSession, ·⟩)
      | .error fault => (faults ++ [fault]).map (⟨.messageSession, ·⟩) := by
  unfold leasedLast
  rw [failures_append, failures_append, failures_registered, failures_refused]
  cases answer with
  | ok lease => exact List.append_nil _
  | error fault =>
    dsimp only
    rw [List.map_append]
    rfl

end

theorem countP_messageSession (faults : List SourceFault) :
    (faults.map (⟨.messageSession, ·⟩ : SourceFault → SetupFault)).countP
      (·.step = .messageSession) = faults.length := by
  rw [List.countP_map]
  exact List.countP_eq_length.mpr fun _ _ => rfl

namespace SetUp

variable {config : SessionConfig} {said : List Said}
  {steps : Except SetupFault (AdminConnection × RunnerPool × Session)}

/-- What is asked is the beginning of one and the same list, but for how often a lease is
asked for. -/
theorem calls_prefix (h : SetUp config said steps) : ∃ conn found poolId k,
    1 ≤ k ∧ k ≤ config.attempts ∧ (sourced said).map (·.1) <+:
      .adminConnection config.identity :: .getRunnerPool conn config.identity.poolName ::
        registration config conn found ::
          List.replicate k (.createMessageSession conn poolId config.ownerName) := by
  have hpos := attempts_pos config
  cases h with
  | unserved fault => exact ⟨default, none, 0, 1, Nat.le_refl 1, hpos, ⟨_, rfl⟩⟩
  | unseen conn fault => exact ⟨conn, none, 0, 1, Nat.le_refl 1, hpos, ⟨_, rfl⟩⟩
  | unregistered conn found fault =>
    refine ⟨conn, found, 0, 1, Nat.le_refl 1, hpos, ?_⟩
    rw [calls_registered]
    exact ⟨_, rfl⟩
  | @unleased conn found pool faults fault hall =>
    refine ⟨conn, found, pool.id, faults.length + 1, Nat.succ_pos _, Nat.le_of_eq hall, ?_⟩
    exact ⟨[], (List.append_nil _).trans (calls_leasedLast ..)⟩
  | @leased conn found pool faults lease hfew =>
    refine ⟨conn, found, pool.id, faults.length + 1, Nat.succ_pos _, hfew, ?_⟩
    exact ⟨[], (List.append_nil _).trans (calls_leasedLast ..)⟩

/-- The last answer is what fails the steps, if they fail. -/
theorem getLast?_failure {fault : SetupFault} (h : SetUp config said (.error fault)) :
    (sourced said).getLast?.bind failure? = some fault := by
  cases h with
  | unserved fault => rfl
  | unseen conn fault => rfl
  | unregistered conn found fault => cases found <;> rfl
  | unleased conn found pool fault hall =>
    unfold leasedLast
    rw [sourced_append, List.getLast?_append]
    rfl

/-- The steps fail if one of them does, and asking for a lease only as often as it can be. -/
theorem fails_iff (h : SetUp config said steps) :
    (∃ fault, steps = .error fault) ↔ (∃ f ∈ failures said, f.step ≠ .messageSession) ∨
      (failures said).countP (·.step = .messageSession) = config.attempts := by
  cases h with
  | unserved fault => exact iff_of_true ⟨_, rfl⟩ (.inl ⟨_, List.mem_singleton_self _, nofun⟩)
  | unseen conn fault => exact iff_of_true ⟨_, rfl⟩ (.inl ⟨_, List.mem_singleton_self _, nofun⟩)
  | unregistered conn found fault =>
    rw [failures_registered]
    exact iff_of_true ⟨_, rfl⟩ (.inl ⟨_, List.mem_singleton_self _, nofun⟩)
  | @unleased conn found pool faults fault hall =>
    rw [failures_leasedLast, countP_messageSession, List.length_append]
    exact iff_of_true ⟨_, rfl⟩ (.inr hall)
  | @leased conn found pool faults lease hfew =>
    rw [failures_leasedLast, countP_messageSession]
    refine iff_of_false nofun (not_or.mpr ⟨?_, Nat.ne_of_lt hfew⟩)
    rintro ⟨f, hf, hstep⟩
    obtain ⟨fault, -, rfl⟩ := List.mem_map.mp hf
    exact hstep rfl

theorem poolId_eq {conn : AdminConnection} {pool : RunnerPool} {session : Session}
    (h : SetUp config said (.ok (conn, pool, session))) : session.poolId = pool.id := by
  cases h
  rfl

end SetUp

/-! ## Opening a session -/

/-- The question that gives the live session back, if there is one and a service to ask. -/
def release? (m : SessionManager) : Option SessionCall :=
  match m.active, m.conn with
  | some prior, some conn => some (.deleteMessageSession conn prior.poolId prior.sessionId)
  | _, _ => none

theorem traces_vacating (m : SessionManager) :
    (vacate m).Traces fun said m' =>
      said.map (·.call) = (release? m).toList.map .source ∧ m' = { m with active := none } := by
  unfold vacate release?
  cases hactive : m.active with
  | none => exact ⟨rfl, by rw [← hactive]⟩
  | some prior =>
    dsimp only
    rw [close_active hactive]
    cases hconn : m.conn with
    | none => exact ⟨rfl, by rw [← hconn]⟩
    | some conn => exact fun _ => ⟨rfl, by rw [← hconn]⟩

/-- Opening a session is all or nothing, whatever was held and whatever is answered.  Once
the live session is given back, if there is one and a service to ask, the source is asked
for the service, for the pool, for its registration with the canonical settings and, at
least once and at most as often as configured, for a lease of the queue of the pool as it
was registered; each question only if the ones before were answered as they had to be.
It fails exactly if one of the first three is refused or the lease is as often as it can
be asked for.  The fault is then the step and the cause of the last answer, no session is
live, and the service and the pool are those of before.  If it does not fail, the service,
the pool and the session that were answered are held, and the session is of that pool
whatever the lease says. -/
theorem opening_is_all_or_nothing (m : SessionManager) {σ : Type}
    (env : Surroundings SessionNeed.interface σ) (s : σ) :
    let out := m.openSession.run env s
    let attempts := max 1 m.config.createAttempts.toNat
    ∃ gone said steps, out.exchanges = gone ++ said ∧
      gone.map (·.call) = (release? m).toList.map .source ∧
      SetUp m.config said steps ∧
      (∃ conn found poolId k, 1 ≤ k ∧ k ≤ attempts ∧ (sourced said).map (·.1) <+:
        .adminConnection m.config.identity ::
          .getRunnerPool conn m.config.identity.poolName :: registration m.config conn found ::
            List.replicate k (.createMessageSession conn poolId m.config.ownerName)) ∧
      ((∃ fault, out.result.1 = .error fault) ↔
        (∃ f ∈ failures said, f.step ≠ .messageSession) ∨
          (failures said).countP (·.step = .messageSession) = attempts) ∧
      (∀ fault, out.result.1 = .error fault → steps = .error fault ∧
        (sourced said).getLast?.bind failure? = some fault ∧
        out.result.2 = { m with active := none }) ∧
      ∀ session, out.result.1 = .ok session → ∃ conn pool,
        steps = .ok (conn, pool, session) ∧ session.poolId = pool.id ∧
        out.result.2 =
          { m with conn := some conn, pool := some pool, active := some session } := by
  intro out attempts
  have hattempts : m.config.attempts = attempts := Nat.max_comm _ _
  have htraces : m.openSession.Traces fun exchanges result => ∃ gone said steps,
      exchanges = gone ++ said ∧ gone.map (·.call) = (release? m).toList.map .source ∧
        SetUp m.config said steps ∧ result = opened { m with active := none } steps := by
    rw [openSession_eq]
    refine (traces_vacating m).bind ?_
    rintro gone _ ⟨hgone, rfl⟩
    refine (traces_setUp m.config).bind_done fun said steps hsteps => ⟨_, rfl, ?_⟩
    exact ⟨gone, said, steps, rfl, hgone, hsteps, rfl⟩
  obtain ⟨gone, said, steps, hexchanges, hgone, hsteps, hresult⟩ := htraces.run env s
  change out.result = _ at hresult
  refine ⟨gone, said, steps, hexchanges, hgone, hsteps, hattempts ▸ hsteps.calls_prefix,
    ?_, ?_, ?_⟩
  · rw [← hattempts, ← hsteps.fails_iff, hresult]
    rcases steps with fault | ⟨conn, pool, session⟩
    · exact iff_of_true ⟨fault, rfl⟩ ⟨fault, rfl⟩
    · exact iff_of_false nofun nofun
  · rw [hresult]
    rintro fault hfault
    rcases steps with _ | ⟨conn, pool, session⟩
    · obtain rfl := Except.error.inj hfault
      exact ⟨rfl, hsteps.getLast?_failure, rfl⟩
    · cases hfault
  · rw [hresult]
    rintro session hsession
    rcases steps with fault | ⟨conn, pool, session'⟩
    · cases hsession
    · obtain rfl := Except.ok.inj hsession
      exact ⟨conn, pool, rfl, hsteps.poolId_eq, rfl⟩

/-- The surroundings of a source that refuses leases a number of times. -/
def stingy : Surroundings SessionNeed.interface Nat
  | left + 1, .source (.createMessageSession _ _ _) => (.error (.http true), left)
  | left, need => (stillAnswer grudging need, left)

/-- A manager that asks for a lease three times and has a session to give back. -/
def persistent : SessionManager :=
  ⟨{ acmeSession with createAttempts := 3 }, some ⟨"https://old", "b"⟩, none, some acmeRenewed⟩

theorem opening_is_all_or_nothing_stingy :
    (persistent.openSession.run stingy 2).result.1 = .ok acmeFirst ∧
      (∃ pool, (persistent.openSession.run stingy 2).result.2.pool = some pool ∧
        acmeFirst.poolId = pool.id) ∧
      (persistent.openSession.run stingy 3).result =
        (.error ⟨.messageSession, .http true⟩, { persistent with active := none }) ∧
      ∃ gone said, (persistent.openSession.run stingy 3).exchanges = gone ++ said ∧
        gone.map (·.call) = [.source (.deleteMessageSession ⟨"https://old", "b"⟩ 3 "s")] ∧
        (sourced said).getLast?.bind failure? = some ⟨.messageSession, .http true⟩ := by
  obtain ⟨_, _, _, -, -, -, -, -, -, hopened⟩ := opening_is_all_or_nothing persistent stingy 2
  obtain ⟨gone, said, _, hexchanges, hgone, -, -, -, hfailed, -⟩ :=
    opening_is_all_or_nothing persistent stingy 3
  have hsession : (persistent.openSession.run stingy 2).result.1 = .ok acmeFirst := by
    decide +kernel
  have hfault : (persistent.openSession.run stingy 3).result.1 =
      .error ⟨.messageSession, .http true⟩ := by
    decide +kernel
  obtain ⟨conn, pool, -, hpool, hmanager⟩ := hopened acmeFirst hsession
  obtain ⟨-, hlast, hleft⟩ := hfailed _ hfault
  exact ⟨hsession, ⟨pool, by rw [hmanager], hpool⟩, Prod.ext hfault hleft, gone, said, hexchanges,
    hgone, hlast⟩

end PoolScaler.Listener
