import PoolScaler.Proofs.Listener.Renewal
set_option autoImplicit false

/-!
# Leases are given back

A session manager answers for one lease at most: the one of its live session.  Another is
only asked for once the source was told to give that one back, and a run that has a lease
ends by giving back the one that was granted last.
-/

namespace PoolScaler.Listener

open Dialogue (Traces uncut)

/-! ## The leases of a source -/

/-- A session of a pool, as it is known by when it is given back. -/
structure Lease where
  poolId : Int64
  sessionId : String
  deriving DecidableEq, Repr, Inhabited

/-- What a session is known by. -/
def Lease.of (s : Session) : Lease := ⟨s.poolId, s.sessionId⟩

/-- The leases there are after an answer of the source.  A lease counts as given back
once that was asked for, whatever the answer. -/
def settle (leases : List Lease) : Reply → List Lease
  | ⟨.createMessageSession _ poolId _, .ok session⟩ => ⟨poolId, session.sessionId⟩ :: leases
  | ⟨.deleteMessageSession _ poolId sessionId, _⟩ =>
    leases.filter fun lease => lease ≠ ⟨poolId, sessionId⟩
  | _ => leases

/-- The leases that were granted and not given back. -/
def outstanding (replies : List Reply) : List Lease := replies.foldl settle []

/-- A lease that is issued anew keeps its name. -/
def keepsId : Reply → Bool
  | ⟨.refreshMessageSession _ _ sessionId, .ok session⟩ => session.sessionId = sessionId
  | _ => true

/-- What the source answered, if it was asked. -/
def sourced? : Exchange SessionNeed.interface → Option Reply
  | ⟨.source call, answer⟩ => some ⟨call, answer⟩
  | _ => none

theorem reply?_uncut (x : Exchange SessionNeed.interface) : reply? (uncut x) = sourced? x := by
  obtain ⟨need, answer⟩ := x
  cases need <;> rfl

theorem replies_uncut (exchanges : List (Exchange SessionNeed.interface)) :
    replies (exchanges.map uncut) = exchanges.filterMap sourced? := by
  unfold replies
  rw [List.filterMap_map]
  exact congrArg (List.filterMap · exchanges) (funext reply?_uncut)

/-! ## Opening another session -/

/-- What giving the live session back before another is opened leads to. -/
inductive Vacated (m : SessionManager) : List Heard → Option SessionManager → Prop
  /-- There is no session, or no service. -/
  | quiet (hnone : m.active = none ∨ m.conn = none) : Vacated m [] (some { m with active := none })
  /-- The service is told. -/
  | told {conn : AdminConnection} {prior : Session} {answer : Sourced Unit}
    (hactive : m.active = some prior) (hconn : m.conn = some conn) :
    Vacated m [⟨.raced (.source (.deleteMessageSession conn prior.poolId prior.sessionId)),
      some answer⟩] (some { m with active := none })
  /-- The signal comes while the service is told. -/
  | cut {conn : AdminConnection} {prior : Session} (hactive : m.active = some prior)
    (hconn : m.conn = some conn) :
    Vacated m [⟨.raced (.source (.deleteMessageSession conn prior.poolId prior.sessionId)), none⟩]
      none

/-- What opening a session leads to when there may be a live one. -/
inductive Reopened (m : SessionManager) :
    List Heard → Option (Except SetupFault Session × SessionManager) → Prop
  /-- The signal comes before the new session is asked for. -/
  | cut {gone : List Heard} (hgone : Vacated m gone none) : Reopened m gone none
  /-- The new session is asked for.  If it is not had there is none. -/
  | tried {gone later : List Heard} {vacated : SessionManager}
    {out : Option (Except SetupFault Session × SessionManager)}
    (hgone : Vacated m gone (some vacated)) (hlater : Opened m.config later out)
    (hfailed : ∀ fault manager, out = some (.error fault, manager) → manager.active = none) :
    Reopened m (gone ++ later) out

theorem traces_vacate (m : SessionManager) : (vacate m).raced.Traces (Vacated m) := by
  unfold vacate
  cases hactive : m.active with
  | none =>
    have hsame : { m with active := none } = m := by rw [← hactive]
    have hquiet : Vacated m [] (some { m with active := none }) := .quiet (.inl hactive)
    rw [hsame] at hquiet
    exact hquiet
  | some prior =>
    dsimp only
    rw [close_active hactive]
    split
    · rename_i hconn
      exact .quiet (.inr hconn)
    · rename_i conn hconn
      refine Traces.raced_ask ?_ fun answer => ?_
      · exact .cut hactive hconn
      · exact .told hactive hconn

theorem Vacated.eq_some {m vacated : SessionManager} {gone : List Heard}
    (h : Vacated m gone (some vacated)) : vacated = { m with active := none } := by
  cases h with
  | quiet => rfl
  | told => rfl

theorem traces_reopen (m : SessionManager) : m.openSession.raced.Traces (Reopened m) := by
  rw [openSession_eq]
  refine (traces_vacate m).raced_bind (fun _ => .cut) fun gone vacated hgone => ?_
  obtain rfl := hgone.eq_some
  refine (traces_setup { m with active := none }).raced_bind ?_ ?_
  · intro later hlater
    rw [Option.map_none] at hlater
    refine .tried hgone hlater fun fault manager hopened => ?_
    cases hopened
  · intro later steps hlater
    rw [Option.map_some] at hlater
    have hend : Reopened m (gone ++ (later ++ []))
        (some (opened { m with active := none } steps)) := by
      rw [List.append_nil]
      refine .tried hgone hlater fun fault manager hopened => ?_
      cases steps with
      | error fault' =>
        cases hopened
        rfl
      | ok steps => cases hopened
    exact hend

/-! ## What a manager answers for -/

/-- What a manager is called for. -/
inductive Errand where
  /-- To open a session. -/
  | openSession
  /-- To have the lease of the live session issued anew. -/
  | refresh
  /-- To give the live session back. -/
  | close
  deriving DecidableEq, Repr, Inhabited

/-- Call a manager.  What is about the live session is not asked for without one. -/
def errand (m : SessionManager) : Errand → SessionDialogue SessionManager
  | .openSession => m.openSession.bind fun out => .done out.2
  | .refresh =>
    match m.active with
    | none => .done m
    | some live => (m.refresh live).bind fun out => .done out.2
  | .close =>
    match m.active with
    | none => .done m
    | some live => (m.close live).bind fun out => .done out.2

/-- Call a manager again and again. -/
def errands (m : SessionManager) : List Errand → SessionDialogue SessionManager
  | [] => .done m
  | e :: rest => (errand m e).bind fun m => errands m rest

/-- The lease of the live session. -/
def held (m : SessionManager) : List Lease := m.active.toList.map Lease.of

/-- Whoever has a live session knows a service to give it back to. -/
def Served (m : SessionManager) : Prop := m.active.isSome → m.conn.isSome

/-- What was answered on the way from `m` to `m'` leaves the lease that `m'` holds, as long
as leases keep their names. -/
structure Accounts (m : SessionManager) (replies : List Reply) (m' : SessionManager) : Prop where
  served : Served m'
  settled : (∀ reply ∈ replies, keepsId reply = true) → replies.foldl settle (held m) = held m'

theorem Accounts.refl {m : SessionManager} (h : Served m) : Accounts m [] m := ⟨h, fun _ => rfl⟩

theorem Accounts.append {m m' m'' : SessionManager} {replies later : List Reply}
    (h : Accounts m replies m') (h' : Accounts m' later m'') :
    Accounts m (replies ++ later) m'' := by
  refine ⟨h'.served, fun hkept => ?_⟩
  obtain ⟨hreplies, hlater⟩ := List.forall_mem_append.mp hkept
  rw [List.foldl_append, h.settled hreplies, h'.settled hlater]

theorem Preparing.settles_none {x : Heard} (h : Preparing x) (leases : List Lease) :
    (replies [x]).foldl settle leases = leases := by
  cases h with
  | @service identity answer => rcases answer with _ | fault | conn <;> rfl
  | @lookUp conn name answer => rcases answer with _ | fault | pool <;> rfl
  | @create conn pool answer => rcases answer with _ | fault | pool <;> rfl
  | @replace conn poolId pool answer => rcases answer with _ | fault | pool <;> rfl
  | @refused conn poolId owner answer hnone =>
    rcases answer with _ | fault | lease
    · rfl
    · rfl
    · exact absurd rfl (hnone lease)
  | wait => rfl

theorem settle_preparing {heard : List Heard} (h : ∀ x ∈ heard, Preparing x)
    (leases : List Lease) : (replies heard).foldl settle leases = leases := by
  induction heard with
  | nil => rfl
  | cons x heard ih =>
    obtain ⟨hx, hheard⟩ := List.forall_mem_cons.mp h
    rw [← List.singleton_append, replies_append, List.foldl_append, hx.settles_none, ih hheard]

theorem filter_held {m : SessionManager} {live : Session} (h : m.active = some live) :
    (held m).filter (fun lease => lease ≠ ⟨live.poolId, live.sessionId⟩) = [] := by
  simp [held, h, Lease.of]

theorem Vacated.settles {m vacated : SessionManager} {gone : List Heard}
    (h : Vacated m gone (some vacated)) (hserved : Served m) :
    (replies gone).foldl settle (held m) = [] := by
  cases h with
  | quiet hnone =>
    have hactive : m.active = none := by
      rcases hnone with hactive | hconn
      · exact hactive
      · simpa [Served, hconn] using hserved
    simp [held, hactive, replies]
  | told hactive hconn => exact filter_held hactive

/-- Opening a session leaves its lease and no other, or none. -/
theorem Reopened.accounts {m m' : SessionManager} {heard : List Heard}
    {result : Except SetupFault Session} (h : Reopened m heard (some (result, m')))
    (hserved : Served m) : Accounts m (replies heard) m' := by
  cases h with
  | @tried gone later vacated _ hgone hlater hfailed =>
    have hvacated := hgone.settles hserved
    cases hlater with
    | failed hheard hout =>
      have hactive : m'.active = none := by
        cases result with
        | error fault => exact hfailed fault m' rfl
        | ok session => exact absurd rfl (hout session m')
      refine ⟨by simp [Served, hactive], fun _ => ?_⟩
      rw [replies_append, List.foldl_append, hvacated, settle_preparing hheard, held, hactive]
      rfl
    | @leased earlier pool conn lease hearlier hpool =>
      refine ⟨fun _ => rfl, fun _ => ?_⟩
      rw [replies_append, List.foldl_append, hvacated, replies_append, List.foldl_append,
        settle_preparing hearlier]
      rfl

theorem accounts_refresh {m : SessionManager} {live : Session} (hactive : m.active = some live)
    (hserved : Served m) :
    (m.refresh live).Traces fun exchanges out =>
      Accounts m (exchanges.filterMap sourced?) out.2 := by
  rintro (fault | conn)
  · exact ⟨hserved, fun _ => rfl⟩
  · rintro (fault | renewed)
    · exact ⟨hserved, fun _ => rfl⟩
    · refine ⟨fun _ => rfl, fun hkept => ?_⟩
      have hid : renewed.sessionId = live.sessionId := by
        simpa [sourced?, keepsId] using hkept
      simp [held, hactive, sourced?, settle, Lease.of, hid]

theorem accounts_close {m : SessionManager} {live : Session} (hactive : m.active = some live)
    (hserved : Served m) :
    (m.close live).Traces fun exchanges out => Accounts m (exchanges.filterMap sourced?) out.2 := by
  rw [close_active hactive]
  cases hconn : m.conn with
  | none => simp [Served, hactive, hconn] at hserved
  | some conn =>
    intro answer
    exact ⟨by simp [Served], fun _ => filter_held hactive⟩

/-- A call leaves the lease of the live session and no other. -/
theorem accounts_errand {m : SessionManager} (hserved : Served m) (e : Errand) :
    (errand m e).Traces fun exchanges m' => Accounts m (exchanges.filterMap sourced?) m' := by
  cases e with
  | openSession =>
    refine (traces_reopen m).of_raced.bind_done fun exchanges out h => ⟨_, rfl, ?_⟩
    obtain ⟨result, m'⟩ := out
    rw [← replies_uncut]
    exact h.accounts hserved
  | refresh =>
    unfold errand
    cases hactive : m.active with
    | none => exact .refl hserved
    | some live => exact (accounts_refresh hactive hserved).bind_done fun _ _ h => ⟨_, rfl, h⟩
  | close =>
    unfold errand
    cases hactive : m.active with
    | none => exact .refl hserved
    | some live => exact (accounts_close hactive hserved).bind_done fun _ _ h => ⟨_, rfl, h⟩

/-- So does any sequence of calls. -/
theorem accounts_errands {m : SessionManager} (hserved : Served m) (calls : List Errand) :
    (errands m calls).Traces fun exchanges m' => Accounts m (exchanges.filterMap sourced?) m' := by
  induction calls generalizing m with
  | nil => exact .refl hserved
  | cons e calls ih =>
    refine (accounts_errand hserved e).bind fun exchanges m' haccounts => ?_
    refine (ih haccounts.served).imp fun later m'' hlater => ?_
    rw [List.filterMap_append]
    exact haccounts.append hlater

/-- The live session is given back. -/
theorem Vacated.of_active {m : SessionManager} {prior : Session} {gone : List Heard}
    {out : Option SessionManager} (h : Vacated m gone out) (hactive : m.active = some prior)
    (hserved : Served m) : ∃ conn answer,
      gone = [⟨.raced (.source (.deleteMessageSession conn prior.poolId prior.sessionId)),
        answer⟩] := by
  cases h with
  | quiet hnone =>
    have hconn : m.conn.isSome := hserved (by simp [hactive])
    rcases hnone with hnone | hnone
    · simp [hactive] at hnone
    · simp [hnone] at hconn
  | told hactive' =>
    obtain rfl := Option.some.inj (hactive'.symm.trans hactive)
    exact ⟨_, _, rfl⟩
  | cut hactive' =>
    obtain rfl := Option.some.inj (hactive'.symm.trans hactive)
    exact ⟨_, _, rfl⟩

/-- It is given back before anything else is asked. -/
theorem Reopened.of_active {m : SessionManager} {prior : Session} {heard : List Heard}
    {out : Option (Except SetupFault Session × SessionManager)} (h : Reopened m heard out)
    (hactive : m.active = some prior) (hserved : Served m) : ∃ conn answer later,
      heard = ⟨.raced (.source (.deleteMessageSession conn prior.poolId prior.sessionId)),
        answer⟩ :: later := by
  cases h with
  | cut hgone =>
    obtain ⟨conn, answer, rfl⟩ := hgone.of_active hactive hserved
    exact ⟨conn, answer, [], rfl⟩
  | @tried gone later vacated _ hgone =>
    obtain ⟨conn, answer, rfl⟩ := hgone.of_active hactive hserved
    exact ⟨conn, answer, later, rfl⟩

theorem traces_openSession_first {m : SessionManager} {prior : Session}
    (hactive : m.active = some prior) (hserved : Served m) :
    m.openSession.Traces fun exchanges _ => ∃ conn x later, exchanges = x :: later ∧
      x.call = .source (.deleteMessageSession conn prior.poolId prior.sessionId) := by
  refine (traces_reopen m).of_raced.imp fun exchanges out h => ?_
  obtain ⟨conn, answer, later, hheard⟩ := h.of_active hactive hserved
  obtain ⟨x, rest, rfl, hx, -⟩ := List.map_eq_cons_iff.mp hheard
  have hcall := congrArg Exchange.call hx
  exact ⟨conn, x, rest, rfl, Interface.Raced.raced.inj hcall⟩

/-! ## A run that may not be the first -/

/-- What becomes of a session that was opened: its queue is polled, and it is given
back. -/
def attend (turns : Nat) (cursor : Int64) :
    Option (Except SetupFault Session × SessionManager) →
      ListenerDialogue (Except SetupFault Int64)
  | none => .done (.ok cursor)
  | some (.error fault, _) => .done (.error fault)
  | some (.ok session, manager) =>
    (poll turns ⟨manager, session, cursor⟩).bind fun l =>
      l.release.steady.bind fun l => .done (.ok l.cursor)

/-- A run of a listener that has run before: it goes on with the manager and the cursor
it has. -/
def resume (m : SessionManager) (cursor : Int64) (turns : Nat) :
    ListenerDialogue (Except SetupFault Int64) := m.openSession.raced.bind (attend turns cursor)

theorem run_eq_resume (config : SessionConfig) (turns : Nat) :
    run config turns = resume (.new config) 0 turns := by
  unfold run resume
  refine congrArg _ (funext fun out => ?_)
  rcases out with _ | ⟨fault | session, manager⟩ <;> rfl

theorem resume_exchanges (m : SessionManager) (cursor : Int64) (turns : Nat) {σ : Type}
    (env : Surroundings SessionNeed.interface.withSignal σ) (s : σ) :
    let setup := m.openSession.raced.run env s
    ((resume m cursor turns).run env s).exchanges =
      setup.exchanges ++ ((attend turns cursor setup.result).run env setup.state).exchanges := by
  unfold resume
  rw [Dialogue.run_bind]

/-- The lease that a question gives back. -/
def released? (x : Heard) : Option Lease :=
  match call? x.call with
  | some (.deleteMessageSession _ poolId sessionId) => some ⟨poolId, sessionId⟩
  | _ => none

/-- Neither a poll nor a release. -/
def Aside (x : Heard) : Prop := polledFrom? x = none ∧ released? x = none

theorem Preparing.aside {x : Heard} (h : Preparing x) : Aside x := by
  cases h <;> exact ⟨rfl, rfl⟩

section

variable {m : SessionManager} {heard : List Heard}
  {out : Option (Except SetupFault Session × SessionManager)}

theorem Opened.aside (h : Opened m.config heard out) : ∀ x ∈ heard, Aside x := by
  cases h with
  | failed hheard => exact fun x hx => (hheard x hx).aside
  | leased conn lease hearlier =>
    exact List.forall_mem_append.mpr
      ⟨fun x hx => (hearlier x hx).aside, List.forall_mem_singleton.mpr ⟨rfl, rfl⟩⟩

theorem Vacated.unpolled {out : Option SessionManager} (h : Vacated m heard out) :
    ∀ x ∈ heard, polledFrom? x = none := by
  cases h with
  | quiet => exact List.forall_mem_nil _
  | told => exact List.forall_mem_singleton.mpr rfl
  | cut => exact List.forall_mem_singleton.mpr rfl

theorem Vacated.eq_nil {out : Option SessionManager} (h : Vacated m heard out)
    (hnone : m.active = none) : heard = [] := by
  cases h with
  | quiet => rfl
  | told hactive => simp [hnone] at hactive
  | cut hactive => simp [hnone] at hactive

theorem Reopened.unpolled (h : Reopened m heard out) : ∀ x ∈ heard, polledFrom? x = none := by
  cases h with
  | cut hgone => exact hgone.unpolled
  | tried hgone hlater =>
    exact List.forall_mem_append.mpr ⟨hgone.unpolled, fun x hx => (hlater.aside x hx).1⟩

/-- Without a live session there is nothing to give back. -/
theorem Reopened.unreleased (h : Reopened m heard out) (hnone : m.active = none) :
    ∀ x ∈ heard, released? x = none := by
  cases h with
  | cut hgone => simp [hgone.eq_nil hnone]
  | tried hgone hlater =>
    obtain rfl := hgone.eq_nil hnone
    exact fun x hx => (hlater.aside x hx).2

end

/-- A listener polls with the lease that was granted last, and can give it back. -/
structure Leasing (l : Listener) (before : List Heard) (lease : Session) (pool : RunnerPool) :
    Prop extends Holds l before lease pool where
  active_eq : l.manager.active = some l.session
  served : l.manager.conn.isSome

theorem Reopened.leasing {m manager : SessionManager} {session : Session} {heard : List Heard}
    (h : Reopened m heard (some (.ok session, manager))) (cursor : Int64) :
    ∃ lease pool, Leasing ⟨manager, session, cursor⟩ heard lease pool := by
  cases h with
  | tried hgone hlater =>
    cases hlater with
    | failed _ hout => exact absurd rfl (hout session manager)
    | @leased earlier pool conn lease hearlier hpool =>
      refine ⟨lease, pool, ⟨?_, ?_, rfl⟩, rfl, rfl⟩
      · rw [lease?_append, lease?_append]
        rfl
      · rw [pool?_append, pool?_append, hpool]
        rfl

section

variable {l l' : Listener} {before work later : List Heard} {lease : Session} {pool : RunnerPool}

theorem Leasing.append (h : Leasing l before lease pool) (hlease : lease? work = none)
    (hpool : pool? work = none) : Leasing l (before ++ work) lease pool :=
  ⟨h.toHolds.append hlease hpool, h.active_eq, h.served⟩

theorem unreleased_acted {news : News} (h : Acted l news work) :
    ∀ x ∈ work, released? x = none := by
  cases h <;> simp [released?, call?, askSource, Heard.source, Heard.clock, Heard.tell]

/-- Taking a message leaves the manager and the session alone. -/
theorem taken_untouched {raw : QueueMessage} (h : Taken l raw work l') :
    l'.manager = l.manager ∧ l'.session = l.session ∧ ∀ x ∈ work, released? x = none := by
  cases h with
  | seen => exact ⟨rfl, rfl, List.forall_mem_singleton.mpr rfl⟩
  | malformed => exact ⟨rfl, rfl, List.forall_mem_singleton.mpr rfl⟩
  | dispatched _ _ hacted =>
    exact ⟨rfl, rfl, List.forall_mem_cons.mpr ⟨rfl, unreleased_acted hacted⟩⟩

theorem renewed_untouched (h : Renewed l work l') :
    (l.manager.active = some l.session → l'.manager.active = some l'.session) ∧
      (l.manager.conn.isSome → l'.manager.conn.isSome) ∧ ∀ x ∈ work, released? x = none := by
  cases h with
  | unserved => exact ⟨id, id, List.forall_mem_singleton.mpr rfl⟩
  | refused =>
    exact ⟨id, id, List.forall_mem_cons.mpr ⟨rfl, List.forall_mem_singleton.mpr rfl⟩⟩
  | leased =>
    exact ⟨fun _ => rfl, fun _ => rfl,
      List.forall_mem_cons.mpr ⟨rfl, List.forall_mem_singleton.mpr rfl⟩⟩

/-- A turn gives no lease back, and the lease that was granted last is the one to poll
with. -/
theorem leasing_answered {answer : Sourced (Option QueueMessage)}
    (h : Leasing l before lease pool) (hanswered : Answered l answer work l') :
    (∃ lease', Leasing l' (before ++ .poll l (some answer) :: work) lease' pool) ∧
      ∀ x ∈ work, released? x = none := by
  rw [List.append_cons]
  cases hanswered with
  | @message raw _ _ htaken =>
    have hpolled : Leasing l (before ++ [.poll l (some (.ok (some raw)))]) lease pool :=
      h.append rfl rfl
    obtain ⟨-, hidle, -⟩ := orderly_taken hpolled.toHolds htaken
    obtain ⟨hmanager, hsession, hreleased⟩ := taken_untouched htaken
    have hheld := (hpolled.toHolds.append hidle.lease_eq hidle.pool_eq).of_session hsession
    refine ⟨⟨lease, hheld, ?_, ?_⟩, hreleased⟩
    · rw [hmanager, hsession, h.active_eq]
    · rw [hmanager, h.served]
  | quiet =>
    rw [List.append_nil]
    exact ⟨⟨lease, h.append rfl rfl⟩, List.forall_mem_nil _⟩
  | @expired fault _ _ hkind hrenewed =>
    have hpolled : Leasing l (before ++ [.poll l (some (.error fault))]) lease pool :=
      h.append rfl rfl
    have hexpired : isExpired (.poll l (some (.error fault))) = true := decide_eq_true hkind
    obtain ⟨-, ⟨lease', hholds⟩, -⟩ := orderly_renewed hexpired hpolled.toHolds hrenewed
    obtain ⟨hactive, hserved, hreleased⟩ := renewed_untouched hrenewed
    exact ⟨⟨lease', hholds, hactive h.active_eq, hserved h.served⟩, hreleased⟩
  | failed =>
    rw [List.append_nil]
    exact ⟨⟨lease, h.append rfl rfl⟩, List.forall_mem_nil _⟩

/-- Neither does polling. -/
theorem leasing_polled (hpolled : Polled l work l') (h : Leasing l before lease pool) :
    (∃ lease', Leasing l' (before ++ work) lease' pool) ∧ ∀ x ∈ work, released? x = none := by
  induction hpolled generalizing before lease with
  | limit => exact ⟨⟨lease, h.append rfl rfl⟩, List.forall_mem_nil _⟩
  | stopped => exact ⟨⟨lease, h.append rfl rfl⟩, List.forall_mem_singleton.mpr rfl⟩
  | cut =>
    exact ⟨⟨lease, h.append rfl rfl⟩,
      List.forall_mem_cons.mpr ⟨rfl, List.forall_mem_singleton.mpr rfl⟩⟩
  | @turn l l' l'' answer work later hanswered _ ih =>
    have hsignal : Leasing l (before ++ [.signal false]) lease pool := h.append rfl rfl
    obtain ⟨⟨lease', hturn⟩, hreleased⟩ := leasing_answered hsignal hanswered
    obtain ⟨⟨lease'', hend⟩, hreleased'⟩ := ih hturn
    refine ⟨⟨lease'', ?_⟩, ?_⟩
    · simpa only [List.append_assoc, List.cons_append, List.nil_append] using hend
    · exact List.forall_mem_cons.mpr ⟨rfl, List.forall_mem_append.mpr
        ⟨List.forall_mem_cons.mpr ⟨rfl, hreleased⟩, hreleased'⟩⟩

/-- A listener that can give its lease back does, under the pool that was registered. -/
theorem Leasing.release (h : Leasing l before lease pool) (hreleased : Released l later) :
    ∃ conn answer,
      later = [.source (.deleteMessageSession conn pool.id lease.sessionId) answer] := by
  cases hreleased with
  | quiet hnone =>
    rcases hnone with hnone | hnone
    · simp [h.active_eq] at hnone
    · have hserved := h.served
      simp [hnone] at hserved
  | @told conn session answer hactive hconn =>
    have hsession : session = { lease with poolId := pool.id } := by
      rw [← h.session_eq]
      exact Option.some.inj (hactive.symm.trans h.active_eq)
    rw [hsession]
    exact ⟨conn, answer, rfl⟩

end

theorem traces_attend (turns : Nat) (cursor : Int64) (session : Session)
    (manager : SessionManager) :
    (attend turns cursor (some (.ok session, manager))).Traces fun heard _ =>
      ∃ work l later, heard = work ++ later ∧ Polled ⟨manager, session, cursor⟩ work l ∧
        Released l later := by
  refine (traces_poll turns ⟨manager, session, cursor⟩).bind fun work l hpolled => ?_
  exact (traces_release l).bind_done fun later l' ⟨hreleased, _⟩ =>
    ⟨_, rfl, work, l, later, rfl, hpolled, hreleased⟩

theorem attend_eq_done {out : Option (Except SetupFault Session × SessionManager)} (turns : Nat)
    (cursor : Int64) (hout : ∀ session manager, out ≠ some (.ok session, manager)) :
    ∃ result, attend turns cursor out = .done result := by
  rcases out with _ | ⟨fault | session, manager⟩
  · exact ⟨_, rfl⟩
  · exact ⟨_, rfl⟩
  · exact absurd rfl (hout session manager)

/-- At most one lease is outstanding, and it is given back.

However a manager is called, and whatever the source answers, the lease of the live
session is the only one that was granted and not given back, as long as leases keep their
names when they are issued anew; and another is only asked for after it was given back.

And of every run, be it the first or not:

* no poll comes before there is a session;
* once there is one, a single lease is given back, last of all: the one that was granted
  last, new or anew, under the pool that was registered for the session;
* if none can be opened that is the end, and nothing is given back unless there was a
  session before. -/
theorem leases_are_given_back :
    (∀ (config : SessionConfig) (calls : List Errand) {σ : Type}
      (env : Surroundings SessionNeed.interface σ) (s : σ),
      let out := (errands (.new config) calls).run env s
      let replies := out.exchanges.filterMap sourced?
      ((∀ reply ∈ replies, keepsId reply = true) →
        outstanding replies = out.result.active.toList.map Lease.of) ∧
      ∀ prior, out.result.active = some prior → ∃ conn x later,
        (out.result.openSession.run env out.state).exchanges = x :: later ∧
        x.call = .source (.deleteMessageSession conn prior.poolId prior.sessionId)) ∧
    (∀ (config : SessionConfig) (turns : Nat), run config turns = resume (.new config) 0 turns) ∧
    ∀ (m : SessionManager) (cursor : Int64) (turns : Nat) {σ : Type}
      (env : Surroundings SessionNeed.interface.withSignal σ) (s : σ),
      let setup := m.openSession.raced.run env s
      let heard := ((resume m cursor turns).run env s).exchanges
      (∀ x ∈ setup.exchanges, polledFrom? x = none) ∧
      (∀ session manager, setup.result = some (.ok session, manager) →
        ∃ work conn lease pool answer,
          heard = setup.exchanges ++ work ++
            [Heard.source (.deleteMessageSession conn pool.id lease.sessionId) answer] ∧
          (∀ x ∈ work, released? x = none) ∧ lease? heard = some lease ∧
          pool? setup.exchanges = some pool) ∧
      ((∀ session manager, setup.result ≠ some (.ok session, manager)) →
        heard = setup.exchanges ∧
        (m.active = none → ∀ x ∈ heard, released? x = none)) := by
  refine ⟨?_, run_eq_resume, ?_⟩
  · intro config calls σ env s out replies
    have hserved : Served (.new config) := by simp [Served, SessionManager.new]
    have haccounts : Accounts (.new config) replies out.result :=
      (accounts_errands hserved calls).run env s
    refine ⟨haccounts.settled, fun prior hactive => ?_⟩
    exact (traces_openSession_first hactive haccounts.served).run env out.state
  · intro m cursor turns σ env s setup heard
    have hreopened : Reopened m setup.exchanges setup.result := (traces_reopen m).run env s
    have hheard : heard = setup.exchanges ++
        ((attend turns cursor setup.result).run env setup.state).exchanges :=
      resume_exchanges m cursor turns env s
    refine ⟨hreopened.unpolled, ?_, ?_⟩
    · intro session manager hresult
      rw [hresult] at hreopened hheard
      obtain ⟨lease, pool, hleasing⟩ := hreopened.leasing cursor
      obtain ⟨work, l, later, hlater, hpolled, hreleased⟩ :=
        (traces_attend turns cursor session manager).run env setup.state
      obtain ⟨⟨lease', hheld⟩, hunreleased⟩ := leasing_polled hpolled hleasing
      obtain ⟨conn, answer, rfl⟩ := hheld.release hreleased
      rw [hlater, ← List.append_assoc] at hheard
      refine ⟨work, conn, lease', pool, answer, hheard, hunreleased, ?_, hleasing.pool_eq⟩
      rw [hheard, lease?_append, hheld.lease_eq]
      rfl
    · intro hfailed
      obtain ⟨result, hdone⟩ := attend_eq_done turns cursor hfailed
      rw [hdone, Dialogue.run_done, List.append_nil] at hheard
      rw [hheard]
      exact ⟨rfl, hreopened.unreleased⟩

/-- The surroundings that a source makes for a manager at a time that stands still. -/
def stillManaged (source : (call : SessionCall) → Sourced call.Value) :
    Surroundings SessionNeed.interface Unit := fun s need => (stillAnswer source need, s)

/-- A source that nobody can reach. -/
def unreachable (call : SessionCall) : Sourced call.Value := .error (.http true)

/-- The lease of the live session after a refresh. -/
def acmeRenewed : Session := ⟨3, "s", "o", "https://queue2", "qt2", none⟩

/-- The session of the first lease. -/
def acmeFirst : Session := ⟨3, "s", "o", "https://queue", "qt", none⟩

theorem leases_are_given_back_acme :
    (let out := (errands (.new acmeSession) [.openSession, .openSession, .refresh]).run
        (stillManaged grudging) ()
      let replies := out.exchanges.filterMap sourced?
      (∀ reply ∈ replies, keepsId reply = true) ∧ out.result.active = some acmeRenewed ∧
      outstanding replies = [⟨3, "s"⟩] ∧
      ∃ conn x later, (out.result.openSession.run (stillManaged grudging) out.state).exchanges =
        x :: later ∧ x.call = .source (.deleteMessageSession conn 3 "s")) ∧
    (∃ manager,
      ((SessionManager.new acmeSession).openSession.raced.run (still grudging) ()).result =
        some (.ok acmeFirst, manager)) ∧
    (∃ earlier conn poolId sessionId answer,
      ((run acmeSession 2).run (still grudging) ()).exchanges =
        earlier ++ [Heard.source (.deleteMessageSession conn poolId sessionId) answer]) ∧
    ((SessionManager.new acmeSession).openSession.raced.run (still unreachable) ()).result.any
        (fun out => !out.1.isOk) ∧
      ∀ x ∈ ((run acmeSession 2).run (still unreachable) ()).exchanges, released? x = none := by
  obtain ⟨hcalls, hrun, hruns⟩ := leases_are_given_back
  obtain ⟨hsettled, hfirst⟩ := hcalls acmeSession [.openSession, .openSession, .refresh]
    (stillManaged grudging) ()
  have hkept : ∀ reply ∈ ((errands (.new acmeSession) [.openSession, .openSession, .refresh]).run
      (stillManaged grudging) ()).exchanges.filterMap sourced?, keepsId reply = true := by
    decide +kernel
  have hactive : ((errands (.new acmeSession) [.openSession, .openSession, .refresh]).run
      (stillManaged grudging) ()).result.active = some acmeRenewed := by
    decide +kernel
  have hopened : ∃ manager,
      ((SessionManager.new acmeSession).openSession.raced.run (still grudging) ()).result =
        some (.ok acmeFirst, manager) :=
    ⟨⟨acmeSession, some ⟨"https://admin", "a"⟩, some { RunnerPool.canonical "ci" with id := 3 },
      some acmeFirst⟩, by decide +kernel⟩
  have hfailed :
      ((SessionManager.new acmeSession).openSession.raced.run (still unreachable) ()).result =
        some (.error ⟨.adminHandshake, .http true⟩, .new acmeSession) := by
    decide +kernel
  obtain ⟨-, hserved, -⟩ := hruns (.new acmeSession) 0 2 (still grudging) ()
  obtain ⟨-, -, hunserved⟩ := hruns (.new acmeSession) 0 2 (still unreachable) ()
  refine ⟨⟨hkept, hactive, ?_, hfirst acmeRenewed hactive⟩, hopened, ?_, ?_, ?_⟩
  · rw [hsettled hkept, hactive]
    rfl
  · obtain ⟨manager, hresult⟩ := hopened
    obtain ⟨work, conn, lease, pool, answer, hheard, -⟩ := hserved acmeFirst manager hresult
    rw [hrun, hheard]
    exact ⟨_, conn, pool.id, lease.sessionId, answer, rfl⟩
  · rw [hfailed]
    rfl
  · rw [hrun]
    refine (hunserved ?_).2 rfl
    simp [hfailed]

end PoolScaler.Listener
