import PoolScaler.Proofs.Listener.Renewal
set_option autoImplicit false

/-!
# Jobs are claimed once

A listener claims the waiting jobs that a new message tells of once, whatever the claim
is answered.  A claim that the queue refused because its token has lapsed is not made
again, be the lease issued anew or not, so its jobs are never reserved.
-/

namespace PoolScaler.Listener

/-! ## Claims and offers -/

/-- The jobs that a question claims. -/
def claimed? (x : Heard) : Option (List RequestId) :=
  match call? x.call with
  | some (.acquireJobs _ _ _ ids) => some ids
  | _ => none

/-- The jobs that were granted to a claim. -/
def granted? (x : Heard) : Option (List RequestId) :=
  match reply? x with
  | some ⟨.acquireJobs _ _ _ _, .ok ids⟩ => some ids
  | _ => none

/-- The jobs that the keeper of the pool was told to reserve for. -/
def reserved? (x : Heard) : Option (List RequestId) :=
  match x.call with
  | .steady (.tell (.reserve ids _)) => some ids
  | _ => none

/-- The waiting jobs that a message tells of, if there are any. -/
def waiting? (raw : QueueMessage) : Option (List RequestId) :=
  match Message.parse raw with
  | .ok ⟨_, .available ids⟩ => if ids = [] then none else some ids
  | _ => none

/-- The waiting jobs that messages tell of whose ids are above a cursor and above all
ids before them. -/
def offers (cursor : Int64) : List QueueMessage → List (List RequestId)
  | [] => []
  | raw :: rest =>
    if cursor < raw.id then (waiting? raw).toList ++ offers raw.id rest else offers cursor rest

/-- The claims that were made in some exchanges; what was granted to them is reserved. -/
structure Settles (heard : List Heard) (claims : List (List RequestId)) : Prop where
  claimed_eq : heard.filterMap claimed? = claims
  reserved_eq : heard.filterMap reserved? = heard.filterMap granted?

theorem Settles.append {heard later : List Heard} {claims claims' : List (List RequestId)}
    (h : Settles heard claims) (h' : Settles later claims') :
    Settles (heard ++ later) (claims ++ claims') := by
  constructor
  · rw [List.filterMap_append, h.claimed_eq, h'.claimed_eq]
  · rw [List.filterMap_append, List.filterMap_append, h.reserved_eq, h'.reserved_eq]

theorem settles_acted {l : Listener} {message : Message} {raw : QueueMessage} {work : List Heard}
    (hparse : Message.parse raw = .ok message) (hconn : l.manager.conn.isSome)
    (h : Acted l message.news work) : Settles work (waiting? raw).toList := by
  obtain ⟨id, news⟩ := message
  unfold waiting?
  rw [hparse]
  cases h with
  | unserved hnone =>
    rw [hnone] at hconn
    cases hconn
  | idle => exact ⟨rfl, rfl⟩
  | refused _ hids =>
    dsimp only
    rw [if_neg hids]
    exact ⟨rfl, rfl⟩
  | granted _ hids =>
    dsimp only
    rw [if_neg hids]
    exact ⟨rfl, rfl⟩
  | assigned => exact ⟨rfl, rfl⟩
  | foreign => exact ⟨rfl, rfl⟩
  | completed => exact ⟨rfl, rfl⟩
  | unknown => exact ⟨rfl, rfl⟩

theorem offers_append (cursor : Int64) (earlier later : List QueueMessage) :
    offers cursor (earlier ++ later) = offers cursor earlier ++
      offers (earlier.foldl (fun most raw => max most raw.id) cursor) later := by
  induction earlier generalizing cursor with
  | nil => rfl
  | cons raw earlier ih =>
    rw [List.cons_append, offers, offers, List.foldl_cons]
    by_cases hnew : cursor < raw.id
    · rw [if_pos hnew, if_pos hnew, ih, max_eq_of_lt hnew, List.append_assoc]
    · rw [if_neg hnew, if_neg hnew, ih, max_eq_of_le (Int64.not_lt.mp hnew)]

/-! ## While the queue is polled -/

/-- On its way from `l` to `l'` a listener claims what the messages offer, and its cursor
keeps up with them. -/
structure Claiming (l : Listener) (work : List Heard) (l' : Listener) : Prop where
  settles : Settles work (offers l.cursor (messages work))
  cursor_eq : l'.cursor = (messages work).foldl (fun most raw => max most raw.id) l.cursor
  served : l'.manager.conn.isSome

section

variable {l l' l'' : Listener} {raw : QueueMessage} {work later : List Heard}

theorem Claiming.append (h : Claiming l work l') (h' : Claiming l' later l'') :
    Claiming l (work ++ later) l'' := by
  constructor
  · rw [messages_append, offers_append, ← h.cursor_eq]
    exact h.settles.append h'.settles
  · rw [messages_append, List.foldl_append, ← h.cursor_eq, h'.cursor_eq]
  · exact h'.served

/-- Nothing is claimed while no message comes. -/
theorem Claiming.idle (hserved : l'.manager.conn.isSome) (hcursor : l'.cursor = l.cursor)
    (hmessages : messages work = []) (hsettles : Settles work []) : Claiming l work l' := by
  constructor
  · rw [hmessages]
    exact hsettles
  · rw [hmessages]
    exact hcursor
  · exact hserved

theorem messages_acted {news : News} (h : Acted l news work) : messages work = [] := by
  cases h <;> rfl

/-- A message is claimed for if its id is above the cursor, and only then. -/
theorem claiming_taken (hserved : l.manager.conn.isSome) (h : Taken l raw work l') :
    Claiming l (.poll l (some (.ok (some raw))) :: work) l' := by
  cases h with
  | seen hseen =>
    have hoffers : offers l.cursor [raw] = [] := by
      rw [offers, if_neg (Int64.not_lt.mpr hseen)]
      rfl
    refine ⟨?_, (max_eq_of_le hseen).symm, hserved⟩
    change Settles _ (offers l.cursor [raw])
    rw [hoffers]
    exact ⟨rfl, rfl⟩
  | malformed hnew hparse =>
    have hoffers : offers l.cursor [raw] = [] := by
      rw [offers, if_pos hnew, waiting?, hparse]
      rfl
    refine ⟨?_, (max_eq_of_lt hnew).symm, hserved⟩
    change Settles _ (offers l.cursor [raw])
    rw [hoffers]
    exact ⟨rfl, rfl⟩
  | @dispatched answer message work hnew hparse hacted =>
    have hsilent : messages work = [] := messages_acted hacted
    have hmessages : messages (.poll l (some (.ok (some raw))) ::
        .source (.deleteMessage l.session.queueUrl l.session.queueToken raw.id) answer :: work) =
          [raw] := congrArg (raw :: ·) hsilent
    have hoffers : offers l.cursor [raw] = (waiting? raw).toList := by
      rw [offers, if_pos hnew, offers, List.append_nil]
    obtain ⟨hclaimed, hreserved⟩ := settles_acted hparse hserved hacted
    constructor
    · rw [hmessages, hoffers]
      exact ⟨hclaimed, hreserved⟩
    · rw [hmessages]
      exact (max_eq_of_lt hnew).symm
    · exact hserved

/-- Nothing is claimed while the lease is issued anew. -/
theorem claiming_renewed {fault : SourceFault} (hserved : l.manager.conn.isSome)
    (h : Renewed l work l') : Claiming l (.poll l (some (.error fault)) :: work) l' := by
  cases h with
  | unserved => exact .idle hserved rfl rfl ⟨rfl, rfl⟩
  | refused => exact .idle hserved rfl rfl ⟨rfl, rfl⟩
  | leased => exact .idle rfl rfl rfl ⟨rfl, rfl⟩

theorem claiming_answered {answer : Sourced (Option QueueMessage)}
    (hserved : l.manager.conn.isSome) (h : Answered l answer work l') :
    Claiming l (.poll l (some answer) :: work) l' := by
  cases h with
  | message htaken => exact claiming_taken hserved htaken
  | quiet => exact .idle hserved rfl rfl ⟨rfl, rfl⟩
  | expired _ hrenewed => exact claiming_renewed hserved hrenewed
  | failed => exact .idle hserved rfl rfl ⟨rfl, rfl⟩

/-- Polling claims what the messages offer. -/
theorem claiming_polled (h : Polled l work l') (hserved : l.manager.conn.isSome) :
    Claiming l work l' := by
  induction h with
  | limit => exact .idle hserved rfl rfl ⟨rfl, rfl⟩
  | stopped => exact .idle hserved rfl rfl ⟨rfl, rfl⟩
  | cut => exact .idle hserved rfl rfl ⟨rfl, rfl⟩
  | @turn l l' l'' answer work later hanswered _ ih =>
    -- The cursor that the turn leaves is the one that later offers are measured by.
    have hsignal : Claiming l [.signal false] l := .idle hserved rfl rfl ⟨rfl, rfl⟩
    have hturn := claiming_answered hserved hanswered
    exact hsignal.append (hturn.append (ih hturn.served))

end

/-! ## Whole runs -/

theorem Preparing.settles {x : Heard} (h : Preparing x) : Settles [x] [] := by
  cases h with
  | @service identity answer => rcases answer with _ | fault | conn <;> exact ⟨rfl, rfl⟩
  | @lookUp conn name answer => rcases answer with _ | fault | pool <;> exact ⟨rfl, rfl⟩
  | @create conn pool answer => rcases answer with _ | fault | pool <;> exact ⟨rfl, rfl⟩
  | @replace conn poolId pool answer => rcases answer with _ | fault | pool <;> exact ⟨rfl, rfl⟩
  | @refused conn poolId owner answer => rcases answer with _ | fault | lease <;> exact ⟨rfl, rfl⟩
  | wait => exact ⟨rfl, rfl⟩

/-- Nothing is claimed while a session is opened. -/
theorem settles_preparing {heard : List Heard} (hheard : ∀ x ∈ heard, Preparing x) :
    Settles heard [] := by
  induction heard with
  | nil => exact ⟨rfl, rfl⟩
  | cons x heard ih =>
    obtain ⟨hx, hheard⟩ := List.forall_mem_cons.mp hheard
    exact hx.settles.append (ih hheard)

/-- A run claims what its messages offer. -/
theorem settles_ran {config : SessionConfig} {heard : List Heard} {out : Except SetupFault Int64}
    (h : Ran config heard out) : Settles heard (offers 0 (messages heard)) := by
  have hnone : lease? [] = none := rfl
  cases h with
  | unopened hheard =>
    rw [(orderly_preparing hheard hnone).2]
    exact settles_preparing hheard
  | @polled heard work later session manager l hopened hpolled hreleased =>
    cases hopened with
    | failed _ hout => exact absurd rfl (hout session manager)
    | @leased earlier pool conn lease hearlier hpool =>
      obtain ⟨hpolling, -, -⟩ := claiming_polled hpolled rfl
      have hopening : Settles (earlier ++
          [⟨.raced (.source (.createMessageSession conn pool.id config.ownerName)),
            some (.ok lease)⟩]) [] := (settles_preparing hearlier).append ⟨rfl, rfl⟩
      have hrelease : Settles later [] ∧ messages later = [] := by
        cases hreleased with
        | quiet => exact ⟨⟨rfl, rfl⟩, rfl⟩
        | told => exact ⟨⟨rfl, rfl⟩, rfl⟩
      have hall := (hopening.append hpolling).append hrelease.1
      rw [List.append_nil, List.nil_append] at hall
      rw [messages_append, messages_append, messages_append, (orderly_preparing hearlier hnone).2,
        hrelease.2, List.append_nil]
      exact hall

/-- Whatever is answered, a listener claims the waiting jobs of every message whose id is
above all before it, in the order of the messages, and claims none of them again when a
claim is refused.  It reserves what its claims are granted, and nothing else. -/
theorem claims_are_made_once (config : SessionConfig) (turns : Nat) {σ : Type}
    (env : Surroundings SessionNeed.interface.withSignal σ) (s : σ) :
    let heard := ((run config turns).run env s).exchanges
    heard.filterMap claimed? = offers 0 (messages heard) ∧
      heard.filterMap reserved? = heard.filterMap granted? := by
  intro heard
  obtain ⟨hclaimed, hreserved⟩ := settles_ran ((traces_run config turns).run env s)
  exact ⟨hclaimed, hreserved⟩

/-- What the source did not do, and why. -/
def fault? (x : Heard) : Option SourceFault :=
  match reply? x with
  | some ⟨_, .error fault⟩ => some fault
  | _ => none

/-- A source whose first message tells of two waiting jobs.  It can be told to refuse
claims, and to refuse polls after that message, with the first queue token. -/
def lapsing (claims polls : Bool) : (call : SessionCall) → Sourced call.Value
  | .getMessage _ token cursor =>
    if cursor = 0 then
      .ok (some ⟨1, "RunnerScaleSetJobAvailable", "\x7b\"runnerRequestIds\": [1, 2]\x7d"⟩)
    else if polls ∧ token = "qt" then .error (.tokenExpired "lapsed") else .ok none
  | .acquireJobs _ _ token ids =>
    if claims ∧ token = "qt" then .error (.tokenExpired "lapsed") else .ok ids
  | call => grudging call

/-- Four turns over such a source. -/
def lapsingRun (claims polls : Bool) : List Heard :=
  ((run acmeSession 4).run (still (lapsing claims polls)) ()).exchanges

/-- A claim that meets a lapsed token is lost: nothing else fails and it is not made
again, nor is it once the lease has been issued anew.  Without the lapse its jobs are
reserved. -/
theorem claim_lost_to_lapse :
    ((lapsingRun true false).filterMap fault? = [.tokenExpired "lapsed"] ∧
      (lapsingRun true false).filterMap claimed? = [[1, 2]] ∧
      (lapsingRun true false).filterMap reserved? = []) ∧
    ((lapsingRun true true).filterMap fault? = [.tokenExpired "lapsed", .tokenExpired "lapsed"] ∧
      (lease? (lapsingRun true true)).map (·.queueToken) = some "qt2" ∧
      (lapsingRun true true).filterMap claimed? = [[1, 2]] ∧
      (lapsingRun true true).filterMap reserved? = []) ∧
    (lapsingRun false false).filterMap fault? = [] ∧
      (lapsingRun false false).filterMap claimed? = [[1, 2]] ∧
      (lapsingRun false false).filterMap reserved? = [[1, 2]] := by
  decide +kernel

end PoolScaler.Listener
