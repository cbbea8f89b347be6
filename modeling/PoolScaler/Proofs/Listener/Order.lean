import PoolScaler.Proofs.Listener.Course
set_option autoImplicit false

/-!
# The order of a listener's questions

Every question of a run has its place after what was heard before it: pools are only
registered before there is a lease, the queue is only asked with the lease that was
granted last and from the highest id that came, and a lease is only issued anew right
after a poll that the queue refused the token of.
-/

namespace PoolScaler.Listener

/-- The question to the source, if it is one. -/
def call? : Question → Option SessionCall
  | .steady (.source call) => some call
  | .raced (.source call) => some call
  | _ => none

/-- A poll that the queue refused the token of. -/
def isExpired : Heard → Bool
  | ⟨.raced (.source (.getMessage _ _ _)), some (.error fault)⟩ => fault.kind = .tokenExpired
  | _ => false

/-- The queue refused the token of a poll, and then the source told the service of the
scope. -/
def Lapsed (before : List Heard) (conn : AdminConnection) : Prop :=
  ∃ earlier poll identity,
    before = earlier ++ [poll, .source (.adminConnection identity) (.ok conn)] ∧
      isExpired poll = true

/-- A question to the source has its place after what was heard before it. -/
def Placed (before : List Heard) : SessionCall → Prop
  | .getRunnerPool _ _ | .createRunnerPool _ _ | .replaceRunnerPool _ _ _ => lease? before = none
  | .getMessage url token cursor =>
    ∃ lease, lease? before = some lease ∧ url = lease.queueUrl ∧ token = lease.queueToken ∧
      cursor = highestId before
  | .deleteMessage url token _ =>
    ∃ lease, lease? before = some lease ∧ url = lease.queueUrl ∧ token = lease.queueToken
  | .acquireJobs _ poolId token _ =>
    ∃ lease pool, lease? before = some lease ∧ pool? before = some pool ∧ poolId = pool.id ∧
      token = lease.queueToken
  | .refreshMessageSession conn poolId sessionId =>
    Lapsed before conn ∧ ∃ lease pool, lease? before = some lease ∧ pool? before = some pool ∧
      poolId = pool.id ∧ sessionId = lease.sessionId
  | .adminConnection _ | .createMessageSession _ _ _ | .deleteMessageSession _ _ _ => True

/-- Every question to the source has its place. -/
def Orderly : List Heard → List Heard → Prop
  | _, [] => True
  | before, x :: later =>
    (∀ call, call? x.call = some call → Placed before call) ∧ Orderly (before ++ [x]) later

theorem orderly_append {before work later : List Heard} :
    Orderly before (work ++ later) ↔ Orderly before work ∧ Orderly (before ++ work) later := by
  induction work generalizing before with
  | nil => simp [Orderly]
  | cons x work ih => simp [Orderly, ih, and_assoc]

theorem Orderly.silent {before : List Heard} {x : Heard} {later : List Heard}
    (hcall : call? x.call = none) (h : Orderly (before ++ [x]) later) :
    Orderly before (x :: later) := by
  refine ⟨fun call hasked => ?_, h⟩
  rw [hcall] at hasked
  cases hasked

theorem Orderly.asked {before : List Heard} {x : Heard} {later : List Heard} {call : SessionCall}
    (hcall : call? x.call = some call) (hplaced : Placed before call)
    (h : Orderly (before ++ [x]) later) : Orderly before (x :: later) := by
  refine ⟨fun other hasked => ?_, h⟩
  obtain rfl := Option.some.inj (hcall.symm.trans hasked)
  exact hplaced

/-! ## While a session is opened -/

theorem Preparing.bare {x : Heard} (h : Preparing x) : lease? [x] = none ∧ messages [x] = [] := by
  cases h with
  | @service identity answer => rcases answer with _ | fault | conn <;> exact ⟨rfl, rfl⟩
  | @lookUp conn name answer => rcases answer with _ | fault | pool <;> exact ⟨rfl, rfl⟩
  | @create conn pool answer => rcases answer with _ | fault | pool <;> exact ⟨rfl, rfl⟩
  | @replace conn poolId pool answer => rcases answer with _ | fault | pool <;> exact ⟨rfl, rfl⟩
  | @refused conn poolId owner answer hnone =>
    rcases answer with _ | fault | lease
    · exact ⟨rfl, rfl⟩
    · exact ⟨rfl, rfl⟩
    · exact absurd rfl (hnone lease)
  | wait => exact ⟨rfl, rfl⟩

theorem Preparing.placed {x : Heard} (h : Preparing x) {before : List Heard}
    (hbefore : lease? before = none) {call : SessionCall} (hcall : call? x.call = some call) :
    Placed before call := by
  cases h with
  | service => cases hcall; exact True.intro
  | lookUp => cases hcall; exact hbefore
  | create => cases hcall; exact hbefore
  | replace => cases hcall; exact hbefore
  | refused hnone => cases hcall; exact True.intro
  | wait => cases hcall

/-- Before there is a lease, anything may be asked that prepares for one. -/
theorem orderly_preparing {heard before : List Heard} (hheard : ∀ x ∈ heard, Preparing x)
    (hbefore : lease? before = none) : Orderly before heard ∧ messages heard = [] := by
  induction heard generalizing before with
  | nil => exact ⟨True.intro, rfl⟩
  | cons x heard ih =>
    obtain ⟨hx, hheard⟩ := List.forall_mem_cons.mp hheard
    obtain ⟨hlease, hmessages⟩ := hx.bare
    have hfirst : lease? (before ++ [x]) = none := by
      rw [lease?_append, hlease, hbefore]
      rfl
    obtain ⟨hrest, hsilent⟩ := ih hheard hfirst
    refine ⟨⟨fun call hcall => hx.placed hbefore hcall, hrest⟩, ?_⟩
    rw [← List.singleton_append, messages_append, hmessages, hsilent]
    rfl

/-! ## While the queue is polled -/

/-- A listener holds the lease that was granted last, under the pool that was
registered. -/
structure Holds (l : Listener) (before : List Heard) (lease : Session) (pool : RunnerPool) :
    Prop where
  lease_eq : lease? before = some lease
  pool_eq : pool? before = some pool
  session_eq : l.session = { lease with poolId := pool.id }

/-- No lease, no pool and no message was heard of. -/
structure Idle (work : List Heard) : Prop where
  lease_eq : lease? work = none
  pool_eq : pool? work = none
  messages_eq : messages work = []

section

variable {l l' : Listener} {before work later : List Heard} {lease : Session} {pool : RunnerPool}

theorem Holds.append (h : Holds l before lease pool) (hlease : lease? work = none)
    (hpool : pool? work = none) : Holds l (before ++ work) lease pool := by
  refine ⟨?_, ?_, h.session_eq⟩
  · rw [lease?_append, hlease, h.lease_eq]
    rfl
  · rw [pool?_append, hpool, h.pool_eq]
    rfl

theorem Idle.cons {x : Heard} (hx : Idle [x]) (h : Idle work) : Idle (x :: work) := by
  rw [← List.singleton_append]
  constructor
  · rw [lease?_append, hx.lease_eq, h.lease_eq]
    rfl
  · rw [pool?_append, hx.pool_eq, h.pool_eq]
    rfl
  · rw [messages_append, hx.messages_eq, h.messages_eq]
    rfl

theorem Holds.of_session (h : Holds l before lease pool) (hsession : l'.session = l.session) :
    Holds l' before lease pool := ⟨h.lease_eq, h.pool_eq, hsession.trans h.session_eq⟩

theorem highestId_append_of_messages (hmessages : messages work = []) :
    highestId (before ++ work) = highestId before := by
  unfold highestId
  rw [messages_append, hmessages, List.append_nil]

theorem Holds.placed_poll (h : Holds l before lease pool) (hcursor : l.cursor = highestId before) :
    Placed before (.getMessage l.session.queueUrl l.session.queueToken l.cursor) := by
  rw [h.session_eq]
  exact ⟨lease, h.lease_eq, rfl, rfl, hcursor⟩

theorem Holds.placed_acknowledge (h : Holds l before lease pool) (id : Int64) :
    Placed before (.deleteMessage l.session.queueUrl l.session.queueToken id) := by
  rw [h.session_eq]
  exact ⟨lease, h.lease_eq, rfl, rfl⟩

theorem Holds.placed_claim (h : Holds l before lease pool) (conn : AdminConnection)
    (ids : List RequestId) :
    Placed before (.acquireJobs conn l.session.poolId l.session.queueToken ids) := by
  rw [h.session_eq]
  exact ⟨lease, pool, h.lease_eq, h.pool_eq, rfl, rfl⟩

theorem Holds.placed_refresh (h : Holds l before lease pool) {conn : AdminConnection}
    (hlapsed : Lapsed before conn) :
    Placed before (.refreshMessageSession conn l.session.poolId l.session.sessionId) := by
  rw [h.session_eq]
  exact ⟨hlapsed, lease, pool, h.lease_eq, h.pool_eq, rfl, rfl⟩

/-- Acting on news is in order and changes nothing that is held. -/
theorem orderly_acted {news : News} (h : Holds l before lease pool) (hacted : Acted l news work) :
    Orderly before work ∧ Idle work := by
  cases hacted with
  | unserved => exact ⟨True.intro, rfl, rfl, rfl⟩
  | idle => exact ⟨True.intro, rfl, rfl, rfl⟩
  | refused => exact ⟨.asked rfl (h.placed_claim _ _) True.intro, rfl, rfl, rfl⟩
  | granted =>
    exact ⟨.asked rfl (h.placed_claim _ _) (.silent rfl (.silent rfl True.intro)), rfl, rfl, rfl⟩
  | assigned => exact ⟨.silent rfl True.intro, rfl, rfl, rfl⟩
  | foreign => exact ⟨True.intro, rfl, rfl, rfl⟩
  | completed => exact ⟨.silent rfl True.intro, rfl, rfl, rfl⟩
  | unknown => exact ⟨True.intro, rfl, rfl, rfl⟩

/-- So is taking a message, but for the cursor. -/
theorem orderly_taken {raw : QueueMessage} (h : Holds l before lease pool)
    (htaken : Taken l raw work l') :
    Orderly before work ∧ Idle work ∧ l'.session = l.session ∧ l'.cursor = max l.cursor raw.id := by
  cases htaken with
  | seen hseen =>
    refine ⟨.asked rfl (h.placed_acknowledge _) True.intro, ⟨rfl, rfl, rfl⟩, rfl, ?_⟩
    exact (max_eq_of_le hseen).symm
  | malformed hnew hparse =>
    refine ⟨.asked rfl (h.placed_acknowledge _) True.intro, ⟨rfl, rfl, rfl⟩, rfl, ?_⟩
    exact (max_eq_of_lt hnew).symm
  | @dispatched answer message work hnew hparse hacted =>
    have hacknowledged : Holds l (before ++ [.source
        (.deleteMessage l.session.queueUrl l.session.queueToken raw.id) answer]) lease pool :=
      h.append rfl rfl
    obtain ⟨horderly, hidle⟩ := orderly_acted hacknowledged hacted
    refine ⟨.asked rfl (h.placed_acknowledge _) horderly, .cons ⟨rfl, rfl, rfl⟩ hidle, rfl, ?_⟩
    exact (max_eq_of_lt hnew).symm

/-- Having the lease issued anew is in order after a poll that the queue refused the
token of. -/
theorem orderly_renewed {poll : Heard} (hexpired : isExpired poll = true)
    (h : Holds l (before ++ [poll]) lease pool) (hrenewed : Renewed l work l') :
    Orderly (before ++ [poll]) work ∧ (∃ lease', Holds l' (before ++ [poll] ++ work) lease' pool) ∧
      messages work = [] ∧ l'.cursor = l.cursor := by
  have hserved : ∀ conn, Holds l (before ++ [poll] ++
      [.source (.adminConnection l.manager.config.identity) (.ok conn)]) lease pool ∧
      Lapsed (before ++ [poll] ++
        [.source (.adminConnection l.manager.config.identity) (.ok conn)]) conn := fun conn =>
    ⟨h.append rfl rfl, before, poll, _, List.append_assoc .., hexpired⟩
  cases hrenewed with
  | unserved => exact ⟨.asked rfl True.intro True.intro, ⟨lease, h.append rfl rfl⟩, rfl, rfl⟩
  | @refused conn fault =>
    obtain ⟨hholds, hlapsed⟩ := hserved conn
    exact ⟨.asked rfl True.intro (.asked rfl (hholds.placed_refresh hlapsed) True.intro),
      ⟨lease, h.append rfl rfl⟩, rfl, rfl⟩
  | @leased conn lease' =>
    obtain ⟨hholds, hlapsed⟩ := hserved conn
    refine ⟨.asked rfl True.intro (.asked rfl (hholds.placed_refresh hlapsed) True.intro),
      ⟨lease', ?_, ?_, ?_⟩, rfl, rfl⟩
    · rw [lease?_append]
      rfl
    · rw [pool?_append, h.pool_eq]
      rfl
    · change l.renewedSession lease' = _
      rw [renewedSession, h.session_eq]

/-- A turn is in order, and the cursor goes on being the highest id. -/
theorem orderly_answered {answer : Sourced (Option QueueMessage)}
    (h : Holds l before lease pool) (hcursor : l.cursor = highestId before)
    (hanswered : Answered l answer work l') :
    Orderly before (.poll l (some answer) :: work) ∧
      (∃ lease', Holds l' (before ++ .poll l (some answer) :: work) lease' pool) ∧
      l'.cursor = highestId (before ++ .poll l (some answer) :: work) := by
  rw [List.append_cons]
  have hpoll : ∀ call, call? (Heard.poll l (some answer)).call = some call →
      Placed before call := by
    rintro _ ⟨⟩
    exact h.placed_poll hcursor
  cases hanswered with
  | @message raw _ _ htaken =>
    have hpolled : Holds l (before ++ [.poll l (some (.ok (some raw)))]) lease pool :=
      h.append rfl rfl
    obtain ⟨horderly, hidle, hsession, hraised⟩ := orderly_taken hpolled htaken
    refine ⟨⟨hpoll, horderly⟩, ⟨lease, ?_⟩, ?_⟩
    · exact (hpolled.append hidle.lease_eq hidle.pool_eq).of_session hsession
    · rw [highestId_append_of_messages hidle.messages_eq, hraised, hcursor, highestId, highestId,
        messages_append, List.foldl_append]
      rfl
  | quiet =>
    rw [List.append_nil]
    refine ⟨⟨hpoll, True.intro⟩, ⟨lease, h.append rfl rfl⟩, ?_⟩
    rw [highestId_append_of_messages rfl, hcursor]
  | @expired fault _ _ hkind hrenewed =>
    have hpolled : Holds l (before ++ [.poll l (some (.error fault))]) lease pool :=
      h.append rfl rfl
    have hexpired : isExpired (.poll l (some (.error fault))) = true := decide_eq_true hkind
    obtain ⟨horderly, hholds, hmessages, hsame⟩ := orderly_renewed hexpired hpolled hrenewed
    refine ⟨⟨hpoll, horderly⟩, hholds, ?_⟩
    rw [highestId_append_of_messages hmessages, highestId_append_of_messages rfl, hsame, hcursor]
  | failed hkind =>
    rw [List.append_nil]
    refine ⟨⟨hpoll, True.intro⟩, ⟨lease, h.append rfl rfl⟩, ?_⟩
    rw [highestId_append_of_messages rfl, hcursor]

/-- Polling is in order. -/
theorem orderly_polled (hpolled : Polled l work l') (h : Holds l before lease pool)
    (hcursor : l.cursor = highestId before) : Orderly before work := by
  induction hpolled generalizing before lease with
  | limit => exact True.intro
  | stopped => exact .silent rfl True.intro
  | cut =>
    have hsignal : Holds _ (before ++ [.signal false]) lease pool := h.append rfl rfl
    refine .silent rfl (.asked rfl (hsignal.placed_poll ?_) True.intro)
    rw [highestId_append_of_messages rfl, hcursor]
  | @turn l l' l'' answer work later hanswered _ ih =>
    have hsignal : Holds _ (before ++ [.signal false]) lease pool := h.append rfl rfl
    have hcursor' : l.cursor = highestId (before ++ [.signal false]) := by
      rw [highestId_append_of_messages rfl, hcursor]
    obtain ⟨hturn, ⟨lease', hholds⟩, hnext⟩ := orderly_answered hsignal hcursor' hanswered
    refine .silent rfl (orderly_append.mpr ⟨hturn, ih hholds hnext⟩)

end

/-- Every question of a run has its place after what was heard before it. -/
theorem orderly_ran {config : SessionConfig} {heard : List Heard} {out : Except SetupFault Int64}
    (h : Ran config heard out) : Orderly [] heard := by
  have hnone : lease? [] = none := rfl
  cases h with
  | unopened hheard => exact (orderly_preparing hheard hnone).1
  | @polled heard work later session manager l hopened hpolled hreleased =>
    cases hopened with
    | failed _ hout => exact absurd rfl (hout session manager)
    | @leased earlier pool conn lease hearlier hpool =>
      obtain ⟨hprepared, hsilent⟩ := orderly_preparing hearlier hnone
      have hholds : Holds ⟨⟨config, some conn, some pool, some { lease with poolId := pool.id }⟩,
          { lease with poolId := pool.id }, 0⟩
          (earlier ++ [⟨.raced (.source (.createMessageSession conn pool.id config.ownerName)),
            some (.ok lease)⟩]) lease pool := by
        refine ⟨?_, ?_, rfl⟩
        · rw [lease?_append]
          rfl
        · rw [pool?_append, hpool]
          rfl
      have hopening : Orderly [] (earlier ++
          [⟨.raced (.source (.createMessageSession conn pool.id config.ownerName)),
            some (.ok lease)⟩]) :=
        orderly_append.mpr ⟨hprepared, .asked rfl True.intro True.intro⟩
      have hcursor : 0 = highestId (earlier ++
          [⟨.raced (.source (.createMessageSession conn pool.id config.ownerName)),
            some (.ok lease)⟩]) := by
        rw [highestId_append_of_messages rfl, highestId, hsilent]
        rfl
      have hpolling := orderly_polled hpolled hholds hcursor
      refine orderly_append.mpr ⟨orderly_append.mpr ⟨hopening, hpolling⟩, ?_⟩
      cases hreleased with
      | quiet => exact True.intro
      | told => exact .asked rfl True.intro True.intro

theorem Orderly.placed {before : List Heard} {x : Heard} {after : List Heard} {call : SessionCall}
    (h : Orderly [] (before ++ x :: after)) (hcall : call? x.call = some call) :
    Placed before call :=
  (orderly_append.mp h).2.1 call hcall

/-! ## From one poll to the next -/

/-- The cursor that a question polls from. -/
def polledFrom? (x : Heard) : Option Int64 :=
  match call? x.call with
  | some (.getMessage _ _ cursor) => some cursor
  | _ => none

theorem call?_of_reply? {x : Heard} {reply : Reply} (h : reply? x = some reply) :
    call? x.call = some reply.1 := by
  unfold reply? at h
  split at h
  · cases h
    rfl
  · cases h
    rfl
  · cases h

theorem polled_of_messageOf? {reply : Reply} {raw : QueueMessage}
    (h : messageOf? reply = some raw) :
    ∃ url token cursor, reply.1 = .getMessage url token cursor := by
  obtain ⟨call, answer⟩ := reply
  cases call with
  | getMessage url token cursor => exact ⟨url, token, cursor, rfl⟩
  | _ =>
    have hnone : none = some raw := h
    cases hnone

/-- Messages come by polls only. -/
theorem messages_eq_nil {heard : List Heard} (h : ∀ x ∈ heard, polledFrom? x = none) :
    messages heard = [] := by
  unfold messages replies
  rw [List.filterMap_eq_nil_iff]
  intro reply hreply
  obtain ⟨x, hx, hreply⟩ := List.mem_filterMap.mp hreply
  cases hraw : messageOf? reply with
  | none => rfl
  | some raw =>
    obtain ⟨url, token, cursor, hcall⟩ := polled_of_messageOf? hraw
    have hpoll := h x hx
    rw [polledFrom?, call?_of_reply? hreply, hcall] at hpoll
    cases hpoll

theorem messages_of_isExpired {x : Heard} (h : isExpired x = true) : messages [x] = [] := by
  unfold isExpired at h
  split at h
  · rfl
  · cases h

theorem call?_of_polledFrom? {x : Heard} {cursor : Int64} (h : polledFrom? x = some cursor) :
    ∃ url token, call? x.call = some (.getMessage url token cursor) := by
  unfold polledFrom? at h
  split at h
  · rename_i url token _ hcall
    obtain rfl := Option.some.inj h
    exact ⟨url, token, hcall⟩
  · cases h

theorem Orderly.polledFrom {before : List Heard} {x : Heard} {after : List Heard} {cursor : Int64}
    (h : Orderly [] (before ++ x :: after)) (hpoll : polledFrom? x = some cursor) :
    cursor = highestId before := by
  obtain ⟨url, token, hcall⟩ := call?_of_polledFrom? hpoll
  obtain ⟨-, -, -, -, hcursor⟩ := h.placed hcall
  exact hcursor

/-- The poll after one that the queue refused the token of starts from the same cursor. -/
theorem Orderly.same_cursor {before : List Heard} {x : Heard} {middle : List Heard} {y : Heard}
    {after : List Heard} {cursor cursor' : Int64}
    (h : Orderly [] (before ++ x :: middle ++ y :: after)) (hexpired : isExpired x = true)
    (hpoll : polledFrom? x = some cursor) (hmiddle : ∀ z ∈ middle, polledFrom? z = none)
    (hpoll' : polledFrom? y = some cursor') : cursor' = cursor := by
  have hsilent : messages (x :: middle) = [] := by
    rw [← List.singleton_append, messages_append, messages_eq_nil hmiddle,
      messages_of_isExpired hexpired]
    rfl
  have hnext := h.polledFrom hpoll'
  rw [List.append_assoc, List.cons_append] at h
  rw [hnext, highestId_append_of_messages hsilent, h.polledFrom hpoll]

end PoolScaler.Listener
