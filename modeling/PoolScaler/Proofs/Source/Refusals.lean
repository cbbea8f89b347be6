import PoolScaler.Proofs.Source.Listing
import PoolScaler.Proofs.Text.Numeral
set_option autoImplicit false

/-!
# What a refusal tells

A client sends nothing after an answer that is no success, and what it then fails with
is told by that answer alone: by its status, two of its headers and its text, and by
whether it was the queue that was asked.  What goes wrong with other answers is never
told as one of these.
-/

namespace PoolScaler

namespace Client

open Dialogue (Traces)

-- Requests stay as they are drafted: a search for the form of a dialogue would otherwise put
-- them together.
attribute [local irreducible] Web.Draft.request?

/-! ## Answers that are no success -/

/-- An answer asks for fewer calls: it says so, or it refuses a call with no call left. -/
def Throttles (r : Web.Response) : Prop :=
  r.status = 429 ∨ r.status = 403 ∧ r.header? "x-ratelimit-remaining" = some "0"

/-- How long an answer asks to stay away: so many seconds as its header is a numeral of,
but for blanks around it. -/
def AsksDelay (r : Web.Response) (delay : Option Span) : Prop :=
  ∀ span, delay = some span ↔ ∃ value n, r.header? "retry-after" = some value ∧
    Text.Numeral UInt64.size (Text.trim value.toList) n ∧ span = .ofSeconds n

/-- The fault that an answer which is no success is told as; `queue` says whether it was
the queue that was asked. -/
inductive Tells (queue : Bool) (r : Web.Response) : SourceFault → Prop
  | expired (hqueue : queue = true) (hstatus : r.status = 401) :
    Tells queue r (.tokenExpired r.text)
  | throttled {delay : Option Span} (h : Throttles r) (hdelay : AsksDelay r delay) :
    Tells queue r (.rateLimited delay)
  | missing (hstatus : r.status = 404) : Tells queue r (.notFound r.text)
  | held (hstatus : r.status = 409) : Tells queue r (.conflict r.text)
  | other (hqueue : ¬ (queue = true ∧ r.status = 401)) (hcalls : ¬ Throttles r)
    (hthere : r.status ≠ 404) (hfree : r.status ≠ 409) : Tells queue r (.api r.status r.text)

/-- A fault that no answer is told as. -/
def IsOwn : SourceFault → Prop
  | .http _ | .runnerNotFound _ | .runnerOffline _ _ | .invalidScope _ | .credentials _ => True
  | .tokenExpired _ | .rateLimited _ | .notFound _ | .conflict _ | .api _ _ | .decode _ => False

theorem isRateLimit_iff {r : Web.Response} : Api.isRateLimit r = true ↔ Throttles r := by
  simp [Api.isRateLimit, Throttles]

theorem asksDelay_iff {r : Web.Response} {delay : Option Span} :
    AsksDelay r delay ↔ delay = Api.retryAfter r := by
  have hasks : ∀ span, Api.retryAfter r = some span ↔ ∃ value n,
      r.header? "retry-after" = some value ∧
        Text.Numeral UInt64.size (Text.trim value.toList) n ∧ span = .ofSeconds n := by
    intro span
    unfold Api.retryAfter
    cases r.header? "retry-after" with
    | none => exact ⟨nofun, nofun⟩
    | some value =>
      simp only [Option.map_eq_some_iff, Text.readBelow?_eq_some_iff, Option.some.injEq]
      constructor
      · rintro ⟨n, hn, hspan⟩
        exact ⟨value, n, rfl, hn, hspan.symm⟩
      · rintro ⟨_, n, rfl, hn, hspan⟩
        exact ⟨n, hn, hspan.symm⟩
  constructor
  · intro h
    exact Option.ext fun span => (h span).trans (hasks span).symm
  · rintro rfl
    exact hasks

/-- What a check fails with the answer tells, unless the queue refused its token. -/
theorem tells_of_check {queue : Bool} {r : Web.Response} {fault : SourceFault}
    (hqueue : ¬ (queue = true ∧ r.status = 401)) (h : Api.check r = .error fault) :
    Tells queue r fault := by
  unfold Api.check at h
  split at h
  · cases h
  · obtain rfl := Except.error.inj h
    split
    · rename_i hlimit
      exact .throttled (isRateLimit_iff.mp hlimit) (asksDelay_iff.mpr rfl)
    · rename_i hlimit
      have hcalls : ¬ Throttles r := fun hthrottles => hlimit (isRateLimit_iff.mpr hthrottles)
      split
      · rename_i hstatus
        exact .missing hstatus
      · rename_i hthere
        split
        · rename_i hstatus
          exact .held hstatus
        · rename_i hfree
          exact .other hqueue hcalls hthere hfree

theorem check_of_isSuccess {r : Web.Response} (h : r.isSuccess = true) : Api.check r = .ok r := by
  rw [Api.check, if_pos h]

theorem exists_check_eq_error {r : Web.Response} (h : r.isSuccess = false) :
    ∃ fault, Api.check r = .error fault := by
  rw [Api.check, h]
  exact ⟨_, rfl⟩

theorem Throttles.status {r : Web.Response} (h : Throttles r) : r.status = 429 ∨ r.status = 403 :=
  h.imp_right And.left

/-- An answer is told as one fault only. -/
theorem Tells.unique {queue : Bool} {r : Web.Response} {fault fault' : SourceFault}
    (h : Tells queue r fault) (h' : Tells queue r fault') : fault' = fault := by
  cases h with
  | expired hqueue hstatus =>
    cases h' with
    | expired => rfl
    | throttled hcalls => have := hcalls.status; omega
    | missing | held => omega
    | other hother => exact absurd ⟨hqueue, hstatus⟩ hother
  | throttled hcalls hdelay =>
    have hstatus := hcalls.status
    cases h' with
    | expired | missing | held => omega
    | throttled _ hdelay' => rw [asksDelay_iff.mp hdelay, asksDelay_iff.mp hdelay']
    | other _ hother => exact absurd hcalls hother
  | missing hstatus =>
    cases h' with
    | missing => rfl
    | throttled hcalls => have := hcalls.status; omega
    | expired | held => omega
    | other _ _ hother => exact absurd hstatus hother
  | held hstatus =>
    cases h' with
    | held => rfl
    | throttled hcalls => have := hcalls.status; omega
    | expired | missing => omega
    | other _ _ _ hother => exact absurd hstatus hother
  | other hqueue hcalls hthere hfree =>
    cases h' with
    | expired hqueue' hstatus => exact absurd ⟨hqueue', hstatus⟩ hqueue
    | throttled hcalls' => exact absurd hcalls' hcalls
    | missing hstatus => exact absurd hstatus hthere
    | held hstatus => exact absurd hstatus hfree
    | other => rfl

/-! ## Courses of questions -/

/-- The answers that came, in order. -/
def answers (steps : List Step) : List Web.Response :=
  steps.filterMap fun
    | ⟨.send _, .response r⟩ => some r
    | _ => none

theorem answers_append (steps later : List Step) :
    answers (steps ++ later) = answers steps ++ answers later := List.filterMap_append

/-- All answers that came tell of success. -/
def Smooth (steps : List Step) : Prop := ∀ r ∈ answers steps, r.isSuccess = true

theorem Smooth.append {steps later : List Step} (h : Smooth steps) (h' : Smooth later) :
    Smooth (steps ++ later) := by
  unfold Smooth
  rw [answers_append]
  exact List.forall_mem_append.mpr ⟨h, h'⟩

theorem Smooth.nil : Smooth [] := nofun

/-- How a question ends for a client: after answers that tell of success only, or with one
that does not. -/
inductive Judged {α : Type} (queue : Bool) : List Step → Sourced α → Prop
  /-- No answer is to blame. -/
  | smooth {steps : List Step} {result : Sourced α} (hsmooth : Smooth steps)
    (hown : ∀ fault, result = .error fault → IsOwn fault) : Judged queue steps result
  /-- An answer tells of success and is not what it should be. -/
  | unreadable {steps : List Step} {reason : Option String} (hsmooth : Smooth steps)
    (hcame : answers steps ≠ []) : Judged queue steps (.error (.decode reason))
  /-- The last answer is no success. -/
  | refused {before : List Step} {request : Web.Request} {r : Web.Response} {fault : SourceFault}
    (hsmooth : Smooth before) (hfails : r.isSuccess = false) (htells : Tells queue r fault) :
    Judged queue (before ++ [⟨.send request, .response r⟩]) (.error fault)

/-- How a question goes on after an answer that tells of success. -/
def Follows {α : Type} (queue : Bool) (later : List Step) (result : Sourced α) : Prop :=
  ∀ request r, r.isSuccess = true → Judged queue (⟨.send request, .response r⟩ :: later) result

section

variable {α β : Type} {queue : Bool} {earlier later steps : List Step} {result : Sourced α}
  {fault : SourceFault}

namespace Judged

theorem ok (a : α) : Judged queue [] (.ok a : Sourced α) := .smooth .nil nofun

theorem own (h : IsOwn fault) : Judged queue [] (.error fault : Sourced α) := by
  refine .smooth .nil ?_
  rintro _ ⟨⟩
  exact h

theorem prepend (hearlier : Smooth earlier) (h : Judged queue later result) :
    Judged queue (earlier ++ later) result := by
  cases h with
  | smooth hsmooth hown => exact .smooth (hearlier.append hsmooth) hown
  | unreadable hsmooth hcame =>
    refine .unreadable (hearlier.append hsmooth) ?_
    rw [answers_append]
    exact List.append_ne_nil_of_right_ne_nil _ hcame
  | refused hsmooth hfails htells =>
    rw [← List.append_assoc]
    exact .refused (hearlier.append hsmooth) hfails htells

theorem smooth_of_ok {a : α} (h : Judged queue steps (.ok a : Sourced α)) : Smooth steps := by
  cases h with
  | smooth hsmooth _ => exact hsmooth

theorem failed (h : Judged queue steps (.error fault : Sourced α)) :
    Judged queue steps (.error fault : Sourced β) := by
  cases h with
  | smooth hsmooth hown =>
    exact .smooth hsmooth fun _ hfault => hown _ (congrArg Except.error (Except.error.inj hfault))
  | unreadable hsmooth hcame => exact .unreadable hsmooth hcame
  | refused hsmooth hfails htells => exact .refused hsmooth hfails htells

end Judged

theorem smooth_response {r : Web.Response} (h : r.isSuccess = true) (request : Web.Request) :
    Smooth [⟨.send request, .response r⟩] := List.forall_mem_singleton.mpr h

theorem Judged.follows (h : Judged queue later result) : Follows queue later result :=
  fun request _ hr => h.prepend (smooth_response hr request)

theorem follows_unreadable (queue : Bool) (reason : Option String) :
    Follows queue [] (.error (.decode reason) : Sourced α) :=
  fun request _ hr => .unreadable (smooth_response hr request) nofun

/-- What is read from an answer that tells of success is there or is a fault of its own
kind; any other answer fails as it is checked. -/
structure Reads (read : Web.Response → Sourced α) : Prop where
  fine : ∀ r fault, r.isSuccess = true → read r = .error fault →
    IsOwn fault ∨ ∃ reason, fault = .decode reason
  refused : ∀ r, r.isSuccess = false → ∃ fault, read r = .error fault ∧ Api.check r = .error fault

theorem reads_check : Reads Api.check := by
  refine ⟨fun r fault hr h => ?_, fun r hr => ?_⟩
  · rw [check_of_isSuccess hr] at h
    cases h
  · obtain ⟨fault, hfault⟩ := exists_check_eq_error hr
    exact ⟨fault, hfault, hfault⟩

theorem reads_checkedDecode (fields : Json.Fields α) : Reads (Api.checkedDecode fields) := by
  refine ⟨fun r fault hr h => ?_, fun r hr => ?_⟩
  · rw [Api.checkedDecode, check_of_isSuccess hr] at h
    unfold Api.decode at h
    dsimp only at h
    split at h
    · obtain rfl := Except.error.inj h
      exact .inl True.intro
    · split at h
      · cases h
      · obtain rfl := Except.error.inj h
        exact .inr ⟨none, rfl⟩
  · obtain ⟨fault, hfault⟩ := exists_check_eq_error hr
    refine ⟨fault, ?_, hfault⟩
    rw [Api.checkedDecode, hfault]

/-! ## Questions one after another -/

theorem traces_andThen {d : ClientDialogue α} {f : α → ClientDialogue β}
    (h : d.Traces (Judged queue)) (hf : ∀ a, (f a).Traces (Judged queue)) :
    (d.andThen f).Traces (Judged queue) :=
  h.andThen (fun _ a hearlier => (hf a).imp fun _ _ => Judged.prepend hearlier.smooth_of_ok)
    fun _ _ hfailed => hfailed.failed

/-- Looks at the clock and at the tokens that are kept are no requests. -/
theorem traces_looked {f : Instant → TokenShelf → ClientDialogue α}
    (hf : ∀ now kept, (f now kept).Traces (Judged queue)) :
    (clock.bind fun now => shelf.bind fun kept => f now kept).Traces (Judged queue) := by
  refine Traces.call_bind fun now => Traces.call_bind fun kept => ?_
  have hquiet : Smooth [⟨.clock, now⟩, ⟨.shelf, kept⟩] := nofun
  exact (hf now kept).imp fun _ _ => Judged.prepend hquiet

/-- A request is not sent, or it is broken off, or a response comes. -/
theorem traces_exchange {c : Client} {timeout : Span} {d : Web.Draft}
    {f : Web.Response → ClientDialogue α} {Q : List Step → Sourced α → Prop}
    (hunsent : Q [] (.error (.http false)))
    (hbroken : ∀ request timedOut,
      Q [⟨.send request, .broken timedOut⟩] (.error (.http timedOut)))
    (hcame : ∀ request r, (f r).Traces fun later b => Q (⟨.send request, .response r⟩ :: later) b) :
    ((c.exchange timeout d).andThen f).Traces Q := by
  unfold exchange
  split
  · exact hunsent
  · rename_i request _
    rintro (r | timedOut)
    · exact hcame request r
    · exact hbroken request timedOut

theorem traces_sent {c : Client} {timeout : Span} {d : Web.Draft}
    {f : Web.Response → ClientDialogue α}
    (hfine : ∀ r, r.isSuccess = true → (f r).Traces (Follows queue))
    (hrefused : ∀ r, r.isSuccess = false →
      ∃ fault, f r = .done (.error fault) ∧ Tells queue r fault) :
    ((c.exchange timeout d).andThen f).Traces (Judged queue) := by
  refine traces_exchange (.own True.intro) (fun request timedOut => ?_) fun request r => ?_
  · have hown : IsOwn (.http timedOut) := True.intro
    have hquiet : Smooth [⟨.send request, .broken timedOut⟩] := nofun
    exact (Judged.own hown).prepend hquiet
  · cases hr : r.isSuccess with
    | true => exact (hfine r hr).imp fun later b hfollows => hfollows request r hr
    | false =>
      obtain ⟨fault, hfault, htells⟩ := hrefused r hr
      rw [hfault]
      have hend : Judged queue ([] ++ [⟨.send request, .response r⟩]) (.error fault : Sourced α) :=
        .refused .nil hr htells
      exact hend

theorem traces_read {read : Web.Response → Sourced α} (hread : Reads read)
    {g : α → ClientDialogue β} (hg : ∀ a, (g a).Traces (Follows queue)) {r : Web.Response}
    (hr : r.isSuccess = true) : (Dialogue.after (read r) g).Traces (Follows queue) := by
  refine Traces.after (fun a _ => hg a) fun fault hfault => ?_
  rcases hread.fine r fault hr hfault with hown | ⟨reason, rfl⟩
  · exact (Judged.own hown).follows
  · exact follows_unreadable queue reason

/-- A question that is asked by one request, elsewhere than at the queue. -/
theorem traces_reading {c : Client} {d : Web.Draft}
    {read : Web.Response → Sourced α} {f : Web.Response → ClientDialogue β}
    {g : α → ClientDialogue β} (hread : Reads read) (hf : ∀ r, f r = Dialogue.after (read r) g)
    (hg : ∀ a, (g a).Traces (Follows false)) :
    ((c.send d).andThen f).Traces (Judged false) := by
  unfold send
  refine traces_sent (fun r hr => ?_) fun r hr => ?_
  · rw [hf r]
    exact traces_read hread hg hr
  · obtain ⟨fault, hfault, hcheck⟩ := hread.refused r hr
    exact ⟨fault, by rw [hf r, hfault, Dialogue.after], tells_of_check nofun hcheck⟩

/-- The queue's answer, read unless it refuses the token. -/
def readQueue (read : Web.Response → Sourced α) (g : α → ClientDialogue β) (r : Web.Response) :
    ClientDialogue β :=
  match Api.refusal? r with
  | some fault => .done (.error fault)
  | none => Dialogue.after (read r) g

theorem traces_readQueue {read : Web.Response → Sourced α} {g : α → ClientDialogue β}
    (hread : Reads read) (hg : ∀ a, (g a).Traces (Follows true)) {r : Web.Response}
    (hr : r.isSuccess = true) : (readQueue read g r).Traces (Follows true) := by
  have haccepts : Api.refusal? r = none := by
    refine if_neg fun hstatus => ?_
    rw [Web.Response.isSuccess, hstatus] at hr
    cases hr
  rw [readQueue, haccepts]
  exact traces_read hread hg hr

theorem tells_readQueue {read : Web.Response → Sourced α} (g : α → ClientDialogue β)
    (hread : Reads read) {r : Web.Response} (hr : r.isSuccess = false) :
    ∃ fault, readQueue read g r = .done (.error fault) ∧ Tells true r fault := by
  unfold readQueue Api.refusal?
  by_cases hstatus : r.status = 401
  · rw [if_pos hstatus]
    exact ⟨_, rfl, .expired rfl hstatus⟩
  · obtain ⟨fault, hfault, hcheck⟩ := hread.refused r hr
    rw [if_neg hstatus, hfault]
    exact ⟨fault, rfl, tells_of_check (fun h => hstatus h.2) hcheck⟩

/-- A question that the queue is asked by one request. -/
theorem traces_queue {c : Client} {d : Web.Draft}
    {read : Web.Response → Sourced α} {f : Web.Response → ClientDialogue β}
    {g : α → ClientDialogue β} (hread : Reads read) (hf : ∀ r, f r = readQueue read g r)
    (hg : ∀ a, (g a).Traces (Follows true)) :
    ((c.send d).andThen f).Traces (Judged true) := by
  unfold send
  refine traces_sent (fun r hr => ?_) fun r hr => ?_
  · rw [hf r]
    exact traces_readQueue hread hg hr
  · rw [hf r]
    exact tells_readQueue g hread hr

theorem after_ok (result : Sourced α) (h : α → β) :
    Dialogue.after result (fun a => .done (.ok (h a))) = (.done (result.map h) : ClientDialogue β) := by
  cases result with
  | ok a => rfl
  | error fault => rfl

theorem readQueue_ok (read : Web.Response → Sourced α) (h : α → β) (r : Web.Response) :
    readQueue read (fun a => .done (.ok (h a))) r =
      match Api.refusal? r with
      | some fault => .done (.error fault)
      | none => .done ((read r).map h) := by
  unfold readQueue
  cases Api.refusal? r with
  | some fault => rfl
  | none => exact after_ok (read r) h

theorem after_id (result : Sourced α) :
    Dialogue.after result (fun a => .done (.ok a)) = (.done result : ClientDialogue α) := by
  cases result with
  | ok a => rfl
  | error fault => rfl

theorem traces_done_ok (queue : Bool) (a : α) :
    (.done (.ok a) : ClientDialogue α).Traces (Follows queue) := (Judged.ok a).follows

end

/-! ## The questions of a client -/

/-- A question is put to the queue. -/
def asksQueue : SessionCall → Bool
  | .getMessage _ _ _ | .deleteMessage _ _ _ | .acquireJobs _ _ _ _ => true
  | .adminConnection _ | .getRunnerPool _ _ | .createRunnerPool _ _ | .replaceRunnerPool _ _ _
  | .createMessageSession _ _ _ | .refreshMessageSession _ _ _ | .deleteMessageSession _ _ _ => false

section

variable {fault : SourceFault}

theorem isOwn_of_kind (h : fault.kind = .invalid) : IsOwn fault := by
  cases fault with
  | invalidScope | credentials => exact True.intro
  | tokenExpired | rateLimited | notFound | runnerNotFound | runnerOffline | conflict | api | http
  | decode => cases h

theorem exists_decode_of_instant {value : String} (h : Api.instant value = .error fault) :
    ∃ reason, fault = .decode reason := by
  unfold Api.instant at h
  split at h
  · cases h
  · exact ⟨_, (Except.error.inj h).symm⟩

/-- A token that was issued is kept, unless it is not told until when it holds. -/
theorem follows_issued {α : Type} (value : String) (issue : Instant → Issue) (token : Instant → α) :
    (Dialogue.after (Api.instant value) fun expires =>
      (keep (issue expires)).bind fun _ =>
        .done (.ok (token expires) : Sourced α)).Traces (Follows false) := by
  refine Traces.after (fun expires _ => Traces.call_bind fun _ => ?_) fun fault hfault => ?_
  · have hquiet : Smooth [⟨.keep (issue expires), ()⟩] := nofun
    exact ((Judged.ok (token expires)).prepend hquiet).follows
  · obtain ⟨reason, rfl⟩ := exists_decode_of_instant hfault
    exact follows_unreadable false reason

theorem judged_installationToken (c : Client) (key : AppKey) :
    (c.installationToken key).Traces (Judged false) := by
  rw [installationToken_eq]
  refine traces_looked fun now kept => ?_
  split
  · exact .ok _
  · refine Traces.after (fun statement _ => ?_) fun fault hfault => ?_
    · exact traces_reading (reads_checkedDecode _) (fun _ => rfl) fun issued =>
        follows_issued issued.expiresAt _ _
    · exact .own (isOwn_of_kind (kind_of_statement hfault))

theorem judged_authorization (c : Client) : c.authorization.Traces (Judged false) := by
  unfold authorization
  split
  · exact .ok _
  · exact .ok _
  · rename_i key _
    exact traces_andThen (judged_installationToken c key) fun _ => .ok _

theorem judged_registrationToken (c : Client) (identity : Identity) :
    (c.registrationToken identity).Traces (Judged false) := by
  unfold registrationToken
  refine traces_looked fun now kept => ?_
  split
  · exact .ok _
  · refine Traces.after (fun scope _ => ?_) fun fault hfault => ?_
    · refine traces_andThen (judged_authorization c) fun authorization => ?_
      exact traces_reading (reads_checkedDecode _) (fun _ => rfl) fun issued =>
        follows_issued issued.expiresAt _ _
    · exact .own (isOwn_of_kind (kind_of_ofIdentity hfault))

theorem judged_runnerPage (c : Client) (scope : Scope) (page : Nat) :
    (c.runnerPage scope page).Traces (Judged false) := by
  rw [runnerPage_eq]
  refine traces_andThen (judged_authorization c) fun authorization => ?_
  exact traces_reading (reads_checkedDecode _) (fun r => (after_id _).symm) (traces_done_ok false)

theorem isOwn_of_statusOf {name : String} {entry : RunnerEntry}
    (h : statusOf name entry = .error fault) : IsOwn fault := by
  unfold statusOf at h
  split at h
  · obtain rfl := Except.error.inj h
    exact True.intro
  · cases h

theorem judged_findRunner (c : Client) (scope : Scope) (name : String) (first limit : Nat) :
    (c.findRunner scope name first limit).Traces (Judged false) := by
  induction limit generalizing first with
  | zero => exact .own True.intro
  | succ limit ih =>
    rw [findRunner]
    refine traces_andThen (judged_runnerPage c scope first) fun listed => ?_
    split
    · exact .smooth .nil fun fault => isOwn_of_statusOf
    · split
      · exact .own True.intro
      · exact ih (first + 1)

theorem judged_runnerStatus (c : Client) (identity : Identity) (name : String) :
    (c.runnerStatus identity name).Traces (Judged false) := by
  unfold runnerStatus
  refine Traces.after (fun scope _ => judged_findRunner c scope name 1 pageLimit) fun fault hfault => ?_
  exact .own (isOwn_of_kind (kind_of_ofIdentity hfault))

theorem judged_adminConnection (c : Client) (identity : Identity) :
    (c.adminConnection identity).Traces (Judged false) := by
  unfold adminConnection
  refine Traces.after (fun scope _ => ?_) fun fault hfault => ?_
  · refine traces_andThen (judged_registrationToken c identity) fun registration => ?_
    exact traces_reading (reads_checkedDecode _) (fun r => (after_id _).symm) (traces_done_ok false)
  · exact .own (isOwn_of_kind (kind_of_ofIdentity hfault))

theorem judged_getRunnerPool (c : Client) (conn : AdminConnection) (name : String) :
    (c.getRunnerPool conn name).Traces (Judged false) := by
  unfold getRunnerPool service
  refine traces_reading (reads_checkedDecode _) (fun _ => rfl) fun listing => ?_
  split
  · exact traces_done_ok false _
  · exact traces_done_ok false _
  · exact follows_unreadable false _

theorem judged_sendPool (c : Client) (conn : AdminConnection) (method : Web.Method) (path : String)
    (pool : RunnerPool) : (c.sendPool conn method path pool).Traces (Judged false) := by
  unfold sendPool service
  exact traces_reading (reads_checkedDecode _) (fun r => (after_id _).symm) (traces_done_ok false)

theorem judged_sendSession (c : Client) (conn : AdminConnection) (method : Web.Method)
    (path : String) (body : Option Json) :
    (c.sendSession conn method path body).Traces (Judged false) := by
  unfold sendSession service
  exact traces_reading (reads_checkedDecode _) (fun _ => rfl) fun lease => traces_done_ok false _

theorem judged_deleteMessageSession (c : Client) (conn : AdminConnection) (poolId : Int64)
    (sessionId : String) :
    (c.deleteMessageSession conn poolId sessionId).Traces (Judged false) := by
  unfold deleteMessageSession service
  exact traces_reading reads_check (fun r => (after_ok _ _).symm) fun _ => traces_done_ok false ()

theorem judged_getMessage (c : Client) (queueUrl queueToken : String) (cursor : Int64) :
    (c.getMessage queueUrl queueToken cursor).Traces (Judged true) := by
  unfold getMessage
  have hread := reads_checkedDecode QueueMessage.fields
  refine traces_sent (fun r hr => ?_) fun r hr => ?_
  · split
    · exact traces_done_ok true none
    · have hqueue := traces_readQueue hread (fun message => traces_done_ok true (some message)) hr
      rw [readQueue_ok] at hqueue
      exact hqueue
  · have hstatus : ¬ (r.status = 202 ∨ r.status = 204) := by
      rintro (hstatus | hstatus)
      all_goals
        rw [Web.Response.isSuccess, hstatus] at hr
        cases hr
    have htells := tells_readQueue (fun message => .done (.ok (some message))) hread hr
    rw [readQueue_ok] at htells
    rw [if_neg hstatus]
    exact htells

theorem judged_deleteMessage (c : Client) (queueUrl queueToken : String) (messageId : Int64) :
    (c.deleteMessage queueUrl queueToken messageId).Traces (Judged true) := by
  unfold deleteMessage
  exact traces_queue reads_check (fun r => (readQueue_ok Api.check _ r).symm) fun _ =>
    traces_done_ok true ()

theorem judged_acquireJobs (c : Client) (conn : AdminConnection) (poolId : Int64)
    (queueToken : String) (ids : List RequestId) :
    (c.acquireJobs conn poolId queueToken ids).Traces (Judged true) := by
  unfold acquireJobs
  have hread := reads_checkedDecode (Listing.fields Json.asInt64)
  exact traces_queue hread (fun r => (readQueue_ok _ _ r).symm) fun listing =>
    traces_done_ok true listing.value

theorem judged_session (c : Client) (call : SessionCall) :
    (c.session call).Traces (Judged (asksQueue call)) := by
  cases call with
  | adminConnection identity => exact judged_adminConnection c identity
  | getRunnerPool conn name => exact judged_getRunnerPool c conn name
  | createRunnerPool conn pool => exact judged_sendPool c conn .post "" pool
  | replaceRunnerPool conn poolId pool => exact judged_sendPool c conn .put (poolPath poolId) pool
  | createMessageSession conn poolId owner => exact judged_sendSession c conn .post _ _
  | refreshMessageSession conn poolId sessionId => exact judged_sendSession c conn .patch _ none
  | deleteMessageSession conn poolId sessionId =>
    exact judged_deleteMessageSession c conn poolId sessionId
  | getMessage queueUrl queueToken cursor => exact judged_getMessage c queueUrl queueToken cursor
  | deleteMessage queueUrl queueToken messageId =>
    exact judged_deleteMessage c queueUrl queueToken messageId
  | acquireJobs conn poolId queueToken ids => exact judged_acquireJobs c conn poolId queueToken ids

end

/-! ## What is decided -/

/-- The last step of a client brought an answer that is no success. -/
def TurnedDown (steps : List Step) (r : Web.Response) : Prop :=
  r.isSuccess = false ∧ ∃ before request, steps = before ++ [⟨.send request, .response r⟩]

/-- How a question ends is decided by the first answer that is no success. -/
structure Decided {α : Type} (queue : Bool) (steps : List Step) (result : Sourced α) : Prop where
  halts : ∀ before request r after, steps = before ++ ⟨.send request, .response r⟩ :: after →
    r.isSuccess = false → after = []
  expired : ∀ text, result = .error (.tokenExpired text) ↔
    ∃ r, TurnedDown steps r ∧ queue = true ∧ r.status = 401 ∧ text = r.text
  throttled : ∀ delay, result = .error (.rateLimited delay) ↔
    ∃ r, TurnedDown steps r ∧ Throttles r ∧ AsksDelay r delay
  missing : ∀ text, result = .error (.notFound text) ↔
    ∃ r, TurnedDown steps r ∧ r.status = 404 ∧ text = r.text
  held : ∀ text, result = .error (.conflict text) ↔
    ∃ r, TurnedDown steps r ∧ r.status = 409 ∧ text = r.text
  other : ∀ status text, result = .error (.api status text) ↔
    ∃ r, TurnedDown steps r ∧ ¬ (queue = true ∧ r.status = 401) ∧ ¬ Throttles r ∧
      r.status ≠ 404 ∧ r.status ≠ 409 ∧ status = r.status ∧ text = r.text
  unreadable : ∀ reason, result = .error (.decode reason) →
    answers steps ≠ [] ∧ ∀ r ∈ answers steps, r.isSuccess = true

section

variable {α : Type} {queue : Bool} {steps before after : List Step} {result : Sourced α}
  {request : Web.Request} {r r' : Web.Response} {fault : SourceFault}

theorem mem_answers (before after : List Step) (request : Web.Request) (r : Web.Response) :
    r ∈ answers (before ++ ⟨.send request, .response r⟩ :: after) := by
  rw [answers_append]
  exact List.mem_append_right _ List.mem_cons_self

theorem exists_of_mem_answers (h : r ∈ answers steps) :
    ∃ before request after, steps = before ++ ⟨.send request, .response r⟩ :: after := by
  obtain ⟨⟨need, answer⟩, hmem, hanswer⟩ := List.mem_filterMap.mp h
  obtain ⟨before, after, rfl⟩ := List.append_of_mem hmem
  cases need with
  | send request =>
    cases answer with
    | response r' =>
      obtain rfl := Option.some.inj hanswer
      exact ⟨before, request, after, rfl⟩
    | broken => cases hanswer
  | clock | shelf | keep => cases hanswer

theorem Smooth.not_turnedDown (h : Smooth steps) : ¬ TurnedDown steps r := by
  rintro ⟨hfails, before, request, rfl⟩
  exact Bool.false_ne_true (hfails.symm.trans (h r (mem_answers before [] request r)))

theorem turnedDown_iff (hfails : r.isSuccess = false) :
    TurnedDown (before ++ [⟨.send request, .response r⟩]) r' ↔ r' = r := by
  constructor
  · rintro ⟨-, before', request', hsteps⟩
    obtain ⟨-, hlast⟩ := List.append_inj' hsteps rfl
    cases hlast
    rfl
  · rintro rfl
    exact ⟨hfails, before, request, rfl⟩

namespace Judged

/-- A fault that answers are told as is a fault that the last answer is told as. -/
theorem eq_error_iff (h : Judged queue steps result) (hown : ¬ IsOwn fault)
    (hreadable : ∀ reason, fault ≠ .decode reason) :
    result = .error fault ↔ ∃ r, TurnedDown steps r ∧ Tells queue r fault := by
  cases h with
  | smooth hsmooth hresult =>
    refine ⟨fun hfault => absurd (hresult fault hfault) hown, ?_⟩
    rintro ⟨r, hdown, -⟩
    exact absurd hdown hsmooth.not_turnedDown
  | @unreadable steps reason hsmooth hcame =>
    refine ⟨fun hfault => absurd (Except.error.inj hfault).symm (hreadable reason), ?_⟩
    rintro ⟨r, hdown, -⟩
    exact absurd hdown hsmooth.not_turnedDown
  | @refused before request r fault' hsmooth hfails htells =>
    constructor
    · intro hfault
      obtain rfl := Except.error.inj hfault
      exact ⟨r, (turnedDown_iff hfails).mpr rfl, htells⟩
    · rintro ⟨r', hdown, htells'⟩
      obtain rfl := (turnedDown_iff hfails).mp hdown
      rw [htells'.unique htells]

theorem halts (h : Judged queue steps result)
    (hsteps : steps = before ++ ⟨.send request, .response r⟩ :: after)
    (hfails : r.isSuccess = false) : after = [] := by
  have hmem := mem_answers before after request r
  rw [← hsteps] at hmem
  have hnot : ¬ Smooth steps := fun hsmooth =>
    Bool.false_ne_true (hfails.symm.trans (hsmooth r hmem))
  cases h with
  | smooth hsmooth _ => exact absurd hsmooth hnot
  | unreadable hsmooth _ => exact absurd hsmooth hnot
  | @refused earlier _ _ _ hsmooth _ _ =>
    rcases List.eq_nil_or_concat after with hnil | ⟨mid, last, hafter⟩
    · exact hnil
    · -- the failing answer would have come before the last one
      rw [hafter, List.concat_eq_append, ← List.cons_append, ← List.append_assoc] at hsteps
      obtain ⟨hearlier, -⟩ := List.append_inj' hsteps rfl
      have hsuccess := hsmooth r (hearlier ▸ mem_answers before mid request r)
      exact absurd (hfails.symm.trans hsuccess) Bool.false_ne_true

theorem told_iff {P : Web.Response → Prop} (h : Judged queue steps result) (hown : ¬ IsOwn fault)
    (hreadable : ∀ reason, fault ≠ .decode reason) (htells : ∀ r, Tells queue r fault ↔ P r) :
    result = .error fault ↔ ∃ r, TurnedDown steps r ∧ P r := by
  rw [h.eq_error_iff hown hreadable]
  exact exists_congr fun r => and_congr_right fun _ => htells r

end Judged

theorem tells_expired_iff {text : String} :
    Tells queue r (.tokenExpired text) ↔ queue = true ∧ r.status = 401 ∧ text = r.text := by
  constructor
  · intro h
    cases h with
    | expired hqueue hstatus => exact ⟨hqueue, hstatus, rfl⟩
  · rintro ⟨hqueue, hstatus, rfl⟩
    exact .expired hqueue hstatus

theorem tells_throttled_iff {delay : Option Span} :
    Tells queue r (.rateLimited delay) ↔ Throttles r ∧ AsksDelay r delay := by
  constructor
  · intro h
    cases h with
    | throttled hcalls hdelay => exact ⟨hcalls, hdelay⟩
  · rintro ⟨hcalls, hdelay⟩
    exact .throttled hcalls hdelay

theorem tells_missing_iff {text : String} :
    Tells queue r (.notFound text) ↔ r.status = 404 ∧ text = r.text := by
  constructor
  · intro h
    cases h with
    | missing hstatus => exact ⟨hstatus, rfl⟩
  · rintro ⟨hstatus, rfl⟩
    exact .missing hstatus

theorem tells_held_iff {text : String} :
    Tells queue r (.conflict text) ↔ r.status = 409 ∧ text = r.text := by
  constructor
  · intro h
    cases h with
    | held hstatus => exact ⟨hstatus, rfl⟩
  · rintro ⟨hstatus, rfl⟩
    exact .held hstatus

theorem tells_other_iff {status : Nat} {text : String} :
    Tells queue r (.api status text) ↔ ¬ (queue = true ∧ r.status = 401) ∧ ¬ Throttles r ∧
      r.status ≠ 404 ∧ r.status ≠ 409 ∧ status = r.status ∧ text = r.text := by
  constructor
  · intro h
    cases h with
    | other hqueue hcalls hthere hfree => exact ⟨hqueue, hcalls, hthere, hfree, rfl, rfl⟩
  · rintro ⟨hqueue, hcalls, hthere, hfree, rfl, rfl⟩
    exact .other hqueue hcalls hthere hfree

theorem Judged.decided (h : Judged queue steps result) : Decided queue steps result where
  halts := fun _ _ _ _ => h.halts
  expired := fun text => h.told_iff id (fun _ => nofun) fun _ => tells_expired_iff
  throttled := fun delay => h.told_iff id (fun _ => nofun) fun _ => tells_throttled_iff
  missing := fun text => h.told_iff id (fun _ => nofun) fun _ => tells_missing_iff
  held := fun text => h.told_iff id (fun _ => nofun) fun _ => tells_held_iff
  other := fun status text => h.told_iff id (fun _ => nofun) fun _ => tells_other_iff
  unreadable := fun reason hreason => by
    subst hreason
    cases h with
    | smooth _ hown => exact absurd (hown _ rfl) id
    | unreadable hsmooth hcame => exact ⟨hcame, hsmooth⟩
    | refused _ _ htells => cases htells

/-! ## Waiting for a message -/

/-- There is no message exactly if the source says so by one of two statuses. -/
theorem traces_noMessage (c : Client) (queueUrl queueToken : String) (cursor : Int64) :
    (c.getMessage queueUrl queueToken cursor).Traces fun steps result =>
      result = .ok none ↔ ∃ request r, steps = [⟨.send request, .response r⟩] ∧
        (r.status = 202 ∨ r.status = 204) := by
  unfold getMessage
  refine traces_exchange ⟨nofun, ?_⟩ (fun request timedOut => ⟨nofun, ?_⟩) fun request r => ?_
  · rintro ⟨_, _, habsurd, -⟩
    cases habsurd
  · rintro ⟨_, _, habsurd, -⟩
    cases habsurd
  · have hstatus : ∀ {result : Sourced (Option QueueMessage)}, result ≠ .ok none →
        ¬ (r.status = 202 ∨ r.status = 204) →
        (result = .ok none ↔ ∃ request' r',
          ([⟨.send request, .response r⟩] : List Step) = [⟨.send request', .response r'⟩] ∧
            (r'.status = 202 ∨ r'.status = 204)) := by
      intro result hresult hnot
      refine ⟨fun h => absurd h hresult, ?_⟩
      rintro ⟨request', r', hsteps, hstatus⟩
      cases hsteps
      exact absurd hstatus hnot
    split
    · rename_i h
      exact ⟨fun _ => ⟨request, r, rfl, h⟩, fun _ => rfl⟩
    · rename_i hnot
      split
      · exact hstatus nofun hnot
      · refine hstatus ?_ hnot
        cases Api.checkedDecode QueueMessage.fields r with
        | ok message => nofun
        | error fault => nofun

end

end Client

end PoolScaler
