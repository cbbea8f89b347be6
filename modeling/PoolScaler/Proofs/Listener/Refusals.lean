import PoolScaler.Proofs.Listener.Course
import PoolScaler.Proofs.Source.Refusals
import PoolScaler.Simulation.Daemon
set_option autoImplicit false

/-!
# Refusals of the queue

A listener whose questions a client answers asks for its session anew right after a
poll that was answered with status 401, and at no other time.
-/

namespace PoolScaler.Listener

open Client (Decided Step TurnedDown)
open Dialogue (Traces settled?)
open Simulation (DaemonStage)

/-! ## Listening through a client -/

/-- Something heard, with what the client did for it. -/
structure Spoken where
  heard : Heard
  steps : List Step

section

variable {σ α : Type} (c : Client) (net : Surroundings ClientNeed.interface.withSignal σ)
  (rest : Surroundings SessionNeed.interface.withSignal σ)

/-- What comes of a question in surroundings where a client answers for the source. -/
def hear (s : σ) : (q : Question) →
    Dialogue.Outcome ClientNeed.interface σ (SessionNeed.interface.withSignal.Answer q)
  | .steady (.source call) =>
    let out := (c.session call).steady.run net s
    ⟨out.result, out.exchanges.filterMap settled?, out.state⟩
  | .raced (.source call) =>
    let out := (c.session call).raced.run net s
    ⟨out.result, out.exchanges.filterMap settled?, out.state⟩
  | q => ⟨(rest s q).1, [], (rest s q).2⟩

/-- Surroundings where a client answers for the source. -/
def hearing : Surroundings SessionNeed.interface.withSignal σ :=
  fun s q => ((hear c net rest s q).result, (hear c net rest s q).state)

/-- What a listener hears through a client, with what the client did for it. -/
def spoken (s : σ) : ListenerDialogue α → List Spoken
  | .done _ => []
  | .ask q next =>
    let out := hear c net rest s q
    ⟨⟨q, out.result⟩, out.exchanges⟩ :: spoken out.state (next out.result)

theorem heard_spoken (s : σ) (d : ListenerDialogue α) :
    (spoken c net rest s d).map (·.heard) = (d.run (hearing c net rest) s).exchanges := by
  induction d generalizing s with
  | done a => rfl
  | ask q next ih => exact congrArg (List.cons _) (ih _ _)

/-- The listener of a daemon hears through the daemon's client. -/
theorem hearing_daemon (parts : Daemon.Parts) (pool : String) :
    hearing parts.client (DaemonStage.racedClient parts pool)
      (DaemonStage.surroundings parts pool) = DaemonStage.surroundings parts pool := by
  funext s q
  cases q with
  | steady need =>
    cases need with
    | source call => exact Dialogue.eval_steady _ s (parts.client.session call)
    | wait | clock | tell => rfl
  | raced need => cases need <;> rfl
  | signalled => rfl

/-- A client's answer is decided by what it did. -/
def Spoken.Sound (x : Spoken) : Prop :=
  ∀ call answer, reply? x.heard = some ⟨call, answer⟩ →
    Decided (Client.asksQueue call) x.steps answer

theorem sound_hear (s : σ) (q : Question) :
    Spoken.Sound ⟨⟨q, (hear c net rest s q).result⟩, (hear c net rest s q).exchanges⟩ := by
  intro call answer hreply
  have hdecided := fun call => (Client.judged_session c call).imp fun _ _ => Client.Judged.decided
  cases q with
  | steady need =>
    cases need with
    | source call' =>
      obtain ⟨rfl, hanswer⟩ := Sigma.mk.inj (Option.some.inj hreply)
      rw [← eq_of_heq hanswer]
      exact (hdecided call').steady.run net s
    | wait | clock | tell => cases hreply
  | raced need =>
    cases need with
    | source call' =>
      have hraced := (hdecided call').raced.run net s
      change ∀ a, (hear c net rest s (.raced (.source call'))).result = some a →
        Decided _ (hear c net rest s (.raced (.source call'))).exchanges a at hraced
      generalize (hear c net rest s (.raced (.source call'))).exchanges = steps at hraced ⊢
      generalize (hear c net rest s (.raced (.source call'))).result = result at hraced hreply
      cases result with
      | none => cases hreply
      | some a =>
        obtain ⟨rfl, hanswer⟩ := Sigma.mk.inj (Option.some.inj hreply)
        rw [← eq_of_heq hanswer]
        exact hraced a rfl
    | wait | clock | tell =>
      cases hreply
  | signalled => cases hreply

end

/-! ## Renewals -/

/-- What something heard is to the renewal of a session. -/
inductive Role where
  /-- A poll whose token was refused. -/
  | refusal
  /-- The service is asked for, beside a session. -/
  | service
  /-- The lease is asked to be issued anew. -/
  | reissue
  | other
  deriving DecidableEq

/-- The role of something heard, by what the source answered. -/
def Heard.role : Heard → Role
  | ⟨.raced (.source (.getMessage _ _ _)), some (.error (.tokenExpired _))⟩ => .refusal
  | ⟨.steady (.source (.adminConnection _)), _⟩ => .service
  | ⟨.steady (.source (.refreshMessageSession _ _ _)), _⟩
  | ⟨.raced (.source (.refreshMessageSession _ _ _)), _⟩ => .reissue
  | _ => .other

/-- The role of something heard, by the status of what the client was answered. -/
def Spoken.role : Spoken → Role
  | ⟨⟨.raced (.source (.getMessage _ _ _)), some _⟩, steps⟩ =>
    if ∃ r ∈ Client.answers steps, r.status = 401 then .refusal else .other
  | ⟨⟨.steady (.source (.adminConnection _)), _⟩, _⟩ => .service
  | ⟨⟨.steady (.source (.refreshMessageSession _ _ _)), _⟩, _⟩
  | ⟨⟨.raced (.source (.refreshMessageSession _ _ _)), _⟩, _⟩ => .reissue
  | _ => .other

/-- Right after each refusal the service is asked for, and the lease to be issued anew
unless there is no service; neither is asked for at another time. -/
inductive Paced : List Role → Prop
  | nil : Paced []
  | other {roles : List Role} (h : Paced roles) : Paced (.other :: roles)
  | unserved {roles : List Role} (h : Paced roles) : Paced (.refusal :: .service :: roles)
  | renewed {roles : List Role} (h : Paced roles) :
    Paced (.refusal :: .service :: .reissue :: roles)

theorem Paced.append {roles later : List Role} (h : Paced roles) (h' : Paced later) :
    Paced (roles ++ later) := by
  induction h with
  | nil => exact h'
  | other _ ih => exact .other ih
  | unserved _ ih => exact .unserved ih
  | renewed _ ih => exact .renewed ih

/-- Nothing was heard that has to do with a renewal. -/
def Unrelated (heard : List Heard) : Prop := ∀ x ∈ heard, x.role = .other

theorem Unrelated.paced {heard : List Heard} (h : Unrelated heard) : Paced (heard.map Heard.role) := by
  induction heard with
  | nil => exact .nil
  | cons x heard ih =>
    obtain ⟨hx, hheard⟩ := List.forall_mem_cons.mp h
    rw [List.map_cons, hx]
    exact .other (ih hheard)

section

variable {l l' : Listener} {x : Heard} {heard work : List Heard}

theorem role_preparing (h : Preparing x) : x.role = .other := by
  cases h with
  | service | lookUp | create | replace | refused | wait => rfl

theorem unrelated_acted {news : News} (h : Acted l news work) : Unrelated work := by
  cases h with
  | unserved | idle | foreign | unknown => exact List.forall_mem_nil _
  | refused | assigned | completed => exact List.forall_mem_singleton.mpr rfl
  | granted =>
    exact List.forall_mem_cons.mpr ⟨rfl, List.forall_mem_cons.mpr
      ⟨rfl, List.forall_mem_singleton.mpr rfl⟩⟩

theorem unrelated_taken {raw : QueueMessage} (h : Taken l raw work l') : Unrelated work := by
  cases h with
  | seen | malformed => exact List.forall_mem_singleton.mpr rfl
  | dispatched _ _ hacted => exact List.forall_mem_cons.mpr ⟨rfl, unrelated_acted hacted⟩

/-- A poll and what its answer leads to. -/
theorem paced_answered {answer : Sourced (Option QueueMessage)} (h : Answered l answer work l') :
    Paced ((.poll l (some answer) :: work).map Heard.role) := by
  cases h with
  | message htaken =>
    exact .other (unrelated_taken htaken).paced
  | quiet => exact .other .nil
  | @expired fault _ _ hkind hrenewed =>
    cases fault with
    | tokenExpired text =>
      cases hrenewed with
      | unserved => exact .unserved .nil
      | refused => exact .renewed .nil
      | leased => exact .renewed .nil
    | rateLimited | notFound | runnerNotFound | runnerOffline | conflict | api | http | decode
    | invalidScope | credentials => cases hkind
  | @failed fault hkind =>
    cases fault with
    | tokenExpired text => exact absurd rfl hkind
    | rateLimited | notFound | runnerNotFound | runnerOffline | conflict | api | http | decode
    | invalidScope | credentials => exact .other .nil

theorem paced_polled (h : Polled l heard l') : Paced (heard.map Heard.role) := by
  induction h with
  | limit => exact .nil
  | stopped => exact .other .nil
  | cut => exact .other (.other .nil)
  | turn hanswered _ ih =>
    have hpaced := (paced_answered hanswered).append ih
    rw [← List.map_append] at hpaced
    exact .other hpaced

theorem paced_ran {config : SessionConfig} {out : Except SetupFault Int64}
    (h : Ran config heard out) : Paced (heard.map Heard.role) := by
  cases h with
  | unopened hheard _ => exact Unrelated.paced fun x hx => role_preparing (hheard x hx)
  | @polled opening work later session manager l hopened hpolled hreleased =>
    have hopening : Unrelated opening := by
      cases hopened with
      | failed hheard _ => exact fun x hx => role_preparing (hheard x hx)
      | leased _ _ hearlier _ =>
        exact List.forall_mem_append.mpr ⟨fun x hx => role_preparing (hearlier x hx),
          List.forall_mem_singleton.mpr rfl⟩
    have hlater : Unrelated later := by
      cases hreleased with
      | quiet => exact List.forall_mem_nil _
      | told => exact List.forall_mem_singleton.mpr rfl
    rw [List.map_append, List.map_append]
    exact (hopening.paced.append (paced_polled hpolled)).append hlater.paced

end

/-! ## What refusals decide -/

/-- A client was answered with a status exactly if that ended its question. -/
theorem exists_turnedDown_iff {α : Type} {queue : Bool} {steps : List Step} {result : Sourced α}
    (h : Decided queue steps result) :
    (∃ r, TurnedDown steps r ∧ r.status = 401) ↔ ∃ r ∈ Client.answers steps, r.status = 401 := by
  constructor
  · rintro ⟨r, ⟨-, before, request, rfl⟩, hstatus⟩
    exact ⟨r, Client.mem_answers before [] request r, hstatus⟩
  · rintro ⟨r, hr, hstatus⟩
    have hfails : r.isSuccess = false := by
      rw [Web.Response.isSuccess, hstatus]
      rfl
    obtain ⟨before, request, after, rfl⟩ := Client.exists_of_mem_answers hr
    obtain rfl := h.halts before request r after rfl hfails
    exact ⟨r, ⟨hfails, before, request, rfl⟩, hstatus⟩

/-- A poll is refused exactly if it was answered with status 401. -/
theorem role_of_poll {queueUrl queueToken : String} {cursor : Int64} {steps : List Step}
    {result : Sourced (Option QueueMessage)} (h : Decided true steps result) :
    Heard.role ⟨.raced (.source (.getMessage queueUrl queueToken cursor)), some result⟩ =
      if ∃ r ∈ Client.answers steps, r.status = 401 then .refusal else .other := by
  have hexpired : (∃ text, result = .error (.tokenExpired text)) ↔
      ∃ r ∈ Client.answers steps, r.status = 401 := by
    rw [← exists_turnedDown_iff h]
    constructor
    · rintro ⟨text, htext⟩
      obtain ⟨r, hdown, -, hstatus, -⟩ := (h.expired text).mp htext
      exact ⟨r, hdown, hstatus⟩
    · rintro ⟨r, hdown, hstatus⟩
      exact ⟨r.text, (h.expired r.text).mpr ⟨r, hdown, rfl, hstatus, rfl⟩⟩
  by_cases hrefused : ∃ r ∈ Client.answers steps, r.status = 401
  · obtain ⟨text, rfl⟩ := hexpired.mpr hrefused
    exact (if_pos hrefused).symm
  · refine Eq.trans ?_ (if_neg hrefused).symm
    cases result with
    | ok message => rfl
    | error fault =>
      cases fault with
      | tokenExpired text => exact absurd (hexpired.mp ⟨text, rfl⟩) hrefused
      | rateLimited | notFound | runnerNotFound | runnerOffline | conflict | api | http | decode
      | invalidScope | credentials => rfl

theorem Spoken.Sound.role_eq {x : Spoken} (h : x.Sound) : x.role = x.heard.role := by
  obtain ⟨⟨q, answer⟩, steps⟩ := x
  cases q with
  | steady need =>
    cases need with
    | source call => cases call <;> rfl
    | wait | clock | tell => rfl
  | signalled => rfl
  | raced need =>
    cases need with
    | wait | clock | tell => rfl
    | source call =>
      cases call with
      | getMessage queueUrl queueToken cursor =>
        cases answer with
        | none => rfl
        | some result => exact (role_of_poll (h (.getMessage _ _ _) result rfl)).symm
      | adminConnection | getRunnerPool | createRunnerPool | replaceRunnerPool
      | createMessageSession | refreshMessageSession | deleteMessageSession | deleteMessage
      | acquireJobs => rfl

/-- What is heard through a client goes by the statuses that the client was answered. -/
theorem role_spoken {σ α : Type} (c : Client) (net : Surroundings ClientNeed.interface.withSignal σ)
    (rest : Surroundings SessionNeed.interface.withSignal σ) (s : σ) (d : ListenerDialogue α) :
    (spoken c net rest s d).map Spoken.role =
      (d.run (hearing c net rest) s).exchanges.map Heard.role := by
  induction d generalizing s with
  | done a => rfl
  | ask q next ih =>
    have hrole := (sound_hear c net rest s q).role_eq
    exact congrArg₂ List.cons hrole (ih _ _)

/-- How a question to the source ends is decided by the first answer that is no success,
and nothing is asked after it: the token of the queue has lapsed exactly if the queue was
asked and answered with 401, the source asks for fewer calls exactly if it answered with
429, or with 403 and no call left, and for so long as its header tells, and every other
such answer is told by its status and text.  There is no message exactly if the queue
answered with 202 or 204.  So a listener has its session renewed right after a poll that
was answered with 401, and at no other time. -/
theorem refusals_decide (c : Client) :
    (∀ call, (c.session call).Traces (Decided (Client.asksQueue call))) ∧
    (∀ identity name, (c.runnerStatus identity name).Traces (Decided false)) ∧
    (∀ identity, (c.registrationToken identity).Traces (Decided false)) ∧
    (∀ queueUrl queueToken cursor,
      (c.getMessage queueUrl queueToken cursor).Traces fun steps result =>
        result = .ok none ↔ ∃ request r, steps = [⟨.send request, .response r⟩] ∧
          (r.status = 202 ∨ r.status = 204)) ∧
    ∀ {σ : Type} (net : Surroundings ClientNeed.interface.withSignal σ)
      (rest : Surroundings SessionNeed.interface.withSignal σ) (s : σ) config turns,
      let talk := spoken c net rest s (run config turns)
      talk.map (·.heard) = ((run config turns).run (hearing c net rest) s).exchanges ∧
        Paced (talk.map Spoken.role) := by
  refine ⟨fun call => (Client.judged_session c call).imp fun _ _ => Client.Judged.decided,
    fun identity name => (Client.judged_runnerStatus c identity name).imp fun _ _ => Client.Judged.decided,
    fun identity => (Client.judged_registrationToken c identity).imp fun _ _ => Client.Judged.decided,
    Client.traces_noMessage c,
    fun net rest s config turns => ⟨heard_spoken c net rest s (run config turns), ?_⟩⟩
  rw [role_spoken]
  exact paced_ran ((traces_run config turns).run (hearing c net rest) s)

end PoolScaler.Listener
