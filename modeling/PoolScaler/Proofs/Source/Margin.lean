import PoolScaler.Proofs.Source.Grants
set_option autoImplicit false

/-!
# Tokens with time left

A client uses a token again as long as enough time is left until it expires: half an hour
for the registration of runners, a minute for an app.  What it has is compared with all
the source granted in the course of its calls: a call that finds such a token asks for
none, any other asks for one, and an answer that grants none leaves what is kept as it was.
-/

namespace PoolScaler.Client

open Dialogue (run_andThen_ok run_andThen_error run_andThen_done)

attribute [local irreducible] Web.Draft.request?

/-! ## Tokens that are used again -/

/-- How a question for a token is answered at a time, with what the source granted before. -/
structure Reuse {α : Type} (d : Stock α) (asks : Web.Request → Prop) (issued : Grant → Prop)
    (now : Instant) (before after : TokenShelf) (steps : List Step) (result : Sourced α) :
    Prop where
  /-- It is answered without a request exactly when a token was granted before that has
  enough time left, and with such a token. -/
  served_iff : ∀ a, (result = .ok a ∧ sends steps = []) ↔
    ∃ g, issued g ∧ g.Lasts d.margin now ∧ d.value g = a
  /-- Else a token is granted to a request that asks for one. -/
  granted : ∀ a, result = .ok a → sends steps ≠ [] → ∃ g, Granted asks steps g ∧ d.value g = a
  /-- A question that fails leaves the stock as it was. -/
  failed : ∀ fault, result = .error fault → d.cache after = d.cache before

theorem Draws.reuse {α : Type} {d : Stock α} {asks : Web.Request → Prop} {key : String}
    {granted : String → Grant → Prop} {shelf shelf' : TokenShelf} {time time' now : Instant}
    {steps : List Step} {result : Sourced α} (h : Draws d asks key steps result)
    (hgoes : Goes shelf' time' shelf time steps)
    (hmirrors : Mirrors d granted (d.cache shelf) time)
    (hnow : ∃ later, steps = ⟨.clock, now⟩ :: later) :
    Reuse d asks (granted key) now shelf shelf' steps result := by
  have hserved : ∀ {kept : TokenShelf} {rest : List Step} (now : Instant),
      Goes shelf' time' shelf time (⟨.clock, now⟩ :: ⟨.shelf, kept⟩ :: rest) → ∀ a,
      ((d.cache kept).get? key now = some a ↔
        ∃ g, granted key g ∧ g.Lasts d.margin now ∧ d.value g = a) := by
    rintro kept rest now ⟨hle, rfl, -⟩ a
    exact hmirrors.get?_iff key now a hle
  obtain ⟨later, hlater⟩ := hnow
  cases h with
  | served hfound =>
    cases hlater
    refine ⟨fun a => ?_, fun a _ hsent => absurd rfl hsent, nofun⟩
    rw [← hserved now hgoes, hfound]
    exact ⟨fun h => congrArg some (Except.ok.inj h.1),
      fun h => ⟨congrArg Except.ok (Option.some.inj h), rfl⟩⟩
  | failed hnone hquiet =>
    cases hlater
    refine ⟨fun a => ?_, nofun, fun fault _ => hquiet.goes hgoes.2.2⟩
    rw [← hserved now hgoes, hnone]
    exact ⟨fun h => absurd h.1 nofun, nofun⟩
  | @issued _ _ before request outcome g hnone hquiet hasks hgrant =>
    cases hlater
    have hsent : (request, outcome) ∈ sends (before ++ [⟨.send request, outcome⟩,
        ⟨.keep (d.issue key g now), ()⟩]) := by
      rw [sends_append]
      exact List.mem_append_right _ List.mem_cons_self
    refine ⟨fun a => ?_, fun a ha _ => ?_, nofun⟩
    · rw [← hserved now hgoes, hnone]
      exact ⟨fun h => absurd hsent (h.2 ▸ List.not_mem_nil), nofun⟩
    · exact ⟨g, ⟨(request, outcome), hsent, hasks, hgrant⟩, Except.ok.inj ha⟩

/-! ## A course of calls -/

/-- A call that takes a token for registrations. -/
inductive TokenCall where
  /-- To hand the token out. -/
  | registration (identity : Identity)
  /-- To ask for the service of a scope. -/
  | connection (identity : Identity)

namespace TokenCall

def identity : TokenCall → Identity
  | registration identity => identity
  | connection identity => identity

/-- What a call ends with. -/
def Value : TokenCall → Type
  | registration _ => RegistrationToken
  | connection _ => AdminConnection

end TokenCall

/-- The answer to a call. -/
def answer (c : Client) : (call : TokenCall) → ClientDialogue call.Value
  | .registration identity => c.registrationToken identity
  | .connection identity => c.adminConnection identity

theorem traces_answer_deal (c : Client) (call : TokenCall) :
    (c.answer call).Traces fun steps _ => Deal c call.identity steps := by
  cases call with
  | registration identity => exact traces_registrationToken_deal c identity
  | connection identity => exact traces_adminConnection_deal c identity

section

variable {σ : Type} {env : Surroundings ClientNeed.interface σ} {shelfOf : σ → TokenShelf}
  {timeOf : σ → Instant}

/-- The state that calls leave, made one after the other. -/
def afterCalls (c : Client) (env : Surroundings ClientNeed.interface σ) : σ → List TokenCall → σ
  | s, [] => s
  | s, call :: later => afterCalls c env ((c.answer call).run env s).state later

/-- What calls show, made one after the other. -/
def course (c : Client) (env : Surroundings ClientNeed.interface σ) :
    σ → List TokenCall → List (TokenCall × List Step)
  | _, [] => []
  | s, call :: later =>
    (call, ((c.answer call).run env s).exchanges) ::
      course c env ((c.answer call).run env s).state later

/-- A token was granted under a key in a course of calls. -/
def GrantedIn (asks : TokenCall → Web.Request → Prop) (keyOf : TokenCall → String)
    (course : List (TokenCall × List Step)) (key : String) (g : Grant) : Prop :=
  ∃ entry ∈ course, key = keyOf entry.1 ∧ Granted (asks entry.1) entry.2 g

/-- A stock mirrors what was granted in the course of all calls. -/
theorem mirrors_afterCalls {α : Type} {c : Client} {d : Stock α}
    {asks : TokenCall → Web.Request → Prop} {keyOf : TokenCall → String}
    (hdeals : ∀ call, (c.answer call).Traces fun steps _ => Deals d (asks call) (keyOf call) steps)
    (hkeeps : Keeps env shelfOf timeOf) (calls : List TokenCall) (s : σ)
    {granted : String → Grant → Prop} (h : Mirrors d granted (d.cache (shelfOf s)) (timeOf s)) :
    Mirrors d (fun key g => granted key g ∨ GrantedIn asks keyOf (c.course env s calls) key g)
      (d.cache (shelfOf (c.afterCalls env s calls))) (timeOf (c.afterCalls env s calls)) := by
  induction calls generalizing s granted with
  | nil => exact h.congr fun key g => or_iff_left fun ⟨_, hentry, _⟩ => nomatch hentry
  | cons call later ih =>
    have hstep := ((hdeals call).run env s).mirrors (hkeeps.goes (c.answer call) s) h
    refine (ih _ hstep).congr fun key g => ?_
    simp only [course, GrantedIn, List.exists_mem_cons_iff, or_assoc]

/-- A stock that was empty mirrors what was granted since. -/
theorem mirrors_of_empty {α : Type} {c : Client} {d : Stock α}
    {asks : TokenCall → Web.Request → Prop} {keyOf : TokenCall → String}
    (hdeals : ∀ call, (c.answer call).Traces fun steps _ => Deals d (asks call) (keyOf call) steps)
    (hkeeps : Keeps env shelfOf timeOf) {start : σ} (hempty : d.cache (shelfOf start) = .empty)
    (calls : List TokenCall) :
    Mirrors d (GrantedIn asks keyOf (c.course env start calls))
      (d.cache (shelfOf (c.afterCalls env start calls)))
      (timeOf (c.afterCalls env start calls)) := by
  have hstart : Mirrors d (fun _ _ => False) (d.cache (shelfOf start)) (timeOf start) := by
    rw [hempty]
    exact .empty d _
  exact (mirrors_afterCalls hdeals hkeeps calls start hstart).congr fun _ _ =>
    (or_iff_right not_false).symm

/-- The tokens for registrations that were granted under a key in a course of calls. -/
def registered (c : Client) (course : List (TokenCall × List Step)) : String → Grant → Prop :=
  GrantedIn (fun call => c.AsksForRegistration call.identity) (fun call => call.identity.scopeKey)
    course

/-- The tokens of an app that were granted under a key in a course of calls. -/
def installed (c : Client) (course : List (TokenCall × List Step)) : String → Grant → Prop :=
  GrantedIn (fun _ => c.AsksForInstallation) (fun _ => c.installationKey) course

theorem mirrors_registered (c : Client) (hkeeps : Keeps env shelfOf timeOf) {start : σ}
    (hempty : shelfOf start = .empty) (calls : List TokenCall) :
    Mirrors registrations (c.registered (c.course env start calls))
      (shelfOf (c.afterCalls env start calls)).registration
      (timeOf (c.afterCalls env start calls)) :=
  mirrors_of_empty (fun call => (traces_answer_deal c call).imp fun _ _ h => h.registration)
    hkeeps (congrArg TokenShelf.registration hempty) calls

theorem mirrors_installed (c : Client) (hkeeps : Keeps env shelfOf timeOf) {start : σ}
    (hempty : shelfOf start = .empty) (calls : List TokenCall) :
    Mirrors appTokens (c.installed (c.course env start calls))
      (shelfOf (c.afterCalls env start calls)).app (timeOf (c.afterCalls env start calls)) :=
  mirrors_of_empty (fun call => (traces_answer_deal c call).imp fun _ _ h => h.installation)
    hkeeps (congrArg TokenShelf.app hempty) calls

/-- What is asked for the service of a scope, beside what is asked for a token. -/
structure Connects (c : Client) (shelfOf : σ → TokenShelf) (identity : Identity) (s : σ)
    (fetch : Dialogue.Outcome ClientNeed.interface σ (Sourced RegistrationToken))
    (conn : Dialogue.Outcome ClientNeed.interface σ (Sourced AdminConnection)) : Prop where
  /-- Without a scope nothing is asked at all. -/
  scopeless : ∀ fault, Scope.ofIdentity identity = .error fault → conn = ⟨.error fault, [], s⟩
  /-- Without a token nothing more is asked. -/
  failed : ∀ scope fault, Scope.ofIdentity identity = .ok scope → fetch.result = .error fault →
    conn = ⟨.error fault, fetch.exchanges, fetch.state⟩
  /-- The token is shown with one request, unless that cannot be sent, and the tokens that
  are kept stay as they are. -/
  used : ∀ scope token, Scope.ofIdentity identity = .ok scope → fetch.result = .ok token →
    shelfOf conn.state = shelfOf fetch.state ∧
      (conn.exchanges = fetch.exchanges ∨ ∃ request outcome,
        conn.exchanges = fetch.exchanges ++ [⟨.send request, outcome⟩] ∧
          request.authorization = some (.text ("RemoteAuth " ++ token.token)))

/-- What an app does for the authorization to ask for a token for registrations. -/
structure Installs (fetch : Dialogue.Outcome ClientNeed.interface σ (Sourced RegistrationToken))
    (looks : List Step) (draw : Dialogue.Outcome ClientNeed.interface σ (Sourced String)) :
    Prop where
  /-- Without a token of its own it does not ask. -/
  failed : ∀ fault, draw.result = .error fault →
    fetch.result = .error fault ∧ fetch.exchanges = looks ++ draw.exchanges
  /-- It shows its token with each request that follows. -/
  used : ∀ token, draw.result = .ok token → ∃ later,
    fetch.exchanges = looks ++ draw.exchanges ++ later ∧
      ∀ sent ∈ sends later, sent.1.authorization = some (.text ("Bearer " ++ token))

/-- A request is sent, or it cannot be sent. -/
theorem run_send (c : Client) (draft : Web.Draft) (s : σ) :
    let out := (c.send draft).run env s
    (out.exchanges = [] ∧ out.state = s) ∨ ∃ request,
      draft.request? c.config.userAgent c.config.requestTimeout = some request ∧
      out.exchanges = [⟨.send request, (env s (.send request)).1⟩] ∧
      out.state = (env s (.send request)).2 := by
  unfold send exchange
  cases hrequest : draft.request? c.config.userAgent c.config.requestTimeout with
  | none => exact .inl ⟨rfl, rfl⟩
  | some request =>
    refine .inr ⟨request, rfl, ?_⟩
    dsimp only [Dialogue.run]
    split
    · exact ⟨rfl, rfl⟩
    · exact ⟨rfl, rfl⟩

theorem Keeps.connects (hkeeps : Keeps env shelfOf timeOf) (c : Client) (identity : Identity)
    (s : σ) : Connects c shelfOf identity s ((c.registrationToken identity).run env s)
      ((c.adminConnection identity).run env s) := by
  rw [adminConnection_eq]
  refine ⟨fun fault hscope => ?_, fun scope fault hscope hfailed => ?_,
    fun scope token hscope htoken => ?_⟩
  · rw [hscope]
    rfl
  · rw [hscope]
    exact run_andThen_error hfailed _
  · rw [hscope]
    dsimp only [Dialogue.after]
    rw [run_andThen_ok htoken]
    dsimp only
    obtain ⟨hexchanges, hstate⟩ := run_andThen_done env
      ((c.registrationToken identity).run env s).state (c.send (c.connectionDraft scope token))
      (Api.checkedDecode AdminConnection.fields)
    rw [hexchanges, hstate]
    obtain ⟨hnone, hstill⟩ | ⟨request, hrequest, hone, hmoved⟩ := run_send c
      (c.connectionDraft scope token) ((c.registrationToken identity).run env s).state
    · rw [hnone, hstill, List.append_nil]
      exact ⟨rfl, .inl rfl⟩
    · rw [hone, hmoved]
      exact ⟨hkeeps.leave _ (.send request) nofun,
        .inr ⟨request, _, rfl, (connection_parts hrequest).1⟩⟩

/-- What a client has seen when it turns to its authorization. -/
def looksOf (shelfOf : σ → TokenShelf) (env : Surroundings ClientNeed.interface σ) (s : σ) :
    List Step := [⟨.clock, (env s .clock).1⟩, ⟨.shelf, shelfOf s⟩]

/-- The state in which a client turns to its authorization. -/
def turnOf (env : Surroundings ClientNeed.interface σ) (s : σ) : σ :=
  (env (env s .clock).2 .shelf).2

/-- A dialogue that looks at the clock and at the shelf goes on with what it saw. -/
theorem run_looks {α : Type} (env : Surroundings ClientNeed.interface σ) (s : σ)
    (f : Instant → TokenShelf → ClientDialogue α) :
    (Client.clock.bind fun now => Client.shelf.bind fun kept => f now kept).run env s =
      let later := (f (env s .clock).1 (env (env s .clock).2 .shelf).1).run env (turnOf env s)
      ⟨later.result, ⟨.clock, (env s .clock).1⟩ ::
        ⟨.shelf, (env (env s .clock).2 .shelf).1⟩ :: later.exchanges, later.state⟩ := rfl

theorem Keeps.le_clock (hkeeps : Keeps env shelfOf timeOf) (s : σ) :
    timeOf s ≤ (env s .clock).1 := by
  rw [hkeeps.clock]
  exact hkeeps.forward s .clock

theorem Keeps.timeOf_turnOf (hkeeps : Keeps env shelfOf timeOf) (s : σ) :
    timeOf s ≤ timeOf (turnOf env s) :=
  UInt64.le_trans (hkeeps.forward s .clock) (hkeeps.forward _ .shelf)

theorem run_registrationToken_looks (c : Client) (identity : Identity) (s : σ) :
    ∃ later, ((c.registrationToken identity).run env s).exchanges =
      ⟨.clock, (env s .clock).1⟩ :: later := by
  rw [registrationToken_eq, run_looks]
  exact ⟨_, rfl⟩

theorem run_installationToken_looks (c : Client) (key : AppKey) (s : σ) :
    ∃ later, ((c.installationToken key).run env s).exchanges =
      ⟨.clock, (env s .clock).1⟩ :: later := by
  rw [installationToken_eq, run_looks]
  exact ⟨_, rfl⟩

theorem Keeps.shelfOf_turnOf (hkeeps : Keeps env shelfOf timeOf) (s : σ) :
    shelfOf (turnOf env s) = shelfOf s := by
  unfold turnOf
  rw [hkeeps.leave _ .shelf nofun, hkeeps.leave _ .clock nofun]

/-- A client that has no token with enough time left asks for one after two looks. -/
theorem Keeps.run_registrationToken (hkeeps : Keeps env shelfOf timeOf) {c : Client}
    {identity : Identity} {s : σ} (hnone : (shelfOf s).registration.get? identity.scopeKey
      (env s .clock).1 = none) :
    let ask := (c.requestRegistration identity (env s .clock).1).run env (turnOf env s)
    (c.registrationToken identity).run env s =
      ⟨ask.result, looksOf shelfOf env s ++ ask.exchanges, ask.state⟩ := by
  have hkept : (env (env s .clock).2 .shelf).1 = shelfOf s := by
    rw [hkeeps.shelf, hkeeps.leave s .clock nofun]
  rw [registrationToken_eq, run_looks, hkept, hnone]
  rfl

theorem Keeps.installs (hkeeps : Keeps env shelfOf timeOf) {c : Client} {key : AppKey}
    (hkey : c.credentials = .app key) {identity : Identity} {scope : Scope}
    (hscope : Scope.ofIdentity identity = .ok scope) {s : σ}
    (hnone : (shelfOf s).registration.get? identity.scopeKey (env s .clock).1 = none) :
    Installs ((c.registrationToken identity).run env s) (looksOf shelfOf env s)
      ((c.installationToken key).run env (turnOf env s)) := by
  have hauthorization : c.authorization = (c.installationToken key).andThen fun token =>
      .done (.ok (.bearer token)) := by
    unfold authorization
    rw [hkey]
  rw [hkeeps.run_registrationToken hnone]
  unfold requestRegistration
  rw [hscope]
  dsimp only [Dialogue.after]
  refine ⟨fun fault hfault => ?_, fun token htoken => ?_⟩
  · have hrefused := hauthorization ▸ run_andThen_error hfault fun token =>
      .done (.ok (Web.Authorization.bearer token))
    rw [run_andThen_error (by rw [hrefused]), hrefused]
    exact ⟨rfl, rfl⟩
  · have hauthorized : (c.authorization.run env (turnOf env s)).result = .ok (.bearer token) ∧
        (c.authorization.run env (turnOf env s)).exchanges =
          ((c.installationToken key).run env (turnOf env s)).exchanges := by
      rw [hauthorization, run_andThen_ok htoken]
      exact ⟨rfl, List.append_nil _⟩
    rw [run_andThen_ok hauthorized.1, hauthorized.2]
    refine ⟨_, (List.append_assoc _ _ _).symm, ?_⟩
    have hshown : ∀ request, (c.registrationDraft scope (.bearer token)).request?
        c.config.userAgent c.config.requestTimeout = some request →
        request.authorization = some (.text ("Bearer " ++ token)) := by
      intro request hrequest
      obtain ⟨-, -, hheader, -⟩ := request?_parts hrequest
      unfold registrationDraft at hheader
      exact hheader _ rfl
    exact (traces_issue_asks registrations identity.scopeKey (env s .clock).1 hshown).run env
      (c.authorization.run env (turnOf env s)).state

/-- What a client does for a token in some state, by what was granted in the course of its
earlier calls, and what it leaves of the tokens it has. -/
structure Thrift (c : Client) (env : Surroundings ClientNeed.interface σ)
    (shelfOf : σ → TokenShelf) (timeOf : σ → Instant) (course : List (TokenCall × List Step))
    (s : σ) (identity : Identity) : Prop where
  /-- A token for registrations is used again under the key of its scope, with half an hour
  left. -/
  registration :
    let fetch := (c.registrationToken identity).run env s
    Reuse registrations (c.AsksForRegistration identity) (c.registered course identity.scopeKey)
      (env s .clock).1 (shelfOf s) (shelfOf fetch.state) fetch.exchanges fetch.result
  /-- It is had in the same way to ask for the service of a scope. -/
  connection : Connects c shelfOf identity s ((c.registrationToken identity).run env s)
    ((c.adminConnection identity).run env s)
  /-- The token of an app is used again with a minute left. -/
  installation : ∀ key, c.credentials = .app key →
    let draw := (c.installationToken key).run env (turnOf env s)
    Reuse appTokens c.AsksForInstallation (c.installed course c.installationKey)
      (env (turnOf env s) .clock).1 (shelfOf s) (shelfOf draw.state) draw.exchanges draw.result
  /-- It is had in this way to ask for a token for registrations when none is left. -/
  authorization : ∀ key scope, c.credentials = .app key → Scope.ofIdentity identity = .ok scope →
    (∀ g, c.registered course identity.scopeKey g →
      ¬ g.Lasts registrationMargin (env s .clock).1) →
    Installs ((c.registrationToken identity).run env s) (looksOf shelfOf env s)
      ((c.installationToken key).run env (turnOf env s))
  /-- Whatever a call ends with, each token that could be used can still be used. -/
  lasting : ∀ call : TokenCall, call.identity = identity →
    let shelf := shelfOf ((c.answer call).run env s).state
    ∀ key t, timeOf ((c.answer call).run env s).state ≤ t →
      (∀ token, (shelfOf s).registration.get? key t = some token →
        shelf.registration.get? key t = some token) ∧
      ∀ token, (shelfOf s).app.get? key t = some token → shelf.app.get? key t = some token

/-- Tokens are used again as long as they have enough time left, and only then.  For a
client that starts with no tokens, after any calls for any identities and with any answers
of the source, as long as the clock does not go back. -/
theorem tokens_are_used_again (c : Client) (hkeeps : Keeps env shelfOf timeOf) {start : σ}
    (hempty : shelfOf start = .empty) (earlier : List TokenCall) (identity : Identity) :
    Thrift c env shelfOf timeOf (c.course env start earlier) (c.afterCalls env start earlier)
      identity := by
  have hregistered := mirrors_registered c hkeeps hempty earlier
  have hinstalled := mirrors_installed c hkeeps hempty earlier
  generalize c.afterCalls env start earlier = s at hregistered hinstalled ⊢
  refine ⟨?_, hkeeps.connects c identity s, fun key hkey => ?_,
    fun key scope hkey hscope hnone => ?_, fun call _ => ?_⟩
  · exact ((traces_registrationToken_draws c identity).run env s).1.reuse (hkeeps.goes _ s)
      hregistered (run_registrationToken_looks c identity s)
  · have hdraws := ((traces_installationToken_draws hkey).run env (turnOf env s)).1
    have hturn := hinstalled.later (hkeeps.timeOf_turnOf s)
    rw [← hkeeps.shelfOf_turnOf s] at hturn ⊢
    exact hdraws.reuse (hkeeps.goes _ _) hturn (run_installationToken_looks c key _)
  · refine hkeeps.installs hkey hscope (Option.eq_none_iff_forall_ne_some.mpr ?_)
    intro token hfound
    obtain ⟨g, hgranted, hlasts, -⟩ :=
      (hregistered.get?_iff _ _ token (hkeeps.le_clock s)).mp hfound
    exact hnone g hgranted hlasts
  · have hdeal := (traces_answer_deal c call).run env s
    have hgoes := hkeeps.goes (c.answer call) s
    intro shelf key t ht
    exact ⟨fun token => hregistered.lasting (hdeal.registration.mirrors hgoes hregistered) hgoes.le
        (fun _ _ => .inl) ht,
      fun token => hinstalled.lasting (hdeal.installation.mirrors hgoes hinstalled) hgoes.le
        (fun _ _ => .inl) ht⟩

end

/-! ## A desk with a clock -/

/-- What stands at a desk: tokens on a shelf, the time, and the answers to come. -/
structure Desk where
  shelf : TokenShelf
  time : Instant
  answers : List Web.Outcome
  deriving DecidableEq

/-- Ten minutes later, as long as a clock can show that. -/
def Desk.tick (d : Desk) : Instant := if d.time ≤ d.time + 600 then d.time + 600 else d.time

/-- Ten minutes go by before each look at the clock of a desk. -/
def atDesk : Surroundings ClientNeed.interface Desk := fun d need =>
  match need with
  | .clock => (d.tick, { d with time := d.tick })
  | .shelf => (d.shelf, d)
  | .keep issue => ((), { d with shelf := d.shelf.keep issue })
  | .send _ =>
    match d.answers with
    | [] => (Web.Outcome.broken false, d)
    | answer :: later => (answer, { d with answers := later })

theorem Desk.le_tick (d : Desk) : d.time ≤ d.tick := by
  unfold tick
  split
  · assumption
  · exact UInt64.le_refl _

theorem keeps_atDesk : Keeps atDesk Desk.shelf Desk.time where
  forward d need := by
    cases need with
    | clock => exact d.le_tick
    | shelf => exact UInt64.le_refl _
    | keep issue => exact UInt64.le_refl _
    | send request =>
      obtain ⟨shelf, time, _ | ⟨answer, later⟩⟩ := d
      · exact UInt64.le_refl _
      · exact UInt64.le_refl _
  clock _ := rfl
  shelf _ := rfl
  keep _ _ := rfl
  leave d need hneed := by
    cases need with
    | clock => rfl
    | shelf => rfl
    | keep issue => exact absurd rfl (hneed issue)
    | send request =>
      obtain ⟨shelf, time, _ | ⟨answer, later⟩⟩ := d
      · rfl
      · rfl

/-- A client that shows a token to an address that is a number. -/
def deskClient : Client :=
  ⟨⟨"", some "http://[::1]", "pool", .ofSeconds 30, .ofSeconds 60⟩, .token "t"⟩

/-- A token that expires an hour after the clock was set, as it is granted. -/
def hourToken : Web.Outcome :=
  .response ⟨201, [], Text.Utf8.encode
    "\x7b\"token\":\"reg-1\",\"expires_at\":\"1970-01-01T01:00:00Z\"\x7d", true⟩

/-- A desk at which one token will be granted. -/
def desk : Desk := ⟨.empty, 0, [hourToken]⟩

/-- Whose token is asked for at a desk. -/
def acme : Identity := ⟨"", "acme", "", "ci"⟩

/-- The desk once the token was granted: it is kept until half an hour before it expires. -/
def stocked : Desk := ⟨⟨.empty, ⟨[⟨acme.scopeKey, ⟨"reg-1", 3600⟩, 1800⟩]⟩⟩, 600, []⟩

theorem afterCalls_desk : deskClient.afterCalls atDesk desk [.registration acme] = stocked := by
  decide +kernel

theorem tokens_are_used_again_at_desk :
    Keeps atDesk Desk.shelf Desk.time ∧ desk.shelf = .empty ∧
      let course := deskClient.course atDesk desk [.registration acme]
      let later := deskClient.afterCalls atDesk desk [.registration acme]
      let fetch := (deskClient.registrationToken acme).run atDesk later
      Thrift deskClient atDesk Desk.shelf Desk.time course later acme ∧
        fetch.result = .ok ⟨"reg-1", 3600⟩ ∧ sends fetch.exchanges = [] ∧
        ∃ g, deskClient.registered course acme.scopeKey g ∧ g.Lasts registrationMargin 1200 ∧
          registrations.value g = ⟨"reg-1", 3600⟩ := by
  have hempty : desk.shelf = .empty := rfl
  refine ⟨keeps_atDesk, hempty, ?_⟩
  intro course later fetch
  have hlater : later = stocked := afterCalls_desk
  have hthrift := tokens_are_used_again deskClient keeps_atDesk hempty [.registration acme] acme
  have hserved : fetch.result = .ok ⟨"reg-1", 3600⟩ ∧ sends fetch.exchanges = [] := by
    change ((deskClient.registrationToken acme).run atDesk later).result = _ ∧
      sends ((deskClient.registrationToken acme).run atDesk later).exchanges = []
    rw [hlater]
    decide +kernel
  have hnow : (atDesk later .clock).1 = (1200 : Instant) := by
    rw [hlater]
    rfl
  obtain ⟨g, hgranted, hlasts, hvalue⟩ := (hthrift.registration.served_iff _).mp hserved
  rw [hnow] at hlasts
  exact ⟨hthrift, hserved.1, hserved.2, g, hgranted, hlasts, hvalue⟩

/-- An identity whose key reads like that of another. -/
def crossed : Identity := ⟨",repo=,enterprise=", "a", "", "p"⟩

/-- The other, which has no scope. -/
def scopeless : Identity := ⟨"", "a", ",enterprise=,repo=", "p"⟩

/-- To ask for the service of a scope takes a scope, even where a token is left. -/
theorem scopeless_connection_is_not_served :
    let course := deskClient.course atDesk desk [.registration crossed]
    let later := deskClient.afterCalls atDesk desk [.registration crossed]
    let conn := (deskClient.adminConnection scopeless).run atDesk later
    (∃ g, deskClient.registered course scopeless.scopeKey g ∧
      g.Lasts registrationMargin (atDesk later .clock).1) ∧
      conn.exchanges = [] ∧ ∃ text, conn.result = .error (.invalidScope text) := by
  intro course later conn
  have hkept : later.shelf.registration.get? scopeless.scopeKey (atDesk later .clock).1 =
      some ⟨"reg-1", 3600⟩ := by decide +kernel
  have hempty : desk.shelf = .empty := rfl
  have hmirrors := mirrors_registered deskClient keeps_atDesk hempty [.registration crossed]
  obtain ⟨g, hgranted, hlasts, -⟩ :=
    (hmirrors.get?_iff _ _ _ (keeps_atDesk.le_clock later)).mp hkept
  exact ⟨⟨g, hgranted, hlasts⟩, rfl, _, rfl⟩

end PoolScaler.Client
