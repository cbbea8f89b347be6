import PoolScaler.Proofs.Source.Stock
set_option autoImplicit false

/-!
# Asking for tokens

Which requests of a client ask for a token, and how each of its calls draws on its
stocks: a call takes one token of a kind at most, asks for it only if the stock has none
with enough time left, and keeps it if it is granted.
-/

namespace PoolScaler.Client

open Dialogue (Traces)

-- Requests stay folded: what a client does never turns on how one is put together.
attribute [local irreducible] Web.Draft.request?

/-! ## Requests for tokens -/

/-- The request for a token of a scope's registrations, as it is put together. -/
@[irreducible]
def registrationDraft (c : Client) (scope : Scope) (authorization : Web.Authorization) :
    Web.Draft where
  method := .post
  url := c.config.apiUrl ++ scope.runnersPath ++ "/registration-token"
  query := []
  accept := apiForm
  authorization := some authorization
  body := none

/-- The request for the service of a scope, as it is put together. -/
@[irreducible]
def connectionDraft (c : Client) (scope : Scope) (registration : RegistrationToken) :
    Web.Draft where
  method := .post
  url := c.config.apiUrl ++ "/actions/runner-registration"
  query := []
  accept := none
  authorization := some (.remote registration.token)
  body := some (.object [
    ("url", .str (scope.configUrl c.config.webUrl)),
    ("runner_event", .str "register")])

/-- A request asks for a token of the registrations in an identity's scope. -/
def AsksForRegistration (c : Client) (identity : Identity) (request : Web.Request) : Prop :=
  ∃ scope authorization, Scope.ofIdentity identity = .ok scope ∧
    (∀ statement, authorization ≠ .app statement) ∧
    (c.registrationDraft scope authorization).request? c.config.userAgent
      c.config.requestTimeout = some request

/-- A request asks for a token of an app's installation, for a client that is an app. -/
def AsksForInstallation (c : Client) (request : Web.Request) : Prop :=
  ∃ key statement, c.credentials = .app key ∧ (c.issueDraft key statement).request?
    c.config.userAgent c.config.requestTimeout = some request

/-- The key under which a client keeps its token, if it is an app. -/
def installationKey (c : Client) : String :=
  match c.credentials with
  | .app key => toString key.installationId.toInt
  | .token _ | .basic _ => ""

/-- Ask for a token, and keep what is granted in a stock. -/
def requestToken {α : Type} (c : Client) (d : Stock α) (draft : Web.Draft) (name : String)
    (now : Instant) : ClientDialogue α :=
  (c.send draft).andThen fun r =>
  Dialogue.after (Api.checkedDecode IssuedToken.fields r) fun issued =>
  Dialogue.after (Api.instant issued.expiresAt) fun expires =>
    (keep (d.issue name ⟨issued.token, expires⟩ now)).bind fun _ =>
      .done (.ok (d.value ⟨issued.token, expires⟩))

/-- What a client does for a token that it does not have. -/
def requestRegistration (c : Client) (identity : Identity) (now : Instant) :
    ClientDialogue RegistrationToken :=
  Dialogue.after (Scope.ofIdentity identity) fun scope =>
  c.authorization.andThen fun authorization =>
  c.requestToken registrations (c.registrationDraft scope authorization) identity.scopeKey now

theorem registrationToken_eq (c : Client) (identity : Identity) :
    c.registrationToken identity = clock.bind fun now => shelf.bind fun kept =>
      match kept.registration.get? identity.scopeKey now with
      | some token => .done (.ok token)
      | none => c.requestRegistration identity now := by
  unfold registrationToken requestRegistration registrationDraft
  rfl

theorem adminConnection_eq (c : Client) (identity : Identity) :
    c.adminConnection identity = Dialogue.after (Scope.ofIdentity identity) fun scope =>
      (c.registrationToken identity).andThen fun registration =>
      (c.send (c.connectionDraft scope registration)).andThen fun r =>
      .done (Api.checkedDecode AdminConnection.fields r) := by
  unfold adminConnection connectionDraft
  rfl

section

variable {c : Client} {identity : Identity} {request : Web.Request}

theorem AsksForRegistration.parts (h : c.AsksForRegistration identity request) :
    request.body = none ∧ ∃ text, request.authorization = some (.text text) := by
  obtain ⟨scope, authorization, -, hplain, hrequest⟩ := h
  obtain ⟨-, hbody, hheader, -⟩ := request?_parts hrequest
  unfold registrationDraft at hbody hheader
  refine ⟨hbody, ?_⟩
  rw [hheader authorization rfl]
  cases authorization with
  | app statement => exact absurd rfl (hplain statement)
  | bearer token => exact ⟨_, rfl⟩
  | basic auth => exact ⟨_, rfl⟩
  | remote token => exact ⟨_, rfl⟩

theorem AsksForInstallation.signed (h : c.AsksForInstallation request) :
    ∃ statement, request.authorization = some (.signed statement) := by
  obtain ⟨key, statement, -, hrequest⟩ := h
  obtain ⟨-, -, hheader, -⟩ := request?_parts hrequest
  unfold issueDraft at hheader
  exact ⟨statement, hheader _ rfl⟩

/-- No request asks for tokens of both kinds. -/
theorem AsksForRegistration.not_installation (h : c.AsksForRegistration identity request) :
    ¬ c.AsksForInstallation request := by
  intro h'
  obtain ⟨-, text, htext⟩ := h.parts
  obtain ⟨statement, hsigned⟩ := h'.signed
  rw [htext] at hsigned
  cases hsigned

/-- A request for the service shows the token of a registration, and asks for no token. -/
theorem connection_parts {scope : Scope} {registration : RegistrationToken}
    (h : (c.connectionDraft scope registration).request? c.config.userAgent
      c.config.requestTimeout = some request) :
    request.authorization = some (.text ("RemoteAuth " ++ registration.token)) ∧
      (∀ identity, ¬ c.AsksForRegistration identity request) ∧
      ¬ c.AsksForInstallation request := by
  obtain ⟨-, hbody, hheader, -⟩ := request?_parts h
  unfold connectionDraft at hbody hheader
  have hshown := hheader _ rfl
  refine ⟨hshown, fun identity hasks => ?_, fun hasks => ?_⟩
  · rw [hasks.parts.1] at hbody
    cases hbody
  · obtain ⟨statement, hsigned⟩ := hasks.signed
    rw [hshown] at hsigned
    cases hsigned

/-- A token is asked for by one request, and is kept if it is granted. -/
theorem traces_issue {α : Type} (d : Stock α) {asks : Web.Request → Prop} {draft : Web.Draft}
    (name : String) (now : Instant)
    (hasks : ∀ request, draft.request? c.config.userAgent c.config.requestTimeout = some request →
      asks request) :
    (c.requestToken d draft name now).Traces fun steps result =>
      (∃ fault, result = .error fault ∧ Quiet d asks steps ∧ keeps steps = [] ∧
        ∀ sent ∈ sends steps, asks sent.1) ∨
      ∃ request outcome g, asks request ∧ grantOf? outcome = some g ∧ result = .ok (d.value g) ∧
        steps = [⟨.send request, outcome⟩, ⟨.keep (d.issue name g now), ()⟩] := by
  refine traces_send ?_ ?_ ?_
  · exact .inl ⟨_, rfl, .nil, rfl, List.forall_mem_nil _⟩
  · intro request timedOut hrequest
    refine .inl ⟨_, rfl, quiet_send fun _ => grantOf?_broken timedOut, rfl, fun sent hsent => ?_⟩
    exact List.mem_singleton.mp hsent ▸ hasks request hrequest
  · intro request r hrequest
    have hlone : ∀ sent ∈ sends [⟨.send request, .response r⟩], asks sent.1 :=
      fun sent hsent => List.mem_singleton.mp hsent ▸ hasks request hrequest
    refine Traces.after (fun issued hissued => ?_) fun fault hfault => ?_
    · refine Traces.after (fun expires hexpires => ?_) fun fault hfault => ?_
      · refine Traces.call_bind fun u => .inr ?_
        exact ⟨request, .response r, _, hasks request hrequest,
          grantOf?_eq_some hissued hexpires, rfl, rfl⟩
      · exact .inl ⟨fault, rfl, quiet_send fun _ => grantOf?_of_untimed hissued hfault, rfl, hlone⟩
    · exact .inl ⟨fault, rfl, quiet_send fun _ => grantOf?_of_unread hfault, rfl, hlone⟩

theorem traces_issue_asks {α : Type} (d : Stock α) {asks : Web.Request → Prop}
    {draft : Web.Draft} (name : String) (now : Instant)
    (hasks : ∀ request, draft.request? c.config.userAgent c.config.requestTimeout = some request →
      asks request) :
    (c.requestToken d draft name now).Traces fun steps _ => ∀ sent ∈ sends steps, asks sent.1 := by
  refine (traces_issue d name now hasks).imp ?_
  rintro steps result (⟨-, -, -, -, hsends⟩ | ⟨request, outcome, g, hrequest, -, -, rfl⟩)
  · exact hsends
  · exact fun sent hsent => List.mem_singleton.mp hsent ▸ hrequest

/-- The token of an app is drawn on its stock, and registrations are left alone. -/
theorem traces_installationToken_draws {key : AppKey} (hkey : c.credentials = .app key) :
    (c.installationToken key).Traces fun steps result =>
      Draws appTokens c.AsksForInstallation c.installationKey steps result ∧
      ∀ identity, Quiet registrations (c.AsksForRegistration identity) steps := by
  have hname : c.installationKey = toString key.installationId.toInt := by
    unfold installationKey
    rw [hkey]
  rw [installationToken_eq, hname]
  refine Traces.call_bind fun now => Traces.call_bind fun kept => ?_
  split
  · rename_i token hfound
    exact ⟨.served hfound, fun identity => Quiet.nil.looks now kept⟩
  · rename_i hnone
    refine Traces.after (fun statement _ => ?_) fun fault _ => ?_
    · have hasks : ∀ request, (c.issueDraft key statement).request? c.config.userAgent
          c.config.requestTimeout = some request → c.AsksForInstallation request :=
        fun request hrequest => ⟨key, statement, hkey, hrequest⟩
      refine (traces_issue appTokens _ now hasks).imp ?_
      rintro steps result (⟨fault, rfl, hquiet, hkeeps, hsends⟩ |
        ⟨request, outcome, g, hasks, hgrant, rfl, rfl⟩)
      · refine ⟨.failed hnone hquiet, fun identity => Quiet.looks ⟨?_, ?_⟩ now kept⟩
        · rw [hkeeps]
          exact List.forall_mem_nil _
        · exact fun sent hsent hasks => absurd (hsends sent hsent) hasks.not_installation
      · refine ⟨.issued hnone .nil hasks hgrant, fun identity => ?_⟩
        have hsend : Quiet registrations (c.AsksForRegistration identity)
            [⟨.send request, outcome⟩] := quiet_send fun h => absurd hasks h.not_installation
        exact (hsend.append (quiet_keep fun _ => rfl)).looks now kept
    · exact ⟨.failed hnone .nil, fun identity => Quiet.nil.looks now kept⟩

/-- What a client does to be able to show who asks, which is never by an app's statement. -/
structure Authorizes (c : Client) (steps : List Step) (result : Sourced Web.Authorization) :
    Prop where
  plain : ∀ authorization, result = .ok authorization → ∀ statement, authorization ≠ .app statement
  quiet : ∀ identity, Quiet registrations (c.AsksForRegistration identity) steps
  deals : Deals appTokens c.AsksForInstallation c.installationKey steps

theorem traces_authorization_deals (c : Client) : c.authorization.Traces (Authorizes c) := by
  unfold authorization
  split
  · rename_i token htoken
    refine ⟨?_, fun identity => .nil, .quiet .nil⟩
    rintro _ ⟨⟩ statement ⟨⟩
  · rename_i auth hauth
    refine ⟨?_, fun identity => .nil, .quiet .nil⟩
    rintro _ ⟨⟩ statement ⟨⟩
  · rename_i key hkey
    refine (traces_installationToken_draws hkey).andThen ?_ ?_
    · rintro earlier token ⟨hdraws, hquiet⟩
      refine ⟨?_, fun identity => (hquiet identity).append .nil,
        (Deals.of_draws hdraws).append .nil⟩
      rintro _ ⟨⟩ statement ⟨⟩
    · exact fun earlier fault ⟨hdraws, hquiet⟩ => ⟨nofun, hquiet, .of_draws hdraws⟩

/-- A token for registrations is drawn on its stock, and at most one token of an app. -/
theorem traces_registrationToken_draws (c : Client) (identity : Identity) :
    (c.registrationToken identity).Traces fun steps result =>
      Draws registrations (c.AsksForRegistration identity) identity.scopeKey steps result ∧
      Deals appTokens c.AsksForInstallation c.installationKey steps := by
  rw [registrationToken_eq]
  refine Traces.call_bind fun now => Traces.call_bind fun kept => ?_
  have hlooks : Quiet appTokens c.AsksForInstallation [⟨.clock, now⟩, ⟨.shelf, kept⟩] :=
    Quiet.nil.looks now kept
  split
  · rename_i token hfound
    exact ⟨.served hfound, .quiet hlooks⟩
  · rename_i hnone
    unfold requestRegistration
    refine Traces.after (fun scope hscope => ?_) fun fault _ => ?_
    · refine (traces_authorization_deals c).andThen (fun before authorization hauth => ?_) ?_
      · have hasks : ∀ request, (c.registrationDraft scope authorization).request?
            c.config.userAgent c.config.requestTimeout = some request →
            c.AsksForRegistration identity request :=
          fun request hrequest => ⟨scope, authorization, hscope, hauth.plain _ rfl, hrequest⟩
        refine (traces_issue registrations _ now hasks).imp ?_
        rintro steps result (⟨fault, rfl, hquiet, hkeeps, hsends⟩ |
          ⟨request, outcome, g, hasks, hgrant, rfl, rfl⟩)
        · refine ⟨.failed hnone ((hauth.quiet identity).append hquiet),
            (hauth.deals.append ⟨?_, ?_⟩).prepend hlooks⟩
          · rw [hkeeps]
            exact List.forall_mem_nil _
          · exact fun sent hsent hasks => absurd hasks (hsends sent hsent).not_installation
        · have hsend : Quiet appTokens c.AsksForInstallation [⟨.send request, outcome⟩] :=
            quiet_send fun h => absurd h hasks.not_installation
          exact ⟨.issued hnone (hauth.quiet identity) hasks hgrant,
            (hauth.deals.append (hsend.append (quiet_keep fun _ => rfl))).prepend hlooks⟩
      · exact fun before fault hauth =>
          ⟨.failed hnone (hauth.quiet identity), hauth.deals.prepend hlooks⟩
    · exact ⟨.failed hnone .nil, .quiet hlooks⟩

/-- What a client does to both stocks for an identity. -/
structure Deal (c : Client) (identity : Identity) (steps : List Step) : Prop where
  registration : Deals registrations (c.AsksForRegistration identity) identity.scopeKey steps
  installation : Deals appTokens c.AsksForInstallation c.installationKey steps

theorem traces_registrationToken_deal (c : Client) (identity : Identity) :
    (c.registrationToken identity).Traces fun steps _ => Deal c identity steps :=
  (traces_registrationToken_draws c identity).imp fun _ _ h => ⟨.of_draws h.1, h.2⟩

/-- To ask for the service of a scope takes a token for registrations and then one request
that asks for no token. -/
theorem traces_adminConnection_deal (c : Client) (identity : Identity) :
    (c.adminConnection identity).Traces fun steps _ => Deal c identity steps := by
  rw [adminConnection_eq]
  refine Traces.after (fun scope _ => ?_) fun fault _ => ⟨.quiet .nil, .quiet .nil⟩
  refine (traces_registrationToken_deal c identity).andThen (fun earlier registration hdeal => ?_)
    fun earlier fault hdeal => hdeal
  have hsent : ∀ {request outcome}, (c.connectionDraft scope registration).request?
      c.config.userAgent c.config.requestTimeout = some request →
      Deal c identity (earlier ++ [⟨.send request, outcome⟩]) := by
    intro request outcome hrequest
    obtain ⟨-, hregistration, hinstallation⟩ := connection_parts hrequest
    exact ⟨hdeal.registration.append (quiet_send fun h => absurd h (hregistration identity)),
      hdeal.installation.append (quiet_send fun h => absurd h hinstallation)⟩
  refine traces_send ?_ (fun request timedOut hrequest => hsent hrequest)
    fun request r hrequest => hsent hrequest
  rw [List.append_nil]
  exact hdeal

end

end PoolScaler.Client
