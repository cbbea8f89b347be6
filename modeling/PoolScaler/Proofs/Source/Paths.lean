import PoolScaler.Proofs.Pool.Scope
import PoolScaler.Proofs.Source.Margin
import PoolScaler.Proofs.Web.Path
set_option autoImplicit false

/-!
# Where the runners of a scope are asked for

A client asks for the runners of a scope, and for tokens to register them, at the path of
the scope only.  These paths differ from scope to scope as they are put together.  They are
sent in their normal form, though, in which the names of a scope can lead elsewhere: names
that stand for themselves lead to different places.
-/

namespace PoolScaler

namespace Scope

/-- The parts of a scope's path in which it differs from others. -/
def segments : Scope → List String
  | .repository owner name => ["repos", owner, name]
  | .organization name => ["orgs", name]
  | .enterprise name => ["enterprises", name]

theorem segments_ne_nil (scope : Scope) : scope.segments ≠ [] := by
  cases scope <;> exact List.cons_ne_nil _ _

/-- The names of a scope stand for themselves in a path. -/
def Plain (scope : Scope) : Prop := ∀ part ∈ scope.segments, Web.Plain part

instance (scope : Scope) : Decidable scope.Plain :=
  inferInstanceAs (Decidable (∀ part ∈ scope.segments, Web.Plain part))

theorem runnersPath_eq (scope : Scope) : scope.runnersPath =
    String.ofList ('/' :: Web.Url.below (scope.segments ++ ["actions", "runners"])) := by
  refine String.toList_injective ?_
  cases scope <;> simp [runnersPath, segments, Web.Url.below, List.intercalate]

theorem tokenPath_eq (scope : Scope) : scope.runnersPath ++ "/registration-token" =
    String.ofList ('/' :: Web.Url.below
      (scope.segments ++ ["actions", "runners", "registration-token"])) := by
  refine String.toList_injective ?_
  cases scope <;> simp [runnersPath, segments, Web.Url.below, List.intercalate]

/-- No path of a scope goes on as that of another one. -/
theorem segments_injective {scope scope' : Scope} {more more' : List String}
    (h : scope.segments ++ more = scope'.segments ++ more') : scope = scope' := by
  cases scope <;> cases scope' <;> simp_all [segments]

end Scope

namespace Web

theorem withQuery_path (u : Url) (pairs : List (String × String)) :
    (u.withQuery pairs).path = u.path := by
  unfold Url.withQuery
  dsimp only
  split <;> rfl

/-- A request goes to the path of its draft's address. -/
theorem request?_path {d : Draft} {userAgent : String} {timeout : Span} {request : Request}
    (h : d.request? userAgent timeout = some request) :
    ∃ url, Url.parse? d.url = some url ∧ request.url.path = url.path := by
  unfold Draft.request? at h
  obtain ⟨url, hurl, h⟩ := Option.bind_eq_some_iff.mp h
  refine ⟨url, hurl, ?_⟩
  dsimp only at h
  split at h
  · cases h
  · split at h
    all_goals
      split at h
      · cases h
      · obtain rfl := Option.some.inj h
        simp [withQuery_path]

end Web

namespace Client

open Dialogue (Traces)

attribute [local irreducible] Web.Draft.request?

variable {c : Client}

/-- A request asks for the runners of a scope: for a page of them, or for a token with which
to register one. -/
inductive AsksOfScope (c : Client) (scope : Scope) (request : Web.Request) : Prop where
  | page {page : Nat} (h : c.AsksForPage scope page request)
  | token {authorization : Web.Authorization}
    (h : (c.registrationDraft scope authorization).request? c.config.userAgent
      c.config.requestTimeout = some request)

/-! ## What is sent -/

/-- All requests are of a kind. -/
def Sends (asks : Web.Request → Prop) (steps : List Step) : Prop :=
  ∀ sent ∈ sends steps, asks sent.1

theorem Sends.append {asks : Web.Request → Prop} {steps later : List Step} (h : Sends asks steps)
    (h' : Sends asks later) : Sends asks (steps ++ later) := by
  intro sent hsent
  rw [sends_append] at hsent
  exact (List.mem_append.mp hsent).elim (h sent) (h' sent)

theorem Sends.imp {asks asks' : Web.Request → Prop} {steps : List Step} (h : Sends asks steps)
    (himp : ∀ request, asks request → asks' request) : Sends asks' steps :=
  fun sent hsent => himp sent.1 (h sent hsent)

theorem Sends.nil (asks : Web.Request → Prop) : Sends asks [] := List.forall_mem_nil _

theorem traces_authorization_sends (c : Client) :
    c.authorization.Traces fun steps _ => Sends c.AsksForInstallation steps := by
  unfold authorization
  split
  · exact Sends.nil _
  · exact Sends.nil _
  · rename_i key hkey
    have hasks : ∀ statement request, (c.issueDraft key statement).request? c.config.userAgent
        c.config.requestTimeout = some request → c.AsksForInstallation request :=
      fun statement request hrequest => ⟨key, statement, hkey, hrequest⟩
    have htoken : (c.installationToken key).Traces fun steps _ =>
        Sends c.AsksForInstallation steps := by
      rw [installationToken_eq]
      refine Traces.call_bind fun now => Traces.call_bind fun kept => ?_
      split
      · exact Sends.nil _
      · exact Traces.after (fun statement _ => traces_issue_asks appTokens _ now (hasks statement))
          fun fault _ => Sends.nil _
    exact htoken.andThen (fun earlier token h => h.append (.nil _)) fun earlier fault h => h

/-- A request asks for what an identity has a right to: for the runners of its scope, or for
the token of the app that asks for them. -/
def AsksFor (c : Client) (identity : Identity) (request : Web.Request) : Prop :=
  c.AsksForInstallation request ∨
    ∃ scope, Scope.ofIdentity identity = .ok scope ∧ c.AsksOfScope scope request

theorem AsksFor.of_scope {identity : Identity} {scope : Scope} {request : Web.Request}
    (hscope : Scope.ofIdentity identity = .ok scope) (h : c.AsksOfScope scope request) :
    c.AsksFor identity request := .inr ⟨scope, hscope, h⟩

/-- A token to register a runner is asked for in the scope of the identity. -/
theorem traces_registrationToken_sends (c : Client) (identity : Identity) :
    (c.registrationToken identity).Traces fun steps _ => Sends (c.AsksFor identity) steps := by
  rw [registrationToken_eq]
  refine Traces.call_bind fun now => Traces.call_bind fun kept => ?_
  split
  · exact Sends.nil _
  · unfold requestRegistration
    refine Traces.after (fun scope hscope => ?_) fun fault _ => Sends.nil _
    refine (traces_authorization_sends c).andThen (fun earlier authorization hearlier => ?_)
      fun earlier fault hearlier => hearlier.imp fun _ => .inl
    refine (traces_issue_asks registrations _ now fun request hrequest =>
      AsksFor.of_scope hscope (.token hrequest)).imp fun later result hlater => ?_
    exact (hearlier.imp fun _ => .inl).append hlater

theorem traces_runnerPage_sends {identity : Identity} {scope : Scope}
    (hscope : Scope.ofIdentity identity = .ok scope) (page : Nat) :
    (c.runnerPage scope page).Traces fun steps _ => Sends (c.AsksFor identity) steps := by
  rw [runnerPage_eq]
  refine (traces_authorization_sends c).andThen (fun earlier authorization hearlier => ?_)
    fun earlier fault hearlier => hearlier.imp fun _ => .inl
  have hbefore : Sends (c.AsksFor identity) earlier := hearlier.imp fun _ => .inl
  have hone : ∀ request outcome, (c.pageDraft scope page authorization).request?
      c.config.userAgent c.config.requestTimeout = some request →
      Sends (c.AsksFor identity) (earlier ++ [⟨.send request, outcome⟩]) := by
    intro request outcome hrequest
    refine hbefore.append fun sent hsent => ?_
    rw [List.mem_singleton.mp hsent]
    exact AsksFor.of_scope hscope (.page ⟨authorization, hrequest⟩)
  refine traces_send (hbefore.append (.nil _)) (fun request timedOut => hone request _)
    fun request r => hone request _

/-- Page after page is asked for in one scope. -/
theorem traces_findRunner_sends {identity : Identity} {scope : Scope}
    (hscope : Scope.ofIdentity identity = .ok scope) (name : String) (page pages : Nat) :
    (c.findRunner scope name page pages).Traces fun steps _ =>
      Sends (c.AsksFor identity) steps := by
  induction pages generalizing page with
  | zero => exact Sends.nil _
  | succ pages ih =>
    rw [findRunner]
    refine (traces_runnerPage_sends hscope page).andThen (fun earlier listed hearlier => ?_)
      fun earlier fault hearlier => hearlier
    split
    · exact hearlier.append (.nil _)
    · split
      · exact hearlier.append (.nil _)
      · exact (ih (page + 1)).imp fun later result hlater => hearlier.append hlater

/-- A runner is looked for in the scope of the identity. -/
theorem traces_runnerStatus_sends (c : Client) (identity : Identity) (name : String) :
    (c.runnerStatus identity name).Traces fun steps _ => Sends (c.AsksFor identity) steps := by
  unfold runnerStatus
  exact Traces.after (fun scope hscope => traces_findRunner_sends hscope name 1 pageLimit)
    fun fault _ => Sends.nil _

/-! ## Where it is sent -/

/-- The address of a request for a scope is the one of the interface with the scope's parts
after it. -/
theorem AsksOfScope.address {scope : Scope} {request : Web.Request}
    (h : c.AsksOfScope scope request) : ∃ more url,
      (more = ["actions", "runners"] ∨ more = ["actions", "runners", "registration-token"]) ∧
      Web.Url.parse? (c.config.apiUrl ++
        String.ofList ('/' :: Web.Url.below (scope.segments ++ more))) = some url ∧
      request.url.path = url.path := by
  cases h with
  | page h =>
    obtain ⟨authorization, hrequest⟩ := h
    obtain ⟨url, hurl, hpath⟩ := Web.request?_path hrequest
    refine ⟨_, url, .inl rfl, ?_, hpath⟩
    unfold pageDraft at hurl
    rw [← Scope.runnersPath_eq]
    exact hurl
  | token hrequest =>
    obtain ⟨url, hurl, hpath⟩ := Web.request?_path hrequest
    refine ⟨_, url, .inr rfl, ?_, hpath⟩
    unfold registrationDraft at hurl
    rw [← Scope.tokenPath_eq, ← String.append_assoc]
    exact hurl

/-- Requests for scopes whose names stand for themselves go below one place, each to the
parts of its scope. -/
theorem AsksOfScope.path (hopen : Web.Url.Open c.config.apiUrl) : ∃ above : List String,
    ∀ (scope : Scope) (request : Web.Request), scope.Plain → c.AsksOfScope scope request →
      ∃ more, (∀ part ∈ scope.segments ++ more, Web.Plain part) ∧
        request.url.path = above ++ (scope.segments ++ more).map Web.written := by
  obtain ⟨above, habove⟩ := Web.Url.path_below hopen
  refine ⟨above, fun scope request hplain hasks => ?_⟩
  obtain ⟨more, url, hmore, hurl, hpath⟩ := hasks.address
  have hwords : more ≠ [] ∧ ∀ part ∈ more, Web.Plain part := by
    rcases hmore with rfl | rfl
    · decide
    · decide
  have hend : ∃ body last, Web.Url.below (scope.segments ++ more) = body ++ [last] ∧
      Web.Url.isEdge last = false := by
    rw [Web.Url.below_append scope.segments_ne_nil hwords.1]
    rcases hmore with rfl | rfl
    · refine ⟨Web.Url.below scope.segments ++ "/actions/runner".toList, 's', ?_, by decide⟩
      rw [List.append_assoc]
      rfl
    · refine ⟨Web.Url.below scope.segments ++ "/actions/runners/registration-toke".toList, 'n', ?_,
        by decide⟩
      rw [List.append_assoc]
      rfl
  obtain ⟨body, last, hbody, hlast⟩ := hend
  have hparts := List.forall_mem_append.mpr ⟨hplain, hwords.2⟩
  exact ⟨more, hparts, hpath.trans (habove _ body last hparts hbody hlast url hurl)⟩

/-- Different scopes whose names stand for themselves are asked for at different places. -/
theorem path_ne_of_plain (hopen : Web.Url.Open c.config.apiUrl) {scope scope' : Scope}
    (hplain : scope.Plain) (hplain' : scope'.Plain) (hne : scope ≠ scope')
    {request request' : Web.Request} (h : c.AsksOfScope scope request)
    (h' : c.AsksOfScope scope' request') : request.url.path ≠ request'.url.path := by
  obtain ⟨above, habove⟩ := AsksOfScope.path hopen
  obtain ⟨more, hparts, hpath⟩ := habove scope request hplain h
  obtain ⟨more', hparts', hpath'⟩ := habove scope' request' hplain' h'
  intro hsame
  rw [hpath, hpath'] at hsame
  refine hne (Scope.segments_injective (Web.map_written_injective ?_ ?_
    (List.append_cancel_left hsame)))
  · exact fun part hpart => (hparts part hpart).not_mem (by decide)
  · exact fun part hpart => (hparts' part hpart).not_mem (by decide)

/-- What is asked of a scope stays in it.  The names of an identity are resolved by the rules
and by no others.  A client asks for the runners of an identity, and for tokens to register
them, at the path of its scope and nowhere else, and different scopes have different paths.
If paths can be put after the address of the interface, then requests for different scopes
go to different places as long as the names of the scopes stand for themselves: other names
may lead out of the scope. -/
theorem scopes_are_kept_apart (c : Client) (i j : Identity) :
    (∀ r, Scope.ofIdentity i = r ↔ Scope.Resolves i r) ∧
    (∀ {σ : Type} (env : Surroundings ClientNeed.interface σ) (s : σ) (name : String),
      (∀ sent ∈ sends ((c.runnerStatus i name).run env s).exchanges, c.AsksFor i sent.1) ∧
      ∀ sent ∈ sends ((c.registrationToken i).run env s).exchanges, c.AsksFor i sent.1) ∧
    ∀ scope scope', Scope.ofIdentity i = .ok scope → Scope.ofIdentity j = .ok scope' →
      scope ≠ scope' →
      scope.runnersPath ≠ scope'.runnersPath ∧
      (Web.Url.Open c.config.apiUrl → scope.Plain → scope'.Plain → ∀ request request',
        c.AsksOfScope scope request → c.AsksOfScope scope' request' →
        request.url.path ≠ request'.url.path) := by
  refine ⟨fun r => Scope.ofIdentity_eq_iff, ?_, ?_⟩
  · intro σ env s name
    exact ⟨(traces_runnerStatus_sends c i name).run env s,
      (traces_registrationToken_sends c i).run env s⟩
  · intro scope scope' hi hj hne
    refine ⟨fun hpath => ?_, ?_⟩
    · exact hne (Scope.runnersPath_injective (Scope.whole_of_ofIdentity hi)
        (Scope.whole_of_ofIdentity hj) hpath)
    · intro hopen hplain hplain' request request' h h'
      exact path_ne_of_plain hopen hplain hplain' hne h h'

/-- The repository `acme/app`. -/
def application : Identity := ⟨"", "", "acme/app", "ci"⟩

/-- An organization whose name leads to the repository. -/
def stray : Identity := ⟨"", "../repos/acme/app", "", "ci"⟩

theorem open_desk : Web.Url.Open deskClient.config.apiUrl :=
  ⟨by decide +kernel, by decide, by decide⟩

/-- A client that is no app asks for nothing but the runners of a scope. -/
theorem asksOfScope_of_asksFor {i : Identity} {scope : Scope} {request : Web.Request}
    (hscope : Scope.ofIdentity i = .ok scope) (h : deskClient.AsksFor i request) :
    deskClient.AsksOfScope scope request := by
  rcases h with ⟨key, statement, hkey, -⟩ | ⟨scope', hscope', h⟩
  · cases hkey
  · obtain rfl := Except.ok.inj (hscope.symm.trans hscope')
    exact h

theorem scopes_are_kept_apart_at_desk :
    Web.Url.Open deskClient.config.apiUrl ∧
      Scope.ofIdentity acme = .ok (.organization "acme") ∧
      Scope.ofIdentity application = .ok (.repository "acme" "app") ∧
      (Scope.organization "acme").Plain ∧ (Scope.repository "acme" "app").Plain ∧
      ∃ request request', deskClient.AsksOfScope (.organization "acme") request ∧
        deskClient.AsksOfScope (.repository "acme" "app") request' ∧
        request.url.path ≠ request'.url.path := by
  have hacme : Scope.ofIdentity acme = .ok (.organization "acme") := rfl
  have happlication : Scope.ofIdentity application = .ok (.repository "acme" "app") := by
    decide +kernel
  have hplain : (Scope.organization "acme").Plain := by decide
  have hplain' : (Scope.repository "acme" "app").Plain := by decide
  have hsome : sends ((deskClient.registrationToken acme).run atDesk desk).exchanges ≠ [] ∧
      sends ((deskClient.registrationToken application).run atDesk desk).exchanges ≠ [] := by
    decide +kernel
  obtain ⟨-, hsends, happart⟩ := scopes_are_kept_apart deskClient acme application
  obtain ⟨-, hsends', -⟩ := scopes_are_kept_apart deskClient application acme
  obtain ⟨sent, hsent⟩ := List.exists_mem_of_ne_nil _ hsome.1
  obtain ⟨sent', hsent'⟩ := List.exists_mem_of_ne_nil _ hsome.2
  have hasks := asksOfScope_of_asksFor hacme ((hsends atDesk desk "").2 sent hsent)
  have hasks' := asksOfScope_of_asksFor happlication ((hsends' atDesk desk "").2 sent' hsent')
  obtain ⟨-, hplaces⟩ := happart _ _ hacme happlication nofun
  exact ⟨open_desk, hacme, happlication, hplain, hplain', sent.1, sent'.1, hasks, hasks',
    hplaces open_desk hplain hplain' sent.1 sent'.1 hasks hasks'⟩

/-- Two scopes with different paths that are asked for at one place. -/
theorem request_leaves_scope :
    Scope.ofIdentity stray = .ok (.organization "../repos/acme/app") ∧
      Scope.ofIdentity application = .ok (.repository "acme" "app") ∧
      Scope.runnersPath (.organization "../repos/acme/app") ≠
        Scope.runnersPath (.repository "acme" "app") ∧
      ∀ identity ∈ [stray, application],
        (sends ((deskClient.registrationToken identity).run atDesk desk).exchanges).map
          (·.1.url.render) =
            ["http://[::1]/repos/acme/app/actions/runners/registration-token"] := by
  decide +kernel

end Client

end PoolScaler
