import Mathlib.Data.List.Forall2
import PoolScaler.Proofs.Dialogue
import PoolScaler.Source.Client
set_option autoImplicit false

/-!
# Looking for a runner

A client looks for a runner page by page.  That there is no such runner it says on
either of two grounds: every page was listed, up to one that is not full, and none
has the name; or the last request was answered that there is no such thing, be it
the request for a page or the one for the token to ask with.
-/

namespace PoolScaler.Client

open Dialogue (Traces)

/-- A need of a client together with its answer. -/
abbrev Step : Type := Exchange ClientNeed.interface

/-! ## Requests and pages -/

/-- A request to look at something, with what came of it. -/
def look? : Step → Option (Web.Request × Web.Outcome)
  | ⟨.send request, outcome⟩ => if request.method = .get then some (request, outcome) else none
  | _ => none

/-- The requests to look at something, with what came of them, in order. -/
def looks (steps : List Step) : List (Web.Request × Web.Outcome) := steps.filterMap look?

theorem looks_append (steps later : List Step) :
    looks (steps ++ later) = looks steps ++ looks later := List.filterMap_append

-- Drafts stay folded: a search for the form of a dialogue would otherwise put the request
-- together.
/-- The request for a page of the runners of a scope, as it is put together. -/
@[irreducible]
def pageDraft (c : Client) (scope : Scope) (page : Nat) (authorization : Web.Authorization) :
    Web.Draft where
  method := .get
  url := c.config.apiUrl ++ scope.runnersPath
  query := [("per_page", toString pageSize), ("page", toString page)]
  accept := apiForm
  authorization := some authorization
  body := none

/-- The request for a token of an app's installation, as it is put together. -/
@[irreducible]
def issueDraft (c : Client) (key : AppKey) (statement : AppStatement) : Web.Draft where
  method := .post
  url := c.config.apiUrl ++ "/app/installations/" ++ toString key.installationId.toInt ++
    "/access_tokens"
  query := []
  accept := apiForm
  authorization := some (.app statement)
  body := none

theorem pageDraft_method (c : Client) (scope : Scope) (page : Nat)
    (authorization : Web.Authorization) :
    (c.pageDraft scope page authorization).method = .get := by
  unfold pageDraft
  rfl

theorem issueDraft_method (c : Client) (key : AppKey) (statement : AppStatement) :
    (c.issueDraft key statement).method = .post := by
  unfold issueDraft
  rfl

theorem runnerPage_eq (c : Client) (scope : Scope) (page : Nat) :
    c.runnerPage scope page = c.authorization.andThen fun authorization =>
      (c.send (c.pageDraft scope page authorization)).andThen fun r =>
        .done (Api.checkedDecode RunnerPage.fields r) := by
  unfold runnerPage pageDraft
  rfl

theorem installationToken_eq (c : Client) (key : AppKey) :
    c.installationToken key = clock.bind fun now => shelf.bind fun kept =>
      match kept.app.get? (toString key.installationId.toInt) now with
      | some token => .done (.ok token)
      | none =>
        Dialogue.after (key.statement now) fun statement =>
        (c.send (c.issueDraft key statement)).andThen fun r =>
        Dialogue.after (Api.checkedDecode IssuedToken.fields r) fun issued =>
        Dialogue.after (Api.instant issued.expiresAt) fun expires =>
        (keep (.app (toString key.installationId.toInt) issued.token
          (Api.earlier expires appMargin) now)).bind fun _ => .done (.ok issued.token) := by
  unfold installationToken issueDraft
  rfl

/-- A request asks for a page of the runners of a scope. -/
def AsksForPage (c : Client) (scope : Scope) (page : Nat) (request : Web.Request) : Prop :=
  ∃ authorization, (c.pageDraft scope page authorization).request? c.config.userAgent
    c.config.requestTimeout = some request

/-- The page that came: the whole of it, and with a status of success. -/
def pageOf? : Web.Outcome → Option RunnerPage
  | .response r =>
    if r.isSuccess && r.complete then (Json.decodeBytes RunnerPage.fields.read r.body).toOption
    else none
  | .broken _ => none

theorem pageOf?_of_checkedDecode {r : Web.Response} {page : RunnerPage}
    (h : Api.checkedDecode RunnerPage.fields r = .ok page) :
    pageOf? (.response r) = some page := by
  unfold Api.checkedDecode Api.check at h
  cases hsuccess : r.isSuccess with
  | false =>
    rw [hsuccess] at h
    cases h
  | true =>
    simp only [hsuccess, if_true] at h
    unfold Api.decode at h
    cases hcomplete : r.complete with
    | false =>
      rw [hcomplete] at h
      cases h
    | true =>
      cases hbody : Json.decodeBytes RunnerPage.fields.read r.body with
      | error e => simp [hcomplete, hbody] at h
      | ok listed =>
        simp only [hcomplete, hbody, Bool.not_true, Bool.false_eq_true, if_false] at h
        obtain rfl := Except.ok.inj h
        simp [pageOf?, hsuccess, hcomplete, hbody, Except.toOption]

/-- Only one status is read as that there is no such thing. -/
theorem status_of_notFound {α : Type} {fields : Json.Fields α} {r : Web.Response}
    {fault : SourceFault} (h : Api.checkedDecode fields r = .error fault)
    (hkind : fault.kind = .notFound) : r.status = 404 ∧ fault = .notFound r.text := by
  unfold Api.checkedDecode Api.check at h
  split at h
  · rename_i hchecked
    unfold Api.decode at h
    split at h
    · obtain rfl := Except.error.inj h
      cases hkind
    · split at h
      · cases h
      · obtain rfl := Except.error.inj h
        cases hkind
  · rename_i fault' hchecked
    obtain rfl := Except.error.inj h
    split at hchecked
    · cases hchecked
    · have hfault := Except.error.inj hchecked
      split at hfault
      · rw [← hfault] at hkind
        cases hkind
      · split at hfault
        · rename_i hstatus
          exact ⟨hstatus, hfault.symm⟩
        · split at hfault
          · rw [← hfault] at hkind
            cases hkind
          · rw [← hfault] at hkind
            cases hkind

/-- A request that is sent has the parts of its draft, and the address with the query. -/
theorem request?_parts {d : Web.Draft} {userAgent : String} {timeout : Span}
    {request : Web.Request} (h : d.request? userAgent timeout = some request) :
    request.method = d.method ∧ request.body = d.body ∧
      (∀ authorization, d.authorization = some authorization →
        request.authorization = some authorization.header) ∧
      ∃ url : Web.Url, request.url = if d.query.isEmpty then url else url.withQuery d.query := by
  unfold Web.Draft.request? at h
  obtain ⟨url, -, h⟩ := Option.bind_eq_some_iff.mp h
  dsimp only at h
  split at h
  · cases h
  · split at h
    all_goals
      split at h
      · cases h
      · obtain rfl := Option.some.inj h
        refine ⟨rfl, rfl, ?_, { url with user := none }, by simp [*]⟩
        intro authorization hauthorization
        rw [hauthorization]
        rfl

theorem request?_method {d : Web.Draft} {userAgent : String} {timeout : Span}
    {request : Web.Request} (h : d.request? userAgent timeout = some request) :
    request.method = d.method := (request?_parts h).1

/-! ## What a client says there is not -/

/-- Pages that came, counted from one on, by the requests that asked for them.  None
of them has the name. -/
structure Passed (c : Client) (scope : Scope) (name : String) (first : Nat)
    (sent : List (Web.Request × Web.Outcome)) (pages : List RunnerPage) : Prop where
  came : List.Forall₂
    (fun look page => c.AsksForPage scope page.2 look.1 ∧ pageOf? look.2 = some page.1)
    sent (pages.zipIdx first)
  strangers : ∀ page ∈ pages, ∀ entry ∈ page.runners, entry.name ≠ name

/-- What a client went through before it said that there is no such thing, with the
fault it said so by.  It looked at `limit` pages at most. -/
inductive Missing (c : Client) (scope : Scope) (name : String) (first limit : Nat) :
    List Step → SourceFault → Prop
  /-- All pages were listed. -/
  | unlisted {steps : List Step} {pages : List RunnerPage}
    (hpassed : Passed c scope name first (looks steps) pages)
    (hfull : ∀ page ∈ pages.dropLast, pageSize ≤ page.runners.length)
    (hend : (∃ last, pages.getLast? = some last ∧ last.runners.length < pageSize) ∨
      pages.length = limit) :
    Missing c scope name first limit steps (.runnerNotFound name)
  /-- The last request was answered that there is no such thing. -/
  | denied {earlier : List Step} {pages : List RunnerPage} {request : Web.Request}
    {r : Web.Response} (hpassed : Passed c scope name first (looks earlier) pages)
    (hfull : ∀ page ∈ pages, pageSize ≤ page.runners.length) (hstatus : r.status = 404) :
    Missing c scope name first limit (earlier ++ [⟨.send request, .response r⟩])
      (.notFound r.text)

section

variable {c : Client} {scope : Scope} {name : String} {first limit : Nat}

theorem Passed.nil : Passed c scope name first [] [] := ⟨.nil, nofun⟩

theorem Passed.cons {look : Web.Request × Web.Outcome} {page : RunnerPage}
    {sent : List (Web.Request × Web.Outcome)} {pages : List RunnerPage}
    (hasks : c.AsksForPage scope first look.1) (hpage : pageOf? look.2 = some page)
    (hnone : ∀ entry ∈ page.runners, entry.name ≠ name)
    (h : Passed c scope name (first + 1) sent pages) :
    Passed c scope name first (look :: sent) (page :: pages) := by
  refine ⟨?_, List.forall_mem_cons.mpr ⟨hnone, h.strangers⟩⟩
  rw [List.zipIdx_cons]
  exact .cons ⟨hasks, hpage⟩ h.came

/-- A full page without the name goes before what is missing on the pages after it. -/
theorem Missing.turn {steps later : List Step} {look : Web.Request × Web.Outcome}
    {page : RunnerPage} {fault : SourceFault} (hlooks : looks steps = [look])
    (hasks : c.AsksForPage scope first look.1) (hpage : pageOf? look.2 = some page)
    (hnone : ∀ entry ∈ page.runners, entry.name ≠ name)
    (hfull : pageSize ≤ page.runners.length)
    (h : Missing c scope name (first + 1) limit later fault) :
    Missing c scope name first (limit + 1) (steps ++ later) fault := by
  cases h with
  | @unlisted _ pages hpassed hrest hend =>
    have hpassed' : Passed c scope name first (looks (steps ++ later)) (page :: pages) := by
      rw [looks_append, hlooks]
      exact hpassed.cons hasks hpage hnone
    refine .unlisted hpassed' ?_ ?_
    · cases pages with
      | nil => exact nofun
      | cons next rest => exact List.forall_mem_cons.mpr ⟨hfull, hrest⟩
    · obtain ⟨last, hlast, hshort⟩ | hlength := hend
      · refine .inl ⟨last, ?_, hshort⟩
        rw [List.getLast?_cons, hlast]
        rfl
      · exact .inr (congrArg Nat.succ hlength)
  | @denied earlier pages request r hpassed hrest hstatus =>
    have hpassed' : Passed c scope name first (looks (steps ++ earlier)) (page :: pages) := by
      rw [looks_append, hlooks]
      exact hpassed.cons hasks hpage hnone
    rw [← List.append_assoc]
    exact .denied hpassed' (List.forall_mem_cons.mpr ⟨hfull, hrest⟩) hstatus

end

/-! ## What a client does -/

section

variable {c : Client}

/-- A request is not sent, or it is broken off, or a response comes. -/
theorem traces_send {α : Type} {d : Web.Draft} {f : Web.Response → ClientDialogue α}
    {Q : List Step → Sourced α → Prop} (hunsent : Q [] (.error (.http false)))
    (hbroken : ∀ request timedOut,
      d.request? c.config.userAgent c.config.requestTimeout = some request →
      Q [⟨.send request, .broken timedOut⟩] (.error (.http timedOut)))
    (hcame : ∀ request r, d.request? c.config.userAgent c.config.requestTimeout = some request →
      (f r).Traces fun later b => Q (⟨.send request, .response r⟩ :: later) b) :
    ((c.send d).andThen f).Traces Q := by
  unfold send exchange
  split
  · exact hunsent
  · rename_i request hrequest
    rintro (r | timedOut)
    · exact hcame request r hrequest
    · exact hbroken request timedOut hrequest

/-- The last request was answered that there is no such thing, and nothing was looked
at before. -/
inductive Refused : List Step → SourceFault → Prop
  | intro {earlier : List Step} {request : Web.Request} {r : Web.Response}
    (hearlier : looks earlier = []) (hstatus : r.status = 404) :
    Refused (earlier ++ [⟨.send request, .response r⟩]) (.notFound r.text)

/-- Nothing was looked at, and that there is no such thing is what the last request was
answered. -/
structure Aside {α : Type} (steps : List Step) (result : Sourced α) : Prop where
  looks_eq : looks steps = []
  refused : ∀ fault, result = .error fault → fault.kind = .notFound → Refused steps fault

namespace Aside

variable {α β : Type} {steps : List Step} {fault : SourceFault}

theorem ok (h : looks steps = []) (a : α) : Aside steps (.ok a : Sourced α) := ⟨h, nofun⟩

theorem other (h : looks steps = []) (hkind : fault.kind ≠ .notFound) :
    Aside steps (.error fault : Sourced α) := by
  refine ⟨h, ?_⟩
  rintro _ ⟨⟩ hmissing
  exact absurd hmissing hkind

theorem failed (h : Aside steps (.error fault : Sourced α)) :
    Aside steps (.error fault : Sourced β) :=
  ⟨h.looks_eq, fun _ hfault => h.refused _ (congrArg Except.error (Except.error.inj hfault))⟩

end Aside

theorem looks_send {request : Web.Request} (hmethod : request.method ≠ .get)
    (outcome : Web.Outcome) : looks [⟨.send request, outcome⟩] = [] := by
  simp [looks, look?, hmethod]

/-- An answer that is no record refuses, if it tells that there is no such thing. -/
theorem refused_of_checkedDecode {α : Type} {fields : Json.Fields α} {earlier : List Step}
    {request : Web.Request} {r : Web.Response} {fault : SourceFault} (hearlier : looks earlier = [])
    (h : Api.checkedDecode fields r = .error fault) (hkind : fault.kind = .notFound) :
    Refused (earlier ++ [⟨.send request, .response r⟩]) fault := by
  obtain ⟨hstatus, rfl⟩ := status_of_notFound h hkind
  exact .intro hearlier hstatus

theorem kind_of_instant {value : String} {fault : SourceFault}
    (h : Api.instant value = .error fault) : fault.kind = .transient := by
  unfold Api.instant at h
  split at h
  · cases h
  · obtain rfl := Except.error.inj h
    rfl

theorem kind_of_statement {key : AppKey} {now : Instant} {fault : SourceFault}
    (h : key.statement now = .error fault) : fault.kind = .invalid := by
  unfold AppKey.statement at h
  split at h
  · obtain rfl := Except.error.inj h
    rfl
  · dsimp only at h
    split at h
    · cases h
    · obtain rfl := Except.error.inj h
      rfl

theorem kind_of_ofIdentity {identity : Identity} {fault : SourceFault}
    (h : Scope.ofIdentity identity = .error fault) : fault.kind = .invalid := by
  unfold Scope.ofIdentity at h
  split at h
  · split at h
    · cases h
    · obtain rfl := Except.error.inj h
      rfl
  · split at h
    · cases h
    · split at h
      · cases h
      · obtain rfl := Except.error.inj h
        rfl

theorem traces_installationToken (c : Client) (key : AppKey) :
    (c.installationToken key).Traces Aside := by
  rw [installationToken_eq]
  refine Traces.call_bind fun now => Traces.call_bind fun kept => ?_
  split
  · exact .ok rfl _
  · refine Traces.after (fun statement _ => ?_) fun fault hfault => ?_
    · have hposts : ∀ {request}, (c.issueDraft key statement).request? c.config.userAgent
          c.config.requestTimeout = some request → request.method ≠ .get := by
        intro request hrequest
        rw [request?_method hrequest, issueDraft_method]
        nofun
      refine traces_send ?_ ?_ ?_
      · exact .other rfl nofun
      · intro request timedOut hrequest
        exact .other (looks_send (hposts hrequest) _) nofun
      · intro request r hrequest
        have hlooks := looks_send (hposts hrequest) (.response r)
        refine Traces.after ?_ ?_
        · intro issued _
          refine Traces.after ?_ ?_
          · intro expires _
            refine Traces.call_bind fun kept => .ok ?_ _
            exact (looks_append [⟨.send request, .response r⟩] _).trans (by rw [hlooks]; rfl)
          · intro fault hfault
            have hkind := kind_of_instant hfault
            exact .other hlooks (by rw [hkind]; nofun)
        · intro fault hfault
          have hquiet : looks [⟨.clock, now⟩, ⟨.shelf, kept⟩] = [] := rfl
          refine ⟨hlooks, ?_⟩
          rintro _ ⟨⟩ hkind
          exact refused_of_checkedDecode hquiet hfault hkind
    · have hkind := kind_of_statement hfault
      exact .other rfl (by rw [hkind]; nofun)

theorem traces_authorization (c : Client) : c.authorization.Traces Aside := by
  unfold authorization
  split
  · exact .ok rfl _
  · exact .ok rfl _
  · rename_i key _
    refine (traces_installationToken c key).andThen (fun earlier token haside => ?_)
      fun earlier fault haside => haside.failed
    refine .ok ?_ _
    rw [List.append_nil]
    exact haside.looks_eq

/-- A page comes by one request, or what asked for it was refused. -/
theorem traces_runnerPage (c : Client) (scope : Scope) (page : Nat) :
    (c.runnerPage scope page).Traces fun steps result =>
      (∀ listed, result = .ok listed → ∃ look, looks steps = [look] ∧
        c.AsksForPage scope page look.1 ∧ pageOf? look.2 = some listed) ∧
      ∀ fault, result = .error fault → fault.kind = .notFound → Refused steps fault := by
  rw [runnerPage_eq]
  refine (traces_authorization c).andThen (fun earlier authorization haside => ?_)
    fun earlier fault haside => ⟨nofun, haside.failed.refused⟩
  refine traces_send ?_ ?_ ?_
  · refine ⟨nofun, ?_⟩
    rintro _ ⟨⟩ hkind
    cases hkind
  · intro request timedOut hrequest
    refine ⟨nofun, ?_⟩
    rintro _ ⟨⟩ hkind
    cases hkind
  · intro request r hrequest
    refine ⟨fun listed hlisted => ?_, fun fault hfault hkind => ?_⟩
    · refine ⟨(request, .response r), ?_, ⟨authorization, hrequest⟩,
        pageOf?_of_checkedDecode hlisted⟩
      rw [looks_append, haside.looks_eq]
      simp [looks, look?, request?_method hrequest, pageDraft_method]
    · exact refused_of_checkedDecode haside.looks_eq hfault hkind

theorem ne_notFound_of_statusOf {name : String} {entry : RunnerEntry} {fault : SourceFault}
    (h : statusOf name entry = .error fault) : fault.kind ≠ .notFound := by
  unfold statusOf at h
  split at h
  · obtain rfl := Except.error.inj h
    nofun
  · cases h

/-- A search says that there is no such runner only on the ground of what it was
answered. -/
theorem traces_findRunner (c : Client) (scope : Scope) (name : String) (first limit : Nat) :
    (c.findRunner scope name first limit).Traces fun steps result =>
      ∀ fault, result = .error fault → fault.kind = .notFound →
        Missing c scope name first limit steps fault := by
  induction limit generalizing first with
  | zero =>
    rintro _ ⟨⟩ -
    exact .unlisted .nil nofun (.inr rfl)
  | succ limit ih =>
    rw [findRunner]
    refine (traces_runnerPage c scope first).andThen (fun steps listed ⟨hpage, _⟩ => ?_)
      fun steps fault ⟨_, hrefused⟩ => ?_
    · obtain ⟨look, hlooks, hasks, hlisted⟩ := hpage listed rfl
      split
      · rename_i entry hentry
        intro fault hfault hkind
        exact absurd hkind (ne_notFound_of_statusOf hfault)
      · rename_i hnone
        have hstrangers : ∀ entry ∈ listed.runners, entry.name ≠ name := by
          intro entry hentry hname
          exact List.find?_eq_none.mp hnone entry hentry (beq_iff_eq.mpr hname)
        split
        · rename_i hshort
          rintro _ ⟨⟩ -
          have hpassed : Passed c scope name first (looks steps) [listed] := by
            rw [hlooks]
            exact Passed.nil.cons hasks hlisted hstrangers
          rw [List.append_nil]
          exact .unlisted hpassed nofun (.inl ⟨listed, rfl, hshort⟩)
        · rename_i hfull
          refine (ih (first + 1)).imp fun later result hmissing fault hfault hkind => ?_
          exact (hmissing fault hfault hkind).turn hlooks hasks hlisted hstrangers
            (Nat.le_of_not_lt hfull)
    · rintro _ ⟨⟩ hkind
      obtain ⟨hearlier, hstatus⟩ := hrefused fault rfl hkind
      exact .denied (hearlier ▸ .nil) (List.forall_mem_nil _) hstatus

/-- That there is no such runner a client says only of an identity that has a scope, and
only on the ground of what it was answered. -/
theorem traces_runnerStatus (c : Client) (identity : Identity) (name : String) :
    (c.runnerStatus identity name).Traces fun steps result =>
      ∀ fault, result = .error fault → fault.kind = .notFound →
        ∃ scope, Scope.ofIdentity identity = .ok scope ∧
          Missing c scope name 1 pageLimit steps fault := by
  unfold runnerStatus
  refine Traces.after (fun scope hscope => ?_) fun fault hfault => ?_
  · refine (traces_findRunner c scope name 1 pageLimit).imp ?_
    intro steps result hmissing fault hfault hkind
    exact ⟨scope, hscope, hmissing fault hfault hkind⟩
  · rintro _ ⟨⟩ hkind
    rw [kind_of_ofIdentity hfault] at hkind
    cases hkind

end

end PoolScaler.Client
