import PoolScaler.Proofs.Reconcile.Grounds
import PoolScaler.Proofs.Source.Listing
set_option autoImplicit false

/-!
# What the loss of a runner is known by

The keeper of a pool asks after runners through a client.  So a pod that a pass
deletes because its runner never registered was looked for by the client, and
`Evidence` says what the client saw.  A complete listing without the runner is one
thing that it can have seen; in the other nothing was listed at all.
-/

namespace PoolScaler.Reconcile

open Client (Step Missing)

/-- What a client went through when it was asked after the runner of a pod, and how that
ended, on which the pod may be deleted. -/
inductive Evidence (c : Client) (cfg : Config) (identity : Identity) (now : Instant) (p : Pod) :
    List Step → Sourced RunnerStatus → Prop
  /-- The runner waits for a job. -/
  | idle {steps : List Step} : Evidence c cfg identity now p steps (.ok ⟨false⟩)
  /-- The runner is registered and not connected. -/
  | unconnected {steps : List Step} (name : String) (busy : Bool) :
    Evidence c cfg identity now p steps (.error (.runnerOffline name busy))
  /-- There is no such runner, and the time to register is over. -/
  | unregistered {steps : List Step} {fault : SourceFault} {scope : Scope}
    (hscope : Scope.ofIdentity identity = .ok scope)
    (hmissing : Missing c scope p.name 1 Client.pageLimit steps fault)
    (hold : isOverdue cfg now p = true) :
    Evidence c cfg identity now p steps (.error fault)

theorem run_probe (c : Client) (identity : Identity) (name : String) (limit : Span) {σ : Type}
    (env : Surroundings ClientNeed.interface σ) (s : σ) :
    (c.runners (.probe identity name limit)).run env s =
      let asked := (c.runnerStatus identity name).run env s
      ⟨some asked.result, asked.exchanges, asked.state⟩ := by
  have hbind := Dialogue.run_bind env (c.runnerStatus identity name)
    (fun answer => .done (some answer)) s
  simp only [Dialogue.run_done, List.append_nil] at hbind
  exact hbind

/-- A client whose answer lets a pod be deleted has evidence for it. -/
theorem evidence_of_grounds (c : Client) {cfg : Config} {identity : Identity} {now : Instant}
    {p : Pod} {σ : Type} (env : Surroundings ClientNeed.interface σ) (s : σ) :
    let asked := (c.runnerStatus identity p.name).run env s
    Grounds cfg now p (some asked.result) →
      Evidence c cfg identity now p asked.exchanges asked.result := by
  intro asked hgrounds
  have hlooked := (Client.traces_runnerStatus c identity p.name).run env s
  change ∀ fault, asked.result = .error fault → _ at hlooked
  generalize asked.result = result at hgrounds hlooked ⊢
  cases hgrounds with
  | idle => exact .idle
  | unconnected name busy => exact .unconnected name busy
  | @unregistered fault hkind hold =>
    obtain ⟨scope, hscope, hmissing⟩ := hlooked fault rfl hkind
    exact .unregistered hscope hmissing hold

theorem mem_of_lastAsked? {pod : String} {asked : List Inquiry} {x : Inquiry}
    (h : lastAsked? pod asked = some x) : x ∈ asked :=
  List.mem_of_mem_filter (List.mem_of_getLast? h)

/-- That a runner is not registered a client says only of an identity that has a scope,
and only on one of two grounds: it asked for pages from the first on, and each was
listed, whole and with a status of success, none with the name, up to one that is not
full or the last that can be counted; or its last request was answered that there is no such thing.  And a pass through
a client deletes a living pod as never registered only where the client has said so,
on such a ground, when it was asked after the runner of the pod. -/
theorem missing_on_evidence (c : Client) {σ : Type} (env : Surroundings ClientNeed.interface σ)
    (s : σ) :
    (∀ identity name fault,
      let out := (c.runnerStatus identity name).run env s
      out.result = .error fault → fault.kind = .notFound →
      ∃ scope, Scope.ofIdentity identity = .ok scope ∧
        Missing c scope name 1 Client.pageLimit out.exchanges fault) ∧
    ∀ cfg pool now st record pods, st.store.Filed → st.store.getPool pool = .ok (some record) →
      st.store.listPods pool = .ok pods → (∀ p ∈ pods, p.owner = pool) →
      let out := ((pass cfg pool now st).through c.runners).run env s
      ∃ left, out.result.2.store.listPods pool = .ok left ∧ ∀ p ∈ living pods, p ∉ left →
        ∃ before later s',
          let asked := (c.runnerStatus record.spec.identity p.name).run env s'
          out.exchanges = before ++ asked.exchanges ++ later ∧
            Evidence c cfg record.spec.identity now p asked.exchanges asked.result := by
  refine ⟨fun identity name fault => (Client.traces_runnerStatus c identity name).run env s fault,
    ?_⟩
  intro cfg pool now st record pods hfiled hfound hlisted howned out
  obtain ⟨left, hleft, hkept⟩ := pass_keeps ⟨hfiled, hlisted, howned⟩ hfound cfg
    (Dialogue.relay c.runners env) s
  have hresult := Dialogue.result_through c.runners env s (pass cfg pool now st)
  refine ⟨left, ?_, fun p hp hnot => ?_⟩
  · rw [← hleft]
    exact congrArg (fun result => result.2.store.listPods pool) hresult
  · obtain ⟨answer, hlast, hgrounds⟩ := hkept p hp hnot
    obtain ⟨before, later, s', hstretch, hanswer⟩ :=
      Dialogue.exists_stretch c.runners env s (pass cfg pool now st) (mem_of_lastAsked? hlast)
    have hprobe := run_probe c record.spec.identity p.name cfg.probeTimeout env s'
    refine ⟨before, later, s', ?_, evidence_of_grounds c env s' ?_⟩
    · exact hstretch.trans (congrArg (fun asked => before ++ asked.exchanges ++ later) hprobe)
    · have hasked : some ((c.runnerStatus record.spec.identity p.name).run env s').result =
          answer := (congrArg (·.result) hprobe).symm.trans hanswer
      rw [hasked]
      exact hgrounds

/-- A client that shows a token to an address that is a number. -/
def tokenClient : Client :=
  ⟨⟨"", some "http://[::1]", "pool", .ofSeconds 30, .ofSeconds 60⟩, .token "t"⟩

/-- Every request is answered in one way. -/
def reply (status : Nat) (body : List UInt8) : (need : ClientNeed) → need.Answer
  | .clock => (0 : Instant)
  | .send _ => Web.Outcome.response ⟨status, [], body, true⟩
  | .shelf => TokenShelf.empty
  | .keep _ => ()

/-- Surroundings that do. -/
def replying (status : Nat) (body : List UInt8) : Surroundings ClientNeed.interface Unit :=
  fun s need => (reply status body need, s)

/-- A failure tells that there is no such thing. -/
def tellsMissing {α : Type} : Sourced α → Bool
  | .ok _ => false
  | .error fault => fault.kind = .notFound

theorem exists_fault_of_tellsMissing {α : Type} {result : Sourced α}
    (h : tellsMissing result = true) :
    ∃ fault, result = .error fault ∧ fault.kind = .notFound := by
  cases result with
  | ok a => cases h
  | error fault => exact ⟨fault, rfl, of_decide_eq_true h⟩

/-- A list with no runners, as it is written. -/
def noRunners : List UInt8 := Text.Utf8.encode "\x7b\"runners\":[]\x7d"

theorem missing_on_evidence_local :
    (∃ fault,
      let out := (tokenClient.runnerStatus pairPool.spec.identity "ci-1").run
        (replying 200 noRunners) ()
      out.result = .error fault ∧ fault.kind = .notFound ∧
        ∃ scope, Scope.ofIdentity pairPool.spec.identity = .ok scope ∧
          Missing tokenClient scope "ci-1" 1 Client.pageLimit out.exchanges fault) ∧
      sevenStage.store.Filed ∧ sevenStage.store.getPool "ci" = .ok (some pairPool) ∧
      sevenStage.store.listPods "ci" = .ok sevenPods ∧ (∀ p ∈ sevenPods, p.owner = "ci") ∧
      let out := ((pass tenMinutes "ci" 1000 sevenStage).through tokenClient.runners).run
        (replying 200 noRunners) ()
      ∃ left, out.result.2.store.listPods "ci" = .ok left ∧ ∀ p ∈ living sevenPods, p ∉ left →
        ∃ before later s',
          let asked := (tokenClient.runnerStatus pairPool.spec.identity p.name).run
            (replying 200 noRunners) s'
          out.exchanges = before ++ asked.exchanges ++ later ∧
            Evidence tokenClient tenMinutes pairPool.spec.identity 1000 p asked.exchanges
              asked.result := by
  obtain ⟨hclient, hpass⟩ := missing_on_evidence tokenClient (replying 200 noRunners) ()
  obtain ⟨fault, hfault, hkind⟩ : ∃ fault,
      ((tokenClient.runnerStatus pairPool.spec.identity "ci-1").run (replying 200 noRunners)
        ()).result = .error fault ∧ fault.kind = .notFound :=
    exists_fault_of_tellsMissing (by decide +kernel)
  exact ⟨⟨fault, hfault, hkind, hclient _ _ fault hfault hkind⟩, overfull_seven.filed,
    overfull_seven.found, overfull_seven.listed, overfull_seven.owned,
    hpass tenMinutes "ci" 1000 sevenStage pairPool sevenPods overfull_seven.filed
      overfull_seven.found overfull_seven.listed overfull_seven.owned⟩

/-- The one page that was asked for was not listed. -/
theorem not_only_by_listing :
    let out := (tokenClient.runnerStatus pairPool.spec.identity "ci-1").run (replying 404 []) ()
    Scope.ofIdentity pairPool.spec.identity = .ok (.organization "acme") ∧
      (∃ fault, out.result = .error fault ∧ fault.kind = .notFound) ∧
      (Client.looks out.exchanges).map (fun look => Client.pageOf? look.2) = [none] := by
  exact ⟨rfl, exists_fault_of_tellsMissing (by decide +kernel), by decide +kernel⟩

end PoolScaler.Reconcile
