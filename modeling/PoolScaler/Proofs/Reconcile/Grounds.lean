import PoolScaler.Proofs.Reconcile.Convergence
set_option autoImplicit false

/-!
# On what grounds pods are deleted

The last answer about the runner of a pod decides whether a pass may delete the
pod.  `Grounds` lists the answers that let it: an idle runner, one that is not
connected, one that should have registered long ago.  A busy flag that comes with
the second of them is not looked at, so the pod of a busy runner can go.  So can
one whose namesake in another pool is listed among the pods of its own.
-/

namespace PoolScaler.Reconcile

open Dialogue (Traces)
open Store (Roster)

/-! ## What was asked last -/

/-- The last question about the runner of a pod, with its answer. -/
def lastAsked? (pod : String) (asked : List Inquiry) : Option Inquiry :=
  (asked.filter (asksAfter pod)).getLast?

theorem lastAsked?_append (pod : String) (asked later : List Inquiry) :
    lastAsked? pod (asked ++ later) = (lastAsked? pod later).or (lastAsked? pod asked) := by
  unfold lastAsked?
  rw [List.filter_append, List.getLast?_append]

theorem lastAsked?_eq_none {pod : String} {asked : List Inquiry}
    (h : ∀ x ∈ asked, asksAfter pod x = false) : lastAsked? pod asked = none := by
  unfold lastAsked?
  rw [List.filter_eq_nil_iff.mpr fun x hx => Bool.eq_false_iff.mp (h x hx)]
  rfl

theorem lastAsked?_singleton (cfg : Config) (identity : Identity) (p : Pod)
    (answer : Option (Sourced RunnerStatus)) :
    lastAsked? p.name [Round.question cfg identity p answer] =
      some (Round.question cfg identity p answer) := by
  have hasks : asksAfter p.name (Round.question cfg identity p answer) = true :=
    beq_self_eq_true p.name
  unfold lastAsked?
  rw [List.filter_cons_of_pos hasks]
  rfl

/-- Questions about other pods are none about this one. -/
theorem lastAsked?_of_calls {cfg : Config} {identity : Identity} {pods : List Pod}
    {asked : List Inquiry}
    (hcalls : ∀ x ∈ asked, ∃ q ∈ pods, x.call = RunnersCall.probe identity q.name cfg.probeTimeout)
    {pod : String} (hpod : pod ∉ pods.map (·.name)) : lastAsked? pod asked = none := by
  refine lastAsked?_eq_none fun x hx => ?_
  obtain ⟨q, hq, hcall⟩ := hcalls x hx
  have hne : q.name ≠ pod := fun h => hpod (h ▸ List.mem_map_of_mem hq)
  unfold asksAfter
  rw [hcall]
  exact beq_eq_false_iff_ne.mpr hne

/-! ## What a choice rests on -/

/-- An answer about the runner of a pod on which the pod may be deleted. -/
inductive Grounds (cfg : Config) (now : Instant) (p : Pod) : Option (Sourced RunnerStatus) → Prop
  /-- The runner waits for a job. -/
  | idle : Grounds cfg now p (some (.ok ⟨false⟩))
  /-- The runner is registered and not connected, busy or not. -/
  | unconnected (name : String) (busy : Bool) :
    Grounds cfg now p (some (.error (.runnerOffline name busy)))
  /-- There is no such runner, and the time to register is over. -/
  | unregistered {fault : SourceFault} (hkind : fault.kind = .notFound)
    (hold : isOverdue cfg now p = true) : Grounds cfg now p (some (.error fault))

theorem SourceFault.kind_eq_offline {fault : SourceFault} (h : fault.kind = .offline) :
    ∃ name busy, fault = .runnerOffline name busy := by
  cases fault with
  | runnerOffline name busy => exact ⟨name, busy, rfl⟩
  | _ => cases h

theorem grounds_of_finding {cfg : Config} {now : Instant} {p : Pod}
    {answer : Option (Sourced RunnerStatus)} {finding : Finding}
    (h : findingOf cfg now p answer = .ok finding)
    (hgoes : finding = .offline ∨ finding = .unregistered) : Grounds cfg now p answer := by
  unfold findingOf at h
  split at h
  · cases h
  · rename_i status
    obtain rfl := Except.ok.inj h
    obtain ⟨busy⟩ := status
    cases busy <;> simp at hgoes
  · rename_i fault
    split at h
    · rename_i hkind
      obtain ⟨name, busy, rfl⟩ := SourceFault.kind_eq_offline hkind
      exact .unconnected name busy
    · rename_i hkind
      obtain rfl := Except.ok.inj h
      cases hold : isOverdue cfg now p with
      | true => exact .unregistered hkind hold
      | false => simp [hold] at hgoes
    all_goals cases h

/-- What a survey finds about a pod is what the last answer about its runner tells. -/
theorem traces_survey_last (cfg : Config) (identity : Identity) (now : Instant) {pods : List Pod}
    (hnames : (pods.map (·.name)).Nodup) :
    (survey cfg identity now pods).Traces fun asked outcome => ∀ found, outcome = .ok found →
      ∀ e ∈ found, ∃ answer,
        lastAsked? e.1.name asked = some (Round.question cfg identity e.1 answer) ∧
          findingOf cfg now e.1 answer = .ok e.2 := by
  induction pods with
  | nil =>
    rintro _ ⟨⟩
    exact List.forall_mem_nil _
  | cons p pods ih =>
    obtain ⟨hp, hnames⟩ := List.nodup_cons.mp hnames
    rw [survey]
    refine traces_probe fun answer => ?_
    cases hfinding : findingOf cfg now p answer with
    | error halt => rintro _ ⟨⟩
    | ok finding =>
      have hnew : ∀ q ∈ pods, askedAfter q.name [] = false := fun _ _ => rfl
      have hcalls := traces_survey cfg identity now hnames hnew
      refine ((ih hnames).both hcalls).bind_done ?_
      rintro later outcome ⟨hlast, hround, -⟩
      rcases outcome with halt | found
      · refine ⟨.error halt, rfl, ?_⟩
        rintro _ ⟨⟩
      · refine ⟨.ok ((p, finding) :: found), rfl, ?_⟩
        rintro _ ⟨⟩
        refine List.forall_mem_cons.mpr ⟨⟨answer, ?_, hfinding⟩, fun e he => ?_⟩
        · rw [← List.singleton_append, lastAsked?_append, lastAsked?_of_calls hround.calls hp,
            Option.none_or, lastAsked?_singleton]
        · obtain ⟨answer', hanswer, hfinding'⟩ := hlast found rfl e he
          refine ⟨answer', ?_, hfinding'⟩
          rw [← List.singleton_append, lastAsked?_append, hanswer, Option.some_or]

/-- Who asks again asks about the pods of a list only. -/
theorem traces_recheck_calls (cfg : Config) (identity : Identity) (quota : Nat) (pods : List Pod) :
    (recheck cfg identity quota pods).Traces fun asked _ =>
      ∀ x ∈ asked, ∃ q ∈ pods, x.call = RunnersCall.probe identity q.name cfg.probeTimeout := by
  have hagain : ∀ p ∈ pods,
      askedAfter p.name (pods.map fun q => Round.question cfg identity q none) = true := by
    intro p hp
    refine List.any_eq_true.mpr ⟨_, List.mem_map_of_mem hp, ?_⟩
    exact beq_self_eq_true p.name
  exact (traces_recheck cfg identity quota hagain).imp fun _ _ hround => hround.calls

/-- A pod that a recheck takes was idle when its runner was last asked after. -/
theorem traces_recheck_last (cfg : Config) (identity : Identity) (quota : Nat) {pods : List Pod}
    (hnames : (pods.map (·.name)).Nodup) :
    (recheck cfg identity quota pods).Traces fun asked outcome => ∀ gone, outcome = .ok gone →
      ∀ p ∈ gone, lastAsked? p.name asked =
        some (Round.question cfg identity p (some (.ok ⟨false⟩))) := by
  induction pods generalizing quota with
  | nil =>
    cases quota with
    | zero =>
      rintro _ ⟨⟩
      exact List.forall_mem_nil _
    | succ quota =>
      rintro _ ⟨⟩
      exact List.forall_mem_nil _
  | cons p pods ih =>
    cases quota with
    | zero =>
      rintro _ ⟨⟩
      exact List.forall_mem_nil _
    | succ quota =>
      obtain ⟨hp, hnames⟩ := List.nodup_cons.mp hnames
      have hkeep : ∀ {answer later} {q : Pod} {x : Inquiry}, lastAsked? q.name later = some x →
          lastAsked? q.name (Round.question cfg identity p answer :: later) = some x := by
        intro answer later q x hlast
        rw [← List.singleton_append, lastAsked?_append, hlast, Option.some_or]
      rw [recheck]
      refine traces_probe fun answer => ?_
      cases hidle : stillIdle p answer with
      | error halt => rintro _ ⟨⟩
      | ok idle =>
        cases idle with
        | false =>
          refine (ih (quota + 1) hnames).imp fun later outcome hlast gone hgone q hq => ?_
          exact hkeep (hlast gone hgone q hq)
        | true =>
          have hboth := (ih quota hnames).both (traces_recheck_calls cfg identity quota pods)
          refine hboth.bind_done ?_
          rintro later outcome ⟨hlast, hcalls⟩
          rcases outcome with halt | gone
          · refine ⟨.error halt, rfl, ?_⟩
            rintro _ ⟨⟩
          · refine ⟨.ok (p :: gone), rfl, ?_⟩
            rintro _ ⟨⟩
            refine List.forall_mem_cons.mpr ⟨?_, fun q hq => hkeep (hlast gone rfl q hq)⟩
            have hanswer : answer = some (.ok ⟨false⟩) := by
              unfold stillIdle at hidle
              split at hidle
              · cases hidle
              · rename_i status
                obtain ⟨busy⟩ := status
                simpa using Except.ok.inj hidle
              · split at hidle <;> cases hidle
            rw [← List.singleton_append, lastAsked?_append, lastAsked?_of_calls hcalls hp,
              Option.none_or, lastAsked?_singleton, hanswer]

/-- The last answer about the runner of a pod is a ground to delete the pod. -/
def HasGrounds (cfg : Config) (identity : Identity) (now : Instant) (asked : List Inquiry)
    (p : Pod) : Prop :=
  ∃ answer, lastAsked? p.name asked = some (Round.question cfg identity p answer) ∧
    Grounds cfg now p answer

theorem mem_having_iff {finding : Finding} {found : List (Pod × Finding)} {p : Pod} :
    p ∈ having finding found ↔ (p, finding) ∈ found := by
  unfold having
  simp only [List.mem_map, List.mem_filter, beq_iff_eq]
  constructor
  · rintro ⟨⟨q, other⟩, ⟨he, rfl⟩, rfl⟩
    exact he
  · intro he
    exact ⟨(p, finding), ⟨he, rfl⟩, rfl⟩

/-- Pods are found in one way only. -/
theorem not_mem_having_names {found : List (Pod × Finding)}
    (hnames : (found.map (·.1.name)).Nodup) {p : Pod} {finding other : Finding}
    (hp : p ∈ having finding found) (hne : finding ≠ other) :
    p.name ∉ (having other found).map (·.name) := by
  intro hmem
  obtain ⟨q, hq, hname⟩ := List.mem_map.mp hmem
  have hsame : (p, finding) = (q, other) :=
    List.inj_on_of_nodup_map hnames (mem_having_iff.mp hp) (mem_having_iff.mp hq) hname.symm
  exact hne (Prod.mk.inj hsame).2

/-- What is chosen for deletion is chosen on grounds. -/
theorem traces_choose_grounds (cfg : Config) (identity : Identity) (now : Instant) (excess : Nat)
    {pods : List Pod} (hnames : (pods.map (·.name)).Nodup) :
    (choose cfg identity now excess pods).Traces fun asked outcome => ∀ gone, outcome = .ok gone →
      ∀ p ∈ gone, HasGrounds cfg identity now asked p := by
  unfold choose
  refine ((traces_survey_last cfg identity now hnames).and (survey_ends cfg identity now pods)).bind
    fun earlier outcome ⟨hlast, hfound⟩ => ?_
  rcases outcome with halt | found
  · exact nofun
  · have hpods := hfound found rfl
    have hall : (found.map (·.1.name)).Nodup := by
      rwa [← hpods, List.map_map] at hnames
    have hidle : ((having .idle found).map (·.name)).Nodup := by
      unfold having
      rw [List.map_map]
      exact hall.sublist (List.filter_sublist.map _)
    refine ((traces_recheck_last cfg identity _ hidle).both
      (traces_recheck_calls cfg identity _ _)).bind_done fun later outcome ⟨hagain, hcalls⟩ => ?_
    rcases outcome with halt | idle
    · exact ⟨.error halt, rfl, nofun⟩
    · refine ⟨_, rfl, ?_⟩
      rintro _ ⟨⟩ p hp
      -- a pod that goes by its first answer is not asked after again
      have hsurely : ∀ finding, finding = .offline ∨ finding = .unregistered →
          p ∈ having finding found → HasGrounds cfg identity now (earlier ++ later) p := by
        intro finding hgoes hmem
        obtain ⟨answer, hanswer, hfinding⟩ := hlast found rfl _ (mem_having_iff.mp hmem)
        have hne : finding ≠ .idle := by
          rintro rfl
          simp at hgoes
        refine ⟨answer, ?_, grounds_of_finding hfinding hgoes⟩
        rw [lastAsked?_append, lastAsked?_of_calls hcalls (not_mem_having_names hall hmem hne),
          Option.none_or, hanswer]
      rcases List.mem_append.mp hp with hp | hp
      · rcases List.mem_append.mp (List.mem_of_mem_take hp) with hp | hp
        · exact hsurely .offline (.inl rfl) hp
        · exact hsurely .unregistered (.inr rfl) hp
      · refine ⟨_, ?_, .idle⟩
        rw [lastAsked?_append, hagain idle rfl p hp, Option.some_or]

theorem traces_consider_grounds (cfg : Config) {o : Opening}
    (hnames : (o.live.map (·.name)).Nodup) (now : Instant) :
    (consider cfg o now).Traces fun asked move => ∀ gone, move = .ok (.delete gone) →
      ∀ p ∈ gone, HasGrounds cfg o.record.spec.identity now asked p := by
  unfold consider
  split
  · unfold grow
    split
    · exact nofun
    · rintro (fault | token)
      · intro gone hmove
        split at hmove <;> cases hmove
      · exact nofun
  · split
    · cases hhold : holdRemaining cfg o.record.status.lastScaleUpAt now with
      | some remaining =>
        rw [shrink_eq_hold hhold]
        exact nofun
      | none =>
        rw [shrink_eq_choose hhold]
        refine (traces_choose_grounds cfg o.record.spec.identity now _ hnames).bind_done
          fun asked outcome hgrounds => ⟨moveOf outcome, rfl, ?_⟩
        rcases outcome with (_ | fault) | gone
        · exact nofun
        · exact nofun
        · rintro _ ⟨⟩
          exact hgrounds gone rfl
    · exact nofun

/-! ## What a pass deletes -/

/-- Of the living pods only those are gone that a pass resolved to delete. -/
theorem conclude_keeps {pool : String} {now : Instant} {st : Stage} {record : PoolRecord}
    {pods : List Pod} (h : Roster st.store pool pods)
    (hfound : st.store.getPool pool = .ok (some record)) (cfg : Config) {move : Except Fault Move}
    (hmove : Resolution (opening now st record pods) move) :
    ∃ left, (conclude cfg pool now (opening now st record pods) move
        (opened pool now st pods)).2.store.listPods pool = .ok left ∧
      ∀ p ∈ living pods, p ∉ left → ∃ gone, move = .ok (.delete gone) ∧ p ∈ gone := by
  have hquiet : ∀ {verdict}, quietVerdict? cfg move = some verdict →
      ∃ left, (conclude cfg pool now (opening now st record pods) move
          (opened pool now st pods)).2.store.listPods pool = .ok left ∧
        ∀ p ∈ living pods, p ∉ left → ∃ gone, move = .ok (.delete gone) ∧ p ∈ gone := by
    intro verdict hverdict
    obtain ⟨st', hconclude, hroster, -⟩ := conclude_quiet h hfound now hverdict
    refine ⟨living pods, ?_, fun p hp hnot => absurd hp hnot⟩
    rw [hconclude]
    exact hroster.listed
  cases hmove with
  | failed fault => exact hquiet rfl
  | backOff => exact hquiet rfl
  | rest hfit => exact hquiet rfl
  | hold hmany => exact hquiet rfl
  | create hfew env =>
    obtain ⟨e, st', hcreate⟩ : ∃ e st', createAll record.spec env now
        ((opening now st record pods).desired - (opening now st record pods).live.length)
        (opened pool now st pods) = (e, st') := ⟨_, _, rfl⟩
    obtain ⟨added, left, hroster, hadded, -, ⟨rfl, -⟩ | rfl⟩ :=
      roster_createAll (roster_opened h now) (name_of_getPool h.filed hfound) hcreate
    · obtain ⟨st'', left', hconclude, hroster', hadded', -⟩ := conclude_create h hfound cfg hcreate
      refine ⟨left', ?_, fun p hp hnot => absurd (hadded'.kept p hp) hnot⟩
      rw [hconclude]
      exact hroster'.listed
    · refine ⟨left, ?_, fun p hp hnot => absurd (hadded.kept p hp) hnot⟩
      rw [conclude_create_fault hcreate]
      exact hroster.listed
  | @delete gone hgone hlength hmany =>
    obtain ⟨st', hconclude, hroster, -⟩ := conclude_delete h hfound cfg now gone
    rw [filter_names_eq (roster_opened h now) hgone.subset] at hroster
    refine ⟨(living pods).filter (· ∉ gone), ?_, fun p hp hnot => ⟨gone, rfl, ?_⟩⟩
    · rw [hconclude]
      exact hroster.listed
    · by_contra hkept
      exact hnot (List.mem_filter.mpr ⟨hp, decide_eq_true hkept⟩)

/-- Of the living pods only those are gone that there were grounds to delete. -/
theorem pass_keeps {pool : String} {now : Instant} {st : Stage} {record : PoolRecord}
    {pods : List Pod} (h : Roster st.store pool pods)
    (hfound : st.store.getPool pool = .ok (some record)) (cfg : Config) {σ : Type}
    (env : Surroundings RunnersCall.interface σ) (c : σ) :
    let out := (pass cfg pool now st).run env c
    ∃ left, out.result.2.store.listPods pool = .ok left ∧ ∀ p ∈ living pods, p ∉ left →
      HasGrounds cfg record.spec.identity now out.exchanges p := by
  intro out
  have hmove := (consider_resolution cfg (opening now st record pods) now).run env c
  have hnames : ((opening now st record pods).live.map (·.name)).Nodup :=
    (roster_opened h now).nodup_names
  have hgrounds := (traces_consider_grounds cfg hnames now).run env c
  obtain ⟨left, hleft, hgone⟩ := conclude_keeps h hfound cfg hmove
  have hout : out = _ := congrArg (Dialogue.run env c) (pass_eq h hfound cfg now)
  rw [Dialogue.run_bind] at hout
  simp only [Dialogue.run_done, List.append_nil] at hout
  rw [hout]
  refine ⟨left, hleft, fun p hp hnot => ?_⟩
  obtain ⟨gone, hdelete, hmem⟩ := hgone p hp hnot
  exact hgrounds gone hdelete p hmem

/-- An answer tells that the runner of a pod has a job, be it connected or not. -/
def reportsBusy : Option (Sourced RunnerStatus) → Bool
  | some (.ok status) => status.busy
  | some (.error (.runnerOffline _ busy)) => busy
  | _ => false

/-- A pass deletes a living pod only on grounds, which the last answer about its runner
gives.  So the pod of a runner that was last reported busy is kept, unless the runner
was reported not connected with the same answer. -/
theorem deleted_on_grounds {cfg : Config} {pool : String} {now : Instant} {st : Stage}
    {record : PoolRecord} {pods : List Pod} (hfiled : st.store.Filed)
    (hfound : st.store.getPool pool = .ok (some record))
    (hlisted : st.store.listPods pool = .ok pods) (howned : ∀ p ∈ pods, p.owner = pool) {σ : Type}
    (env : Surroundings RunnersCall.interface σ) (c : σ) :
    let out := (pass cfg pool now st).run env c
    ∃ left, out.result.2.store.listPods pool = .ok left ∧
      (∀ p ∈ living pods, p ∉ left →
        HasGrounds cfg record.spec.identity now out.exchanges p) ∧
      ∀ p ∈ living pods, ∀ identity limit answer,
        lastAsked? p.name out.exchanges = some ⟨.probe identity p.name limit, answer⟩ →
        reportsBusy answer = true →
        p ∈ left ∨ ∃ name, answer = some (.error (.runnerOffline name true)) := by
  intro out
  obtain ⟨left, hleft, hkept⟩ := pass_keeps ⟨hfiled, hlisted, howned⟩ hfound cfg env c
  refine ⟨left, hleft, hkept, ?_⟩
  intro p hp identity limit answer hlast hbusy
  by_contra hnot
  obtain ⟨hleaves, hconnected⟩ := not_or.mp hnot
  obtain ⟨answer', hlast', hgoes⟩ := hkept p hp hleaves
  obtain rfl : answer = answer' :=
    eq_of_heq (Exchange.mk.inj (Option.some.inj (hlast.symm.trans hlast'))).2
  cases hgoes with
  | idle => cases hbusy
  | unconnected name busy =>
    obtain rfl : busy = true := hbusy
    exact hconnected ⟨name, rfl⟩
  | @unregistered fault hkind hold =>
    cases fault with
    | runnerOffline name busy => cases hkind
    | _ => cases hbusy

theorem deleted_on_grounds_seven :
    let out := (pass tenMinutes "ci" 1000 sevenStage).run sevenAnswers.surroundings Asked.none
    sevenStage.store.Filed ∧ sevenStage.store.getPool "ci" = .ok (some pairPool) ∧
      sevenStage.store.listPods "ci" = .ok sevenPods ∧ (∀ p ∈ sevenPods, p.owner = "ci") ∧
      lastAsked? "ci-soon" out.exchanges = some
        ⟨.probe pairPool.spec.identity "ci-soon" tenMinutes.probeTimeout, some (.ok ⟨true⟩)⟩ ∧
      ∃ left, out.result.2.store.listPods "ci" = .ok left ∧
        pairPod "ci-soon" .running 6 ∈ left := by
  have hexcess : Overfull.excess 1000 sevenStage pairPool sevenPods = 4 := by decide +kernel
  have hlast : lastAsked? "ci-soon" ((pass tenMinutes "ci" 1000 sevenStage).run
      sevenAnswers.surroundings Asked.none).exchanges = some
        ⟨.probe pairPool.spec.identity "ci-soon" tenMinutes.probeTimeout, some (.ok ⟨true⟩)⟩ := by
    rw [overfull_seven.pass_eq_choose, Dialogue.run_bind, Dialogue.run_bind, hexcess]
    rfl
  have hliving : pairPod "ci-soon" .running 6 ∈ living sevenPods := by decide +kernel
  obtain ⟨left, hleft, -, hbusy⟩ := deleted_on_grounds overfull_seven.filed overfull_seven.found
    overfull_seven.listed overfull_seven.owned sevenAnswers.surroundings Asked.none
  refine ⟨overfull_seven.filed, overfull_seven.found, overfull_seven.listed,
    overfull_seven.owned, hlast, left, hleft, ?_⟩
  obtain hkept | ⟨name, hoffline⟩ := hbusy _ hliving _ _ _ hlast rfl
  · exact hkept
  · cases hoffline

/-! ## Pods that are not spared -/

/-- A pass after which a living pod is gone whose runner had a job when it was last asked
after. -/
structure TakesBusy (pool : String) (st : Stage) (answers : Answers) (p : Pod) : Prop where
  filed : st.store.Filed
  alive : ∃ pods, st.store.listPods pool = .ok pods ∧ p ∈ living pods
  busy : ∃ identity limit answer,
    lastAsked? p.name
        ((pass tenMinutes pool 1000 st).run answers.surroundings Asked.none).exchanges =
      some ⟨.probe identity p.name limit, answer⟩ ∧ reportsBusy answer = true
  gone : ∃ left,
    ((pass tenMinutes pool 1000 st).run answers.surroundings Asked.none).result.2.store.listPods
      pool = .ok left ∧ p ∉ left

/-- Every runner has a job and none is connected. -/
def cutOffAnswers : Answers where
  probe name _ := some (.error (.runnerOffline name true))
  token := .error (.notFound "")

theorem takesBusy_seven :
    TakesBusy "ci" sevenStage cutOffAnswers (pairPod "ci-busy" .running 5) := by
  have hexcess : Overfull.excess 1000 sevenStage pairPool sevenPods = 4 := by decide +kernel
  obtain ⟨gone, hchoose, hgone⟩ : ∃ gone, ((choose tenMinutes pairPool.spec.identity 1000 4
      (living sevenPods)).run cutOffAnswers.surroundings Asked.none).result = .ok gone ∧
        pairPod "ci-busy" .running 5 ∈ gone := ⟨_, rfl, by decide +kernel⟩
  rw [← hexcess] at hchoose
  obtain ⟨st', hresult, hroster⟩ := overfull_seven.result_of_choose hchoose
  have hlast : lastAsked? "ci-busy" ((pass tenMinutes "ci" 1000 sevenStage).run
      cutOffAnswers.surroundings Asked.none).exchanges = some
        ⟨.probe pairPool.spec.identity "ci-busy" tenMinutes.probeTimeout,
          some (.error (.runnerOffline "ci-busy" true))⟩ := by
    rw [overfull_seven.pass_eq_choose, Dialogue.run_bind, Dialogue.run_bind, hexcess]
    rfl
  refine ⟨overfull_seven.filed, ⟨sevenPods, overfull_seven.listed, by decide +kernel⟩,
    ⟨_, _, _, hlast, rfl⟩,
    (living sevenPods).filter fun p => p.name ∉ gone.map (·.name), ?_, fun hmem => ?_⟩
  · rw [hresult]
    exact hroster.listed
  · have hleft := of_decide_eq_true (List.mem_filter.mp hmem).2
    exact hleft (List.mem_map_of_mem hgone)

/-- A pool that need not have any pod. -/
def sparePool : PoolRecord :=
  .new ⟨"ci", ⟨"", "acme", "", "ci"⟩, 0, none, ⟨"runner", .empty, .empty⟩, 0⟩

/-- A pod that has ended, of a pool whose pods stand among those of the former. -/
def namesake : Pod := ⟨"ci-busy", "ci:gpu", .succeeded, "runner", .empty, .empty, 6⟩

/-- Pods of both pools, of one name. -/
def namesakeStage : Stage :=
  ⟨[pairPod "ci-busy" .running 5, namesake].foldl Store.putPod (Store.empty.putPool sparePool),
    .new (.ofSeconds 600), []⟩

/-- Every runner has a job and is connected. -/
def workingAnswers : Answers where
  probe _ _ := some (.ok ⟨true⟩)
  token := .error (.notFound "")

theorem listed_namesakeStage :
    namesakeStage.store.listPods "ci" = .ok [pairPod "ci-busy" .running 5, namesake] := by
  have htexts : Store.texts namesakeStage.store "ci" =
      [("ci:ci-busy", Store.writePod (pairPod "ci-busy" .running 5)),
        ("ci:gpu:ci-busy", Store.writePod namesake)] := rfl
  have hread : (Store.texts namesakeStage.store "ci").mapM (fun e => Store.readPod e.2) =
      .ok [pairPod "ci-busy" .running 5, namesake] := by
    rw [htexts]
    exact Store.mapM_eq_ok_iff.mpr
      (.cons (Store.readPod_writePod _) (.cons (Store.readPod_writePod _) .nil))
  rw [Store.listPods_of_texts hread, List.mergeSort_of_pairwise (by decide)]

/-- Removing the pod that has ended removes its namesake. -/
theorem listed_deleteAll_namesake (s : Store) (hpods : s.pods =
      (deleteAll "ci" namesakeStage.store [namesake]).pods) :
    s.listPods "ci" = .ok [namesake] := by
  have htexts : Store.texts s "ci" = [("ci:gpu:ci-busy", Store.writePod namesake)] := by
    unfold Store.texts
    rw [hpods]
    rfl
  have hread : (Store.texts s "ci").mapM (fun e => Store.readPod e.2) = .ok [namesake] := by
    rw [htexts]
    exact Store.mapM_eq_ok_iff.mpr (.cons (Store.readPod_writePod _) .nil)
  rw [Store.listPods_of_texts hread, List.mergeSort_singleton]

/-- The pod that is alive is one too many, and spared because its runner has a job. -/
theorem run_consider_namesake {o : Opening} (hrecord : o.record = sparePool)
    (hlive : o.live = [pairPod "ci-busy" .running 5]) (hdesired : o.desired = 0) :
    let out := (consider tenMinutes o 1000).run workingAnswers.surroundings Asked.none
    out.exchanges = [⟨.probe sparePool.spec.identity "ci-busy" tenMinutes.probeTimeout,
      some (.ok ⟨true⟩)⟩] ∧ out.result = .ok (.delete []) := by
  have hmany : o.desired < o.live.length := by
    rw [hdesired, hlive]
    decide
  have hconsider : consider tenMinutes o 1000 =
      (choose tenMinutes sparePool.spec.identity 1000 1 [pairPod "ci-busy" .running 5]).bind
        fun choice => .done (moveOf choice) := by
    rw [consider_eq_shrink hmany, hdesired, shrink_eq_choose (by rw [hrecord]; rfl), hrecord, hlive]
    rfl
  rw [hconsider]
  exact ⟨rfl, rfl⟩

theorem takesBusy_namesake :
    TakesBusy "ci" namesakeStage workingAnswers (pairPod "ci-busy" .running 5) := by
  obtain ⟨hreachable, hpools⟩ :=
    reachable_foldl_putPod [pairPod "ci-busy" .running 5, namesake] (.putPool .empty sparePool)
  have hfound : namesakeStage.store.getPool "ci" = .ok (some sparePool) :=
    (getPool_of_pools_eq hpools "ci").trans (getPool_insert sparePool)
  have hname : sparePool.spec.name = "ci" := rfl
  have hpass := pass_eq_of_open (openPass_of_listed hname hfound listed_namesakeStage 1000)
    tenMinutes
  obtain ⟨hasked, hmove⟩ := run_consider_namesake (o := opening 1000 namesakeStage sparePool
    [pairPod "ci-busy" .running 5, namesake]) rfl rfl (by decide +kernel)
  refine ⟨hreachable.filed, ⟨_, listed_namesakeStage, by decide⟩,
    ⟨sparePool.spec.identity, tenMinutes.probeTimeout, some (.ok ⟨true⟩), ?_, rfl⟩,
    [namesake], listed_deleteAll_namesake _ ?_, by decide⟩
  · rw [hpass, Dialogue.run_bind]
    simp only [Dialogue.run_done, List.append_nil, hasked]
    rfl
  · rw [hpass, Dialogue.run_bind]
    simp only [Dialogue.run_done, hmove]
    rw [conclude_pods, perform_delete]
    rfl

/-- Pods of busy runners are deleted: where the runners are not connected, and where a pod
of another pool that is listed among those of the pool has the same name and has ended. -/
theorem busy_not_spared :
    TakesBusy "ci" sevenStage cutOffAnswers (pairPod "ci-busy" .running 5) ∧
      (∀ p ∈ sevenPods, p.owner = "ci") ∧
      TakesBusy "ci" namesakeStage workingAnswers (pairPod "ci-busy" .running 5) :=
  ⟨takesBusy_seven, overfull_seven.owned, takesBusy_namesake⟩

end PoolScaler.Reconcile
