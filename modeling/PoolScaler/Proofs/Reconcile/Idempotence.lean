import PoolScaler.Proofs.Reconcile.Hysteresis
import PoolScaler.Proofs.Reconcile.Status
set_option autoImplicit false

/-!
# A settled pass made again

Once a pass has brought its pool to the demand, or is held, the status that it has
recorded is what the next pass would record: nothing is created, deleted, asked or
written when the pass is made again at the same time.
-/

namespace PoolScaler

/-- What is forgotten at a time stays forgotten: demand is the same when it is looked at again. -/
theorem Demand.Tracker.snapshot_snapshot (t : Demand.Tracker) (now : Instant) :
    (t.snapshot now).2.snapshot now = t.snapshot now := by
  have hpurge : (t.purge now).purge now = t.purge now := by
    unfold Demand.Tracker.purge
    simp only [List.filter_filter, Bool.and_self]
  unfold Demand.Tracker.snapshot
  dsimp only
  rw [hpurge]

namespace Reconcile

open Store (Roster)

/-! ## Stages that are settled -/

/-- A stage in which a pool has been settled at `now`: no listed pod has ended, no
reservation has lapsed, and the stored status says of the pods and the demand what there is
to say. -/
structure Rested (pool : String) (now : Instant) (st : Stage) (record : PoolRecord)
    (pods : List Pod) : Prop where
  roster : Roster st.store pool pods
  found : st.store.getPool pool = .ok (some record)
  living : living pods = pods
  purged : (st.tracker.snapshot now).2 = st.tracker
  recorded : ∀ verdict,
    ((⟨verdict, pods.length, pods, record.status.lastScaleUpAt⟩ : Result).status
      (opening now st record pods) now).findings = record.status.findings

namespace Rested

variable {cfg : Config} {pool : String} {now : Instant} {st : Stage} {record : PoolRecord}
  {pods : List Pod}

/-- A pass opens on such a stage without changing it. -/
theorem opened_eq (h : Rested pool now st record pods) : opened pool now st pods = st := by
  have hnone : pods.filter (·.phase.isFinished) = [] := by
    refine List.filter_eq_nil_iff.mpr fun p hp hfinished => ?_
    rw [← h.living] at hp
    have hlives := (List.mem_filter.mp hp).2
    rw [hfinished] at hlives
    cases hlives
  unfold opened
  rw [hnone, h.purged]
  rfl

theorem live_eq (h : Rested pool now st record pods) : (opening now st record pods).live = pods :=
  h.living

/-- With as many pods as there should be there is nothing to do. -/
theorem consider_rest (h : Rested pool now st record pods) (cfg : Config)
    (hfit : pods.length = (opening now st record pods).desired) :
    consider cfg (opening now st record pods) now = .done (.ok .rest) := by
  unfold consider
  rw [h.live_eq, hfit, if_neg (Nat.lt_irrefl _), if_neg (Nat.lt_irrefl _)]

/-- With too many pods that must still be kept there is nothing to do yet. -/
theorem consider_hold (h : Rested pool now st record pods) {remaining : Span}
    (hmany : (opening now st record pods).desired < pods.length)
    (hhold : holdRemaining cfg record.status.lastScaleUpAt now = some remaining) :
    consider cfg (opening now st record pods) now = .done (.ok (.hold remaining)) := by
  rw [← h.live_eq] at hmany
  rw [consider_eq_shrink hmany, shrink_eq_hold hhold]

/-- A pass that finds nothing to do there leaves it as it is. -/
theorem visit_eq_self (h : Rested pool now st record pods) {move : Move} {verdict : Verdict}
    (hconsider : consider cfg (opening now st record pods) now = .done (.ok move))
    (hquiet : quietVerdict? cfg (.ok move) = some (.ok verdict)) {σ : Type}
    (env : Surroundings RunnersCall.interface σ) (c : σ) :
    visit cfg pool now env c st = ⟨now, st, [], .ok verdict, st⟩ := by
  have hperform : perform cfg (opening now st record pods) now move st =
      (.ok ⟨verdict, pods.length, pods, record.status.lastScaleUpAt⟩, st) := by
    unfold perform
    cases move with
    | rest | hold _ | backOff =>
      obtain rfl := Except.ok.inj (Option.some.inj hquiet)
      dsimp only
      rw [h.live_eq]
      rfl
    | create _ _ | delete _ => cases hquiet
  have hrecord := recordStatus_eq h.found ((⟨verdict, pods.length, pods,
    record.status.lastScaleUpAt⟩ : Result).status (opening now st record pods) now)
  rw [if_pos (h.recorded verdict)] at hrecord
  have hconclude : conclude cfg pool now (opening now st record pods) (.ok move) st =
      (.ok verdict, st) := by
    unfold conclude
    dsimp only
    rw [hperform]
    dsimp only
    rw [show (opening now st record pods).record.status = record.status from rfl, hrecord]
  rw [visit_eq h.roster h.found, hconsider, Dialogue.run_done, h.opened_eq]
  dsimp only
  rw [hconclude]
  rfl

end Rested

section

variable {cfg : Config} {pool : String} {now : Instant} {st : Stage} {record : PoolRecord}
  {pods : List Pod} {σ : Type} {env : Surroundings RunnersCall.interface σ} {c : σ}

/-- A pass leaves of the demand what has not lapsed. -/
theorem visit_tracker (h : Roster st.store pool pods)
    (hfound : st.store.getPool pool = .ok (some record)) :
    (visit cfg pool now env c st).after.tracker = (st.tracker.snapshot now).2 := by
  rw [visit_eq h hfound]
  dsimp only
  rw [conclude_tracker]
  rfl

/-- A pass that does not fail leaves its pool at rest, at the same demand. -/
theorem visit_rested (h : Roster st.store pool pods)
    (hfound : st.store.getPool pool = .ok (some record)) {verdict : Verdict}
    (hverdict : (visit cfg pool now env c st).verdict = .ok verdict) :
    ∃ stored left, Rested pool now (visit cfg pool now env c st).after
        { record with status := stored } left ∧
      (opening now (visit cfg pool now env c st).after { record with status := stored }
        left).desired = (opening now st record pods).desired := by
  obtain ⟨left, result, stored, hroster, htally, hrecorded⟩ := visit_recorded h hfound hverdict
  obtain ⟨left', -, hroster', -, hsettled⟩ := visit_settled h hfound cfg now env c
  obtain rfl := Except.ok.inj (hroster'.listed.symm.trans hroster.listed)
  have htracker : (visit cfg pool now env c st).after.tracker = (st.tracker.snapshot now).2 :=
    visit_tracker h hfound
  have hsnapshot : (visit cfg pool now env c st).after.tracker.snapshot now =
      st.tracker.snapshot now := by
    rw [htracker, Demand.Tracker.snapshot_snapshot]
  have hdesired : (opening now (visit cfg pool now env c st).after { record with status := stored }
      left').desired = (opening now st record pods).desired := by
    unfold Opening.desired opening
    dsimp only
    rw [hsnapshot]
  refine ⟨stored, left', ⟨hroster, hrecorded.found, hsettled.living_eq, ?_, fun verdict => ?_⟩,
    hdesired⟩
  · rw [hsnapshot, htracker]
  · -- what there is to say now is what the pass had counted
    have hlast := (PoolStatus.findings_inj hrecorded.findings).2.2.2.2
    have hready : result.live.countP (·.phase == .running) = left'.countP (·.phase == .running) :=
      htally.ready
    rw [show ({ record with status := stored } : PoolRecord).status = stored from rfl,
      hrecorded.findings]
    unfold PoolStatus.findings Result.status
    dsimp only
    rw [hdesired, hlast, htally.available, hready]
    unfold opening
    dsimp only
    rw [hsnapshot]
    rfl

/-- A pass that is held has found too many pods, and keeps them and the time until which they
are to be kept. -/
theorem visit_held (h : Roster st.store pool pods)
    (hfound : st.store.getPool pool = .ok (some record)) {span : Span}
    (hverdict : (visit cfg pool now env c st).verdict = .ok (.requeueAfter span)) :
    (opening now st record pods).desired < (living pods).length ∧
      livingIn pool (visit cfg pool now env c st).after.store = living pods ∧
      holdRemaining cfg (lastScaleUp pool (visit cfg pool now env c st).after.store) now =
        some span := by
  have howned : st.store.Owned pool := h.filed.owned fun pods' hpods' => by
    rw [← Except.ok.inj (h.listed.symm.trans hpods')]
    exact h.owned
  obtain ⟨hcourse, -⟩ := visit_course h.filed howned env c
  cases hcourse with
  | still _ hnot | shrunk _ _ hnot => exact absurd hverdict (hnot span)
  | grown _ hdone => cases hdone.symm.trans hverdict
  | broken _ hfault => cases hfault.symm.trans hverdict
  | held hsurplus hheld _ hspan hsame hlast =>
    refine ⟨(surplus_iff h hfound env c).mp hsurplus, hsame.trans (livingIn_eq h), ?_⟩
    rw [hlast, Verdict.requeueAfter.inj (Except.ok.inj (hverdict.symm.trans hspan))]
    exact hheld

end

/-- A settled pass can be made again for nothing.  If a pass is done and leaves as many pods
as there should be by the spec and the demand, or if it is held, then the same pass made once
more, in any surroundings, has the same verdict, asks nothing and leaves everything as it is:
the texts of all pools and pods, with the times of their updates, and the demand. -/
theorem settled_pass_is_idempotent (cfg : Config) {pool : String} (now : Instant) {st : Stage}
    {pods : List Pod} (hfiled : st.store.Filed) (hlisted : st.store.listPods pool = .ok pods)
    (howned : ∀ p ∈ pods, p.owner = pool) {σ τ : Type}
    (env : Surroundings RunnersCall.interface σ) (c : σ)
    (env' : Surroundings RunnersCall.interface τ) (c' : τ) :
    let first := visit cfg pool now env c st
    let again := visit cfg pool now env' c' first.after
    (∀ record left, st.store.getPool pool = .ok (some record) → first.verdict = .ok .done →
      first.after.store.listPods pool = .ok left →
      left.length = target record.spec (st.tracker.snapshot now).1.demand →
      again.verdict = .ok .done ∧ again.calls = [] ∧ again.after = first.after) ∧
    ∀ span, first.verdict = .ok (.requeueAfter span) →
      again.verdict = .ok (.requeueAfter span) ∧ again.calls = [] ∧ again.after = first.after := by
  intro first again
  have h : Roster st.store pool pods := ⟨hfiled, hlisted, howned⟩
  refine ⟨fun record left hfound hverdict hleft hfit => ?_, fun span hverdict => ?_⟩
  · obtain ⟨stored, left', hrested, hdesired⟩ := visit_rested h hfound hverdict
    obtain rfl := Except.ok.inj (hrested.roster.listed.symm.trans hleft)
    rw [← desiredReplicas_eq] at hfit
    have hconsider := hrested.consider_rest cfg (hfit.trans hdesired.symm)
    have hagain : again = _ := hrested.visit_eq_self hconsider rfl env' c'
    rw [hagain]
    exact ⟨rfl, rfl, rfl⟩
  · obtain ⟨record, hfound⟩ := found_of_visit hverdict
    obtain ⟨stored, left, hrested, hdesired⟩ := visit_rested h hfound hverdict
    obtain ⟨hmany, hsame, hhold⟩ := visit_held h hfound hverdict
    rw [livingIn_eq hrested.roster, hrested.living] at hsame
    rw [← hsame, ← hdesired] at hmany
    rw [lastScaleUp_eq hrested.found] at hhold
    have hconsider := hrested.consider_hold hmany hhold
    have hagain : again = _ := hrested.visit_eq_self hconsider rfl env' c'
    rw [hagain]
    exact ⟨rfl, rfl, rfl⟩

/-- Surroundings in which the source is not to be reached. -/
def silence : Surroundings RunnersCall.interface Unit := fun s call =>
  match call with
  | .probe _ _ _ => (none, s)
  | .registrationToken _ => (.error (.http false), s)

/-- The pass that creates the pod leaves as many as there should be. -/
theorem listed_hiring : ∃ left, hiring.after.store.listPods "ci" = .ok left ∧
    left.length = target bareRecord.spec (bareStage.tracker.snapshot 100).1.demand := by
  obtain ⟨hdone, -, -, -⟩ := hiring_done
  obtain ⟨left, -, hroster, -, hsettled⟩ :=
    visit_settled roster_bareStage found_bareRecord patient 100 welcoming ()
  have hwanted : target bareRecord.spec (bareStage.tracker.snapshot 100).1.demand = 1 := by
    decide +kernel
  rw [show (visit patient "ci" 100 welcoming () bareStage).verdict = .ok .done from hdone,
    hwanted] at hsettled
  refine ⟨left, hroster.listed, ?_⟩
  rw [hwanted]
  cases hsettled with
  | grown _ hadded _ hall =>
    rcases hall with ⟨-, hall⟩ | ⟨hlimited, -⟩ | ⟨fault, hfault⟩
    · rw [hadded.length_eq, Nat.add_comm, hall]
    · cases hlimited
    · cases hfault
  | shrunk hsub hleft => exact absurd (Nat.le_trans hleft hsub.length_le) (by decide)

theorem settled_pass_is_idempotent_hiring :
    bareStage.store.Filed ∧ bareStage.store.listPods "ci" = .ok [] ∧
      bareStage.store.getPool "ci" = .ok (some bareRecord) ∧ hiring.verdict = .ok .done ∧
      (visit patient "ci" 100 silence () hiring.after).verdict = .ok .done ∧
      (visit patient "ci" 100 silence () hiring.after).calls = [] ∧
      (visit patient "ci" 100 silence () hiring.after).after = hiring.after ∧
      waiting.verdict = .ok (.requeueAfter (.ofSeconds 450)) ∧
      (visit patient "ci" 250 silence () waiting.after).verdict =
        .ok (.requeueAfter (.ofSeconds 450)) ∧
      (visit patient "ci" 250 silence () waiting.after).after = waiting.after := by
  obtain ⟨hdone, -, -, pods, hroster⟩ := hiring_done
  obtain ⟨left, hleft, hfit⟩ := listed_hiring
  obtain ⟨hsettled, -⟩ := settled_pass_is_idempotent patient 100 roster_bareStage.filed
    roster_bareStage.listed nofun welcoming () silence ()
  obtain ⟨hverdict, hcalls, hafter⟩ := hsettled bareRecord left found_bareRecord hdone hleft hfit
  obtain ⟨hsurplus, hheld, hcourse⟩ := waiting_held
  have hrequeue := (hcourse.requeue_iff (.ofSeconds 450)).mpr
    ⟨hsurplus, (Visit.remaining_eq_some_iff waiting_fits).mpr ⟨100, hheld, rfl⟩⟩
  obtain ⟨hpods, hfiled, -⟩ := lastScaleUp_register relaxed_ok.1
  have hrelaxed : Roster relaxedStage.store "ci" pods :=
    hroster.of_pods_eq (hfiled hroster.filed) hpods
  obtain ⟨-, hlate⟩ := settled_pass_is_idempotent patient 250 hrelaxed.filed hrelaxed.listed
    hrelaxed.owned welcoming () silence ()
  obtain ⟨hverdict', -, hafter'⟩ := hlate (.ofSeconds 450) hrequeue
  exact ⟨roster_bareStage.filed, roster_bareStage.listed, found_bareRecord, hdone, hverdict,
    hcalls, hafter, hrequeue, hverdict', hafter'⟩

end Reconcile

end PoolScaler
