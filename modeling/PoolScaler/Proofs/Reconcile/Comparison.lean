import PoolScaler.Proofs.Demand.Canonical
import PoolScaler.Proofs.Reconcile.Hysteresis
import PoolScaler.Proofs.Reconcile.Status
set_option autoImplicit false

/-!
# What the comparison of statuses sees

A pass compares the status that it has come to with the one that is stored, entry by entry.
Both list the reservations as a snapshot does, so they differ in them only if other
reservations stand than did when the stored status was written.
-/

namespace PoolScaler

/-- What a status says besides the reservations and when it was written. -/
def PoolStatus.figures (s : PoolStatus) : UInt32 × UInt32 × UInt32 × Option Instant :=
  (s.desiredReplicas, s.availableReplicas, s.readyReplicas, s.lastScaleUpAt)

theorem PoolStatus.findings_eq_iff_figures {a b : PoolStatus} :
    a.findings = b.findings ↔ a.figures = b.figures ∧ a.reservations = b.reservations := by
  simp only [findings, figures, Prod.mk.injEq]
  tauto

namespace Reconcile

open Demand Demand.Tracker
open Store (Roster)

/-- A status with the reservations of a snapshot. -/
def Lists (s : PoolStatus) (t : Tracker) (now : Instant) : Prop :=
  s.reservations = (t.snapshot now).1.reservations

section

variable {t t' : Tracker} {earlier now : Instant} {current next : PoolStatus}

theorem Lists.reservations_eq_iff (hcurrent : Lists current t earlier) (hnext : Lists next t' now)
    (h : t.Distinct) (h' : t'.Distinct) :
    next.reservations = current.reservations ↔ t'.standing now = t.standing earlier := by
  rw [hnext, hcurrent, h'.reservations_eq_iff h]

/-- But for its time a status is the stored one exactly if it has the same figures and the
same reservations stand. -/
theorem Lists.unchanged_iff (hcurrent : Lists current t earlier) (hnext : Lists next t' now)
    (h : t.Distinct) (h' : t'.Distinct) :
    { next with updatedAt := current.updatedAt } = current ↔
      next.figures = current.figures ∧ t'.standing now = t.standing earlier := by
  rw [← PoolStatus.findings_eq_iff, PoolStatus.findings_eq_iff_figures,
    hcurrent.reservations_eq_iff hnext h h']

end

/-- Snapshots are canonical.  No two requests have reservations of the same name, and no
calls bring a tracker to hold two reservations for one request.  A snapshot lists the
reservations strictly by time and name, so that trackers that hold the same report the same,
in whatever order they hold it.  Lists of two snapshots are the same exactly if the same
reservations stand.

Therefore a pass over a pool whose stored reservations come from a snapshot stores others
exactly if others stand now.  It writes the status then; if the same stand and the figures
are the same as well, the pools are untouched. -/
theorem snapshots_are_canonical :
    (∀ a b, reservationName a = reservationName b → a = b) ∧
    (∀ ttl h, (Tracker.after ttl h).Distinct) ∧
    ∀ (t t' : Tracker), t.Distinct → t'.Distinct → ∀ earlier now : Instant,
      (t.snapshot now).1.reservations.Pairwise Reservation.Before ∧
      (t.Agree t' → (t.snapshot now).1 = (t'.snapshot now).1) ∧
      ((t.snapshot earlier).1.reservations = (t'.snapshot now).1.reservations ↔
        t.standing earlier = t'.standing now) ∧
      (∀ current next, Lists current t earlier → Lists next t' now →
        ({ next with updatedAt := current.updatedAt } = current ↔
          next.figures = current.figures ∧ t'.standing now = t.standing earlier)) ∧
      ∀ (cfg : Config) (pool : String) (st : Stage) {σ : Type}
        (env : Surroundings RunnersCall.interface σ) (c : σ) (record : PoolRecord)
        (pods : List Pod) (verdict : Verdict),
        st.store.Filed → st.store.listPods pool = .ok pods → (∀ p ∈ pods, p.owner = pool) →
        st.store.getPool pool = .ok (some record) → Lists record.status t earlier →
        st.tracker = t' → (visit cfg pool now env c st).verdict = .ok verdict →
        ∃ stored, (visit cfg pool now env c st).after.store.getPool pool =
            .ok (some { record with status := stored }) ∧
          Lists stored t' now ∧
          (stored.reservations = record.status.reservations ↔
            t'.standing now = t.standing earlier) ∧
          (t'.standing now ≠ t.standing earlier → stored.updatedAt = now) ∧
          (t'.standing now = t.standing earlier → stored.figures = record.status.figures →
            (visit cfg pool now env c st).after.store.pools = st.store.pools) := by
  refine ⟨fun _ _ => reservationName_injective,
    fun ttl h => (consistent_after ttl h).distinct, ?_⟩
  intro t t' h h' earlier now
  refine ⟨h.pairwise_before now, fun hagree => hagree.snapshot_eq h h' now,
    h.reservations_eq_iff h', fun current next hcurrent hnext => hcurrent.unchanged_iff hnext h h',
    ?_⟩
  intro cfg pool st σ env c record pods verdict hfiled hlisted howned hfound hcurrent htracker
    hverdict
  have hroster : Roster st.store pool pods := ⟨hfiled, hlisted, howned⟩
  obtain ⟨left, result, stored, -, -, hrecorded⟩ := visit_recorded hroster hfound hverdict
  obtain ⟨-, -, -, hreservations, -⟩ := PoolStatus.findings_inj hrecorded.findings
  have hstored : Lists stored t' now := htracker ▸ hreservations
  have hcompare := hcurrent.reservations_eq_iff hstored h h'
  refine ⟨stored, hrecorded.found, hstored, hcompare, fun hother => ?_, fun hsame hfigures => ?_⟩
  · refine hrecorded.written fun hfindings => hother (hcompare.mp ?_)
    exact (PoolStatus.findings_eq_iff_figures.mp hfindings).2
  · exact hrecorded.kept (PoolStatus.findings_eq_iff_figures.mpr ⟨hfigures, hcompare.mpr hsame⟩)

/-- Two requests are granted at once, and the job of a third is assigned afterwards. -/
def grantedAtOnce : Tracker := .after (.ofSeconds 600) [.reserve [12, -3] 100, .assign 7]

/-- The same, in another order. -/
def grantedInTurn : Tracker :=
  .after (.ofSeconds 600) [.assign 7, .reserve [-3] 100, .reserve [12] 100]

/-- A pool without pods, whose status lists what stood at 100. -/
def closedRecord : PoolRecord :=
  ⟨⟨"ci", ⟨"", "acme", "", "ci"⟩, 0, some 0, ⟨"runner", .empty, .empty⟩, 0⟩,
    ⟨0, 0, 0, [⟨"job--3", 1, 700⟩, ⟨"job-12", 1, 700⟩], none, 100⟩⟩

def closedStage : Stage := ⟨Store.empty.putPool closedRecord, grantedInTurn, []⟩

theorem agree_granted : grantedAtOnce.Agree grantedInTurn := by
  have hreserved : grantedAtOnce.reserved = [(12, 700), (-3, 700)] ∧
      grantedInTurn.reserved = [(-3, 700), (12, 700)] := by decide +kernel
  refine ⟨fun id => ?_, fun id => ?_⟩
  · unfold reservation?
    rw [hreserved.1, hreserved.2]
    by_cases hid : id = 12
    · subst hid; rfl
    · simp [List.lookup_cons, beq_eq_false_iff_ne.mpr hid]
  · rw [show grantedAtOnce.assigned = grantedInTurn.assigned by decide +kernel]

theorem roster_closedStage : Roster closedStage.store "ci" [] :=
  ⟨(Store.Reachable.putPool .empty closedRecord).filed, by decide +kernel, nofun⟩

theorem found_closedRecord : closedStage.store.getPool "ci" = .ok (some closedRecord) :=
  getPool_insert closedRecord

/-- A pass has nothing to do there. -/
theorem visit_closedStage (now : Instant) :
    (visit patient "ci" now welcoming () closedStage).verdict = .ok .done := by
  have hwanted : (opening now closedStage closedRecord []).desired = 0 := by
    rw [Opening.desired, desiredReplicas_eq]
    exact Nat.min_zero _
  have hconsider : consider patient (opening now closedStage closedRecord []) now =
      .done (.ok .rest) := by
    unfold consider
    rw [hwanted]
    rfl
  rw [visit_eq roster_closedStage found_closedRecord, hconsider, Dialogue.run_done]
  dsimp only [conclude, perform]
  rw [show (opening now closedStage closedRecord []).record = closedRecord from rfl,
    recordStatus_eq (s := (opened "ci" now closedStage []).store) found_closedRecord]

theorem snapshots_are_canonical_granted :
    grantedAtOnce ≠ grantedInTurn ∧
      (grantedAtOnce.snapshot 100).1 = ⟨[⟨"job--3", 1, 700⟩, ⟨"job-12", 1, 700⟩], 1⟩ ∧
      (visit patient "ci" 700 welcoming () closedStage).verdict = .ok .done ∧
      ∃ stored, (visit patient "ci" 700 welcoming () closedStage).after.store.getPool "ci" =
          .ok (some { closedRecord with status := stored }) ∧
        stored.reservations = [] ∧ stored.updatedAt = 700 := by
  obtain ⟨-, hreached, hall⟩ := snapshots_are_canonical
  have hdistinct := hreached (.ofSeconds 600) [.reserve [12, -3] 100, .assign 7]
  have hdistinct' :=
    hreached (.ofSeconds 600) [.assign 7, .reserve [-3] 100, .reserve [12] 100]
  have hsnapshot : (grantedInTurn.snapshot 100).1 =
      ⟨[⟨"job--3", 1, 700⟩, ⟨"job-12", 1, 700⟩], 1⟩ :=
    congrArg (Snapshot.mk · 1) (List.mergeSort_of_pairwise (by decide +kernel))
  obtain ⟨-, hsame, -⟩ := hall grantedAtOnce grantedInTurn hdistinct hdistinct' 100 100
  obtain ⟨-, -, -, -, hpass⟩ := hall grantedInTurn grantedInTurn hdistinct' hdistinct' 100 700
  obtain ⟨stored, hstored, hlists, -, hwritten, -⟩ := hpass patient "ci" closedStage welcoming ()
    closedRecord [] .done roster_closedStage.filed roster_closedStage.listed nofun
    found_closedRecord (congrArg Snapshot.reservations hsnapshot).symm rfl (visit_closedStage 700)
  refine ⟨by decide +kernel, (hsame agree_granted).trans hsnapshot, visit_closedStage 700, stored,
    hstored, hlists.trans (by decide +kernel), hwritten ?_⟩
  decide +kernel

end Reconcile

end PoolScaler
