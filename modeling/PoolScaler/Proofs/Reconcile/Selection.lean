import PoolScaler.Proofs.Reconcile.Answers
import PoolScaler.Proofs.Reconcile.Footprint
set_option autoImplicit false

/-!
# Shrinking a pool

A pass over a pool with more living pods than it should have, none of which
must still be kept.  `Overfull` names the situation; what the pass deletes follows
from the answers about each runner.
-/

namespace PoolScaler.Reconcile

open Dialogue (Runs)
open Store (Roster)

/-! ## The selection -/

namespace Answers

variable {a : Answers} {cfg : Config} {now : Instant} {pods : List Pod} {p : Pod}

theorem isOffline_iff : a.isOffline p = true ↔
    ∃ fault, a.probe p.name 0 = some (.error fault) ∧ fault.kind = .offline := by
  unfold isOffline
  split
  · rename_i fault hprobe
    rw [hprobe, decide_eq_true_iff]
    constructor
    · exact fun hkind => ⟨fault, rfl, hkind⟩
    · rintro ⟨_, hsame, hkind⟩
      exact Except.error.inj (Option.some.inj hsame) ▸ hkind
  · rename_i hprobe
    exact ⟨nofun, fun ⟨fault, hsame, _⟩ => absurd hsame (hprobe fault)⟩

theorem isUnregistered_iff : a.isUnregistered cfg now p = true ↔
    ∃ fault, a.probe p.name 0 = some (.error fault) ∧ fault.kind = .notFound ∧
      cfg.registrationTimeout.seconds < p.age now := by
  unfold isUnregistered
  split
  · rename_i fault hprobe
    rw [hprobe, decide_eq_true_iff]
    constructor
    · exact fun hkind => ⟨fault, rfl, hkind⟩
    · rintro ⟨_, hsame, hkind⟩
      exact Except.error.inj (Option.some.inj hsame) ▸ hkind
  · rename_i hprobe
    exact ⟨nofun, fun ⟨fault, hsame, _⟩ => absurd hsame (hprobe fault)⟩

theorem isIdle_iff {k : Nat} : a.isIdle p k = true ↔ a.probe p.name k = some (.ok ⟨false⟩) :=
  decide_eq_true_iff

theorem isBusy_iff {k : Nat} : a.isBusy p k = true ↔ a.probe p.name k = some (.ok ⟨true⟩) :=
  decide_eq_true_iff

theorem mem_selection {excess : Nat} (h : p ∈ a.selection cfg now pods excess) :
    p ∈ pods ∧ (a.isOffline p = true ∨ a.isUnregistered cfg now p = true ∨
      a.isIdle p 0 = true ∧ a.isIdle p 1 = true) := by
  have hmem := List.mem_of_mem_take h
  rcases List.mem_append.mp hmem with hmem | hmem
  · rcases List.mem_append.mp hmem with hmem | hmem
    · obtain ⟨hp, hoffline⟩ := List.mem_filter.mp hmem
      exact ⟨hp, .inl hoffline⟩
    · obtain ⟨hp, hunregistered⟩ := List.mem_filter.mp hmem
      exact ⟨hp, .inr (.inl hunregistered)⟩
  · obtain ⟨hmem, hagain⟩ := List.mem_filter.mp hmem
    obtain ⟨hp, hidle⟩ := List.mem_filter.mp hmem
    exact ⟨hp, .inr (.inr ⟨hidle, hagain⟩)⟩

/-- The three kinds of pods that may go have none in common. -/
theorem nodup_selection (h : pods.Nodup) (excess : Nat) :
    (a.selection cfg now pods excess).Nodup := by
  refine List.Nodup.sublist (List.take_sublist _ _) ?_
  refine List.nodup_append.mpr ⟨List.nodup_append.mpr ⟨h.filter _, h.filter _, ?_⟩,
    (h.filter _).filter _, ?_⟩
  · rintro p hp _ hq rfl
    obtain ⟨fault, hprobe, hkind⟩ := isOffline_iff.mp (List.mem_filter.mp hp).2
    obtain ⟨fault', hprobe', hkind', -⟩ := isUnregistered_iff.mp (List.mem_filter.mp hq).2
    obtain rfl := Except.error.inj (Option.some.inj (hprobe.symm.trans hprobe'))
    cases hkind.symm.trans hkind'
  · rintro p hp _ hq rfl
    have hidle := isIdle_iff.mp (List.mem_filter.mp (List.mem_filter.mp hq).1).2
    rcases List.mem_append.mp hp with hp | hp
    · obtain ⟨fault, hprobe, -⟩ := isOffline_iff.mp (List.mem_filter.mp hp).2
      cases hprobe.symm.trans hidle
    · obtain ⟨fault, hprobe, -⟩ := isUnregistered_iff.mp (List.mem_filter.mp hp).2
      cases hprobe.symm.trans hidle

theorem length_selection (excess : Nat) :
    (a.selection cfg now pods excess).length =
      min excess (pods.countP a.isOffline + pods.countP (a.isUnregistered cfg now) +
        (pods.filter (a.isIdle · 0)).countP (a.isIdle · 1)) := by
  unfold selection
  rw [List.length_take, List.length_append, List.length_append, ← List.countP_eq_length_filter,
    ← List.countP_eq_length_filter, ← List.countP_eq_length_filter]

/-- A pod with a job, one that has a job when asked after again and one that may
still register are never selected. -/
theorem not_mem_selection (excess : Nat)
    (h : a.isBusy p 0 = true ∨ a.isIdle p 0 = true ∧ a.isBusy p 1 = true ∨
      ∃ fault, a.probe p.name 0 = some (.error fault) ∧ fault.kind = .notFound ∧
        p.age now ≤ cfg.registrationTimeout.seconds) :
    p ∉ a.selection cfg now pods excess := by
  intro hmem
  obtain ⟨-, hkind⟩ := mem_selection hmem
  rw [isOffline_iff, isUnregistered_iff, isIdle_iff, isIdle_iff] at hkind
  rw [isBusy_iff, isIdle_iff, isBusy_iff] at h
  rcases h with hbusy | ⟨hidle, hbusy⟩ | ⟨fault, hprobe, hmissing, hyoung⟩
  · rcases hkind with ⟨fault', hprobe', -⟩ | ⟨fault', hprobe', -⟩ | ⟨hidle', -⟩
    · cases hbusy.symm.trans hprobe'
    · cases hbusy.symm.trans hprobe'
    · cases hbusy.symm.trans hidle'
  · rcases hkind with ⟨fault', hprobe', -⟩ | ⟨fault', hprobe', -⟩ | ⟨-, hagain⟩
    · cases hidle.symm.trans hprobe'
    · cases hidle.symm.trans hprobe'
    · cases hbusy.symm.trans hagain
  · rcases hkind with ⟨fault', hprobe', hoffline⟩ | ⟨fault', -, -, hold⟩ | ⟨hidle', -⟩
    · obtain rfl := Except.error.inj (Option.some.inj (hprobe.symm.trans hprobe'))
      cases hmissing.symm.trans hoffline
    · omega
    · cases hprobe.symm.trans hidle'

end Answers

/-! ## The pass -/

/-- A pass over a pool with more living pods than it should have, at a time when
none must still be kept. -/
structure Overfull (cfg : Config) (pool : String) (now : Instant) (st : Stage)
    (record : PoolRecord) (pods : List Pod) : Prop where
  filed : st.store.Filed
  found : st.store.getPool pool = .ok (some record)
  listed : st.store.listPods pool = .ok pods
  owned : ∀ p ∈ pods, p.owner = pool
  surplus : Demand.desiredReplicas record.spec (st.tracker.snapshot now).1 < (living pods).length
  released : ∀ T, record.status.lastScaleUpAt = some T →
    T.toNat + cfg.scaleDownDelay.seconds ≤ now.toNat

namespace Overfull

variable {cfg : Config} {pool : String} {now : Instant} {st : Stage} {record : PoolRecord}
  {pods : List Pod}

theorem roster (h : Overfull cfg pool now st record pods) : Roster st.store pool pods :=
  ⟨h.filed, h.listed, h.owned⟩

/-- How many living pods there are too many. -/
def excess (now : Instant) (st : Stage) (record : PoolRecord) (pods : List Pod) : Nat :=
  (living pods).length - Demand.desiredReplicas record.spec (st.tracker.snapshot now).1

/-- The pass is a choice and its conclusion. -/
theorem pass_eq_choose (h : Overfull cfg pool now st record pods) :
    pass cfg pool now st =
      ((choose cfg record.spec.identity now (excess now st record pods) (living pods)).bind fun
        choice => .done (moveOf choice)).bind fun move =>
          .done (conclude cfg pool now (opening now st record pods) move
            (opened pool now st pods)) := by
  have hsurplus : (opening now st record pods).desired < (opening now st record pods).live.length :=
    h.surplus
  have hreleased :
      holdRemaining cfg (opening now st record pods).record.status.lastScaleUpAt now = none :=
    holdRemaining_eq_none h.released
  rw [pass_eq h.roster h.found, consider_eq_shrink hsurplus, shrink_eq_choose hreleased]
  rfl

/-- What is chosen is deleted. -/
theorem result_of_choose (h : Overfull cfg pool now st record pods) {σ : Type}
    {env : Surroundings RunnersCall.interface σ} {c : σ} {gone : List Pod}
    (hchoose : ((choose cfg record.spec.identity now (excess now st record pods)
      (living pods)).run env c).result = .ok gone) :
    ∃ st', ((pass cfg pool now st).run env c).result = (.ok .done, st') ∧
      Store.Roster st'.store pool ((living pods).filter fun p => p.name ∉ gone.map (·.name)) := by
  obtain ⟨st', hconclude, hroster, -⟩ := conclude_delete h.roster h.found cfg now gone
  refine ⟨st', ?_, hroster⟩
  rw [h.pass_eq_choose, Dialogue.run_bind]
  simp only [Dialogue.run_done, Dialogue.run_bind]
  rw [hchoose, moveOf]
  exact hconclude

end Overfull

/-- A pass over an overfull pool, in which every first answer is plain and every
second one that is asked for is a busy flag, deletes the selection: as many of
the offline and the unregistered pods as there are too many, and then of the
idle ones that are idle again, in the order of creation and of the names.  All
other living pods are still listed. -/
theorem pass_shrinks {cfg : Config} {pool : String} {now : Instant} {st : Stage}
    {record : PoolRecord} {pods : List Pod} (h : Overfull cfg pool now st record pods)
    {a : Answers} (hplain : ∀ p ∈ living pods, a.Plain p)
    (hflag : ∀ p ∈ living pods,
      2 ≤ ((pass cfg pool now st).run a.surroundings Asked.none).state p.name →
      ∃ status, a.probe p.name 1 = some (.ok status)) :
    let out := (pass cfg pool now st).run a.surroundings Asked.none
    let excess := Overfull.excess now st record pods
    let gone := a.selection cfg now (living pods) excess
    out.result.1 = .ok .done ∧
      out.result.2.store.listPods pool = .ok ((living pods).filter (· ∉ gone)) ∧
      ((living pods).Pairwise fun p q => Precedes (p.createdAt, p.name) (q.createdAt, q.name)) ∧
      gone.Nodup ∧ (∀ p ∈ gone, p ∈ living pods) ∧
      gone.length =
        min excess ((living pods).countP a.isOffline +
          (living pods).countP (a.isUnregistered cfg now) +
          ((living pods).filter (a.isIdle · 0)).countP (a.isIdle · 1)) ∧
      ∀ p, a.isBusy p 0 = true ∨ a.isIdle p 0 = true ∧ a.isBusy p 1 = true ∨
          (∃ fault, a.probe p.name 0 = some (.error fault) ∧ fault.kind = .notFound ∧
            p.age now ≤ cfg.registrationTimeout.seconds) → p ∉ gone := by
  intro out excess gone
  have hroster := roster_opened h.roster now
  have hgone : ∀ p ∈ gone, p ∈ living pods := fun p hp => (Answers.mem_selection hp).1
  -- the questions of the pass are those of its choice
  have hstate : out.state = ((choose cfg record.spec.identity now excess (living pods)).run
      a.surroundings Asked.none).state := by
    simp only [out, h.pass_eq_choose]
    rw [Dialogue.run_state_of_done _ _ _ fun _ => ⟨_, rfl⟩,
      Dialogue.run_state_of_done _ _ _ fun _ => ⟨_, rfl⟩]
  have hchoice := choose_run cfg record.spec.identity now hroster.nodup_names hplain excess
    fun p hp hasked => hflag p hp (hstate.symm ▸ hasked)
  obtain ⟨st', hresult, hlisted⟩ := h.result_of_choose hchoice
  rw [filter_names_eq hroster hgone] at hlisted
  change out.result = (.ok .done, st') at hresult
  refine ⟨?_, ?_, ?_, ?_, hgone, Answers.length_selection excess, ?_⟩
  · rw [hresult]
  · rw [hresult]
    exact hlisted.listed
  · exact hroster.pairwise.imp fun hbefore => (Store.listedBefore_iff _ _).mp hbefore
  · exact Answers.nodup_selection (List.Nodup.of_map _ hroster.nodup_names) excess
  · exact fun p hp => Answers.not_mem_selection excess hp

/-- A keeper's settings. -/
def tenMinutes : Config :=
  ⟨"https://github.com", .ofSeconds 600, .ofSeconds 600, .ofSeconds 60, .ofSeconds 10⟩

/-- A pool that should have two pods. -/
def pairPool : PoolRecord :=
  .new ⟨"ci", ⟨"", "acme", "", "ci"⟩, 2, none, ⟨"runner", .empty, .empty⟩, 0⟩

/-- A pod of that pool. -/
def pairPod (name : String) (phase : Phase) (createdAt : Instant) : Pod :=
  ⟨name, "ci", phase, "runner", .empty, .empty, createdAt⟩

/-- Seven pods of which one has ended. -/
def sevenPods : List Pod := [
  pairPod "ci-done" .succeeded 4,
  pairPod "ci-busy" .running 5,
  pairPod "ci-soon" .running 6,
  pairPod "ci-lost" .pending 7,
  pairPod "ci-off" .running 8,
  pairPod "ci-idle" .running 9,
  pairPod "ci-new" .pending 900]

/-- The pool and its pods in a store, and no demand. -/
def sevenStage : Stage :=
  ⟨sevenPods.foldl Store.putPod (Store.empty.putPool pairPool), .new (.ofSeconds 600), []⟩

/-- Each pod's runner is a different case. -/
def sevenAnswers : Answers where
  probe name k :=
    ([("ci-busy", .ok ⟨true⟩, .ok ⟨false⟩),
      ("ci-soon", .ok ⟨false⟩, .ok ⟨true⟩),
      ("ci-lost", .error (.runnerNotFound "ci-lost"), .ok ⟨false⟩),
      ("ci-off", .error (.runnerOffline "ci-off" false), .ok ⟨false⟩),
      ("ci-idle", .ok ⟨false⟩, .ok ⟨false⟩),
      ("ci-new", .error (.runnerNotFound "ci-new"), .ok ⟨false⟩)
    ] : List (String × Sourced RunnerStatus × Sourced RunnerStatus)).lookup name |>.map
      fun answer => if k = 0 then answer.1 else answer.2
  token := .error (.notFound "")

theorem reachable_foldl_putPod (pods : List Pod) {s : Store} (h : s.Reachable) :
    (pods.foldl Store.putPod s).Reachable ∧ (pods.foldl Store.putPod s).pools = s.pools := by
  induction pods generalizing s with
  | nil => exact ⟨h, rfl⟩
  | cons p pods ih => exact ih (h.putPod p)

theorem entries_sevenStage : sevenStage.store.pods.entries = [
    ("ci:ci-busy", Store.writePod (pairPod "ci-busy" .running 5)),
    ("ci:ci-done", Store.writePod (pairPod "ci-done" .succeeded 4)),
    ("ci:ci-idle", Store.writePod (pairPod "ci-idle" .running 9)),
    ("ci:ci-lost", Store.writePod (pairPod "ci-lost" .pending 7)),
    ("ci:ci-new", Store.writePod (pairPod "ci-new" .pending 900)),
    ("ci:ci-off", Store.writePod (pairPod "ci-off" .running 8)),
    ("ci:ci-soon", Store.writePod (pairPod "ci-soon" .running 6))] := rfl

theorem listed_sevenStage : sevenStage.store.listPods "ci" = .ok sevenPods := by
  have hread : (Store.texts sevenStage.store "ci").mapM (fun e => Store.readPod e.2) =
      .ok [pairPod "ci-busy" .running 5, pairPod "ci-done" .succeeded 4,
        pairPod "ci-idle" .running 9, pairPod "ci-lost" .pending 7, pairPod "ci-new" .pending 900,
        pairPod "ci-off" .running 8, pairPod "ci-soon" .running 6] := by
    unfold Store.texts
    rw [entries_sevenStage]
    refine Store.mapM_eq_ok_iff.mpr ?_
    repeat refine .cons (Store.readPod_writePod _) ?_
    exact .nil
  refine (Store.listPods_of_texts hread).trans (congrArg Except.ok ?_)
  exact Store.mergeSort_listedBefore (List.isPerm_iff.mp (by decide +kernel)) (by decide)
    (by decide +kernel)

theorem overfull_seven : Overfull tenMinutes "ci" 1000 sevenStage pairPool sevenPods := by
  obtain ⟨hreachable, hpools⟩ := reachable_foldl_putPod sevenPods (.putPool .empty pairPool)
  refine ⟨hreachable.filed, ?_, listed_sevenStage, by decide, by decide +kernel,
    fun _ hlast => nomatch hlast⟩
  exact (getPool_of_pools_eq hpools "ci").trans (getPool_insert pairPool)

theorem selection_seven : sevenAnswers.selection tenMinutes 1000 (living sevenPods)
    (Overfull.excess 1000 sevenStage pairPool sevenPods) =
    [pairPod "ci-off" .running 8, pairPod "ci-lost" .pending 7, pairPod "ci-idle" .running 9] := by
  decide +kernel

theorem pass_shrinks_seven :
    let out := (pass tenMinutes "ci" 1000 sevenStage).run sevenAnswers.surroundings Asked.none
    Overfull tenMinutes "ci" 1000 sevenStage pairPool sevenPods ∧
      (∀ p ∈ living sevenPods, sevenAnswers.Plain p) ∧
      (∀ p ∈ living sevenPods, 2 ≤ out.state p.name →
        ∃ status, sevenAnswers.probe p.name 1 = some (.ok status)) ∧
      out.result.1 = .ok .done ∧
      out.result.2.store.listPods "ci" = .ok [pairPod "ci-busy" .running 5,
        pairPod "ci-soon" .running 6, pairPod "ci-new" .pending 900] := by
  have hliving : living sevenPods = [pairPod "ci-busy" .running 5, pairPod "ci-soon" .running 6,
      pairPod "ci-lost" .pending 7, pairPod "ci-off" .running 8, pairPod "ci-idle" .running 9,
      pairPod "ci-new" .pending 900] := rfl
  have hplain : ∀ p ∈ living sevenPods, sevenAnswers.Plain p := by
    rw [hliving]
    simp only [List.forall_mem_cons]
    exact ⟨True.intro, True.intro, .inr rfl, .inl rfl, True.intro, .inr rfl, nofun⟩
  have hagain : ∀ p ∈ living sevenPods,
      ∃ status, sevenAnswers.probe p.name 1 = some (.ok status) := by
    rw [hliving]
    simp only [List.forall_mem_cons]
    exact ⟨⟨_, rfl⟩, ⟨_, rfl⟩, ⟨_, rfl⟩, ⟨_, rfl⟩, ⟨_, rfl⟩, ⟨_, rfl⟩, nofun⟩
  obtain ⟨hverdict, hlisted, -⟩ :=
    pass_shrinks overfull_seven hplain fun p hp _ => hagain p hp
  refine ⟨overfull_seven, hplain, fun p hp _ => hagain p hp, hverdict, hlisted.trans ?_⟩
  rw [selection_seven, hliving]
  decide +kernel

end PoolScaler.Reconcile
