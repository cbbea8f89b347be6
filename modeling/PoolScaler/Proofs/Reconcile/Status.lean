import PoolScaler.Proofs.Reconcile.Convergence
set_option autoImplicit false

/-!
# What a pass records

A pass lists the pods of its pool once and from then on keeps count.  What it
records nevertheless agrees with the pods that it leaves, whichever way it takes.
-/

namespace PoolScaler

/-- What a status says, but for when it was written. -/
def PoolStatus.findings (s : PoolStatus) :
    UInt32 × UInt32 × UInt32 × List Reservation × Option Instant :=
  (s.desiredReplicas, s.availableReplicas, s.readyReplicas, s.reservations, s.lastScaleUpAt)

theorem PoolStatus.findings_inj {a b : PoolStatus} (h : a.findings = b.findings) :
    a.desiredReplicas = b.desiredReplicas ∧ a.availableReplicas = b.availableReplicas ∧
      a.readyReplicas = b.readyReplicas ∧ a.reservations = b.reservations ∧
      a.lastScaleUpAt = b.lastScaleUpAt := by
  simpa only [findings, Prod.mk.injEq] using h

theorem PoolStatus.findings_eq_iff {a b : PoolStatus} :
    a.findings = b.findings ↔ { a with updatedAt := b.updatedAt } = b := by
  obtain ⟨_, _, _, _, _, _⟩ := a
  obtain ⟨_, _, _, _, _, _⟩ := b
  simp only [findings, PoolStatus.mk.injEq, Prod.mk.injEq, and_true]

namespace Reconcile

open Store (Roster)

/-! ## Counts of a move -/

/-- The pods of a list that run. -/
def running (pods : List Pod) : Nat := pods.countP (·.phase == .running)

/-- What a move has counted agrees with the pods that are left of a list. -/
structure Tally (now : Instant) (last : Option Instant) (pods left : List Pod)
    (result : Result) : Prop where
  available : result.available = left.length
  ready : running result.live = running left
  lastScaleUpAt : result.lastScaleUpAt = if ∃ p ∈ left, p ∉ pods then some now else last

/-- If no pod is new the last growth is the one before. -/
theorem Tally.of_subset {now : Instant} {last : Option Instant} {pods left : List Pod}
    {verdict : Verdict} (hsub : left ⊆ pods) :
    Tally now last pods left ⟨verdict, left.length, left, last⟩ :=
  ⟨rfl, rfl, (if_neg fun ⟨_, hp, hnew⟩ => hnew (hsub hp)).symm⟩

theorem living_subset (pods : List Pod) : living pods ⊆ pods := fun _ => List.mem_of_mem_filter

/-- Pods that were created are none of those that were there, those that had ended
included. -/
theorem Added.not_mem_of_living {count : Nat} {pods left : List Pod}
    (h : Added count (living pods) left) {p : Pod} (hp : p ∈ left) (hnew : p ∉ living pods) :
    p ∉ pods := by
  obtain ⟨new, -, hperm, hpending⟩ := h
  intro hmem
  rcases List.mem_append.mp (hperm.mem_iff.mp hp) with hp | hp
  · exact hnew (List.mem_filter.mpr ⟨hmem, by rw [(hpending p hp).2]; rfl⟩)
  · exact hnew hp

/-- Pods that were created do not run. -/
theorem Added.running_eq {count : Nat} {before after : List Pod} (h : Added count before after) :
    running after = running before := by
  obtain ⟨new, -, hperm, hnew⟩ := h
  have hnone : running new = 0 := by
    refine List.countP_eq_zero.mpr fun p hp => ?_
    rw [(hnew p hp).2]
    exact Bool.false_ne_true
  unfold running at *
  rw [hperm.countP_eq, List.countP_append, hnone, Nat.zero_add]

theorem Tally.of_added {now : Instant} {last : Option Instant} {pods left : List Pod}
    {count : Nat} (h : Added count (living pods) left) (hcount : 0 < count) :
    Tally now last pods left ⟨.done, (living pods).length + count, living pods, some now⟩ := by
  obtain ⟨p, hp, hnew, -⟩ := h.exists_new hcount
  refine ⟨?_, h.running_eq.symm, ?_⟩
  · rw [h.length_eq, Nat.add_comm]
  · exact (if_pos ⟨p, hp, h.not_mem_of_living hp hnew⟩).symm

/-- Pods that are there are deleted, each of them. -/
theorem deleteChosen_fst {s : Store} {pool : String} {pods gone : List Pod}
    (h : Roster s pool pods) (hgone : ∀ p ∈ gone, p ∈ pods)
    (hnames : (gone.map (·.name)).Nodup) :
    (deleteChosen pool gone s).1 = gone.map (·.name) := by
  induction gone generalizing s pods with
  | nil => rfl
  | cons p gone ih =>
    obtain ⟨hp, hgone⟩ := List.forall_mem_cons.mp hgone
    obtain ⟨hfresh, hnames⟩ := List.nodup_cons.mp hnames
    have hthere : s.pods.contains (Pod.key pool p.name) = true := by
      obtain ⟨text, hfind, -⟩ := h.mem_iff.mp hp
      unfold Keyed.contains
      rw [hfind]
      rfl
    have hothers : ∀ q ∈ gone, q ∈ pods.filter (·.name != p.name) := fun q hq =>
      List.mem_filter.mpr ⟨hgone q hq, bne_iff_ne.mpr fun hname =>
        hfresh (List.mem_map.mpr ⟨q, hq, hname⟩)⟩
    have hrest := ih (h.deletePod p.name) hothers hnames
    unfold deleteChosen
    dsimp only [Store.deletePod] at hrest ⊢
    rw [hthere, if_pos rfl, hrest]
    rfl

theorem nodup_names_of_subperm {s : Store} {pool : String} {pods gone : List Pod}
    (h : Roster s pool pods) (hgone : gone.Subperm pods) : (gone.map (·.name)).Nodup := by
  obtain ⟨mid, hperm, hsub⟩ := hgone
  exact (hperm.map _).nodup_iff.mp (h.nodup_names.sublist (hsub.map _))

/-- Of the pods that are deleted and those that are left there are as many as before. -/
theorem deletion_eq {st : Stage} {o : Opening} (h : Roster st.store o.record.spec.name o.live)
    {gone : List Pod} (hgone : gone.Subperm o.live) :
    deletion o gone st = ⟨.done, (o.live.filter (· ∉ gone)).length, o.live.filter (· ∉ gone),
      o.record.status.lastScaleUpAt⟩ := by
  have hcount := length_filter_not_mem h.nodup hgone
  have hleft : (o.live.filter fun p => !(gone.map (·.name)).contains p.name) =
      o.live.filter (· ∉ gone) := by
    rw [← filter_names_eq h hgone.subset]
    refine List.filter_congr fun p _ => ?_
    rw [List.contains_eq_mem, decide_not]
  unfold deletion
  dsimp only
  rw [deleteChosen_fst h hgone.subset (nodup_names_of_subperm h hgone), hleft, List.length_map,
    ← hcount, Nat.add_sub_cancel_left]

section

variable {pool : String} {now : Instant} {st st' : Stage} {record : PoolRecord} {pods : List Pod}

/-- The counts of a move that was made agree with the pods that it has left. -/
theorem perform_tally (h : Roster st.store pool pods)
    (hfound : st.store.getPool pool = .ok (some record)) {cfg : Config} {move : Move}
    (hmove : Resolution (opening now st record pods) (.ok move)) {result : Result}
    (hperform : perform cfg (opening now st record pods) now move (opened pool now st pods) =
      (.ok result, st')) :
    ∃ left, Roster st'.store pool left ∧
      Tally now record.status.lastScaleUpAt pods left result := by
  have hliving := roster_opened h now
  have hname := name_of_getPool h.filed hfound
  cases hmove with
  | backOff | rest _ | hold _ _ =>
    obtain ⟨hresult, rfl⟩ := Prod.mk.inj hperform
    obtain rfl := Except.ok.inj hresult
    exact ⟨living pods, hliving, .of_subset (living_subset pods)⟩
  | create hfew env =>
    obtain ⟨e, st'', hcreate⟩ : ∃ e st'', createAll record.spec env now
        ((opening now st record pods).desired - (opening now st record pods).live.length)
        (opened pool now st pods) = (e, st'') := ⟨_, _, rfl⟩
    obtain ⟨added, left, hroster, hadded, -, ⟨rfl, rfl⟩ | rfl⟩ :=
      roster_createAll hliving hname hcreate
    · rw [perform_create (o := opening now st record pods) hcreate] at hperform
      obtain ⟨hresult, rfl⟩ := Prod.mk.inj hperform
      obtain rfl := Except.ok.inj hresult
      exact ⟨left, hroster, .of_added hadded (Nat.sub_pos_of_lt hfew)⟩
    · unfold perform at hperform
      dsimp only [opening] at hperform hcreate
      rw [hcreate] at hperform
      cases hperform
  | @delete gone hgone _ _ =>
    have hleft := roster_deleteAll hliving gone
    rw [filter_names_eq hliving hgone.subset] at hleft
    rw [perform_delete] at hperform
    obtain ⟨hresult, rfl⟩ := Prod.mk.inj hperform
    obtain rfl := Except.ok.inj hresult
    rw [deletion_eq (o := opening now st record pods) (hname ▸ hliving) hgone]
    refine ⟨_, hname.symm ▸ hleft, .of_subset fun p hp => ?_⟩
    exact living_subset pods (List.mem_of_mem_filter hp)

end

/-! ## Recording -/

/-- A status is written if it says something else than the one before. -/
theorem recordStatus_eq {s : Store} {pool : String} {record : PoolRecord}
    (hfound : s.getPool pool = .ok (some record)) (next : PoolStatus) :
    recordStatus pool record.status next s = .ok
      { s with
        pools := if next.findings = record.status.findings then s.pools
          else s.pools.insert pool (Store.writePool { record with status := next }) } := by
  unfold recordStatus
  rw [updatePoolStatus_found hfound]
  simp only [PoolStatus.findings_eq_iff]
  split <;> rfl

/-- A status was recorded: it is the stored one, or the one before still is where that says
the same. -/
structure Recorded (s s' : Store) (pool : String) (record : PoolRecord) (next stored : PoolStatus) :
    Prop where
  found : s'.getPool pool = .ok (some { record with status := stored })
  findings : stored.findings = next.findings
  kept : stored.findings = record.status.findings → s'.pools = s.pools
  written : stored.findings ≠ record.status.findings → stored.updatedAt = next.updatedAt

theorem recordStatus_recorded {s s' : Store} {pool : String} {record : PoolRecord}
    (hfound : s.getPool pool = .ok (some record)) {next : PoolStatus}
    (hrecord : recordStatus pool record.status next s = .ok s') :
    ∃ stored, Recorded s s' pool record next stored := by
  rw [recordStatus_eq hfound] at hrecord
  rw [← Except.ok.inj hrecord]
  by_cases hsame : next.findings = record.status.findings
  · refine ⟨record.status, ?_, hsame.symm, fun _ => if_pos hsame, absurd rfl⟩
    rw [if_pos hsame]
    exact hfound
  · refine ⟨next, ?_, rfl, fun h => absurd h hsame, fun _ => rfl⟩
    rw [if_neg hsame]
    exact getPool_insert _

/-- A conclusion that does not fail has made a move and recorded what came of it. -/
theorem conclude_eq_ok {cfg : Config} {pool : String} {now : Instant} {o : Opening}
    {move : Except Fault Move} {st st' : Stage} {verdict : Verdict}
    (hconclude : conclude cfg pool now o move st = (.ok verdict, st')) :
    ∃ made result st'', move = .ok made ∧ perform cfg o now made st = (.ok result, st'') ∧
      recordStatus pool o.record.status (result.status o now) st''.store = .ok st'.store := by
  rcases move with fault | made
  · cases hconclude
  · unfold conclude at hconclude
    dsimp only at hconclude
    split at hconclude
    · cases hconclude
    · rename_i result st'' hperform
      split at hconclude
      · cases hconclude
      · rename_i hrecord
        obtain ⟨-, rfl⟩ := Prod.mk.inj hconclude
        exact ⟨made, result, st'', rfl, hperform, hrecord⟩

/-- A conclusion that fails has recorded nothing. -/
theorem conclude_error_pools {cfg : Config} {pool : String} {now : Instant} {o : Opening}
    {move : Except Fault Move} {st : Stage} {fault : Fault}
    (hfault : (conclude cfg pool now o move st).1 = .error fault) :
    (conclude cfg pool now o move st).2.store.pools = st.store.pools := by
  rcases move with fault' | made
  · rfl
  · have hpools := perform_pools cfg o now made st
    unfold conclude at hfault ⊢
    dsimp only at hfault ⊢
    split at hfault
    · rename_i hperform
      rw [hperform] at hpools
      exact hpools
    · rename_i hperform
      rw [hperform] at hpools
      split at hfault
      · exact hpools
      · cases hfault

theorem openPass_pools (pool : String) (now : Instant) (st : Stage) :
    (openPass pool now st).2.store.pools = st.store.pools := by
  unfold openPass
  split
  · rfl
  · rfl
  · dsimp only
    split
    · rfl
    · exact deleteAll_pools _ _ _

/-- What a pass opens with is the record that is stored. -/
theorem openPass_record {pool : String} {now : Instant} {st st' : Stage} {o : Opening}
    (hopen : openPass pool now st = (.ok o, st')) :
    st.store.getPool pool = .ok (some o.record) := by
  unfold openPass at hopen
  split at hopen
  · cases hopen
  · cases hopen
  · rename_i record hfound
    dsimp only at hopen
    split at hopen
    · cases hopen
    · obtain ⟨ho, -⟩ := Prod.mk.inj hopen
      rw [hfound, ← Except.ok.inj ho]

/-! ## Whole passes -/

section

variable {cfg : Config} {pool : String} {now : Instant} {st : Stage} {record : PoolRecord}
  {σ : Type} {env : Surroundings RunnersCall.interface σ} {c : σ}

/-- A pass that does not fail has found the pool. -/
theorem found_of_visit {verdict : Verdict}
    (hverdict : (visit cfg pool now env c st).verdict = .ok verdict) :
    ∃ record, st.store.getPool pool = .ok (some record) := by
  obtain ⟨opens, st', hopen⟩ : ∃ opens st', openPass pool now st = (opens, st') := ⟨_, _, rfl⟩
  rcases opens with fault | o
  · rw [visit_unopened hopen] at hverdict
    cases hverdict
  · exact ⟨o.record, openPass_record hopen⟩

/-- It records the counts of the move that it made. -/
theorem visit_recorded {pods : List Pod} (h : Roster st.store pool pods)
    (hfound : st.store.getPool pool = .ok (some record)) {verdict : Verdict}
    (hverdict : (visit cfg pool now env c st).verdict = .ok verdict) :
    ∃ left result stored, Roster (visit cfg pool now env c st).after.store pool left ∧
      Tally now record.status.lastScaleUpAt pods left result ∧
      Recorded st.store (visit cfg pool now env c st).after.store pool record
        (result.status (opening now st record pods) now) stored := by
  rw [visit_eq h hfound] at hverdict ⊢
  dsimp only at hverdict ⊢
  have hmove := (consider_resolution cfg (opening now st record pods) now).run env c
  generalize ((consider cfg (opening now st record pods) now).run env c).result = move
    at hverdict hmove ⊢
  obtain ⟨concluded, hconcluded⟩ : ∃ concluded, conclude cfg pool now (opening now st record pods)
      move (opened pool now st pods) = concluded := ⟨_, rfl⟩
  rw [hconcluded] at hverdict ⊢
  obtain ⟨_, after⟩ := concluded
  obtain rfl := hverdict
  obtain ⟨made, result, between, rfl, hperform, hrecord⟩ := conclude_eq_ok hconcluded
  obtain ⟨left, hroster, htally⟩ := perform_tally h hfound hmove hperform
  have hpools : between.store.pools = st.store.pools := by
    have hmade := perform_pools cfg (opening now st record pods) now made (opened pool now st pods)
    rw [hperform] at hmade
    exact hmade.trans (deleteAll_pools _ _ _)
  have hfound' := (getPool_of_pools_eq hpools pool).trans hfound
  obtain ⟨stored, hrecorded⟩ := recordStatus_recorded hfound' hrecord
  obtain ⟨store, -, hstore, hpods, hfiled, -⟩ :=
    recordStatus_ok hroster.filed hfound' (result.status (opening now st record pods) now)
  obtain rfl := Except.ok.inj (hstore.symm.trans hrecord)
  exact ⟨left, result, stored, hroster.of_pods_eq hfiled hpods, htally, hrecorded.found,
    hrecorded.findings, fun hsame => (hrecorded.kept hsame).trans hpools, hrecorded.written⟩

/-- Whatever becomes of a pass, of the record only the status is replaced. -/
theorem visit_record (hfound : st.store.getPool pool = .ok (some record)) :
    ∃ status, (visit cfg pool now env c st).after.store.getPool pool =
      .ok (some { record with status := status }) := by
  have hpools := openPass_pools pool now st
  obtain ⟨opens, st', hopen⟩ : ∃ opens st', openPass pool now st = (opens, st') := ⟨_, _, rfl⟩
  rw [hopen] at hpools
  have hfound' := (getPool_of_pools_eq hpools pool).trans hfound
  rcases opens with fault | o
  · rw [visit_unopened hopen]
    exact ⟨record.status, hfound'⟩
  · rw [visit_opened hopen]
    exact conclude_record hfound' cfg now o _

/-- A pass that fails leaves the table of pools as it was. -/
theorem visit_error_pools {fault : Fault}
    (hfault : (visit cfg pool now env c st).verdict = .error fault) :
    (visit cfg pool now env c st).after.store.pools = st.store.pools := by
  have hpools := openPass_pools pool now st
  obtain ⟨opens, st', hopen⟩ : ∃ opens st', openPass pool now st = (opens, st') := ⟨_, _, rfl⟩
  rw [hopen] at hpools
  rcases opens with _ | o
  · rw [visit_unopened hopen]
    exact hpools
  · rw [visit_opened hopen] at hfault ⊢
    exact (conclude_error_pools hfault).trans hpools

end

/-- What a pass records is what it leaves.  If it does not fail, then whatever it was
answered, the status that is stored afterwards has, in 32 bits each, the number of pods
that there should be by the spec and the demand, the number of pods that are listed now
and the number of those that run, and it has the reservations that stand.  The time of the
last growth is now if a pod is listed that was not before, and else the one of before.
The table of pools is untouched if the status says what it said before, and else its time
is now.

No pass changes the spec of the pool, and one that fails leaves the pools as they were. -/
theorem status_is_truthful (cfg : Config) (pool : String) (now : Instant) (st : Stage) {σ : Type}
    (env : Surroundings RunnersCall.interface σ) (c : σ) :
    let before := st.store
    let demand := (st.tracker.snapshot now).1
    let v := visit cfg pool now env c st
    (∀ pods verdict, before.Filed → before.listPods pool = .ok pods →
      (∀ p ∈ pods, p.owner = pool) → v.verdict = .ok verdict →
      ∃ record left stored, before.getPool pool = .ok (some record) ∧
        v.after.store.listPods pool = .ok left ∧
        v.after.store.getPool pool = .ok (some { record with status := stored }) ∧
        stored.desiredReplicas = UInt32.ofNat (target record.spec demand.demand) ∧
        stored.availableReplicas = UInt32.ofNat left.length ∧
        stored.readyReplicas = UInt32.ofNat (running left) ∧
        stored.reservations = demand.reservations ∧
        stored.lastScaleUpAt =
          (if ∃ p ∈ left, p ∉ pods then some now else record.status.lastScaleUpAt) ∧
        (stored.findings = record.status.findings → v.after.store.pools = before.pools) ∧
        (stored.findings ≠ record.status.findings → stored.updatedAt = now)) ∧
    (∀ record, before.getPool pool = .ok (some record) →
      ∃ status, v.after.store.getPool pool = .ok (some { record with status := status })) ∧
    ∀ fault, v.verdict = .error fault → v.after.store.pools = before.pools := by
  intro before demand v
  refine ⟨?_, fun record hfound => visit_record hfound, fun fault hfault => ?_⟩
  · intro pods verdict hfiled hlisted howned hverdict
    have h : Roster before pool pods := ⟨hfiled, hlisted, howned⟩
    obtain ⟨record, hfound⟩ := found_of_visit hverdict
    obtain ⟨left, result, stored, hroster, htally, hrecorded⟩ := visit_recorded h hfound hverdict
    obtain ⟨hdesired, havailable, hready, hreservations, hlast⟩ :=
      PoolStatus.findings_inj hrecorded.findings
    refine ⟨record, left, stored, hfound, hroster.listed, hrecorded.found, ?_, ?_, ?_,
      hreservations, ?_, hrecorded.kept, hrecorded.written⟩
    · rw [hdesired, ← desiredReplicas_eq]
      rfl
    · rw [havailable, ← htally.available]
      rfl
    · rw [hready, ← htally.ready]
      rfl
    · rw [hlast, ← htally.lastScaleUpAt]
      rfl
  · exact visit_error_pools hfault

/-- The pass over seven pods leaves three of them. -/
theorem listed_thinning : thinning.after.store.listPods "ci" = .ok [
    pairPod "ci-busy" .running 5, pairPod "ci-soon" .running 6, pairPod "ci-new" .pending 900] := by
  have hexcess : Overfull.excess 1000 sevenStage pairPool sevenPods = 4 := by decide +kernel
  have hchoose : ((choose tenMinutes pairPool.spec.identity 1000 4 (living sevenPods)).run
      sevenAnswers.surroundings Asked.none).result = .ok [pairPod "ci-off" .running 8,
        pairPod "ci-lost" .pending 7, pairPod "ci-idle" .running 9] := by decide +kernel
  rw [← hexcess] at hchoose
  obtain ⟨st', hpass, hroster⟩ := overfull_seven.result_of_choose hchoose
  rw [thinning, after_visit, hpass, hroster.listed]
  decide +kernel

theorem status_is_truthful_seven :
    sevenStage.store.Filed ∧ sevenStage.store.listPods "ci" = .ok sevenPods ∧
      (∀ p ∈ sevenPods, p.owner = "ci") ∧ thinning.verdict = .ok .done ∧
      thinning.after.store.getPool "ci" = .ok (some
        { pairPool with status := ⟨2, 3, 2, [], none, 1000⟩ }) := by
  obtain ⟨hpass, -, -⟩ := status_is_truthful tenMinutes "ci" 1000 sevenStage
    sevenAnswers.surroundings Asked.none
  obtain ⟨record, left, stored, hfound, hlisted, hstored, hdesired, havailable, hready,
    hreservations, hlast, -, hwritten⟩ :=
    hpass sevenPods .done overfull_seven.filed listed_sevenStage overfull_seven.owned thinning_done
  obtain rfl := Option.some.inj (Except.ok.inj (hfound.symm.trans overfull_seven.found))
  obtain rfl := Except.ok.inj (hlisted.symm.trans listed_thinning)
  refine ⟨overfull_seven.filed, listed_sevenStage, overfull_seven.owned, thinning_done, ?_⟩
  refine hstored.trans ?_
  have hdiffers : stored.findings ≠ pairPool.status.findings := by
    intro hsame
    have hinitial := (PoolStatus.findings_inj hsame).1
    rw [hdesired] at hinitial
    revert hinitial
    decide +kernel
  have hnow := hwritten hdiffers
  obtain ⟨_, _, _, _, _, _⟩ := stored
  dsimp only at hdesired havailable hready hreservations hlast hnow
  rw [hdesired, havailable, hready, hreservations, hlast, hnow]
  decide +kernel

end Reconcile

end PoolScaler
