import PoolScaler.Proofs.Reconcile.Course
import PoolScaler.Proofs.Reconcile.Selection
set_option autoImplicit false

/-!
# Passes lead to the demand

A pass brings the number of pods to what the demand asks for, or part of the way,
and never past it.  So does every run of passes while the demand stays the same.
-/

namespace PoolScaler.Reconcile

open Store (Roster)

/-- The number of pods a pool should have at a demand: as many, but at least its
minimum and at most its maximum. -/
def target (spec : PoolSpec) (demand : Nat) : Nat :=
  match spec.maxReplicas with
  | none => max demand spec.minReplicas.toNat
  | some most => min (max demand spec.minReplicas.toNat) most.toNat

theorem desiredReplicas_eq (spec : PoolSpec) (s : Demand.Snapshot) :
    Demand.desiredReplicas spec s = target spec s.demand := by
  unfold Demand.desiredReplicas target
  cases spec.maxReplicas <;> rfl

/-- Going from `m` to `n` leads neither away from `d` nor across it. -/
def Toward (d m n : Nat) : Prop := (m ≤ d → m ≤ n ∧ n ≤ d) ∧ (d ≤ m → d ≤ n ∧ n ≤ m)

namespace Toward

variable {d l m n : Nat}

theorem refl (d n : Nat) : Toward d n n := by
  unfold Toward
  omega

theorem trans (h : Toward d l m) (h' : Toward d m n) : Toward d l n := by
  unfold Toward at *
  omega

end Toward

/-! ## One pass -/

/-- What a pass can resolve on by the number of pods. -/
inductive Resolution (o : Opening) : Except Fault Move → Prop where
  | failed (fault : Fault) : Resolution o (.error fault)
  | backOff : Resolution o (.ok .backOff)
  | rest (h : o.live.length = o.desired) : Resolution o (.ok .rest)
  | hold (h : o.desired < o.live.length) (remaining : Span) : Resolution o (.ok (.hold remaining))
  | create (h : o.live.length < o.desired) (env : Pairs) :
    Resolution o (.ok (.create (o.desired - o.live.length) env))
  | delete {gone : List Pod} (hgone : gone.Subperm o.live)
    (hlength : gone.length ≤ o.live.length - o.desired) (h : o.desired < o.live.length) :
    Resolution o (.ok (.delete gone))

theorem consider_resolution (cfg : Config) (o : Opening) (now : Instant) :
    (consider cfg o now).Ends (Resolution o) := by
  rcases Nat.lt_trichotomy o.live.length o.desired with hfew | hfit | hmany
  · rw [consider_eq_grow hfew]
    refine (grow_ends cfg _ _).imp fun move hmove => ?_
    rcases hmove with ⟨fault, rfl⟩ | rfl | ⟨env, rfl⟩
    · exact .failed _
    · exact .backOff
    · exact .create hfew env
  · unfold consider
    rw [if_neg (Nat.not_lt_of_le (Nat.le_of_eq hfit.symm)),
      if_neg (Nat.not_lt_of_le (Nat.le_of_eq hfit))]
    exact .rest hfit
  · rw [consider_eq_shrink hmany]
    cases hhold : holdRemaining cfg o.record.status.lastScaleUpAt now with
    | some remaining =>
      rw [shrink_eq_hold hhold]
      exact .hold hmany remaining
    | none =>
      refine (shrink_ends hhold _).imp fun move hmove => ?_
      rcases hmove with ⟨fault, rfl⟩ | rfl | ⟨gone, rfl, hgone, hlength⟩
      · exact .failed fault
      · exact .backOff
      · exact .delete hgone hlength hmany

/-- What a pass makes of the living pods of a pool that should have `desired`. -/
inductive Settled (cfg : Config) (desired : Nat) (before after : List Pod)
    (verdict : Except Fault Verdict) : Prop where
  /-- There were too few, and others are added: all that are missing if the pass is
  done, and none if it is to stay away from the source. -/
  | grown {added : Nat} (hfew : before.length < desired) (hadded : Added added before after)
    (hroom : before.length + added ≤ desired)
    (hverdict : verdict = .ok .done ∧ before.length + added = desired ∨
      verdict = .ok (.rateLimited cfg.rateLimitBackoff) ∧ after = before ∨
      ∃ fault, verdict = .error fault)
  /-- There were enough, and enough are left. -/
  | shrunk (hsub : after.Sublist before) (hleft : desired ≤ after.length)

namespace Settled

variable {cfg : Config} {desired : Nat} {before after : List Pod} {verdict : Except Fault Verdict}

/-- The living pods are left alone, which if there are too few is not what a pass
does that is done. -/
theorem unchanged (hverdict : before.length < desired →
      verdict = .ok (.rateLimited cfg.rateLimitBackoff) ∨ ∃ fault, verdict = .error fault) :
    Settled cfg desired before before verdict := by
  rcases Nat.lt_or_ge before.length desired with hfew | hleft
  · exact .grown hfew (.none before) (Nat.le_of_lt hfew)
      (.inr ((hverdict hfew).imp_left fun h => ⟨h, rfl⟩))
  · exact .shrunk (.refl before) hleft

theorem toward (h : Settled cfg desired before after verdict) :
    Toward desired before.length after.length := by
  unfold Toward
  cases h with
  | grown hfew hadded hroom _ =>
    have hlength := hadded.length_eq
    omega
  | shrunk hsub hleft =>
    have hlength := hsub.length_le
    omega

/-- A pass that finds living pods only leaves no others. -/
theorem living_eq {pods : List Pod} (h : Settled cfg desired (living pods) after verdict) :
    living after = after := by
  refine List.filter_eq_self.mpr fun p hp => ?_
  have hlives : ∀ q ∈ living pods, (!q.phase.isFinished) = true := fun q hq =>
    (List.mem_filter.mp hq).2
  cases h with
  | grown _ hadded _ _ =>
    obtain ⟨new, -, hperm, hnew⟩ := hadded
    rcases List.mem_append.mp (hperm.mem_iff.mp hp) with hp | hp
    · rw [(hnew p hp).2]
      rfl
    · exact hlives p hp
  | shrunk hsub _ => exact hlives p (hsub.subset hp)

end Settled

/-- Of pods that are told apart as many are left as were not taken away. -/
theorem length_filter_not_mem {pods gone : List Pod} (hpods : pods.Nodup)
    (hgone : gone.Subperm pods) :
    gone.length + (pods.filter (· ∉ gone)).length = pods.length := by
  rw [← hpods.sdiff_eq_filter, ← List.length_append]
  exact (List.subperm_append_diff_self_of_count_le fun p _ => hgone.count_le p).length_eq

section

variable {pool : String} {now : Instant} {st : Stage} {record : PoolRecord} {pods : List Pod}

/-- What a pass resolves on settles the pool. -/
theorem conclude_settled (h : Roster st.store pool pods)
    (hfound : st.store.getPool pool = .ok (some record)) (cfg : Config) {move : Except Fault Move}
    (hmove : Resolution (opening now st record pods) move) :
    ∃ verdict st' left, conclude cfg pool now (opening now st record pods) move
        (opened pool now st pods) = (verdict, st') ∧ Roster st'.store pool left ∧
      Settled cfg (opening now st record pods).desired (living pods) left verdict := by
  have hquiet : ∀ {verdict}, quietVerdict? cfg move = some verdict →
      ((living pods).length < (opening now st record pods).desired →
        verdict = .ok (.rateLimited cfg.rateLimitBackoff) ∨ ∃ fault, verdict = .error fault) →
      ∃ verdict st' left, conclude cfg pool now (opening now st record pods) move
          (opened pool now st pods) = (verdict, st') ∧ Roster st'.store pool left ∧
        Settled cfg (opening now st record pods).desired (living pods) left verdict := by
    intro verdict hverdict hfew
    obtain ⟨st', hconclude, hroster, -⟩ := conclude_quiet h hfound now hverdict
    exact ⟨verdict, st', living pods, hconclude, hroster, .unchanged hfew⟩
  cases hmove with
  | failed fault => exact hquiet rfl fun _ => .inr ⟨fault, rfl⟩
  | backOff => exact hquiet rfl fun _ => .inl rfl
  | rest hfit => exact hquiet rfl fun hfew => absurd hfit (Nat.ne_of_lt hfew)
  | hold hmany => exact hquiet rfl fun hfew => absurd hmany (Nat.lt_asymm hfew)
  | create hfew env =>
    have hall := Nat.add_sub_cancel' (Nat.le_of_lt hfew)
    obtain ⟨e, st', hcreate⟩ : ∃ e st', createAll record.spec env now
        ((opening now st record pods).desired - (opening now st record pods).live.length)
        (opened pool now st pods) = (e, st') := ⟨_, _, rfl⟩
    obtain ⟨added, left, hroster, hadded, hle, ⟨rfl, -⟩ | rfl⟩ :=
      roster_createAll (roster_opened h now) (name_of_getPool h.filed hfound) hcreate
    · obtain ⟨st'', left', hconclude, hroster', hadded', -⟩ := conclude_create h hfound cfg hcreate
      exact ⟨_, st'', left', hconclude, hroster',
        .grown hfew hadded' (Nat.le_of_eq hall) (.inl ⟨rfl, hall⟩)⟩
    · exact ⟨_, st', left, conclude_create_fault hcreate, hroster,
        .grown hfew hadded (Nat.le_trans (Nat.add_le_add_left hle _) (Nat.le_of_eq hall))
          (.inr (.inr ⟨_, rfl⟩))⟩
  | @delete gone hgone hlength hmany =>
    have hliving := roster_opened h now
    obtain ⟨st', hconclude, hroster, -⟩ := conclude_delete h hfound cfg now gone
    rw [filter_names_eq hliving hgone.subset] at hroster
    refine ⟨_, st', _, hconclude, hroster, .shrunk List.filter_sublist ?_⟩
    have hcount := length_filter_not_mem hliving.nodup hgone
    change gone.length ≤ (living pods).length - _ at hlength
    change _ < (living pods).length at hmany
    omega

/-- Whatever it is answered, a pass settles the pool and keeps its record, but for the
status. -/
theorem visit_settled (h : Roster st.store pool pods)
    (hfound : st.store.getPool pool = .ok (some record)) (cfg : Config) (now : Instant) {σ : Type}
    (env : Surroundings RunnersCall.interface σ) (c : σ) :
    ∃ left status, Roster (visit cfg pool now env c st).after.store pool left ∧
      (visit cfg pool now env c st).after.store.getPool pool =
        .ok (some { record with status := status }) ∧
      Settled cfg (target record.spec (st.tracker.snapshot now).1.demand) (living pods) left
        (visit cfg pool now env c st).verdict := by
  have hmove := (consider_resolution cfg (opening now st record pods) now).run env c
  obtain ⟨verdict, st', left, hconclude, hroster, hsettled⟩ :=
    conclude_settled h hfound cfg hmove
  obtain ⟨status, hrecord⟩ := conclude_record (found_opened hfound now pods) cfg now
    (opening now st record pods)
    ((consider cfg (opening now st record pods) now).run env c).result
  rw [visit_eq h hfound]
  dsimp only
  rw [hconclude] at hrecord ⊢
  rw [← desiredReplicas_eq]
  exact ⟨left, status, hroster, hrecord, hsettled⟩

end

/-! ## Passes in a row -/

/-- Passes over a pool one after the other, at any times and in any surroundings.
Each finds the store that the one before has left, and the same demand. -/
inductive Passes (cfg : Config) (pool : String) (demand : Nat) (first : Store) :
    List Visit → Store → Prop where
  | start : Passes cfg pool demand first [] first
  | pass {history : List Visit} {st : Stage} (h : Passes cfg pool demand first history st.store)
    {now : Instant} (hdemand : (st.tracker.snapshot now).1.demand = demand) {σ : Type}
    (env : Surroundings RunnersCall.interface σ) (c : σ) :
    Passes cfg pool demand first (history ++ [visit cfg pool now env c st])
      (visit cfg pool now env c st).after.store

/-- The stores before and after the passes of a history. -/
def stores (first : Store) (history : List Visit) : List Store :=
  first :: history.map (·.after.store)

theorem stores_concat (first : Store) (history : List Visit) (v : Visit) :
    stores first (history ++ [v]) = stores first history ++ [v.after.store] := by
  unfold stores
  rw [List.map_append]
  rfl

/-- From each store to any later one the number of living pods goes toward `d`. -/
def Approaches (pool : String) (d : Nat) (s s' : Store) : Prop :=
  Toward d (livingIn pool s).length (livingIn pool s').length

/-- What passes in a row keep. -/
structure Settling (pool : String) (spec : PoolSpec) (d : Nat) (first : Store)
    (history : List Visit) (store : Store) : Prop where
  roster : ∃ pods, Roster store pool pods
  found : ∃ status, store.getPool pool = .ok (some ⟨spec, status⟩)
  listed : ∀ v ∈ history, v.after.store.listPods pool = .ok (livingIn pool v.after.store)
  pairwise : (stores first history).Pairwise (Approaches pool d)
  latest : ∀ s ∈ stores first history, Approaches pool d s store

theorem Settling.pass {cfg : Config} {pool : String} {spec : PoolSpec} {first : Store}
    {history : List Visit} {st : Stage} {now : Instant}
    (h : Settling pool spec (target spec (st.tracker.snapshot now).1.demand) first history st.store)
    {σ : Type} (env : Surroundings RunnersCall.interface σ) (c : σ) :
    Settling pool spec (target spec (st.tracker.snapshot now).1.demand) first
      (history ++ [visit cfg pool now env c st]) (visit cfg pool now env c st).after.store := by
  obtain ⟨pods, hroster⟩ := h.roster
  obtain ⟨status, hfound⟩ := h.found
  obtain ⟨left, status', hleft, hfound', hsettled⟩ :=
    visit_settled hroster hfound cfg now env c
  have hafter := livingIn_eq hleft
  rw [hsettled.living_eq] at hafter
  have hstep : Approaches pool (target spec (st.tracker.snapshot now).1.demand) st.store
      (visit cfg pool now env c st).after.store := by
    unfold Approaches
    rw [livingIn_eq hroster, hafter]
    exact hsettled.toward
  have hlatest : ∀ s ∈ stores first history, Approaches pool _ s
      (visit cfg pool now env c st).after.store := fun s hs => (h.latest s hs).trans hstep
  refine ⟨⟨left, hleft⟩, ⟨status', hfound'⟩, ?_, ?_, ?_⟩
  · intro v hv
    rcases List.mem_append.mp hv with hv | hv
    · exact h.listed v hv
    · rw [List.mem_singleton.mp hv, hafter]
      exact hleft.listed
  · rw [stores_concat]
    refine List.pairwise_append.mpr ⟨h.pairwise, List.pairwise_singleton _ _, ?_⟩
    intro s hs s' hs'
    rw [List.mem_singleton.mp hs']
    exact hlatest s hs
  · rw [stores_concat]
    intro s hs
    rcases List.mem_append.mp hs with hs | hs
    · exact hlatest s hs
    · rw [List.mem_singleton.mp hs]
      exact Toward.refl _ _

theorem Passes.settling {cfg : Config} {pool : String} {demand : Nat} {first store : Store}
    {history : List Visit} (h : Passes cfg pool demand first history store) {record : PoolRecord}
    {pods : List Pod} (hroster : Roster first pool pods)
    (hfound : first.getPool pool = .ok (some record)) :
    Settling pool record.spec (target record.spec demand) first history store := by
  induction h with
  | start =>
    refine ⟨⟨pods, hroster⟩, ⟨record.status, hfound⟩, nofun, List.pairwise_singleton _ _, ?_⟩
    intro s hs
    rw [List.mem_singleton.mp hs]
    exact Toward.refl _ _
  | pass _ hdemand env c ih =>
    rw [← hdemand] at ih ⊢
    exact ih.pass env c

/-- A pass never overshoots.  If there are too few living pods it adds the ones that
are missing and keeps the others, or adds none where it is to stay away from the
source; otherwise it adds none and leaves as many as there should be at least.  No
pod is left that has ended.  So passes in a row that find the same demand never lead
away from it nor across it. -/
theorem passes_never_overshoot (cfg : Config) {pool : String} (now : Instant) {st : Stage}
    {record : PoolRecord} {pods : List Pod} (hfiled : st.store.Filed)
    (hfound : st.store.getPool pool = .ok (some record))
    (hlisted : st.store.listPods pool = .ok pods)
    (howned : ∀ p ∈ pods, p.owner = pool) :
    let d := target record.spec (st.tracker.snapshot now).1.demand
    (∀ {σ : Type} (env : Surroundings RunnersCall.interface σ) (c : σ) verdict,
      (visit cfg pool now env c st).verdict = .ok verdict →
      ∃ left, (visit cfg pool now env c st).after.store.listPods pool = .ok left ∧
        (left.map (·.name)).Nodup ∧ (∀ p ∈ left, p.owner = pool ∧ p.phase.isFinished = false) ∧
        ((living pods).length < d →
          (verdict = .done ∧ left.length = d ∧ ∃ new : List Pod,
            new.length = d - (living pods).length ∧ left.Perm (new ++ living pods) ∧
              ∀ p ∈ new, p ∉ pods) ∨
          verdict = .rateLimited cfg.rateLimitBackoff ∧ left = living pods) ∧
        (d ≤ (living pods).length →
          d ≤ left.length ∧ left.length ≤ (living pods).length ∧ left.Sublist (living pods))) ∧
    ∀ history store, Passes cfg pool (st.tracker.snapshot now).1.demand st.store history store →
      (∀ v ∈ history, v.after.store.listPods pool = .ok (livingIn pool v.after.store)) ∧
      (stores st.store history).Pairwise fun s s' =>
        Toward d (livingIn pool s).length (livingIn pool s').length := by
  intro d
  have h : Roster st.store pool pods := ⟨hfiled, hlisted, howned⟩
  refine ⟨fun env c verdict hverdict => ?_, fun history store hpasses => ?_⟩
  · obtain ⟨left, -, hroster, -, hsettled⟩ := visit_settled h hfound cfg now env c
    rw [hverdict] at hsettled
    change Settled cfg d _ _ _ at hsettled
    refine ⟨left, hroster.listed, hroster.nodup_names, fun p hp => ⟨hroster.owned p hp, ?_⟩, ?_, ?_⟩
    · rw [← hsettled.living_eq] at hp
      exact Bool.not_eq_true' _ |>.mp (List.mem_filter.mp hp).2
    · intro hfew
      cases hsettled with
      | grown _ hadded _ hdone =>
        rcases hdone with ⟨hdone, hall⟩ | ⟨hlimited, hsame⟩ | ⟨fault, hfault⟩
        · obtain ⟨new, rfl, hperm, hnew⟩ := hadded
          refine .inl ⟨Except.ok.inj hdone, ?_, new, by omega, hperm, fun p hp hmem => ?_⟩
          · rw [hperm.length_eq, List.length_append, Nat.add_comm, hall]
          · obtain ⟨hfresh, hpending⟩ := hnew p hp
            exact hfresh (List.mem_filter.mpr ⟨hmem, by rw [hpending]; rfl⟩)
        · exact .inr ⟨Except.ok.inj hlimited, hsame⟩
        · cases hfault
      | shrunk hsub hleft =>
        have hlength := hsub.length_le
        omega
    · intro hmany
      cases hsettled with
      | grown hfew _ _ _ => omega
      | shrunk hsub hleft => exact ⟨hleft, hsub.length_le, hsub⟩
  · have hsettling := hpasses.settling h hfound
    exact ⟨hsettling.listed, hsettling.pairwise⟩

theorem verdict_visit {σ : Type} (cfg : Config) (pool : String) (now : Instant)
    (env : Surroundings RunnersCall.interface σ) (c : σ) (st : Stage) :
    (visit cfg pool now env c st).verdict = ((pass cfg pool now st).run env c).result.1 := rfl

theorem after_visit {σ : Type} (cfg : Config) (pool : String) (now : Instant)
    (env : Surroundings RunnersCall.interface σ) (c : σ) (st : Stage) :
    (visit cfg pool now env c st).after = ((pass cfg pool now st).run env c).result.2 := rfl

/-- A pass over seven pods, by the answers about their runners. -/
def thinning : Visit :=
  visit tenMinutes "ci" 1000 sevenAnswers.surroundings Asked.none sevenStage

theorem thinning_done : thinning.verdict = .ok .done := by
  have hexcess : Overfull.excess 1000 sevenStage pairPool sevenPods = 4 := by decide +kernel
  obtain ⟨gone, hmove⟩ : ∃ gone, ((choose tenMinutes pairPool.spec.identity 1000 4
      (living sevenPods)).run sevenAnswers.surroundings Asked.none).result = .ok gone := ⟨_, rfl⟩
  rw [← hexcess] at hmove
  obtain ⟨st', hpass, -⟩ := overfull_seven.result_of_choose hmove
  rw [thinning, verdict_visit, hpass]

theorem passes_never_overshoot_seven :
    sevenStage.store.Filed ∧ sevenStage.store.getPool "ci" = .ok (some pairPool) ∧
      sevenStage.store.listPods "ci" = .ok sevenPods ∧ (∀ p ∈ sevenPods, p.owner = "ci") ∧
      thinning.verdict = .ok .done ∧
      Passes tenMinutes "ci" 0 sevenStage.store [thinning] thinning.after.store ∧
      (∃ left, thinning.after.store.listPods "ci" = .ok left ∧ 2 ≤ left.length ∧
        left.length ≤ 6 ∧ left.Sublist (living sevenPods)) ∧
      Toward 2 (livingIn "ci" sevenStage.store).length
        (livingIn "ci" thinning.after.store).length := by
  have hdemand : (sevenStage.tracker.snapshot 1000).1.demand = 0 := by decide +kernel
  have htarget : target pairPool.spec 0 = 2 := by decide
  have hpasses : Passes tenMinutes "ci" (sevenStage.tracker.snapshot 1000).1.demand
      sevenStage.store [thinning] thinning.after.store :=
    Passes.start.pass rfl sevenAnswers.surroundings Asked.none
  obtain ⟨hpass, hrow⟩ := passes_never_overshoot tenMinutes 1000 overfull_seven.filed
    overfull_seven.found overfull_seven.listed overfull_seven.owned
  obtain ⟨left, hlisted, -, -, -, hmany⟩ :=
    hpass sevenAnswers.surroundings Asked.none .done thinning_done
  obtain ⟨-, hpairwise⟩ := hrow _ _ hpasses
  rw [hdemand] at hpasses
  rw [hdemand, htarget] at hmany hpairwise
  rw [stores, List.map_singleton, List.pairwise_pair] at hpairwise
  exact ⟨overfull_seven.filed, overfull_seven.found, overfull_seven.listed, overfull_seven.owned,
    thinning_done, hpasses, ⟨left, hlisted, hmany (by decide)⟩, hpairwise⟩

end PoolScaler.Reconcile
