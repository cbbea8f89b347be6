import PoolScaler.Proofs.Reconcile.Footprint
import PoolScaler.Proofs.Reconcile.Rounds
set_option autoImplicit false

/-!
# The courses a pass can take

Whatever it is answered, a pass leaves the living pods alone, adds to them, is
held or deletes some.  Only a pass that adds to them and does not fail changes
what the pool's record says of the last growth.
-/

namespace PoolScaler.Reconcile

open Dialogue (Ends)
open Store (Roster)

/-- A pass that was made: when, on what, what it asked, what came of it and what
it left. -/
structure Visit where
  now : Instant
  before : Stage
  calls : List RunnersCall
  verdict : Except Fault Verdict
  after : Stage

/-- A pass in given surroundings. -/
def visit {σ : Type} (cfg : Config) (pool : String) (now : Instant)
    (env : Surroundings RunnersCall.interface σ) (s : σ) (st : Stage) : Visit :=
  let out := (pass cfg pool now st).run env s
  ⟨now, st, out.exchanges.map (·.call), out.result.1, out.result.2⟩

/-- The pods of a pool that have not ended. -/
def livingIn (pool : String) (s : Store) : List Pod :=
  match s.listPods pool with
  | .ok pods => living pods
  | .error _ => []

namespace Visit

/-- Pods were created: some that live afterwards were not there before. -/
def grew (pool : String) (v : Visit) : Bool :=
  (livingIn pool v.after.store).any fun p => p ∉ livingIn pool v.before.store

/-- Pods were created, and the pass did not fail. -/
def scaledUp (pool : String) (v : Visit) : Bool := v.grew pool && v.verdict.isOk

/-- There were more living pods than the pool should have had. -/
def Surplus (pool : String) (v : Visit) : Prop :=
  ∃ record, v.before.store.getPool pool = .ok (some record) ∧
    Demand.desiredReplicas record.spec (v.before.tracker.snapshot v.now).1 <
      (livingIn pool v.before.store).length

/-- Pods were last created at `T` and must still be kept. -/
def Held (cfg : Config) (pool : String) (v : Visit) (T : Instant) : Prop :=
  lastScaleUp pool v.before.store = some T ∧
    v.now.toNat < T.toNat + cfg.scaleDownDelay.seconds

/-- The time until which pods must be kept has 64 bits. -/
def Fits (cfg : Config) (pool : String) (v : Visit) : Prop :=
  ∀ T, lastScaleUp pool v.before.store = some T →
    T.toNat + cfg.scaleDownDelay.seconds < UInt64.size

/-- How long the pass found that pods must still be kept. -/
def remaining (cfg : Config) (pool : String) (v : Visit) : Option Span :=
  holdRemaining cfg (lastScaleUp pool v.before.store) v.now

/-- What a pass does to the living pods of its pool. -/
inductive Course (cfg : Config) (pool : String) (v : Visit) : Prop where
  /-- There were not too many, and they are left alone. -/
  | still (hfit : ¬ v.Surplus pool)
    (hverdict : ∀ span, v.verdict ≠ .ok (.requeueAfter span))
    (hsame : livingIn pool v.after.store = livingIn pool v.before.store)
    (hlast : lastScaleUp pool v.after.store = lastScaleUp pool v.before.store)
  /-- There were too few, and others are added. -/
  | grown (hfit : ¬ v.Surplus pool) (hverdict : v.verdict = .ok .done)
    (hkept : ∀ p ∈ livingIn pool v.before.store, p ∈ livingIn pool v.after.store)
    (hgrew : v.grew pool = true)
    (hlast : lastScaleUp pool v.after.store = some v.now)
  /-- There were too few, and the draws gave out before enough others were added. -/
  | broken (hfit : ¬ v.Surplus pool) (hverdict : v.verdict = .error (.state .noFreeName))
    (hkept : ∀ p ∈ livingIn pool v.before.store, p ∈ livingIn pool v.after.store)
    (hlast : lastScaleUp pool v.after.store = lastScaleUp pool v.before.store)
  /-- There were too many, and all must still be kept. -/
  | held {span : Span} (hsurplus : v.Surplus pool) (hheld : v.remaining cfg pool = some span)
    (hcalls : v.calls = []) (hverdict : v.verdict = .ok (.requeueAfter span))
    (hsame : livingIn pool v.after.store = livingIn pool v.before.store)
    (hlast : lastScaleUp pool v.after.store = lastScaleUp pool v.before.store)
  /-- There were too many, and some may go. -/
  | shrunk (hsurplus : v.Surplus pool) (hfree : v.remaining cfg pool = none)
    (hverdict : ∀ span, v.verdict ≠ .ok (.requeueAfter span))
    (hsub : ∀ p ∈ livingIn pool v.after.store, p ∈ livingIn pool v.before.store)
    (hlast : lastScaleUp pool v.after.store = lastScaleUp pool v.before.store)

theorem grew_iff {pool : String} {v : Visit} : v.grew pool = true ↔
    ∃ p ∈ livingIn pool v.after.store, p ∉ livingIn pool v.before.store := by
  unfold grew
  simp only [List.any_eq_true, decide_eq_true_eq]

theorem remaining_eq_some_iff {cfg : Config} {pool : String} {v : Visit} (hfits : v.Fits cfg pool)
    {span : Span} : v.remaining cfg pool = some span ↔ ∃ T, v.Held cfg pool T ∧
      span = .ofSeconds (T.toNat + cfg.scaleDownDelay.seconds - v.now.toNat) := by
  have hends : ∀ T, lastScaleUp pool v.before.store = some T →
      (v.now < cfg.holdUntil T ↔ v.now.toNat < T.toNat + cfg.scaleDownDelay.seconds) ∧
        (v.now ≤ cfg.holdUntil T → (cfg.holdUntil T - v.now).toNat =
          T.toNat + cfg.scaleDownDelay.seconds - v.now.toNat) := by
    intro T hT
    rw [UInt64.lt_iff_toNat_lt, Config.toNat_holdUntil (hfits T hT)]
    refine ⟨.rfl, fun hle => ?_⟩
    rw [UInt64.toNat_sub_of_le _ _ hle, Config.toNat_holdUntil (hfits T hT)]
  unfold remaining
  rw [holdRemaining_eq_some_iff]
  constructor
  · rintro ⟨T, hT, hearly, rfl⟩
    exact ⟨T, ⟨hT, (hends T hT).1.mp hearly⟩, by rw [(hends T hT).2 (UInt64.le_of_lt hearly)]⟩
  · rintro ⟨T, ⟨hT, hearly⟩, rfl⟩
    have hearly' := (hends T hT).1.mpr hearly
    exact ⟨T, hT, hearly', by rw [(hends T hT).2 (UInt64.le_of_lt hearly')]⟩

end Visit

variable {s : Store} {pool : String} {pods : List Pod} {record : PoolRecord}

theorem livingIn_eq (h : Roster s pool pods) : livingIn pool s = living pods := by
  unfold livingIn
  rw [h.listed]

theorem mem_livingIn (h : Roster s pool pods) {p : Pod} :
    p ∈ livingIn pool s ↔ p ∈ pods ∧ p.phase.isFinished = false := by
  rw [livingIn_eq h, living, List.mem_filter, Bool.not_eq_true']

/-- What is added to the living pods leaves them there. -/
theorem livingIn_subset_of_added {s' : Store} {count : Nat} {pods' : List Pod}
    (h : Roster s pool pods) (h' : Roster s' pool pods')
    (hadded : Added count (living pods) pods') :
    ∀ p ∈ livingIn pool s, p ∈ livingIn pool s' := by
  intro p hp
  have hlives := ((mem_livingIn h).mp hp).2
  rw [livingIn_eq h] at hp
  exact (mem_livingIn h').mpr ⟨hadded.kept p hp, hlives⟩

theorem living_living (pods : List Pod) : living (living pods) = living pods :=
  List.filter_eq_self.mpr fun _ hp => (List.mem_filter.mp hp).2

/-! ## What can be resolved on -/

/-- Getting ready to create pods ends with a fault, with staying away, or with
creating as many as were asked for. -/
theorem grow_ends (cfg : Config) (identity : Identity) (count : Nat) :
    (grow cfg identity count).Ends fun move =>
      (∃ fault, move = .error (.runners fault)) ∨ move = .ok .backOff ∨
        ∃ env, move = .ok (.create count env) := by
  unfold grow
  split
  · exact .inl ⟨_, rfl⟩
  · intro answer
    rcases answer with fault | token
    · by_cases hkind : fault.kind = .rateLimited
      · simp only [hkind, if_true]
        exact .inr (.inl rfl)
      · simp only [hkind, if_false]
        exact .inl ⟨fault, rfl⟩
    · exact .inr (.inr ⟨_, rfl⟩)

/-- Getting ready to delete pods that need not be kept ends with a fault, with
staying away, or with deleting some, each once and no more than there are too many. -/
theorem shrink_ends {cfg : Config} {o : Opening} {now : Instant}
    (h : holdRemaining cfg o.record.status.lastScaleUpAt now = none) (excess : Nat) :
    (shrink cfg o now excess).Ends fun move =>
      (∃ fault, move = .error fault) ∨ move = .ok .backOff ∨
        ∃ gone, move = .ok (.delete gone) ∧ gone.Subperm o.live ∧ gone.length ≤ excess := by
  rw [shrink_eq_choose h]
  refine (choose_ends cfg _ now excess o.live).bind fun choice hchosen => ?_
  rcases choice with (fault | fault) | gone
  · exact .inr (.inl rfl)
  · exact .inl ⟨fault, rfl⟩
  · exact .inr (.inr ⟨gone, rfl, hchosen gone rfl⟩)

/-! ## What comes of it -/

section

variable {cfg : Config} {now : Instant} {st : Stage}

/-- A pass that has opened concludes with what it resolved on. -/
theorem visit_opened {o : Opening} {st' : Stage} (hopen : openPass pool now st = (.ok o, st'))
    (cfg : Config) {σ : Type} (env : Surroundings RunnersCall.interface σ) (c : σ) :
    visit cfg pool now env c st =
      let considered := (consider cfg o now).run env c
      let concluded := conclude cfg pool now o considered.result st'
      ⟨now, st, considered.exchanges.map (·.call), concluded.1, concluded.2⟩ := by
  unfold visit pass
  rw [hopen]
  dsimp only
  rw [Dialogue.run_bind]
  simp only [Dialogue.run_done, List.append_nil]

/-- A pass that does not open asks nothing. -/
theorem visit_unopened {fault : Fault} {st' : Stage}
    (hopen : openPass pool now st = (.error fault, st')) (cfg : Config) {σ : Type}
    (env : Surroundings RunnersCall.interface σ) (c : σ) :
    visit cfg pool now env c st = ⟨now, st, [], .error fault, st'⟩ := by
  unfold visit pass
  rw [hopen]
  rfl

/-- A pass over a pool that is there concludes with what it resolved on. -/
theorem visit_eq (h : Roster st.store pool pods)
    (hfound : st.store.getPool pool = .ok (some record)) (cfg : Config) (now : Instant) {σ : Type}
    (env : Surroundings RunnersCall.interface σ) (c : σ) :
    visit cfg pool now env c st =
      let considered := (consider cfg (opening now st record pods) now).run env c
      let concluded := conclude cfg pool now (opening now st record pods) considered.result
        (opened pool now st pods)
      ⟨now, st, considered.exchanges.map (·.call), concluded.1, concluded.2⟩ :=
  visit_opened (openPass_ok h hfound now) cfg env c

theorem surplus_iff (h : Roster st.store pool pods)
    (hfound : st.store.getPool pool = .ok (some record)) {σ : Type}
    (env : Surroundings RunnersCall.interface σ) (c : σ) :
    (visit cfg pool now env c st).Surplus pool ↔
      (opening now st record pods).desired < (opening now st record pods).live.length := by
  change (∃ record', st.store.getPool pool = .ok (some record') ∧
    Demand.desiredReplicas record'.spec (st.tracker.snapshot now).1 <
      (livingIn pool st.store).length) ↔ _
  rw [livingIn_eq h, hfound]
  constructor
  · rintro ⟨record', hsame, hmany⟩
    obtain rfl := Option.some.inj (Except.ok.inj hsame)
    exact hmany
  · exact fun hmany => ⟨record, rfl, hmany⟩

/-- A resolution that leaves the living pods alone leaves a roster of them. -/
theorem visit_quiet (h : Roster st.store pool pods)
    (hfound : st.store.getPool pool = .ok (some record)) {σ : Type}
    (env : Surroundings RunnersCall.interface σ) (c : σ) {move : Except Fault Move}
    {verdict : Except Fault Verdict}
    (hmove : ((consider cfg (opening now st record pods) now).run env c).result = move)
    (hquiet : quietVerdict? cfg move = some verdict) :
    (visit cfg pool now env c st).verdict = verdict ∧
      (∃ pods', Roster (visit cfg pool now env c st).after.store pool pods') ∧
      livingIn pool (visit cfg pool now env c st).after.store = livingIn pool st.store ∧
      lastScaleUp pool (visit cfg pool now env c st).after.store = lastScaleUp pool st.store := by
  obtain ⟨st', hconclude, hroster, hlast⟩ := conclude_quiet h hfound now hquiet
  rw [visit_eq h hfound]
  dsimp only
  rw [hmove, hconclude]
  exact ⟨rfl, ⟨_, hroster⟩, by rw [livingIn_eq hroster, livingIn_eq h, living_living], hlast⟩

/-- A pool with too few living pods is left alone or given more. -/
theorem course_few (h : Roster st.store pool pods)
    (hfound : st.store.getPool pool = .ok (some record))
    (hfew : (opening now st record pods).live.length < (opening now st record pods).desired)
    {σ : Type} (env : Surroundings RunnersCall.interface σ) (c : σ) :
    (visit cfg pool now env c st).Course cfg pool ∧
      ∃ pods', Roster (visit cfg pool now env c st).after.store pool pods' := by
  have hfit : ¬ (visit cfg pool now env c st).Surplus pool := by
    rw [surplus_iff h hfound env c]
    exact Nat.not_lt_of_lt hfew
  have hconsider := consider_eq_grow hfew cfg now
  have hends := (grow_ends cfg (opening now st record pods).record.spec.identity
    ((opening now st record pods).desired - (opening now st record pods).live.length)).run env c
  rw [← hconsider] at hends
  rcases hends with ⟨fault, hmove⟩ | hmove | ⟨pairs, hmove⟩
  · obtain ⟨hverdict, hroster, hsame, hlast⟩ := visit_quiet h hfound env c hmove rfl
    exact ⟨.still hfit (fun _ h => nomatch hverdict.symm.trans h) hsame hlast, hroster⟩
  · obtain ⟨hverdict, hroster, hsame, hlast⟩ := visit_quiet h hfound env c hmove rfl
    exact ⟨.still hfit (fun _ h => nomatch hverdict.symm.trans h) hsame hlast, hroster⟩
  · rw [visit_eq h hfound] at hfit ⊢
    dsimp only at hfit ⊢
    rw [hmove] at hfit ⊢
    obtain ⟨e, st', hcreate⟩ : ∃ e st', createAll record.spec pairs now
        ((opening now st record pods).desired - (opening now st record pods).live.length)
        (opened pool now st pods) = (e, st') := ⟨_, _, rfl⟩
    obtain ⟨added, pods', hroster, hadded, -, ⟨rfl, -⟩ | rfl⟩ :=
      roster_createAll (roster_opened h now) (name_of_getPool h.filed hfound) hcreate
    · obtain ⟨st'', pods'', hconclude, hroster', hadded', hlast⟩ :=
        conclude_create h hfound cfg hcreate
      obtain ⟨p, hp, hnew, hpending⟩ := hadded'.exists_new (Nat.sub_pos_of_lt hfew)
      rw [hconclude] at hfit ⊢
      refine ⟨.grown hfit rfl (livingIn_subset_of_added h hroster' hadded') ?_ hlast, pods'',
        hroster'⟩
      refine Visit.grew_iff.mpr ⟨p, (mem_livingIn hroster').mpr ⟨hp, by rw [hpending]; rfl⟩, ?_⟩
      exact livingIn_eq h ▸ hnew
    · -- the pods that were created stay, and the record does not tell of them
      have hpools := createAll_pools record.spec pairs now
        ((opening now st record pods).desired - (opening now st record pods).live.length)
        (opened pool now st pods)
      rw [hcreate] at hpools
      have hfound' : st'.store.getPool pool = .ok (some record) :=
        (getPool_of_pools_eq hpools pool).trans (found_opened hfound now pods)
      rw [conclude_create_fault hcreate] at hfit ⊢
      refine ⟨.broken hfit rfl (livingIn_subset_of_added h hroster hadded) ?_, pods', hroster⟩
      exact (lastScaleUp_eq hfound').trans (lastScaleUp_eq hfound).symm

/-- A pool with too many living pods is held, or some of them may go. -/
theorem course_many (h : Roster st.store pool pods)
    (hfound : st.store.getPool pool = .ok (some record))
    (hmany : (opening now st record pods).desired < (opening now st record pods).live.length)
    {σ : Type} (env : Surroundings RunnersCall.interface σ) (c : σ) :
    (visit cfg pool now env c st).Course cfg pool ∧
      ∃ pods', Roster (visit cfg pool now env c st).after.store pool pods' := by
  have hsurplus : (visit cfg pool now env c st).Surplus pool :=
    (surplus_iff h hfound env c).mpr hmany
  have hconsider := consider_eq_shrink hmany cfg now
  have hlast := lastScaleUp_eq hfound
  cases hhold : holdRemaining cfg record.status.lastScaleUpAt now with
  | some remaining =>
    have hheld : (visit cfg pool now env c st).remaining cfg pool = some remaining :=
      (congrArg (holdRemaining cfg · now) hlast).trans hhold
    rw [shrink_eq_hold hhold] at hconsider
    have hmove : ((consider cfg (opening now st record pods) now).run env c).result =
        .ok (.hold remaining) := by
      rw [hconsider, Dialogue.run_done]
    have hcalls : (visit cfg pool now env c st).calls = [] := by
      rw [visit_eq h hfound, hconsider]
      rfl
    obtain ⟨hverdict, hroster, hsame, hlast'⟩ := visit_quiet h hfound env c hmove rfl
    exact ⟨.held hsurplus hheld hcalls hverdict hsame hlast', hroster⟩
  | none =>
    have hfree : (visit cfg pool now env c st).remaining cfg pool = none :=
      (congrArg (holdRemaining cfg · now) hlast).trans hhold
    have hends := (shrink_ends (o := opening now st record pods) hhold
      ((opening now st record pods).live.length - (opening now st record pods).desired)).run env c
    rw [← hconsider] at hends
    rcases hends with ⟨fault, hmove⟩ | hmove | ⟨gone, hmove, -⟩
    · obtain ⟨hverdict, hroster, hsame, hlast'⟩ := visit_quiet h hfound env c hmove rfl
      exact ⟨.shrunk hsurplus hfree (fun _ h => nomatch hverdict.symm.trans h)
        (fun p hp => hsame ▸ hp) hlast', hroster⟩
    · obtain ⟨hverdict, hroster, hsame, hlast'⟩ := visit_quiet h hfound env c hmove rfl
      exact ⟨.shrunk hsurplus hfree (fun _ h => nomatch hverdict.symm.trans h)
        (fun p hp => hsame ▸ hp) hlast', hroster⟩
    · obtain ⟨st', hconclude, hroster, hlast'⟩ := conclude_delete h hfound cfg now gone
      rw [visit_eq h hfound] at hsurplus hfree ⊢
      dsimp only at hsurplus hfree ⊢
      rw [hmove, hconclude] at hsurplus hfree ⊢
      refine ⟨.shrunk hsurplus hfree (fun _ h => nomatch h) (fun p hp => ?_) hlast', _, hroster⟩
      rw [livingIn_eq hroster] at hp
      rw [livingIn_eq h]
      exact List.mem_of_mem_filter (List.mem_of_mem_filter hp)

/-- Whatever it is answered, a pass takes one of the courses and leaves pods that
can be listed. -/
theorem visit_course (hfiled : st.store.Filed) (howned : st.store.Owned pool) {σ : Type}
    (env : Surroundings RunnersCall.interface σ) (c : σ) :
    (visit cfg pool now env c st).Course cfg pool ∧
      ∃ pods, Roster (visit cfg pool now env c st).after.store pool pods := by
  obtain ⟨pods, h⟩ := hfiled.exists_roster howned
  rcases hfiled.getPool_ok pool with hnone | ⟨record, hfound⟩
  · have hopen : openPass pool now st = (.error (.state (.poolNotFound pool)), st) := by
      unfold openPass
      rw [hnone]
    rw [visit_unopened hopen]
    refine ⟨.still ?_ (fun _ h => nomatch h) rfl rfl, pods, h⟩
    rintro ⟨record, hfound, -⟩
    cases hnone.symm.trans hfound
  · rcases Nat.lt_trichotomy (opening now st record pods).live.length
      (opening now st record pods).desired with hfew | hfit | hmany
    · exact course_few h hfound hfew env c
    · have hmove : ((consider cfg (opening now st record pods) now).run env c).result =
          .ok .rest := by
        unfold consider
        rw [if_neg (Nat.not_lt_of_le (Nat.le_of_eq hfit.symm)),
          if_neg (Nat.not_lt_of_le (Nat.le_of_eq hfit))]
        rfl
      obtain ⟨hverdict, hroster, hsame, hlast⟩ := visit_quiet h hfound env c hmove rfl
      refine ⟨.still ?_ (fun _ h => nomatch hverdict.symm.trans h) hsame hlast, hroster⟩
      rw [surplus_iff h hfound env c]
      exact Nat.not_lt_of_le (Nat.le_of_eq hfit)
    · exact course_many h hfound hmany env c

end

end PoolScaler.Reconcile
