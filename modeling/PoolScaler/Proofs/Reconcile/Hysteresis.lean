import PoolScaler.Daemon
import PoolScaler.Proofs.Demand.History
import PoolScaler.Proofs.Reconcile.Course
import PoolScaler.Proofs.Reconcile.Selection
set_option autoImplicit false

/-!
# Growth is followed by rest

Passes over one pool at times that do not decrease, between them news of the
demand, pods that change their phase and restarts of the daemon.  The record of
the pool always tells when a pass that did not fail last created pods, and as
long as they must be kept no pass deletes a living pod.  A pass that fails when it
has created some of its pods leaves the record as it was, and these pods may go.
-/

namespace PoolScaler.Reconcile

open Store (Roster)

/-- What a pool has gone through: the passes made, and the store and the demand
they left. -/
inductive Run (cfg : Config) (pool : String) (first : Store) :
    List Visit → Store → Demand.Tracker → Prop where
  | start (tracker : Demand.Tracker) : Run cfg pool first [] first tracker
  | pass {history : List Visit} {st : Stage} (h : Run cfg pool first history st.store st.tracker)
    {now : Instant} (hlater : ∀ v ∈ history, v.now.toNat ≤ now.toNat) {σ : Type}
    (env : Surroundings RunnersCall.interface σ) (c : σ) :
    Run cfg pool first (history ++ [visit cfg pool now env c st])
      (visit cfg pool now env c st).after.store (visit cfg pool now env c st).after.tracker
  | demand {history : List Visit} {store : Store} {tracker : Demand.Tracker}
    (h : Run cfg pool first history store tracker) (op : Demand.Operation) :
    Run cfg pool first history store (tracker.perform op)
  | phase {history : List Visit} {store store' : Store} {tracker : Demand.Tracker}
    (h : Run cfg pool first history store tracker) {owner name : String} {phase : Phase}
    {found : Bool} (hset : store.setPodPhase owner name phase = .ok (found, store')) :
    Run cfg pool first history store' tracker
  | restart {history : List Visit} {store store' : Store} {tracker : Demand.Tracker}
    (h : Run cfg pool first history store tracker) {settings : Settings}
    (hname : settings.pool.name = pool) {now : Instant}
    (hregister : Daemon.register settings now store = .ok store') (ttl : Span) :
    Run cfg pool first history store' (.new ttl)

/-- When a pass last created pods and did not fail, if `first` is when that was before. -/
def lastGrowth (pool : String) (first : Option Instant) (history : List Visit) : Option Instant :=
  history.foldl (fun last v => if v.scaledUp pool then some v.now else last) first

theorem lastGrowth_concat (pool : String) (first : Option Instant) (history : List Visit)
    (v : Visit) : lastGrowth pool first (history ++ [v]) =
      if v.scaledUp pool then some v.now else lastGrowth pool first history := by
  unfold lastGrowth
  rw [List.foldl_append]
  rfl

namespace Visit.Course

variable {cfg : Config} {pool : String} {v : Visit}

theorem scaledUp_eq_false
    (hsub : ∀ p ∈ livingIn pool v.after.store, p ∈ livingIn pool v.before.store) :
    v.scaledUp pool = false := by
  have hgrew : v.grew pool = false := by
    rw [Bool.eq_false_iff]
    intro hgrew
    obtain ⟨p, hp, hnew⟩ := Visit.grew_iff.mp hgrew
    exact hnew (hsub p hp)
  unfold scaledUp
  rw [hgrew, Bool.false_and]

/-- The record tells of the growth if there was any and the pass did not fail. -/
theorem last (h : v.Course cfg pool) : lastScaleUp pool v.after.store =
    if v.scaledUp pool then some v.now else lastScaleUp pool v.before.store := by
  cases h with
  | still _ _ hsame hlast => rw [scaledUp_eq_false fun p hp => hsame ▸ hp, hlast]; rfl
  | grown _ hverdict _ hgrew hlast => rw [scaledUp, hgrew, hverdict, hlast]; rfl
  | broken _ hverdict _ hlast =>
    have hfailed : v.scaledUp pool = false := by
      unfold scaledUp
      rw [hverdict]
      exact Bool.and_false _
    rw [hfailed, hlast]; rfl
  | held _ _ _ _ hsame hlast => rw [scaledUp_eq_false fun p hp => hsame ▸ hp, hlast]; rfl
  | shrunk _ _ _ hsub hlast => rw [scaledUp_eq_false hsub, hlast]; rfl

/-- While pods must be kept no living one is deleted. -/
theorem kept (h : v.Course cfg pool) {span : Span} (hheld : v.remaining cfg pool = some span) :
    ∀ p ∈ livingIn pool v.before.store, p ∈ livingIn pool v.after.store := by
  cases h with
  | still _ _ hsame _ => exact fun p hp => hsame ▸ hp
  | grown _ _ hkept _ _ => exact hkept
  | broken _ _ hkept _ => exact hkept
  | held _ _ _ _ hsame _ => exact fun p hp => hsame ▸ hp
  | shrunk _ hfree _ _ _ => cases hfree.symm.trans hheld

/-- A pass asks to be made again exactly when it is held. -/
theorem requeue_iff (h : v.Course cfg pool) (span : Span) :
    v.verdict = .ok (.requeueAfter span) ↔ v.Surplus pool ∧ v.remaining cfg pool = some span := by
  cases h with
  | still hfit hverdict _ _ =>
    exact ⟨fun h => absurd h (hverdict span), fun ⟨hsurplus, _⟩ => absurd hsurplus hfit⟩
  | grown hfit hverdict _ _ _ | broken hfit hverdict _ _ =>
    exact ⟨fun h => (nomatch hverdict.symm.trans h), fun ⟨hsurplus, _⟩ => absurd hsurplus hfit⟩
  | held hsurplus hheld _ hverdict _ _ =>
    rw [hverdict, hheld]
    constructor
    · exact fun h => ⟨hsurplus, congrArg some (Verdict.requeueAfter.inj (Except.ok.inj h))⟩
    · rintro ⟨-, hspan⟩
      rw [Option.some.inj hspan]
  | shrunk _ hfree hverdict _ _ =>
    exact ⟨fun h => absurd h (hverdict span), fun ⟨_, hheld⟩ => nomatch hfree.symm.trans hheld⟩

/-- A pass that is held asks nothing and leaves the living pods alone. -/
theorem silent (h : v.Course cfg pool) {span : Span}
    (hverdict : v.verdict = .ok (.requeueAfter span)) :
    v.calls = [] ∧ livingIn pool v.after.store = livingIn pool v.before.store := by
  cases h with
  | still _ hnot | shrunk _ _ hnot => exact absurd hverdict (hnot span)
  | grown _ hdone => cases hdone.symm.trans hverdict
  | broken _ hfault => cases hfault.symm.trans hverdict
  | held _ _ hcalls _ hsame _ => exact ⟨hcalls, hsame⟩

end Visit.Course

/-! ## When a pool last grew -/

theorem lastScaleUp_of_pools_eq {s s' : Store} (hpools : s'.pools = s.pools) (pool : String) :
    lastScaleUp pool s' = lastScaleUp pool s := by
  unfold lastScaleUp
  rw [getPool_of_pools_eq hpools]

theorem lastScaleUp_putPool (s : Store) (r : PoolRecord) :
    lastScaleUp r.spec.name (s.putPool r) = r.status.lastScaleUpAt :=
  lastScaleUp_eq (getPool_insert r)

/-- Registering a pool again keeps when it last grew. -/
theorem lastScaleUp_register {settings : Settings} {now : Instant} {s s' : Store}
    (hregister : Daemon.register settings now s = .ok s') :
    s'.pods = s.pods ∧ (s.Filed → s'.Filed) ∧
      lastScaleUp settings.pool.name s' = lastScaleUp settings.pool.name s := by
  unfold Daemon.register at hregister
  split at hregister
  · cases hregister
  · rename_i hnone
    obtain rfl := Except.ok.inj hregister
    refine ⟨rfl, fun h => h.insert_pool _, ?_⟩
    rw [lastScaleUp_eq_none hnone]
    exact lastScaleUp_putPool s (.new (settings.poolSpec now))
  · rename_i record hfound
    obtain rfl := Except.ok.inj hregister
    refine ⟨rfl, fun h => h.insert_pool _, ?_⟩
    rw [lastScaleUp_eq hfound]
    exact lastScaleUp_putPool s ⟨settings.poolSpec record.spec.createdAt, record.status⟩

/-! ## What a run keeps -/

/-- The store is in order, and the pool's record tells when it last grew. -/
structure Kept (pool : String) (first : Option Instant) (history : List Visit) (store : Store) :
    Prop where
  filed : store.Filed
  owned : store.Owned pool
  last : lastScaleUp pool store = lastGrowth pool first history

/-- Every pass of a run takes one of the courses, and what is kept before it is
kept after it. -/
theorem Kept.pass {cfg : Config} {pool : String} {first : Option Instant} {history : List Visit}
    (st : Stage) (h : Kept pool first history st.store) {now : Instant} {σ : Type}
    (env : Surroundings RunnersCall.interface σ) (c : σ) :
    (visit cfg pool now env c st).Course cfg pool ∧
      Kept pool first (history ++ [visit cfg pool now env c st])
        (visit cfg pool now env c st).after.store := by
  obtain ⟨hcourse, pods, hroster⟩ := visit_course h.filed h.owned env c
  refine ⟨hcourse, hroster.filed, hroster.store_owned, ?_⟩
  rw [hcourse.last, lastGrowth_concat, ← h.last]
  rfl

theorem Run.kept {cfg : Config} {pool : String} {first store : Store} {history : List Visit}
    {tracker : Demand.Tracker} (h : Run cfg pool first history store tracker)
    (hfiled : first.Filed) (howned : first.Owned pool) :
    Kept pool (lastScaleUp pool first) history store := by
  induction h with
  | start tracker => exact ⟨hfiled, howned, rfl⟩
  | pass _ _ env c ih => exact (ih.pass _ env c).2
  | demand _ op ih => exact ih
  | phase _ hset ih =>
    refine ⟨ih.filed.setPodPhase hset, ih.owned.setPodPhase ih.filed hset, ?_⟩
    rcases ih.filed.setPodPhase_eq_ok hset with rfl | ⟨p, text, -, -, rfl⟩
    · exact ih.last
    · rw [← ih.last]
      exact lastScaleUp_of_pools_eq rfl pool
  | restart _ hname hregister ttl ih =>
    obtain ⟨hpods, hregistered, hlast⟩ := lastScaleUp_register hregister
    subst hname
    exact ⟨hregistered ih.filed, ih.owned.of_pods_eq hpods, hlast.trans ih.last⟩

/-- What was there before each pass of a run came of a run, too. -/
theorem Run.before {cfg : Config} {pool : String} {first store : Store} {history : List Visit}
    {tracker : Demand.Tracker} (h : Run cfg pool first history store tracker)
    {earlier later : List Visit} {v : Visit} (hhistory : history = earlier ++ v :: later) :
    Run cfg pool first earlier v.before.store v.before.tracker ∧
      (∀ u ∈ earlier, u.now.toNat ≤ v.now.toNat) ∧
      ∃ (σ : Type) (env : Surroundings RunnersCall.interface σ) (c : σ),
        v = visit cfg pool v.now env c v.before := by
  induction h generalizing later with
  | start tracker => cases earlier <;> cases hhistory
  | @pass history st h now hlater σ env c ih =>
    rcases List.eq_nil_or_concat later with rfl | ⟨later', w, rfl⟩
    · obtain ⟨rfl, hv⟩ := List.append_inj' hhistory rfl
      obtain rfl := (List.cons.inj hv).1
      exact ⟨h, hlater, σ, env, c, rfl⟩
    · rw [List.concat_eq_append, ← List.cons_append, ← List.append_assoc] at hhistory
      exact ih (List.append_inj' hhistory rfl).1
  | demand _ op ih => exact ih hhistory
  | phase _ hset ih => exact ih hhistory
  | restart _ hname hregister ttl ih => exact ih hhistory

/-- Each pass of a run takes one of the courses and finds in the record when the
pool last grew. -/
theorem Run.course {cfg : Config} {pool : String} {first store : Store} {history : List Visit}
    {tracker : Demand.Tracker} (h : Run cfg pool first history store tracker)
    (hfiled : first.Filed) (howned : first.Owned pool) {earlier later : List Visit} {v : Visit}
    (hhistory : history = earlier ++ v :: later) :
    v.Course cfg pool ∧
      lastScaleUp pool v.before.store = lastGrowth pool (lastScaleUp pool first) earlier := by
  obtain ⟨hbefore, -, σ, env, c, hv⟩ := h.before hhistory
  have hkept := hbefore.kept hfiled howned
  have hcourse : (visit cfg pool v.now env c v.before).Course cfg pool :=
    (hkept.pass v.before env c).1
  rw [← hv] at hcourse
  exact ⟨hcourse, hkept.last⟩

/-- Settings of a keeper that keeps pods for ten minutes. -/
def patient : Config :=
  ⟨"https://github.com", .ofSeconds 600, .ofSeconds 900, .ofSeconds 180, .ofSeconds 30⟩

/-- A pool that should have one pod and has none. -/
def bareRecord : PoolRecord :=
  .new ⟨"ci", ⟨"", "acme", "", "ci"⟩, 1, none, ⟨"runner", .empty, .empty⟩, 0⟩

def barePool : Store := Store.empty.putPool bareRecord

/-- Surroundings that let every runner join. -/
def welcoming : Surroundings RunnersCall.interface Unit := fun s call =>
  match call with
  | .probe _ _ _ => (none, s)
  | .registrationToken _ => (.ok ⟨"token", 900⟩, s)

/-- What the first pass starts with. -/
def bareStage : Stage := ⟨barePool, .new (.ofSeconds 600), ["aaaaa"]⟩

/-- The pass that creates the pod. -/
def hiring : Visit := visit patient "ci" 100 welcoming () bareStage

/-- Settings by which the pool need not have any pod. -/
def lenient : Settings :=
  ⟨⟨"https://github.com", none, some "secret", none, none⟩,
    ⟨"ci", "", "acme", "", 0, none, "runner", .empty, .empty⟩, .usual, .usual, default⟩

/-- What is left by a restart. -/
def restarted (settings : Settings) (now : Instant) (store : Store) : Store :=
  match Daemon.register settings now store with
  | .ok store' => store'
  | .error _ => store

/-- What is left by a restart with these settings. -/
@[irreducible] def relaxed : Store := restarted lenient 200 hiring.after.store

/-- What the second pass starts with. -/
def relaxedStage : Stage := ⟨relaxed, .new (.ofSeconds 600), []⟩

/-- The pass after the restart. -/
def waiting : Visit := visit patient "ci" 250 welcoming () relaxedStage

theorem roster_bareStage : Roster bareStage.store "ci" [] :=
  ⟨(Store.Reachable.putPool .empty bareRecord).filed, by decide +kernel, nofun⟩

theorem found_bareRecord : bareStage.store.getPool "ci" = .ok (some bareRecord) :=
  getPool_insert bareRecord

/-- There is no demand at first. -/
theorem demand_new (ttl : Span) (now : Instant) :
    ((Demand.Tracker.new ttl).snapshot now).1.demand = 0 := by
  simp [Demand.Tracker.new, Demand.Tracker.snapshot, Demand.Tracker.purge, Demand.Tracker.view,
    Demand.Snapshot.demand, Demand.Snapshot.reserved]

theorem createAll_bareStage (env : Pairs) (T : Instant) : ∃ st,
    createAll bareRecord.spec env T 1 (opened "ci" T bareStage []) = (.ok (), st) := by
  have hname : Store.freeName? (opened "ci" T bareStage []).store.pods bareRecord.spec.name
      (opened "ci" T bareStage []).draws = some ("ci-aaaaa", []) := by
    change Store.freeName? bareStage.store.pods bareRecord.spec.name ["aaaaa"] = _
    decide +kernel
  unfold createAll Store.createPod
  rw [hname]
  exact ⟨_, rfl⟩

/-- Whenever a pass is made over the pool, a pod is missing. -/
theorem consider_bareStage (cfg : Config) (now : Instant) :
    consider cfg (opening now bareStage bareRecord []) now =
      grow cfg bareRecord.spec.identity 1 := by
  have hwanted : (opening now bareStage bareRecord []).desired = 1 := by
    change Nat.max ((Demand.Tracker.new (.ofSeconds 600)).snapshot now).1.demand 1 = 1
    rw [demand_new]
    rfl
  unfold consider
  rw [hwanted]
  rfl

/-- Whenever it is made, the pass creates the pod. -/
theorem hiring_at (T : Instant) :
    (visit patient "ci" T welcoming () bareStage).verdict = .ok .done ∧
      (visit patient "ci" T welcoming () bareStage).grew "ci" = true ∧
      lastScaleUp "ci" (visit patient "ci" T welcoming () bareStage).after.store = some T ∧
      ∃ pods, Roster (visit patient "ci" T welcoming () bareStage).after.store "ci" pods := by
  obtain ⟨env, hmove⟩ : ∃ env, ((consider patient (opening T bareStage bareRecord []) T).run
      welcoming ()).result = .ok (.create 1 env) := by
    rw [consider_bareStage]
    exact ⟨_, rfl⟩
  obtain ⟨st, hcreate⟩ := createAll_bareStage env T
  obtain ⟨st', pods, hconclude, hroster, hadded, hlast⟩ :=
    conclude_create roster_bareStage found_bareRecord patient hcreate
  obtain ⟨p, hp, -, hpending⟩ := hadded.exists_new Nat.one_pos
  have hvisit := visit_eq roster_bareStage found_bareRecord patient T welcoming ()
  dsimp only at hvisit
  rw [hmove, hconclude] at hvisit
  rw [hvisit]
  refine ⟨rfl, Visit.grew_iff.mpr ⟨p, ?_, ?_⟩, hlast, pods, hroster⟩
  · exact (mem_livingIn hroster).mpr ⟨hp, by rw [hpending]; rfl⟩
  · rw [livingIn_eq roster_bareStage]
    exact List.not_mem_nil

theorem hiring_done : hiring.verdict = .ok .done ∧ hiring.grew "ci" = true ∧
    lastScaleUp "ci" hiring.after.store = some 100 ∧
    ∃ pods, Roster hiring.after.store "ci" pods := hiring_at 100

theorem restarted_eq {settings : Settings} {now : Instant} {s s' : Store}
    (hregister : Daemon.register settings now s = .ok s') : restarted settings now s = s' := by
  unfold restarted
  rw [hregister]

/-- A restart keeps the status of a pool, and then it need not have any pod. -/
theorem register_lenient {s : Store} {record : PoolRecord}
    (hfound : s.getPool "ci" = .ok (some record)) (now : Instant) :
    Daemon.register lenient now s = .ok (restarted lenient now s) ∧
      ∃ record', (restarted lenient now s).getPool "ci" = .ok (some record') ∧
        record'.status = record.status ∧ record'.spec.minReplicas = 0 ∧
        record'.spec.maxReplicas = none := by
  have hregister : Daemon.register lenient now s =
      .ok (s.putPool ⟨lenient.poolSpec record.spec.createdAt, record.status⟩) := by
    unfold Daemon.register
    rw [show lenient.pool.name = "ci" from rfl, hfound]
  rw [restarted_eq hregister]
  exact ⟨hregister, _, getPool_insert _, rfl, rfl, rfl⟩

/-- The restart keeps when the pool grew, and now no pod need be there. -/
theorem relaxed_ok : Daemon.register lenient 200 hiring.after.store = .ok relaxed ∧
    ∃ record, relaxed.getPool "ci" = .ok (some record) ∧
      record.status.lastScaleUpAt = some 100 ∧ record.spec.minReplicas = 0 ∧
      record.spec.maxReplicas = none := by
  obtain ⟨-, -, hlast, pods, hroster⟩ := hiring_done
  rcases hroster.filed.getPool_ok "ci" with hnone | ⟨record, hfound⟩
  · cases (lastScaleUp_eq_none hnone).symm.trans hlast
  · obtain ⟨hregister, record', hfound', hstatus, hleast, hmost⟩ := register_lenient hfound 200
    rw [lastScaleUp_eq hfound, ← hstatus] at hlast
    unfold relaxed
    exact ⟨hregister, record', hfound', hlast, hleast, hmost⟩

/-- With no demand a pool that need not have any pod should have none. -/
theorem desired_eq_zero {st : Stage} {record : PoolRecord} {pods : List Pod} {now : Instant}
    (htracker : st.tracker = .new (.ofSeconds 600)) (hleast : record.spec.minReplicas = 0)
    (hmost : record.spec.maxReplicas = none) : (opening now st record pods).desired = 0 := by
  unfold Opening.desired Demand.desiredReplicas opening
  dsimp only
  rw [htracker, hleast, hmost, demand_new]
  rfl

theorem waiting_held : waiting.Surplus "ci" ∧ waiting.Held patient "ci" 100 ∧
    waiting.Course patient "ci" := by
  obtain ⟨-, hgrew, -, pods, hroster⟩ := hiring_done
  obtain ⟨hregister, record, hfound, hlast, hleast, hmost⟩ := relaxed_ok
  obtain ⟨hpods, hfiled, -⟩ := lastScaleUp_register hregister
  have hrelaxed : Roster relaxedStage.store "ci" pods :=
    hroster.of_pods_eq (hfiled hroster.filed) hpods
  have hfound' : relaxedStage.store.getPool "ci" = .ok (some record) := hfound
  obtain ⟨p, hp, -⟩ := Visit.grew_iff.mp hgrew
  rw [livingIn_eq hroster] at hp
  have hmany : (opening 250 relaxedStage record pods).desired <
      (opening 250 relaxedStage record pods).live.length := by
    rw [desired_eq_zero rfl hleast hmost]
    exact List.length_pos_of_mem hp
  refine ⟨(surplus_iff hrelaxed hfound' welcoming ()).mpr hmany, ⟨?_, by decide⟩, ?_⟩
  · exact (lastScaleUp_eq hfound').trans hlast
  · exact (course_many hrelaxed hfound' hmany welcoming ()).1

theorem waiting_fits : waiting.Fits patient "ci" := by
  intro T hT
  obtain rfl := Option.some.inj (waiting_held.2.1.1.symm.trans hT)
  decide

/-- A run of two passes loses what the first creates: the second deletes a living pod while the
delay since the first is not over. -/
structure Loses (first : Store) (u v : Visit) : Prop where
  filed : first.Filed
  owned : ∀ pods, first.listPods "ci" = .ok pods → ∀ p ∈ pods, p.owner = "ci"
  run : Run patient "ci" first [u, v] v.after.store v.after.tracker
  grew : u.grew "ci" = true
  early : v.now.toNat < u.now.toNat + patient.scaleDownDelay.seconds
  lost : ∃ p ∈ livingIn "ci" v.before.store, p ∉ livingIn "ci" v.after.store

end PoolScaler.Reconcile
