import PoolScaler.Proofs.Store.Roster
import PoolScaler.Reconcile.Pass
set_option autoImplicit false

/-!
# What a pass leaves in the store

The parts of a pass that touch the store, each by what it does to the pods
listed for the pool and to the pool's record.
-/

namespace PoolScaler.Reconcile

open Store (Roster)

/-- The pods of a list that have not ended. -/
def living (pods : List Pod) : List Pod := pods.filter fun p => !p.phase.isFinished

variable {s : Store} {pool : String} {pods : List Pod} {record : PoolRecord}

/-! ## Deleting -/

theorem deleteAll_cons (pool : String) (s : Store) (p : Pod) (gone : List Pod) :
    deleteAll pool s (p :: gone) = deleteAll pool (s.deletePod pool p.name).2 gone := rfl

theorem deleteAll_pools (pool : String) (s : Store) (gone : List Pod) :
    (deleteAll pool s gone).pools = s.pools := by
  induction gone generalizing s with
  | nil => rfl
  | cons p gone ih =>
    rw [deleteAll_cons, ih]
    rfl

/-- Deleting pods touches no other key. -/
theorem find?_deleteAll {pool : String} {gone : List Pod} {key : String}
    (hne : ∀ p ∈ gone, Pod.key pool p.name ≠ key) (s : Store) :
    (deleteAll pool s gone).pods.find? key = s.pods.find? key := by
  induction gone generalizing s with
  | nil => rfl
  | cons p gone ih =>
    obtain ⟨hp, hgone⟩ := List.forall_mem_cons.mp hne
    rw [deleteAll_cons, ih hgone]
    exact (Keyed.find?_erase s.pods _ key).trans (if_neg hp.symm)

theorem roster_deleteAll (h : Roster s pool pods) (gone : List Pod) :
    Roster (deleteAll pool s gone) pool (pods.filter fun p => p.name ∉ gone.map (·.name)) := by
  induction gone generalizing s pods with
  | nil =>
    have hall : (pods.filter fun p => p.name ∉ ([] : List Pod).map (·.name)) = pods :=
      List.filter_eq_self.mpr fun _ _ => decide_eq_true List.not_mem_nil
    rw [hall]
    exact h
  | cons p gone ih =>
    have hrest := ih (h.deletePod p.name)
    have hboth : ((pods.filter (·.name != p.name)).filter fun q => q.name ∉ gone.map (·.name)) =
        pods.filter fun q => q.name ∉ (p :: gone).map (·.name) := by
      rw [List.filter_filter]
      refine List.filter_congr fun q _ => ?_
      simp only [List.map_cons, List.mem_cons, not_or, Bool.decide_and, decide_not]
      exact Bool.and_comm _ _
    rw [hboth] at hrest
    exact hrest

/-- Pods of the list are told apart by their names. -/
theorem filter_names_eq (h : Roster s pool pods) {gone : List Pod} (hgone : ∀ p ∈ gone, p ∈ pods) :
    (pods.filter fun p => p.name ∉ gone.map (·.name)) = pods.filter (· ∉ gone) := by
  refine List.filter_congr fun p hp => ?_
  refine decide_eq_decide.mpr (not_congr ?_)
  constructor
  · intro hmem
    obtain ⟨q, hq, hname⟩ := List.mem_map.mp hmem
    exact h.eq_of_name_eq (hgone q hq) hp hname ▸ hq
  · exact List.mem_map_of_mem

/-- Deleting the pods that have ended leaves the living ones. -/
theorem roster_deleteAll_ended (h : Roster s pool pods) :
    Roster (deleteAll pool s (pods.filter (·.phase.isFinished))) pool (living pods) := by
  have hrest := roster_deleteAll h (pods.filter (·.phase.isFinished))
  have hsame : pods.filter (· ∉ pods.filter (·.phase.isFinished)) = living pods := by
    refine List.filter_congr fun p hp => ?_
    cases hfinished : p.phase.isFinished
    · exact decide_eq_true fun hmem =>
        Bool.noConfusion (hfinished.symm.trans (List.mem_filter.mp hmem).2)
    · exact decide_eq_false (not_not_intro (List.mem_filter.mpr ⟨hp, hfinished⟩))
  rw [filter_names_eq h fun p hp => List.mem_of_mem_filter hp, hsame] at hrest
  exact hrest

theorem deleteChosen_snd (pool : String) (gone : List Pod) (s : Store) :
    (deleteChosen pool gone s).2 = deleteAll pool s gone := by
  induction gone generalizing s with
  | nil => rfl
  | cons p gone ih => exact ih _

/-! ## Creating -/

/-- Creating pods keeps whatever creating one keeps. -/
theorem createAll_keeps {P : Store → Prop} {spec : PoolSpec} {env : Pairs} {now : Instant}
    (hstep : ∀ {s s' p draws draws'}, s.createPod spec env now draws = .ok (p, draws', s') →
      P s → P s')
    (count : Nat) {st : Stage} (h : P st.store) : P (createAll spec env now count st).2.store := by
  induction count generalizing st with
  | zero => exact h
  | succ count ih =>
    unfold createAll
    split
    · exact h
    · rename_i hcreate
      exact ih (hstep hcreate h)

theorem createAll_pools (spec : PoolSpec) (env : Pairs) (now : Instant) (count : Nat) (st : Stage) :
    (createAll spec env now count st).2.store.pools = st.store.pools := by
  refine createAll_keeps (P := fun s => s.pools = st.store.pools) (fun hcreate h => ?_) count rfl
  obtain ⟨-, -, -, rfl⟩ := Store.createPod_eq_ok hcreate
  exact h

/-- A list has `count` more pods than another, all of them pending. -/
def Added (count : Nat) (before after : List Pod) : Prop :=
  ∃ new : List Pod, new.length = count ∧ after.Perm (new ++ before) ∧
    ∀ p ∈ new, p ∉ before ∧ p.phase = .pending

namespace Added

variable {count : Nat} {before between after : List Pod}

theorem none (pods : List Pod) : Added 0 pods pods := ⟨[], rfl, .refl _, nofun⟩

theorem length_eq (h : Added count before after) : after.length = count + before.length := by
  obtain ⟨new, rfl, hperm, -⟩ := h
  rw [hperm.length_eq, List.length_append]

theorem kept (h : Added count before after) : ∀ p ∈ before, p ∈ after := by
  obtain ⟨new, -, hperm, -⟩ := h
  exact fun p hp => hperm.mem_iff.mpr (List.mem_append_right _ hp)

theorem exists_new (h : Added count before after) (hcount : 0 < count) :
    ∃ p ∈ after, p ∉ before ∧ p.phase = .pending := by
  obtain ⟨new, rfl, hperm, hnew⟩ := h
  obtain ⟨p, hp⟩ := List.exists_mem_of_length_pos hcount
  exact ⟨p, hperm.mem_iff.mpr (List.mem_append_left _ hp), hnew p hp⟩

/-- One pod more, and then others. -/
theorem cons {p : Pod} (hp : p ∉ before) (hpending : p.phase = .pending)
    (hperm : between.Perm (p :: before)) (h : Added count between after) :
    Added (count + 1) before after := by
  obtain ⟨new, rfl, hafter, hnew⟩ := h
  refine ⟨new ++ [p], List.length_append, ?_, ?_⟩
  · rw [List.append_assoc]
    exact hafter.trans (hperm.append_left new)
  · intro q hq
    rcases List.mem_append.mp hq with hq | hq
    · obtain ⟨hq, hphase⟩ := hnew q hq
      exact ⟨fun hmem => hq (hperm.mem_iff.mpr (List.mem_cons_of_mem p hmem)), hphase⟩
    · rw [List.mem_singleton.mp hq]
      exact ⟨hp, hpending⟩

end Added

/-- Creating pods adds as many as were asked for, or fewer if the draws give out. -/
theorem roster_createAll {st st' : Stage} (h : Roster st.store pool pods) {spec : PoolSpec}
    (hspec : spec.name = pool) {env : Pairs} {now : Instant} {count : Nat} {e : Except Fault Unit}
    (hcreate : createAll spec env now count st = (e, st')) :
    ∃ added pods', Roster st'.store pool pods' ∧ Added added pods pods' ∧ added ≤ count ∧
      (e = .ok () ∧ added = count ∨ e = .error (.state .noFreeName)) := by
  induction count generalizing st pods with
  | zero =>
    obtain ⟨rfl, rfl⟩ := Prod.mk.inj hcreate
    exact ⟨0, pods, h, .none pods, Nat.le_refl 0, .inl ⟨rfl, rfl⟩⟩
  | succ count ih =>
    unfold createAll at hcreate
    split at hcreate
    · rename_i fault hfault
      obtain ⟨rfl, rfl⟩ := Prod.mk.inj hcreate
      unfold Store.createPod at hfault
      split at hfault
      · obtain rfl := Except.error.inj hfault
        exact ⟨0, pods, h, .none pods, Nat.zero_le _, .inr rfl⟩
      · cases hfault
    · rename_i p draws store hpod
      obtain ⟨hnew, pods', hroster, hperm⟩ := h.createPod hspec hpod
      obtain ⟨-, hpending, -, -⟩ := Store.createPod_eq_ok hpod
      obtain ⟨added, pods'', hroster', hadded, hle, he⟩ := ih hroster hcreate
      refine ⟨added + 1, pods'', hroster', hadded.cons hnew hpending hperm,
        Nat.succ_le_succ hle, he.imp_left fun ⟨hok, hall⟩ => ⟨hok, by rw [hall]⟩⟩

/-! ## The pool's record -/

theorem name_of_getPool (hfiled : s.Filed) (hfound : s.getPool pool = .ok (some record)) :
    record.spec.name = pool := by
  unfold Store.getPool at hfound
  split at hfound
  · cases hfound
  · rename_i text hfind
    obtain ⟨r, hread, hkey⟩ := hfiled.pools pool text hfind
    rw [hread] at hfound
    obtain rfl := Option.some.inj (Except.ok.inj hfound)
    exact hkey

theorem getPool_of_pools_eq {s' : Store} (hpools : s'.pools = s.pools) (pool : String) :
    s'.getPool pool = s.getPool pool := by
  unfold Store.getPool
  rw [hpools]

theorem getPool_insert (r : PoolRecord) :
    ({ s with pools := s.pools.insert pool (Store.writePool r) } : Store).getPool pool =
      .ok (some r) := by
  unfold Store.getPool
  dsimp only
  rw [Keyed.find?_insert, if_pos rfl]
  dsimp only
  rw [Store.readPool_writePool]
  rfl

/-- The status of a pool that is there can be replaced. -/
theorem updatePoolStatus_found (hfound : s.getPool pool = .ok (some record)) (next : PoolStatus) :
    s.updatePoolStatus pool next = .ok
      { s with pools := s.pools.insert pool (Store.writePool { record with status := next }) } := by
  unfold Store.getPool at hfound
  unfold Store.updatePoolStatus
  split at hfound
  · cases hfound
  · rename_i text _
    cases hread : Store.readPool text with
    | error fault =>
      rw [hread] at hfound
      cases hfound
    | ok r =>
      rw [hread] at hfound
      obtain rfl := Option.some.inj (Except.ok.inj hfound)
      rfl

/-- What a pass records is there afterwards, but for the time of an update that
changes nothing, and no pod is touched. -/
theorem recordStatus_ok (hfiled : s.Filed) (hfound : s.getPool pool = .ok (some record))
    (next : PoolStatus) :
    ∃ s' status, recordStatus pool record.status next s = .ok s' ∧ s'.pods = s.pods ∧ s'.Filed ∧
      s'.getPool pool = .ok (some { record with status := status }) ∧
      { status with updatedAt := next.updatedAt } = next := by
  unfold recordStatus
  split
  · rename_i hsame
    refine ⟨s, record.status, rfl, rfl, hfiled, hfound, ?_⟩
    rw [← hsame]
  · have hinsert := hfiled.insert_pool { record with status := next }
    rw [PoolRecord.tableKey, name_of_getPool hfiled hfound] at hinsert
    exact ⟨_, next, updatePoolStatus_found hfound next, rfl, hinsert, getPool_insert _, rfl⟩

theorem recordStatus_pods {current next : PoolStatus} {s' : Store}
    (hrecord : recordStatus pool current next s = .ok s') : s'.pods = s.pods := by
  unfold recordStatus at hrecord
  split at hrecord
  · rw [← Except.ok.inj hrecord]
  · exact Store.updatePoolStatus_pods hrecord

/-- Of a record only the status is replaced. -/
theorem recordStatus_record (hfound : s.getPool pool = .ok (some record))
    {current next : PoolStatus} {s' : Store}
    (hrecord : recordStatus pool current next s = .ok s') :
    ∃ status, s'.getPool pool = .ok (some { record with status := status }) := by
  unfold recordStatus at hrecord
  split at hrecord
  · rw [← Except.ok.inj hrecord]
    exact ⟨record.status, hfound⟩
  · rw [updatePoolStatus_found hfound next] at hrecord
    rw [← Except.ok.inj hrecord]
    exact ⟨next, getPool_insert { record with status := next }⟩

/-! ## Opening -/

/-- What a pass knows once it has opened. -/
def opening (now : Instant) (st : Stage) (record : PoolRecord) (pods : List Pod) : Opening :=
  ⟨record, (st.tracker.snapshot now).1, living pods⟩

/-- What a pass works on once it has opened: the pods that had ended are gone. -/
def opened (pool : String) (now : Instant) (st : Stage) (pods : List Pod) : Stage :=
  { st with
    tracker := (st.tracker.snapshot now).2
    store := deleteAll pool st.store (pods.filter (·.phase.isFinished)) }

theorem roster_opened {st : Stage} (h : Roster st.store pool pods) (now : Instant) :
    Roster (opened pool now st pods).store pool (living pods) :=
  roster_deleteAll_ended h

theorem getPool_opened (pool : String) (now : Instant) (st : Stage) (pods : List Pod) :
    (opened pool now st pods).store.getPool pool = st.store.getPool pool :=
  getPool_of_pools_eq (deleteAll_pools _ _ _) pool

theorem found_opened {st : Stage} (hfound : st.store.getPool pool = .ok (some record))
    (now : Instant) (pods : List Pod) :
    (opened pool now st pods).store.getPool pool = .ok (some record) := by
  rw [getPool_opened, hfound]

/-- A pass opens if the pool and its pods can be read. -/
theorem openPass_of_listed {st : Stage} (hname : record.spec.name = pool)
    (hfound : st.store.getPool pool = .ok (some record))
    (hlisted : st.store.listPods pool = .ok pods) (now : Instant) :
    openPass pool now st = (.ok (opening now st record pods), opened pool now st pods) := by
  unfold openPass
  rw [hfound]
  dsimp only
  rw [hname, hlisted]
  rfl

theorem openPass_ok {st : Stage} (h : Roster st.store pool pods)
    (hfound : st.store.getPool pool = .ok (some record)) (now : Instant) :
    openPass pool now st = (.ok (opening now st record pods), opened pool now st pods) :=
  openPass_of_listed (name_of_getPool h.filed hfound) hfound h.listed now

/-- A pass over a pool that is there considers and concludes. -/
theorem pass_eq_of_open {now : Instant} {st st' : Stage} {o : Opening}
    (hopen : openPass pool now st = (.ok o, st')) (cfg : Config) :
    pass cfg pool now st =
      (consider cfg o now).bind fun move => .done (conclude cfg pool now o move st') := by
  unfold pass
  rw [hopen]

theorem pass_eq {st : Stage} (h : Roster st.store pool pods)
    (hfound : st.store.getPool pool = .ok (some record)) (cfg : Config) (now : Instant) :
    pass cfg pool now st =
      (consider cfg (opening now st record pods) now).bind fun move =>
        .done (conclude cfg pool now (opening now st record pods) move
          (opened pool now st pods)) :=
  pass_eq_of_open (openPass_ok h hfound now) cfg

/-! ## Concluding -/

/-- When pods were last created for a pool, as its record has it. -/
def lastScaleUp (pool : String) (s : Store) : Option Instant :=
  match s.getPool pool with
  | .ok (some record) => record.status.lastScaleUpAt
  | _ => none

theorem lastScaleUp_eq (hfound : s.getPool pool = .ok (some record)) :
    lastScaleUp pool s = record.status.lastScaleUpAt := by
  unfold lastScaleUp
  rw [hfound]

theorem lastScaleUp_eq_none (hnone : s.getPool pool = .ok none) : lastScaleUp pool s = none := by
  unfold lastScaleUp
  rw [hnone]

/-- What deleting pods comes to. -/
def deletion (o : Opening) (gone : List Pod) (st : Stage) : Result :=
  let deleted := (deleteChosen o.record.spec.name gone st.store).1
  ⟨.done, o.live.length - deleted.length, o.live.filter fun p => !deleted.contains p.name,
    o.record.status.lastScaleUpAt⟩

theorem perform_delete (cfg : Config) (o : Opening) (now : Instant) (gone : List Pod) (st : Stage) :
    perform cfg o now (.delete gone) st =
      (.ok (deletion o gone st),
        { st with store := deleteAll o.record.spec.name st.store gone }) := by
  rw [← deleteChosen_snd]
  rfl

theorem perform_create {o : Opening} {now : Instant} {count : Nat} {env : Pairs} {st st' : Stage}
    (hcreate : createAll o.record.spec env now count st = (.ok (), st')) (cfg : Config) :
    perform cfg o now (.create count env) st =
      (.ok ⟨.done, o.live.length + count, o.live, some now⟩, st') := by
  unfold perform
  dsimp only
  rw [hcreate]

theorem perform_pools (cfg : Config) (o : Opening) (now : Instant) (move : Move) (st : Stage) :
    (perform cfg o now move st).2.store.pools = st.store.pools := by
  cases move with
  | rest | hold _ | backOff => rfl
  | create count env =>
    rw [← createAll_pools o.record.spec env now count st]
    unfold perform
    dsimp only
    split
    · rename_i hcreate
      rw [hcreate]
    · rename_i hcreate
      rw [hcreate]
  | delete gone =>
    rw [perform_delete]
    exact deleteAll_pools _ _ _

/-- A conclusion keeps the record of the pool, but for its status. -/
theorem conclude_record {st : Stage} (hfound : st.store.getPool pool = .ok (some record))
    (cfg : Config) (now : Instant) (o : Opening) (move : Except Fault Move) :
    ∃ status, (conclude cfg pool now o move st).2.store.getPool pool =
      .ok (some { record with status := status }) := by
  rcases move with fault | move
  · exact ⟨record.status, hfound⟩
  · have hperform := getPool_of_pools_eq (perform_pools cfg o now move st) pool
    rw [hfound] at hperform
    unfold conclude
    dsimp only
    split
    · rename_i hfault
      rw [hfault] at hperform
      exact ⟨record.status, hperform⟩
    · rename_i hdone
      rw [hdone] at hperform
      split
      · exact ⟨record.status, hperform⟩
      · rename_i hrecord
        exact recordStatus_record hperform hrecord

/-- Of a conclusion only the move touches pods. -/
theorem conclude_pods (cfg : Config) (pool : String) (now : Instant) (o : Opening) (move : Move)
    (st : Stage) : (conclude cfg pool now o (.ok move) st).2.store.pods =
      (perform cfg o now move st).2.store.pods := by
  unfold conclude
  dsimp only
  split
  · rename_i hperform
    rw [hperform]
  · rename_i hperform
    rw [hperform]
    split
    · rfl
    · rename_i hrecord
      exact recordStatus_pods hrecord

/-- A move that was made is concluded, and its conclusion touches no pod. -/
theorem conclude_ok {cfg : Config} {now : Instant} {o : Opening} {move : Move} {st st' : Stage}
    {result : Result} (hperform : perform cfg o now move st = (.ok result, st'))
    (h : Roster st'.store pool pods) (hfound : st'.store.getPool pool = .ok (some o.record)) :
    ∃ st'', conclude cfg pool now o (.ok move) st = (.ok result.verdict, st'') ∧
      Roster st''.store pool pods ∧ lastScaleUp pool st''.store = result.lastScaleUpAt := by
  obtain ⟨store, status, hrecord, hpods, hfiled, hfound', hstatus⟩ :=
    recordStatus_ok h.filed hfound (result.status o now)
  unfold conclude
  dsimp only
  rw [hperform]
  dsimp only
  rw [hrecord]
  refine ⟨_, rfl, h.of_pods_eq hfiled hpods, ?_⟩
  rw [lastScaleUp_eq hfound']
  exact congrArg PoolStatus.lastScaleUpAt hstatus

/-- A move that changes nothing leaves the living pods and the last growth. -/
theorem conclude_unchanged {cfg : Config} {now : Instant} {st : Stage}
    (h : Roster st.store pool pods) (hfound : st.store.getPool pool = .ok (some record))
    {move : Move} {verdict : Verdict}
    (hmove : perform cfg (opening now st record pods) now move (opened pool now st pods) =
      (.ok ⟨verdict, (living pods).length, living pods, record.status.lastScaleUpAt⟩,
        opened pool now st pods)) :
    ∃ st', conclude cfg pool now (opening now st record pods) (.ok move) (opened pool now st pods) =
        (.ok verdict, st') ∧
      Roster st'.store pool (living pods) ∧
      lastScaleUp pool st'.store = lastScaleUp pool st.store := by
  rw [lastScaleUp_eq hfound]
  exact conclude_ok hmove (roster_opened h now) (found_opened hfound now pods)

/-- The verdict on a resolution that leaves every living pod alone. -/
def quietVerdict? (cfg : Config) : Except Fault Move → Option (Except Fault Verdict)
  | .error fault => some (.error fault)
  | .ok .rest => some (.ok .done)
  | .ok (.hold remaining) => some (.ok (.requeueAfter remaining))
  | .ok .backOff => some (.ok (.rateLimited cfg.rateLimitBackoff))
  | .ok (.create _ _) | .ok (.delete _) => none

/-- Such a resolution leaves the last growth as well. -/
theorem conclude_quiet {cfg : Config} {st : Stage} (h : Roster st.store pool pods)
    (hfound : st.store.getPool pool = .ok (some record)) (now : Instant) {move : Except Fault Move}
    {verdict : Except Fault Verdict} (hmove : quietVerdict? cfg move = some verdict) :
    ∃ st', conclude cfg pool now (opening now st record pods) move (opened pool now st pods) =
        (verdict, st') ∧
      Roster st'.store pool (living pods) ∧
      lastScaleUp pool st'.store = lastScaleUp pool st.store := by
  rcases move with fault | move
  · obtain rfl := Option.some.inj hmove
    refine ⟨_, rfl, roster_opened h now, ?_⟩
    rw [lastScaleUp_eq hfound, lastScaleUp_eq (found_opened hfound now pods)]
  · cases move with
    | rest =>
      obtain rfl := Option.some.inj hmove
      exact conclude_unchanged h hfound rfl
    | hold remaining =>
      obtain rfl := Option.some.inj hmove
      exact conclude_unchanged h hfound rfl
    | backOff =>
      obtain rfl := Option.some.inj hmove
      exact conclude_unchanged h hfound rfl
    | create count env => cases hmove
    | delete gone => cases hmove

/-- Such a resolution touches no pod at all. -/
theorem conclude_quiet_pods {cfg : Config} {now : Instant} {o : Opening} {move : Except Fault Move}
    {verdict : Except Fault Verdict} (hmove : quietVerdict? cfg move = some verdict) (st : Stage) :
    (conclude cfg pool now o move st).2.store.pods = st.store.pods := by
  rcases move with fault | move
  · rfl
  · rw [conclude_pods]
    cases move with
    | rest => rfl
    | hold remaining => rfl
    | backOff => rfl
    | create count env => cases hmove
    | delete gone => cases hmove

theorem conclude_create_fault {cfg : Config} {now : Instant} {o : Opening} {count : Nat}
    {env : Pairs} {st st' : Stage} {fault : Fault}
    (hcreate : createAll o.record.spec env now count st = (.error fault, st')) :
    conclude cfg pool now o (.ok (.create count env)) st = (.error fault, st') := by
  unfold conclude perform
  dsimp only
  rw [hcreate]

/-- Creating pods adds to the living ones and is recorded. -/
theorem conclude_create {now : Instant} {st st' : Stage} (h : Roster st.store pool pods)
    (hfound : st.store.getPool pool = .ok (some record)) (cfg : Config) {count : Nat} {env : Pairs}
    (hcreate : createAll record.spec env now count (opened pool now st pods) = (.ok (), st')) :
    ∃ st'' pods', conclude cfg pool now (opening now st record pods) (.ok (.create count env))
        (opened pool now st pods) = (.ok .done, st'') ∧
      Roster st''.store pool pods' ∧ Added count (living pods) pods' ∧
      lastScaleUp pool st''.store = some now := by
  have hspec := name_of_getPool h.filed hfound
  obtain ⟨added, pods', hroster, hadded, -, hall⟩ :=
    roster_createAll (roster_opened h now) hspec hcreate
  obtain ⟨-, rfl⟩ := hall.resolve_right nofun
  have hfound' : st'.store.getPool pool = .ok (some record) := by
    have hpools := createAll_pools record.spec env now added (opened pool now st pods)
    rw [hcreate] at hpools
    rw [getPool_of_pools_eq hpools]
    exact found_opened hfound now pods
  obtain ⟨st'', hconclude, hroster', hlast⟩ :=
    conclude_ok (perform_create (o := opening now st record pods) hcreate cfg) hroster hfound'
  exact ⟨st'', pods', hconclude, hroster', hadded, hlast⟩

/-- Deleting pods leaves those of other names and the last growth. -/
theorem conclude_delete {st : Stage} (h : Roster st.store pool pods)
    (hfound : st.store.getPool pool = .ok (some record)) (cfg : Config) (now : Instant)
    (gone : List Pod) :
    ∃ st', conclude cfg pool now (opening now st record pods) (.ok (.delete gone))
        (opened pool now st pods) = (.ok .done, st') ∧
      Roster st'.store pool ((living pods).filter fun p => p.name ∉ gone.map (·.name)) ∧
      lastScaleUp pool st'.store = lastScaleUp pool st.store := by
  have hdeleted := roster_deleteAll (roster_opened h now) gone
  have hfound' : (deleteAll pool (opened pool now st pods).store gone).getPool pool =
      .ok (some record) := by
    rw [getPool_of_pools_eq (deleteAll_pools _ _ _)]
    exact found_opened hfound now pods
  have hperform := perform_delete cfg (opening now st record pods) now gone
    (opened pool now st pods)
  rw [show (opening now st record pods).record.spec.name = pool from
    name_of_getPool h.filed hfound] at hperform
  rw [lastScaleUp_eq hfound]
  obtain ⟨st', hconclude, hroster, hlast⟩ := conclude_ok hperform hdeleted hfound'
  exact ⟨st', hconclude, hroster, hlast⟩

/-! ## Making up one's mind -/

theorem consider_eq_grow {o : Opening} (h : o.live.length < o.desired) (cfg : Config)
    (now : Instant) :
    consider cfg o now = grow cfg o.record.spec.identity (o.desired - o.live.length) :=
  if_pos h

theorem grow_unscoped {identity : Identity} {fault : SourceFault}
    (h : Scope.ofIdentity identity = .error fault) (cfg : Config) (count : Nat) :
    grow cfg identity count = .done (.error (.runners fault)) := by
  unfold grow
  rw [h]

theorem consider_eq_shrink {o : Opening} (h : o.desired < o.live.length) (cfg : Config)
    (now : Instant) :
    consider cfg o now = shrink cfg o now (o.live.length - o.desired) := by
  unfold consider
  rw [if_neg (Nat.not_lt_of_lt h), if_pos h]

/-- A choice as a move. -/
def moveOf : Except Halt (List Pod) → Except Fault Move
  | .ok pods => .ok (.delete pods)
  | .error .rateLimited => .ok .backOff
  | .error (.fault fault) => .error fault

theorem shrink_eq_choose {cfg : Config} {o : Opening} {now : Instant}
    (h : holdRemaining cfg o.record.status.lastScaleUpAt now = none) (excess : Nat) :
    shrink cfg o now excess =
      (choose cfg o.record.spec.identity now excess o.live).bind fun choice =>
        .done (moveOf choice) := by
  unfold shrink
  rw [h]
  dsimp only
  congr 1
  funext choice
  rcases choice with (fault | fault) | pods <;> rfl

theorem shrink_eq_hold {cfg : Config} {o : Opening} {now : Instant} {remaining : Span}
    (h : holdRemaining cfg o.record.status.lastScaleUpAt now = some remaining) (excess : Nat) :
    shrink cfg o now excess = .done (.ok (.hold remaining)) := by
  unfold shrink
  rw [h]

/-- The time until which pods must be kept does not wrap around if it has 64 bits. -/
theorem Config.toNat_holdUntil {cfg : Config} {T : Instant}
    (hfits : T.toNat + cfg.scaleDownDelay.seconds < UInt64.size) :
    (cfg.holdUntil T).toNat = T.toNat + cfg.scaleDownDelay.seconds := by
  have hdelay : cfg.scaleDownDelay.seconds < UInt64.size :=
    Nat.lt_of_le_of_lt (Nat.le_add_left _ _) hfits
  unfold holdUntil
  rw [UInt64.toNat_add, UInt64.toNat_ofNat_of_lt' hdelay, Nat.mod_eq_of_lt hfits]

theorem holdRemaining_eq_some_iff {cfg : Config} {last : Option Instant} {now : Instant}
    {remaining : Span} : holdRemaining cfg last now = some remaining ↔
      ∃ T, last = some T ∧ now < cfg.holdUntil T ∧
        remaining = .ofSeconds (cfg.holdUntil T - now).toNat := by
  unfold holdRemaining
  cases last with
  | none => exact ⟨nofun, fun ⟨_, hlast, _⟩ => nomatch hlast⟩
  | some T =>
    dsimp only
    split
    · rename_i hearly
      constructor
      · exact fun h => ⟨T, rfl, hearly, (Option.some.inj h).symm⟩
      · rintro ⟨_, hlast, -, hremaining⟩
        rw [hremaining, ← Option.some.inj hlast]
    · rename_i hlate
      refine ⟨nofun, fun ⟨_, hlast, hearly, _⟩ => ?_⟩
      exact absurd (Option.some.inj hlast ▸ hearly) hlate

theorem holdRemaining_eq_none_iff {cfg : Config} {last : Option Instant} {now : Instant} :
    holdRemaining cfg last now = none ↔ ∀ T, last = some T → cfg.holdUntil T ≤ now := by
  unfold holdRemaining
  cases last with
  | none => exact ⟨nofun, fun _ => rfl⟩
  | some T =>
    dsimp only
    split
    · rename_i hearly
      exact ⟨nofun, fun h => absurd (h T rfl) (UInt64.not_le.mpr hearly)⟩
    · rename_i hlate
      exact ⟨fun _ T' hlast => Option.some.inj hlast ▸ UInt64.not_lt.mp hlate, fun _ => rfl⟩

/-- Once the delay is over no pod must be kept. -/
theorem holdRemaining_eq_none {cfg : Config} {last : Option Instant} {now : Instant}
    (hover : ∀ T, last = some T → T.toNat + cfg.scaleDownDelay.seconds ≤ now.toNat) :
    holdRemaining cfg last now = none := by
  refine holdRemaining_eq_none_iff.mpr fun T hT => ?_
  have hle := hover T hT
  rw [UInt64.le_iff_toNat_le, Config.toNat_holdUntil (Nat.lt_of_le_of_lt hle now.toNat_lt)]
  exact hle

/-! ## What a pass leaves of the demand -/

theorem createAll_tracker (spec : PoolSpec) (env : Pairs) (now : Instant) (count : Nat)
    (st : Stage) : (createAll spec env now count st).2.tracker = st.tracker := by
  induction count generalizing st with
  | zero => rfl
  | succ count ih =>
    unfold createAll
    split
    · rfl
    · exact ih _

theorem perform_tracker (cfg : Config) (o : Opening) (now : Instant) (move : Move) (st : Stage) :
    (perform cfg o now move st).2.tracker = st.tracker := by
  cases move with
  | rest | hold _ | backOff | delete _ => rfl
  | create count env =>
    rw [← createAll_tracker o.record.spec env now count st]
    unfold perform
    dsimp only
    split
    · rename_i hcreate
      rw [hcreate]
    · rename_i hcreate
      rw [hcreate]

theorem conclude_tracker (cfg : Config) (pool : String) (now : Instant) (o : Opening)
    (move : Except Fault Move) (st : Stage) :
    (conclude cfg pool now o move st).2.tracker = st.tracker := by
  rcases move with fault | move
  · rfl
  · have hperform := perform_tracker cfg o now move st
    unfold conclude
    dsimp only
    split
    · rename_i hfault
      rw [hfault] at hperform
      exact hperform
    · rename_i hdone
      rw [hdone] at hperform
      split <;> exact hperform

end PoolScaler.Reconcile
