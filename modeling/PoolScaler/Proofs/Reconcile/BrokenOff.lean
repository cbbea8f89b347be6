import PoolScaler.Proofs.Reconcile.Course
import PoolScaler.Proofs.Reconcile.Selection
set_option autoImplicit false

/-!
# Passes that are broken off

A pass asks all its questions before it creates or deletes anything.  An answer
that breaks it off is therefore the last one, and what is left are the pods that had
not ended, each as it was.
-/

namespace PoolScaler.Reconcile

open Dialogue (Traces)
open Store (Roster)

/-! ## What a pass resolves on -/

/-- What a refused token comes to. -/
def refusal (fault : SourceFault) : Except Fault Move :=
  if fault.kind = .rateLimited then .ok .backOff else .error (.runners fault)

/-- A pass resolves on a move once it has asked, and an answer that breaks it off or a
refused token is the last one and decides the move. -/
structure Resolves (o : Opening) (asked : List Inquiry) (move : Except Fault Move) : Prop where
  broken : ∃ halt?, Unfolds [] asked halt? ∧ ∀ halt, halt? = some halt → move = moveOf (.error halt)
  living : ∀ identity name limit answer,
    (⟨.probe identity name limit, answer⟩ : Inquiry) ∈ asked → ∃ p ∈ o.live, p.name = name
  refused : ∀ identity fault,
    (⟨.registrationToken identity, .error fault⟩ : Inquiry) ∈ asked → move = refusal fault

theorem Resolves.silent (o : Opening) (move : Except Fault Move) : Resolves o [] move :=
  ⟨⟨none, .nil, nofun⟩, nofun, nofun⟩

theorem Round.resolves {cfg : Config} {o : Opening} {identity : Identity} {asked : List Inquiry}
    {outcome : Except Halt (List Pod)}
    (h : Round cfg identity o.live [] asked (halt? outcome)) :
    Resolves o asked (moveOf outcome) := by
  refine ⟨⟨halt? outcome, h.unfolds, fun halt hhalt => ?_⟩, ?_, ?_⟩
  · rcases outcome with halt' | gone
    · rw [Option.some.inj hhalt]
    · cases hhalt
  · intro identity' name limit answer hx
    obtain ⟨p, hp, hcall⟩ := h.calls _ hx
    exact ⟨p, hp, (RunnersCall.probe.inj hcall).2.1.symm⟩
  · intro identity' fault hx
    obtain ⟨p, -, hcall⟩ := h.calls _ hx
    cases hcall

theorem traces_grow (cfg : Config) (o : Opening) (identity : Identity) (count : Nat) :
    (grow cfg identity count).Traces (Resolves o) := by
  unfold grow
  split
  · exact .silent o _
  · intro answer
    rcases answer with fault | token
    · refine ⟨⟨none, .cons rfl .nil, nofun⟩, ?_, ?_⟩
      · intro identity' name limit answer hx
        cases List.mem_singleton.mp hx
      · intro identity' fault' hx
        cases List.mem_singleton.mp hx
        unfold refusal
        split <;> rfl
    · refine ⟨⟨none, .cons rfl .nil, nofun⟩, ?_, ?_⟩
      · intro identity' name limit answer hx
        cases List.mem_singleton.mp hx
      · intro identity' fault' hx
        cases List.mem_singleton.mp hx

theorem traces_consider (cfg : Config) {o : Opening} (hnames : (o.live.map (·.name)).Nodup)
    (now : Instant) : (consider cfg o now).Traces (Resolves o) := by
  unfold consider
  split
  · exact traces_grow cfg o _ _
  · split
    · cases hhold : holdRemaining cfg o.record.status.lastScaleUpAt now with
      | some remaining =>
        rw [shrink_eq_hold hhold]
        exact .silent o _
      | none =>
        rw [shrink_eq_choose hhold]
        refine (traces_choose cfg o.record.spec.identity now _ hnames).bind_done
          fun asked outcome hround => ?_
        exact ⟨moveOf outcome, rfl, hround.resolves⟩
    · exact .silent o _

/-! ## What is left -/

/-- Of the pods of a pool those that had ended are gone; the others, and whatever
stands under another key, are as they were. -/
structure Spared (pool : String) (pods : List Pod) (before after : Store) : Prop where
  listed : after.listPods pool = .ok (living pods)
  kept : ∀ key, (∀ p ∈ pods, p.phase.isFinished = true → p.tableKey ≠ key) →
    after.pods.find? key = before.pods.find? key

theorem spared_opened {pool : String} {st : Stage} {pods : List Pod}
    (h : Roster st.store pool pods) (now : Instant) :
    Spared pool pods st.store (opened pool now st pods).store := by
  refine ⟨(roster_opened h now).listed, fun key hkey => find?_deleteAll (fun p hp => ?_) st.store⟩
  obtain ⟨hp, hended⟩ := List.mem_filter.mp hp
  have hne := hkey p hp hended
  rwa [Pod.tableKey, h.owned p hp] at hne

theorem Spared.of_pods_eq {pool : String} {pods : List Pod} {before after after' : Store}
    (h : Spared pool pods before after) (hpods : after'.pods = after.pods) :
    Spared pool pods before after' := by
  refine ⟨(Store.listPods_of_pods_eq hpods pool).trans h.listed, fun key hkey => ?_⟩
  rw [hpods]
  exact h.kept key hkey

/-- A fault with which an answer about a runner fails a pass. -/
def Fatal (again : Bool) (fault : SourceFault) : Prop :=
  fault.kind ≠ .rateLimited ∧ (again = true ∨ fault.kind ≠ .offline ∧ fault.kind ≠ .notFound)

theorem haltOf_of_fatal {again : Bool} {fault : SourceFault} (h : Fatal again fault)
    (pod : String) : haltOf again pod (some (.error fault)) = some (.fault (.probe pod fault)) := by
  obtain ⟨hlimit, hplain⟩ := h
  unfold haltOf
  dsimp only
  cases hkind : fault.kind with
  | rateLimited => exact absurd hkind hlimit
  | offline =>
    rcases hplain with rfl | ⟨hoffline, -⟩
    · rfl
    · exact absurd hkind hoffline
  | notFound =>
    rcases hplain with rfl | ⟨-, hmissing⟩
    · rfl
    · exact absurd hkind hmissing
  | tokenExpired | conflict | transient | invalid => rfl

section

variable {cfg : Config} {pool : String} {now : Instant} {st : Stage} {record : PoolRecord}
  {pods : List Pod}

/-- A pass that resolves on leaving the living pods alone spares them, and if it
fails no pool's record is touched. -/
theorem pass_quiet (h : Roster st.store pool pods)
    (hfound : st.store.getPool pool = .ok (some record)) {σ : Type}
    (env : Surroundings RunnersCall.interface σ) (c : σ) {move : Except Fault Move}
    {verdict : Except Fault Verdict}
    (hmove : ((consider cfg (opening now st record pods) now).run env c).result = move)
    (hquiet : quietVerdict? cfg move = some verdict) :
    ((pass cfg pool now st).run env c).result.1 = verdict ∧
      Spared pool pods st.store ((pass cfg pool now st).run env c).result.2.store ∧
      ∀ fault, move = .error fault →
        ((pass cfg pool now st).run env c).result.2.store.pools = st.store.pools := by
  have hpass : ((pass cfg pool now st).run env c).result =
      conclude cfg pool now (opening now st record pods) move (opened pool now st pods) := by
    rw [pass_eq h hfound, Dialogue.run_bind, ← hmove]
    rfl
  obtain ⟨st', hconclude, -⟩ := conclude_quiet h hfound now hquiet
  rw [hpass]
  refine ⟨by rw [hconclude], (spared_opened h now).of_pods_eq (conclude_quiet_pods hquiet _), ?_⟩
  rintro fault rfl
  exact deleteAll_pools _ _ _

/-- The verdict on a pass that is broken off. -/
def haltVerdict (cfg : Config) : Halt → Except Fault Verdict
  | .rateLimited => .ok (.rateLimited cfg.rateLimitBackoff)
  | .fault fault => .error fault

theorem quietVerdict?_moveOf (cfg : Config) (halt : Halt) :
    quietVerdict? cfg (moveOf (.error halt)) = some (haltVerdict cfg halt) := by
  cases halt <;> rfl

/-- The verdict on a pass whose token was refused. -/
def refusalVerdict (cfg : Config) (fault : SourceFault) : Except Fault Verdict :=
  if fault.kind = .rateLimited then .ok (.rateLimited cfg.rateLimitBackoff)
  else .error (.runners fault)

theorem quietVerdict?_refusal (cfg : Config) (fault : SourceFault) :
    quietVerdict? cfg (refusal fault) = some (refusalVerdict cfg fault) := by
  unfold refusal refusalVerdict
  split <;> rfl

theorem pass_exchanges (h : Roster st.store pool pods)
    (hfound : st.store.getPool pool = .ok (some record)) (cfg : Config) (now : Instant) {σ : Type}
    (env : Surroundings RunnersCall.interface σ) (c : σ) :
    ((pass cfg pool now st).run env c).exchanges =
      ((consider cfg (opening now st record pods) now).run env c).exchanges := by
  rw [pass_eq h hfound, Dialogue.run_bind]
  exact List.append_nil _

theorem resolves_consider (h : Roster st.store pool pods)
    (hfound : st.store.getPool pool = .ok (some record)) (cfg : Config) (now : Instant) {σ : Type}
    (env : Surroundings RunnersCall.interface σ) (c : σ) :
    Resolves (opening now st record pods) ((pass cfg pool now st).run env c).exchanges
      ((consider cfg (opening now st record pods) now).run env c).result := by
  rw [pass_exchanges h hfound]
  exact (traces_consider cfg (roster_opened h now).nodup_names now).run env c

/-- An answer that breaks a pass off is the last one, and the pass spares the living
pods. -/
theorem pass_halted (h : Roster st.store pool pods)
    (hfound : st.store.getPool pool = .ok (some record)) {σ : Type}
    (env : Surroundings RunnersCall.interface σ) (c : σ) {before after : List Inquiry} {x : Inquiry}
    (hsplit : ((pass cfg pool now st).run env c).exchanges = before ++ x :: after) {halt : Halt}
    (hx : haltAt before x = some halt) :
    after = [] ∧ ((pass cfg pool now st).run env c).result.1 = haltVerdict cfg halt ∧
      Spared pool pods st.store ((pass cfg pool now st).run env c).result.2.store ∧
      ∀ fault, halt = .fault fault →
        ((pass cfg pool now st).run env c).result.2.store.pools = st.store.pools := by
  obtain ⟨halt?, hunfolds, hmove⟩ := (resolves_consider h hfound cfg now env c).broken
  rw [hsplit] at hunfolds
  obtain ⟨hafter, hhalt⟩ := hunfolds.last hx
  obtain ⟨hverdict, hspared, hpools⟩ :=
    pass_quiet h hfound env c (hmove halt hhalt) (quietVerdict?_moveOf cfg halt)
  refine ⟨hafter, hverdict, hspared, ?_⟩
  rintro fault rfl
  exact hpools fault rfl

end

/-- A pass that is broken off deletes no living pod.  A probe that is answered with a
call for fewer calls is the last question of the pass, which is to be made again
after the backoff.  One without answer, or answered with a fatal fault, is the last
one as well and fails the pass by the pod's name, and no pool's record is touched.
A pass that lacks a scope or is refused the token creates no pod. -/
theorem broken_off_pass_spares {cfg : Config} {pool : String} {now : Instant} {st : Stage}
    {record : PoolRecord} {pods : List Pod} (hfiled : st.store.Filed)
    (hfound : st.store.getPool pool = .ok (some record))
    (hlisted : st.store.listPods pool = .ok pods) (howned : ∀ p ∈ pods, p.owner = pool) {σ : Type}
    (env : Surroundings RunnersCall.interface σ) (c : σ) :
    let out := (pass cfg pool now st).run env c
    let left := out.result.2.store
    (∀ before identity name limit answer after,
      out.exchanges = before ++ ⟨.probe identity name limit, answer⟩ :: after →
      (∃ p ∈ living pods, p.name = name) ∧
      (∀ fault, answer = some (.error fault) → fault.kind = .rateLimited →
        after = [] ∧ out.result.1 = .ok (.rateLimited cfg.rateLimitBackoff) ∧
          Spared pool pods st.store left) ∧
      (answer = none →
        after = [] ∧ out.result.1 = .error (.probeTimeout name) ∧
          Spared pool pods st.store left ∧ left.pools = st.store.pools) ∧
      ∀ fault, answer = some (.error fault) → Fatal (askedAfter name before) fault →
        after = [] ∧ out.result.1 = .error (.probe name fault) ∧
          Spared pool pods st.store left ∧ left.pools = st.store.pools) ∧
    ((living pods).length < Demand.desiredReplicas record.spec (st.tracker.snapshot now).1 →
      (∀ fault, Scope.ofIdentity record.spec.identity = .error fault →
        out.exchanges = [] ∧ out.result.1 = .error (.runners fault) ∧
          Spared pool pods st.store left ∧ left.pools = st.store.pools) ∧
      ∀ identity fault, (⟨.registrationToken identity, .error fault⟩ : Inquiry) ∈ out.exchanges →
        out.result.1 = (if fault.kind = .rateLimited then .ok (.rateLimited cfg.rateLimitBackoff)
          else .error (.runners fault)) ∧ Spared pool pods st.store left ∧
          (fault.kind ≠ .rateLimited → left.pools = st.store.pools)) := by
  intro out left
  have h : Roster st.store pool pods := ⟨hfiled, hlisted, howned⟩
  refine ⟨fun before identity name limit answer after hsplit => ⟨?_, ?_, ?_, ?_⟩,
    fun hfew => ⟨?_, ?_⟩⟩
  · refine (resolves_consider h hfound cfg now env c).living identity name limit answer ?_
    change _ ∈ out.exchanges
    rw [hsplit]
    exact List.mem_append_right _ List.mem_cons_self
  · rintro fault rfl hkind
    have hhalt : haltAt before ⟨.probe identity name limit, some (.error fault)⟩ =
        some .rateLimited := by
      unfold haltAt haltOf
      dsimp only
      rw [hkind]
    obtain ⟨hafter, hverdict, hspared, -⟩ := pass_halted h hfound env c hsplit hhalt
    exact ⟨hafter, hverdict, hspared⟩
  · rintro rfl
    obtain ⟨hafter, hverdict, hspared, hpools⟩ := pass_halted h hfound env c hsplit rfl
    exact ⟨hafter, hverdict, hspared, hpools _ rfl⟩
  · rintro fault rfl hfatal
    obtain ⟨hafter, hverdict, hspared, hpools⟩ :=
      pass_halted h hfound env c hsplit (haltOf_of_fatal hfatal name)
    exact ⟨hafter, hverdict, hspared, hpools _ rfl⟩
  · intro fault hscope
    have hconsider : consider cfg (opening now st record pods) now =
        .done (.error (.runners fault)) :=
      (consider_eq_grow hfew cfg now).trans (grow_unscoped hscope cfg _)
    have hresult : ((consider cfg (opening now st record pods) now).run env c).result =
        .error (.runners fault) := by
      rw [hconsider]
      rfl
    obtain ⟨hverdict, hspared, hpools⟩ := pass_quiet h hfound env c hresult rfl
    refine ⟨?_, hverdict, hspared, hpools _ rfl⟩
    exact (pass_exchanges h hfound cfg now env c).trans (by rw [hconsider]; rfl)
  · intro identity fault hmem
    have hmove := (resolves_consider h hfound cfg now env c).refused identity fault hmem
    obtain ⟨hverdict, hspared, hpools⟩ :=
      pass_quiet h hfound env c hmove (quietVerdict?_refusal cfg fault)
    refine ⟨hverdict, hspared, fun hkind => hpools (.runners fault) ?_⟩
    exact if_neg hkind

/-- Surroundings that take the answers about runners from a list and refuse every
token. -/
def prepared : Surroundings RunnersCall.interface (List (Option (Sourced RunnerStatus))) :=
  fun answers call =>
    match call with
    | .probe _ _ _ => (answers.headD none, answers.tail)
    | .registrationToken _ => (.error (.notFound ""), answers)

/-- Six first answers, and two second ones of which the last does not come. -/
def sevenSilent : List (Option (Sourced RunnerStatus)) := [
  some (.ok ⟨true⟩),
  some (.ok ⟨false⟩),
  some (.error (.runnerNotFound "ci-lost")),
  some (.error (.runnerOffline "ci-off" false)),
  some (.ok ⟨false⟩),
  some (.error (.runnerNotFound "ci-new")),
  some (.ok ⟨false⟩),
  none]

theorem exchanges_sevenSilent : ∃ before,
    ((pass tenMinutes "ci" 1000 sevenStage).run prepared sevenSilent).exchanges =
      before ++ [⟨.probe pairPool.spec.identity "ci-idle" tenMinutes.probeTimeout, none⟩] := by
  have hexcess : Overfull.excess 1000 sevenStage pairPool sevenPods = 4 := by decide +kernel
  rw [overfull_seven.pass_eq_choose, Dialogue.run_bind, Dialogue.run_bind, hexcess]
  exact ⟨[_, _, _, _, _, _, _], rfl⟩

theorem broken_off_pass_spares_seven :
    let out := (pass tenMinutes "ci" 1000 sevenStage).run prepared sevenSilent
    sevenStage.store.Filed ∧ sevenStage.store.getPool "ci" = .ok (some pairPool) ∧
      sevenStage.store.listPods "ci" = .ok sevenPods ∧ (∀ p ∈ sevenPods, p.owner = "ci") ∧
      out.result.1 = .error (.probeTimeout "ci-idle") ∧
      out.result.2.store.listPods "ci" = .ok (living sevenPods) ∧
      out.result.2.store.pools = sevenStage.store.pools := by
  obtain ⟨before, hexchanges⟩ := exchanges_sevenSilent
  obtain ⟨hprobes, -⟩ := broken_off_pass_spares overfull_seven.filed overfull_seven.found
    overfull_seven.listed overfull_seven.owned prepared sevenSilent
  obtain ⟨-, -, hsilent, -⟩ := hprobes before _ _ _ _ _ hexchanges
  obtain ⟨-, hverdict, hspared, hpools⟩ := hsilent rfl
  exact ⟨overfull_seven.filed, overfull_seven.found, overfull_seven.listed, overfull_seven.owned,
    hverdict, hspared.listed, hpools⟩

end PoolScaler.Reconcile
