import PoolScaler.Proofs.Reconcile.BrokenOff
set_option autoImplicit false

/-!
# Runners that are not there

That a runner is not registered, or not connected, is a finding like any other the
first time its pod is asked after.  The second time it fails the pass, though a
runner may well go away between the two questions.
-/

namespace PoolScaler.Reconcile

open Dialogue (Traces)

/-- A fault says that there is no runner, or none that is connected. -/
def TellsAbsence (fault : SourceFault) : Prop :=
  fault.kind = .notFound ∨ fault.kind = .offline

instance (fault : SourceFault) : Decidable (TellsAbsence fault) :=
  inferInstanceAs (Decidable (_ ∨ _))

/-- The question about a pod's runner. -/
def probeCall (cfg : Config) (identity : Identity) (p : Pod) : RunnersCall :=
  .probe identity p.name cfg.probeTimeout

open Round (question)

variable {cfg : Config} {identity : Identity} {now : Instant} {name : String} {fault : SourceFault}

/-! ## The first questions -/

theorem findingOf_ne_absence {p : Pod} {answer : Option (Sourced RunnerStatus)}
    (hfault : TellsAbsence fault) :
    findingOf cfg now p answer ≠ .error (.fault (.probe name fault)) := by
  rcases answer with _ | fault' | status
  · exact nofun
  · intro h
    unfold findingOf at h
    dsimp only at h
    split at h
    · cases h
    · cases h
    · cases h
    -- what is left are the kinds that end a survey, and absence is none of them
    all_goals
      rename_i hkind
      obtain ⟨⟩ := h
      rcases hfault with hfault | hfault <;> cases hkind.symm.trans hfault
  · exact nofun

theorem findingOf_eq_idle {p : Pod} {answer : Option (Sourced RunnerStatus)}
    (h : findingOf cfg now p answer = .ok .idle) : answer = some (.ok ⟨false⟩) := by
  rcases answer with _ | fault' | ⟨_ | _⟩
  · cases h
  · unfold findingOf at h
    dsimp only at h
    split at h
    · cases h
    · split at h <;> cases h
    all_goals cases h
  · rfl
  · cases h

/-- What a survey asks and what it does with the answers: each pod is asked after once, in
turn, those with an idle runner are found to be idle, and no answer of absence ends it. -/
structure Surveyed (cfg : Config) (identity : Identity) (pods : List Pod)
    (asked : List Inquiry) (outcome : Except Halt (List (Pod × Finding))) : Prop where
  few : asked.length ≤ pods.length
  calls : ∀ found, outcome = .ok found → asked.map (·.call) = pods.map (probeCall cfg identity)
  idle : ∀ found, outcome = .ok found → ∀ p ∈ having .idle found,
    p ∈ pods ∧ question cfg identity p (some (.ok ⟨false⟩)) ∈ asked
  unbroken : ∀ name fault, TellsAbsence fault → outcome ≠ .error (.fault (.probe name fault))

theorem mem_having_cons {finding finding' : Finding} {p q : Pod} {found : List (Pod × Finding)}
    (h : q ∈ having finding ((p, finding') :: found)) :
    (q = p ∧ finding' = finding) ∨ q ∈ having finding found := by
  obtain ⟨e, he, rfl⟩ := List.mem_map.mp h
  obtain ⟨hmem, hfinding⟩ := List.mem_filter.mp he
  rcases List.mem_cons.mp hmem with rfl | hmem
  · exact .inl ⟨rfl, beq_iff_eq.mp hfinding⟩
  · exact .inr (List.mem_map_of_mem (List.mem_filter.mpr ⟨hmem, hfinding⟩))

/-- A survey that halts owes only that it has asked after no pod twice, and that what halts
it is no absence. -/
theorem Surveyed.halted {pods : List Pod} {asked : List Inquiry} {halt : Halt}
    (few : asked.length ≤ pods.length)
    (h : ∀ name fault, TellsAbsence fault → halt ≠ .fault (.probe name fault)) :
    Surveyed cfg identity pods asked (.error halt) := by
  refine ⟨few, ?_, ?_, fun name fault hfault hout => h name fault hfault (Except.error.inj hout)⟩
  · rintro _ ⟨⟩
  · rintro _ ⟨⟩

theorem traces_surveyed (cfg : Config) (identity : Identity) (now : Instant) (pods : List Pod) :
    (survey cfg identity now pods).Traces (Surveyed cfg identity pods) := by
  induction pods with
  | nil =>
    refine ⟨Nat.le_refl 0, fun _ _ => rfl, ?_, ?_⟩
    · rintro _ ⟨⟩ p hp
      cases hp
    · rintro _ _ _ ⟨⟩
  | cons p pods ih =>
    rw [survey]
    refine traces_probe fun answer => ?_
    cases hfinding : findingOf cfg now p answer with
    | error halt =>
      refine .halted (Nat.succ_le_succ (Nat.zero_le _)) fun name fault hfault => ?_
      rintro rfl
      exact findingOf_ne_absence hfault hfinding
    | ok finding =>
      refine ih.bind_done fun later outcome h => ?_
      rcases outcome with halt | found
      · refine ⟨.error halt, rfl, .halted (Nat.succ_le_succ h.few) ?_⟩
        rintro name fault hfault rfl
        exact h.unbroken name fault hfault rfl
      · refine ⟨.ok ((p, finding) :: found), rfl, Nat.succ_le_succ h.few, fun _ _ => ?_, ?_, ?_⟩
        · exact congrArg (probeCall cfg identity p :: ·) (h.calls found rfl)
        · rintro _ ⟨⟩ q hq
          rcases mem_having_cons hq with ⟨rfl, rfl⟩ | hq
          · rw [findingOf_eq_idle hfinding]
            exact ⟨List.mem_cons_self, List.mem_cons_self⟩
          · obtain ⟨hmem, hasked⟩ := h.idle found rfl q hq
            exact ⟨List.mem_cons_of_mem p hmem, List.mem_cons_of_mem _ hasked⟩
        · rintro _ _ _ ⟨⟩

/-! ## The second questions -/

theorem stillIdle_eq_probe_iff {p : Pod} {answer : Option (Sourced RunnerStatus)}
    (hfault : TellsAbsence fault) :
    stillIdle p answer = .error (.fault (.probe name fault)) ↔
      p.name = name ∧ answer = some (.error fault) := by
  constructor
  · rcases answer with _ | fault' | status
    · nofun
    · unfold stillIdle
      dsimp only
      split
      · nofun
      · rintro ⟨⟩
        exact ⟨rfl, rfl⟩
    · nofun
  · rintro ⟨rfl, rfl⟩
    unfold stillIdle
    dsimp only
    rcases hfault with hkind | hkind <;> rw [hkind]

/-- What a recheck asks and what it does with the answers: the pods that it asks after are
among those it was given, and it ends with the absence of a runner exactly when that is
the answer to its last question. -/
structure Rechecked (cfg : Config) (identity : Identity) (pods : List Pod) (name : String)
    (fault : SourceFault) (asked : List Inquiry) (outcome : Except Halt (List Pod)) : Prop where
  calls : ∀ x ∈ asked, ∃ p ∈ pods, x.call = probeCall cfg identity p
  absent : outcome = .error (.fault (.probe name fault)) ↔
    asked.getLast? = some ⟨.probe identity name cfg.probeTimeout, some (.error fault)⟩

namespace Rechecked

variable {p : Pod} {pods : List Pod} {asked : List Inquiry} {outcome : Except Halt (List Pod)}

theorem silent : Rechecked cfg identity pods name fault [] (.ok []) := ⟨nofun, nofun, nofun⟩

theorem calls_cons {answer : Option (Sourced RunnerStatus)}
    (h : ∀ x ∈ asked, ∃ p ∈ pods, x.call = probeCall cfg identity p) :
    ∀ x ∈ question cfg identity p answer :: asked,
      ∃ q ∈ p :: pods, x.call = probeCall cfg identity q := by
  refine List.forall_mem_cons.mpr ⟨⟨p, List.mem_cons_self, rfl⟩, fun x hx => ?_⟩
  obtain ⟨q, hq, hcall⟩ := h x hx
  exact ⟨q, List.mem_cons_of_mem p hq, hcall⟩

theorem halted {answer : Option (Sourced RunnerStatus)} {halt : Halt}
    (hfault : TellsAbsence fault) (h : stillIdle p answer = .error halt) :
    Rechecked cfg identity (p :: pods) name fault [question cfg identity p answer]
      (.error halt) := by
  refine ⟨calls_cons nofun, ?_⟩
  have hiff : stillIdle p answer = .error (.fault (.probe name fault)) ↔ _ :=
    stillIdle_eq_probe_iff hfault
  rw [h] at hiff
  constructor
  · intro hout
    obtain ⟨rfl, rfl⟩ := hiff.mp (congrArg Except.error (Except.error.inj hout))
    rfl
  · intro hlast
    obtain ⟨hcall, hanswer⟩ := Exchange.mk.inj (Option.some.inj hlast)
    obtain rfl := (RunnersCall.probe.inj hcall).2.1
    have hsame := hiff.mpr ⟨rfl, eq_of_heq hanswer⟩
    exact congrArg Except.error (Except.error.inj hsame)

/-- An answer that tells of a runner changes nothing about how a recheck ends. -/
theorem cons {status : RunnerStatus} {outcome' : Except Halt (List Pod)}
    (h : Rechecked cfg identity pods name fault asked outcome)
    (hsame : outcome' = .error (.fault (.probe name fault)) ↔
      outcome = .error (.fault (.probe name fault))) :
    Rechecked cfg identity (p :: pods) name fault
      (question cfg identity p (some (.ok status)) :: asked) outcome' := by
  refine ⟨calls_cons h.calls, hsame.trans (h.absent.trans ?_)⟩
  cases asked with
  | nil =>
    refine ⟨nofun, fun hlast => ?_⟩
    obtain ⟨-, hanswer⟩ := Exchange.mk.inj (Option.some.inj hlast)
    cases eq_of_heq hanswer
  | cons y asked => rw [List.getLast?_cons_cons]

end Rechecked

theorem status_of_stillIdle {p : Pod} {answer : Option (Sourced RunnerStatus)} {idle : Bool}
    (h : stillIdle p answer = .ok idle) : ∃ status, answer = some (.ok status) := by
  rcases answer with _ | fault | status
  · cases h
  · unfold stillIdle at h
    dsimp only at h
    split at h <;> cases h
  · exact ⟨status, rfl⟩

theorem traces_rechecked (cfg : Config) (identity : Identity) (name : String)
    (hfault : TellsAbsence fault) (quota : Nat) (pods : List Pod) :
    (recheck cfg identity quota pods).Traces (Rechecked cfg identity pods name fault) := by
  induction pods generalizing quota with
  | nil => cases quota <;> exact .silent
  | cons p pods ih =>
    cases quota with
    | zero => exact .silent
    | succ quota =>
      rw [recheck]
      refine traces_probe fun answer => ?_
      cases hidle : stillIdle p answer with
      | error halt => exact .halted hfault hidle
      | ok idle =>
        obtain ⟨status, rfl⟩ := status_of_stillIdle hidle
        cases idle with
        | false => exact (ih (quota + 1)).imp fun later outcome h => h.cons .rfl
        | true =>
          refine (ih quota).bind_done fun later outcome h => ?_
          rcases outcome with halt | chosen
          · refine ⟨.error halt, rfl, h.cons ⟨?_, ?_⟩⟩ <;>
            · rintro ⟨⟩
              rfl
          · refine ⟨.ok (p :: chosen), rfl, h.cons ⟨?_, ?_⟩⟩ <;> rintro ⟨⟩

/-! ## The pass -/

/-- A runner got lost between two questions: the pods were each asked after once, that of
the runner was idle then, and the last of the questions that followed was after this
runner again and was answered with its absence. -/
structure LostBetween (cfg : Config) (identity : Identity) (pods : List Pod) (p : Pod)
    (fault : SourceFault) (asked : List Inquiry) (first again : List Inquiry) : Prop where
  mem : p ∈ pods
  calls : first.map (·.call) = pods.map (probeCall cfg identity)
  idle : question cfg identity p (some (.ok ⟨false⟩)) ∈ first
  order : asked = first ++ again ++ [question cfg identity p (some (.error fault))]

variable {pods : List Pod} {p : Pod} {asked first again : List Inquiry}

theorem LostBetween.length_lt (h : LostBetween cfg identity pods p fault asked first again) :
    pods.length < asked.length := by
  have hfirst : first.length = pods.length :=
    ((List.length_map _).symm.trans (congrArg List.length h.calls)).trans (List.length_map _)
  rw [h.order, List.length_append, List.length_append, hfirst, List.length_singleton]
  omega

theorem LostBetween.getLast?_eq (h : LostBetween cfg identity pods p fault asked first again) :
    asked.getLast? = some (question cfg identity p (some (.error fault))) := by
  rw [h.order, List.getLast?_append, List.getLast?_singleton]
  rfl

theorem traces_choose_absence (cfg : Config) (identity : Identity) (now : Instant) (excess : Nat)
    (pods : List Pod) (name : String) (hfault : TellsAbsence fault) :
    (choose cfg identity now excess pods).Traces fun asked outcome =>
      outcome = .error (.fault (.probe name fault)) ↔
        ∃ p first again, p.name = name ∧
          LostBetween cfg identity pods p fault asked first again := by
  unfold choose
  refine (traces_surveyed cfg identity now pods).bind fun first outcome h => ?_
  rcases outcome with halt | found
  · constructor
    · rintro ⟨⟩
      exact absurd rfl (h.unbroken name fault hfault)
    · rintro ⟨p, first', again, -, hlost⟩
      have hlong := hlost.length_lt
      rw [List.append_nil] at hlong
      exact absurd h.few (Nat.not_le_of_lt hlong)
  · refine (traces_rechecked cfg identity name hfault _ _).bind_done fun again outcome h' => ?_
    suffices hiff : outcome = .error (.fault (.probe name fault)) ↔ ∃ p first' again', p.name = name ∧
        LostBetween cfg identity pods p fault (first ++ again) first' again' by
      rcases outcome with halt | idle
      · exact ⟨.error halt, rfl, ⟨fun hout => hiff.mp (by cases hout; rfl),
          fun hout => by cases hiff.mpr hout; rfl⟩⟩
      · exact ⟨_, rfl, ⟨nofun, fun hout => nomatch hiff.mpr hout⟩⟩
    rw [h'.absent]
    constructor
    · intro hlast
      obtain ⟨again', hagain⟩ := List.getLast?_eq_some_iff.mp hlast
      obtain ⟨p, hp, hcall⟩ := h'.calls _ (List.mem_of_getLast? hlast)
      obtain rfl := (RunnersCall.probe.inj hcall).2.1
      obtain ⟨hmem, hidle⟩ := h.idle found rfl p hp
      refine ⟨p, first, again', rfl, hmem, h.calls found rfl, hidle, ?_⟩
      rw [hagain, List.append_assoc]
      rfl
    · rintro ⟨p, first', again', rfl, hlost⟩
      have hlast := hlost.getLast?_eq
      cases again with
      | nil =>
        have hlong := hlost.length_lt
        rw [List.append_nil] at hlong
        exact absurd h.few (Nat.not_le_of_lt hlong)
      | cons x again =>
        rwa [List.getLast?_append_of_ne_nil _ (List.cons_ne_nil x again)] at hlast

theorem moveOf_eq_probe_iff {outcome : Except Halt (List Pod)} :
    moveOf outcome = .error (.probe name fault) ↔
      outcome = .error (.fault (.probe name fault)) := by
  rcases outcome with (_ | _) | _ <;> unfold moveOf
  · exact ⟨nofun, nofun⟩
  · exact ⟨fun h => by cases h; rfl, fun h => by cases h; rfl⟩
  · exact ⟨nofun, nofun⟩

theorem traces_consider_absence (cfg : Config) (o : Opening) (now : Instant) (name : String)
    (hfault : TellsAbsence fault) :
    (consider cfg o now).Traces fun asked move =>
      move = .error (.probe name fault) ↔
        ∃ p first again, p.name = name ∧
          LostBetween cfg o.record.spec.identity o.live p fault asked first again := by
  have hsilent : ¬ ∃ p first again, p.name = name ∧
      LostBetween cfg o.record.spec.identity o.live p fault [] first again := by
    rintro ⟨p, first, again, -, hlost⟩
    have hlast := hlost.getLast?_eq
    cases hlast
  unfold consider
  split
  · unfold grow
    split
    · exact iff_of_false nofun hsilent
    · intro answer
      have hother : ¬ ∃ p first again, p.name = name ∧
          LostBetween cfg o.record.spec.identity o.live p fault
            [⟨.registrationToken o.record.spec.identity, answer⟩] first again := by
        rintro ⟨p, first, again, -, hlost⟩
        obtain ⟨hcall, -⟩ := Exchange.mk.inj (Option.some.inj hlost.getLast?_eq)
        cases hcall
      rcases answer with fault' | token
      · refine iff_of_false (fun h => ?_) hother
        split at h <;> cases h
      · exact iff_of_false nofun hother
  · split
    · cases hhold : holdRemaining cfg o.record.status.lastScaleUpAt now with
      | some remaining =>
        rw [shrink_eq_hold hhold]
        exact iff_of_false nofun hsilent
      | none =>
        rw [shrink_eq_choose hhold]
        refine (traces_choose_absence cfg _ now _ _ name hfault).bind_done
          fun asked outcome hiff => ?_
        exact ⟨moveOf outcome, rfl, moveOf_eq_probe_iff.trans hiff⟩
    · exact iff_of_false nofun hsilent

/-- Creating pods fails with a fault of the store, if at all. -/
theorem createAll_fault {spec : PoolSpec} {env : Pairs} {count : Nat} {s : Stage} {fault : Fault}
    (h : (createAll spec env now count s).1 = .error fault) : ∃ cause, fault = .state cause := by
  induction count generalizing s with
  | zero => cases h
  | succ count ih =>
    unfold createAll at h
    split at h
    · cases h
      exact ⟨_, rfl⟩
    · exact ih h

theorem conclude_eq_probe_iff {pool : String} {o : Opening} {move : Except Fault Move}
    {s : Stage} :
    (conclude cfg pool now o move s).1 = .error (.probe name fault) ↔
      move = .error (.probe name fault) := by
  rcases move with fault' | move
  · exact ⟨fun h => by cases h; rfl, fun h => by cases h; rfl⟩
  · refine ⟨fun h => ?_, nofun⟩
    unfold conclude at h
    dsimp only at h
    split at h
    · rename_i hperform
      unfold perform at hperform
      split at hperform
      · cases hperform
      · cases hperform
      · cases hperform
      · split at hperform
        · rename_i hcreate
          obtain ⟨cause, rfl⟩ := createAll_fault (congrArg Prod.fst hcreate)
          cases hperform
          cases h
        · cases hperform
      · cases hperform
    · split at h <;> cases h

/-- A pass that does not open fails with a fault of the store. -/
theorem openPass_fault {pool : String} {st : Stage} {fault : Fault}
    (h : (openPass pool now st).1 = .error fault) : ∃ cause, fault = .state cause := by
  unfold openPass at h
  split at h
  · cases h
    exact ⟨_, rfl⟩
  · cases h
    exact ⟨_, rfl⟩
  · dsimp only at h
    split at h
    · cases h
      exact ⟨_, rfl⟩
    · cases h

/-- A pass fails because a runner is not registered, or not connected, exactly when it got
lost between two questions: all pods were asked after once, this one's runner was idle
then, and the answer to the last of the questions that followed is its absence.  So no
first answer of this kind fails a pass. -/
theorem fails_on_absence_iff (cfg : Config) (pool : String) (now : Instant) (st : Stage)
    {σ : Type} (env : Surroundings RunnersCall.interface σ) (c : σ) (name : String)
    (fault : SourceFault) (hfault : TellsAbsence fault) :
    let out := (pass cfg pool now st).run env c
    out.result.1 = .error (.probe name fault) ↔
      ∃ o p first again, (openPass pool now st).1 = .ok o ∧ p.name = name ∧
        LostBetween cfg o.record.spec.identity o.live p fault out.exchanges first again := by
  obtain ⟨opening, st', hopen⟩ : ∃ opening st', openPass pool now st = (opening, st') :=
    ⟨_, _, rfl⟩
  unfold pass
  rw [hopen]
  rcases opening with cause | o
  · obtain ⟨cause, rfl⟩ := openPass_fault (congrArg Prod.fst hopen)
    refine ⟨nofun, ?_⟩
    rintro ⟨o, -, -, -, ho, -⟩
    cases ho
  · have hconsider := (traces_consider_absence cfg o now name hfault).run env c
    dsimp only
    rw [Dialogue.run_bind]
    simp only [Dialogue.run_done, List.append_nil]
    rw [conclude_eq_probe_iff, hconsider]
    constructor
    · rintro ⟨p, first, again, hlost⟩
      exact ⟨o, p, first, again, rfl, hlost⟩
    · rintro ⟨_, p, first, again, ⟨⟩, hlost⟩
      exact ⟨p, first, again, hlost⟩

/-- Six first answers, and two second ones of which the last is a fault. -/
def sevenLost (fault : SourceFault) : List (Option (Sourced RunnerStatus)) :=
  sevenSilent.dropLast ++ [some (.error fault)]

theorem lostBetween_sevenLost :
    let fault : SourceFault := .runnerOffline "ci-idle" false
    LostBetween tenMinutes pairPool.spec.identity (living sevenPods) (pairPod "ci-idle" .running 9)
      fault ((pass tenMinutes "ci" 1000 sevenStage).run prepared (sevenLost fault)).exchanges
      (List.zipWith (question tenMinutes pairPool.spec.identity) (living sevenPods)
        (sevenSilent.take 6))
      [question tenMinutes pairPool.spec.identity (pairPod "ci-soon" .running 6)
        (some (.ok ⟨false⟩))] := by
  have hexcess : Overfull.excess 1000 sevenStage pairPool sevenPods = 4 := by decide +kernel
  refine ⟨by decide, rfl, ?_, ?_⟩
  · exact List.mem_of_getElem (i := 4) (h := by decide) rfl
  · rw [overfull_seven.pass_eq_choose, Dialogue.run_bind, Dialogue.run_bind, hexcess]
    rfl

theorem fails_on_absence_iff_seven :
    let fault : SourceFault := .runnerOffline "ci-idle" false
    let out := (pass tenMinutes "ci" 1000 sevenStage).run prepared (sevenLost fault)
    TellsAbsence fault ∧ out.result.1 = .error (.probe "ci-idle" fault) := by
  refine ⟨.inr rfl, (fails_on_absence_iff tenMinutes "ci" 1000 sevenStage prepared _ "ci-idle" _
    (.inr rfl)).mpr ?_⟩
  have hopen := openPass_ok overfull_seven.roster overfull_seven.found 1000
  exact ⟨opening 1000 sevenStage pairPool sevenPods, _, _, _, congrArg Prod.fst hopen, rfl,
    lostBetween_sevenLost⟩

/-- The runner was there when it was first asked after. -/
theorem fails_on_second_absence :
    let missing : SourceFault := .runnerNotFound "ci-idle"
    let offline : SourceFault := .runnerOffline "ci-idle" false
    (TellsAbsence missing ∧
      ((pass tenMinutes "ci" 1000 sevenStage).run prepared (sevenLost missing)).result.1 =
        .error (.probe "ci-idle" missing)) ∧
    (TellsAbsence offline ∧
      ((pass tenMinutes "ci" 1000 sevenStage).run prepared (sevenLost offline)).result.1 =
        .error (.probe "ci-idle" offline)) := by
  have hexcess : Overfull.excess 1000 sevenStage pairPool sevenPods = 4 := by decide +kernel
  rw [overfull_seven.pass_eq_choose, hexcess]
  exact ⟨⟨.inl rfl, rfl⟩, ⟨.inr rfl, rfl⟩⟩

end PoolScaler.Reconcile
