import Mathlib.Data.List.Perm.Subperm
import PoolScaler.Proofs.Dialogue
import PoolScaler.Reconcile.Survey
set_option autoImplicit false

/-!
# Rounds of questions

What a survey and a recheck end with, and what they ask: each pod once, some of
them again, and nothing after an answer that breaks the round off.
-/

namespace PoolScaler.Reconcile

open Dialogue (Ends Traces)

/-! ## What a round ends with -/

/-- A survey finds something about each pod, or is broken off. -/
theorem survey_ends (cfg : Config) (identity : Identity) (now : Instant) (pods : List Pod) :
    (survey cfg identity now pods).Ends fun outcome =>
      ∀ found, outcome = .ok found → found.map (·.1) = pods := by
  induction pods with
  | nil =>
    rintro _ ⟨⟩
    rfl
  | cons p pods ih =>
    rw [survey]
    refine (Ends.trivial _).bind fun answer _ => ?_
    split
    · exact nofun
    · refine ih.bind fun outcome hfound => ?_
      rcases outcome with halt | found
      · exact nofun
      · rintro _ ⟨⟩
        rw [List.map_cons, hfound found rfl]

/-- A recheck takes some of the pods, no more than its quota, or is broken off. -/
theorem recheck_ends (cfg : Config) (identity : Identity) (quota : Nat) (pods : List Pod) :
    (recheck cfg identity quota pods).Ends fun outcome =>
      ∀ chosen, outcome = .ok chosen → chosen.Sublist pods ∧ chosen.length ≤ quota := by
  fun_induction recheck cfg identity quota pods with
  | case1 pods =>
    rintro _ ⟨⟩
    exact ⟨List.nil_sublist _, Nat.le_refl 0⟩
  | case2 quota =>
    rintro _ ⟨⟩
    exact ⟨.slnil, Nat.zero_le _⟩
  | case3 quota p pods ih ih' =>
    refine (Ends.trivial _).bind fun answer _ => ?_
    split
    · exact nofun
    · refine ih.bind fun outcome hchosen => ?_
      rcases outcome with halt | chosen
      · exact nofun
      · rintro _ ⟨⟩
        obtain ⟨hsub, hquota⟩ := hchosen chosen rfl
        exact ⟨hsub.cons_cons p, Nat.succ_le_succ hquota⟩
    · refine ih'.imp fun outcome hchosen chosen hok => ?_
      obtain ⟨hsub, hquota⟩ := hchosen chosen hok
      exact ⟨hsub.cons p, hquota⟩

/-- The three kinds of findings that a pod can go by take no pod twice. -/
theorem having_subperm (found : List (Pod × Finding)) :
    (having .offline found ++ having .unregistered found ++ having .idle found).Subperm
      (found.map (·.1)) := by
  induction found with
  | nil => exact .refl _
  | cons e found ih =>
    obtain ⟨p, finding⟩ := e
    have hcons := (List.subperm_cons p).mpr ih
    cases finding with
    | busy | young => exact ih.trans .cons_self
    | offline => exact hcons
    | unregistered => exact (List.perm_middle.append_right _).subperm.trans hcons
    | idle => exact List.perm_middle.subperm.trans hcons

/-- A choice takes some of the pods, each once and no more than there are too many, or
is broken off. -/
theorem choose_ends (cfg : Config) (identity : Identity) (now : Instant) (excess : Nat)
    (pods : List Pod) :
    (choose cfg identity now excess pods).Ends fun outcome =>
      ∀ chosen, outcome = .ok chosen → chosen.Subperm pods ∧ chosen.length ≤ excess := by
  unfold choose
  refine (survey_ends cfg identity now pods).bind fun outcome hfound => ?_
  rcases outcome with halt | found
  · exact nofun
  · refine (recheck_ends cfg identity _ _).bind fun outcome hchosen => ?_
    rcases outcome with halt | idle
    · exact nofun
    · rintro _ ⟨⟩
      obtain ⟨hidle, hquota⟩ := hchosen idle rfl
      have hsure : (surelyIdle excess found).length ≤ excess := List.length_take_le _ _
      refine ⟨?_, ?_⟩
      · have hsub := (List.take_sublist excess
          (having .offline found ++ having .unregistered found)).append hidle
        rw [← hfound found rfl]
        exact hsub.subperm.trans (having_subperm found)
      · rw [List.length_append]
        omega

/-! ## What breaks a round off -/

/-- A question of a pass and its answer. -/
abbrev Inquiry : Type := Exchange RunnersCall.interface

/-- A question is about the runner of a pod. -/
def asksAfter (pod : String) (x : Inquiry) : Bool :=
  match (x.call : RunnersCall) with
  | .probe _ name _ => name == pod
  | .registrationToken _ => false

/-- The runner of a pod has been asked after. -/
def askedAfter (pod : String) (asked : List Inquiry) : Bool := asked.any (asksAfter pod)

/-- What the answer to a question about the runner of a pod breaks a round off
with, if it does.  That the runner is not connected or not registered is a plain
answer the first time only. -/
def haltOf (again : Bool) (pod : String) : Option (Sourced RunnerStatus) → Option Halt
  | none => some (.fault (.probeTimeout pod))
  | some (.ok _) => none
  | some (.error fault) =>
    match fault.kind with
    | .rateLimited => some .rateLimited
    | .offline | .notFound => if again then some (.fault (.probe pod fault)) else none
    | .tokenExpired | .conflict | .transient | .invalid => some (.fault (.probe pod fault))

/-- What a question and its answer, after others, break a round off with. -/
def haltAt (asked : List Inquiry) : Inquiry → Option Halt
  | ⟨.probe _ pod _, answer⟩ => haltOf (askedAfter pod asked) pod answer
  | ⟨.registrationToken _, _⟩ => none

/-- After some questions others follow up to the first that breaks the round off,
and `halt?` is what it breaks it off with. -/
def Unfolds (asked : List Inquiry) : List Inquiry → Option Halt → Prop
  | [], halt? => halt? = none
  | x :: later, halt? =>
    match haltAt asked x with
    | some halt => later = [] ∧ halt? = some halt
    | none => Unfolds (asked ++ [x]) later halt?

namespace Unfolds

variable {asked later later' : List Inquiry} {x : Inquiry} {halt? : Option Halt}

theorem nil : Unfolds asked [] none := rfl

theorem halted {halt : Halt} (h : haltAt asked x = some halt) : Unfolds asked [x] (some halt) := by
  unfold Unfolds
  rw [h]
  exact ⟨rfl, rfl⟩

theorem cons (h : haltAt asked x = none) (h' : Unfolds (asked ++ [x]) later halt?) :
    Unfolds asked (x :: later) halt? := by
  unfold Unfolds
  rw [h]
  exact h'

theorem append (h : Unfolds asked later none) (h' : Unfolds (asked ++ later) later' halt?) :
    Unfolds asked (later ++ later') halt? := by
  induction later generalizing asked with
  | nil => rwa [List.append_nil] at h'
  | cons x later ih =>
    unfold Unfolds at h
    split at h
    · cases h.2
    · rename_i hgoes
      refine cons hgoes (ih h ?_)
      rwa [List.append_assoc, List.singleton_append]

/-- A question that breaks the round off is the last one. -/
theorem last {before after : List Inquiry} (h : Unfolds asked (before ++ x :: after) halt?)
    {halt : Halt} (hx : haltAt (asked ++ before) x = some halt) :
    after = [] ∧ halt? = some halt := by
  induction before generalizing asked with
  | nil =>
    rw [List.append_nil] at hx
    unfold Unfolds at h
    simp only [List.nil_append, hx] at h
    exact h
  | cons y before ih =>
    unfold Unfolds at h
    simp only [List.cons_append] at h
    split at h
    · exact absurd h.1 (List.append_ne_nil_of_right_ne_nil _ (List.cons_ne_nil _ _))
    · refine ih h ?_
      rwa [List.append_assoc, List.singleton_append]

end Unfolds

theorem askedAfter_append (pod : String) (asked later : List Inquiry) :
    askedAfter pod (asked ++ later) = (askedAfter pod asked || askedAfter pod later) :=
  List.any_append

/-! ## What a round asks -/

/-- What a round was broken off with, if it was. -/
def halt? {α : Type} : Except Halt α → Option Halt
  | .ok _ => none
  | .error halt => some halt

theorem halt?_findingOf (cfg : Config) (now : Instant) (p : Pod)
    (answer : Option (Sourced RunnerStatus)) :
    halt? (findingOf cfg now p answer) = haltOf false p.name answer := by
  rcases answer with _ | fault | status
  · rfl
  · unfold findingOf haltOf
    dsimp only
    cases fault.kind <;> rfl
  · rfl

theorem halt?_stillIdle (p : Pod) (answer : Option (Sourced RunnerStatus)) :
    halt? (stillIdle p answer) = haltOf true p.name answer := by
  rcases answer with _ | fault | status
  · rfl
  · unfold stillIdle haltOf
    dsimp only
    cases fault.kind <;> rfl
  · rfl

/-- A round of questions about the runners of pods, after others. -/
structure Round (cfg : Config) (identity : Identity) (pods : List Pod) (asked later : List Inquiry)
    (halt? : Option Halt) : Prop where
  unfolds : Unfolds asked later halt?
  calls : ∀ x ∈ later, ∃ p ∈ pods, x.call = RunnersCall.probe identity p.name cfg.probeTimeout

namespace Round

variable {cfg : Config} {identity : Identity} {p : Pod} {pods pods' : List Pod}
  {asked later later' : List Inquiry} {outcome : Option Halt}

theorem nil : Round cfg identity pods asked [] none := ⟨.nil, nofun⟩

theorem mono (h : Round cfg identity pods asked later outcome) (hsub : ∀ p ∈ pods, p ∈ pods') :
    Round cfg identity pods' asked later outcome := by
  refine ⟨h.unfolds, fun x hx => ?_⟩
  obtain ⟨p, hp, hcall⟩ := h.calls x hx
  exact ⟨p, hsub p hp, hcall⟩

theorem append (h : Round cfg identity pods asked later none)
    (h' : Round cfg identity pods (asked ++ later) later' outcome) :
    Round cfg identity pods asked (later ++ later') outcome := by
  refine ⟨h.unfolds.append h'.unfolds, fun x hx => ?_⟩
  exact (List.mem_append.mp hx).elim (h.calls x) (h'.calls x)

variable {answer : Option (Sourced RunnerStatus)}

/-- The question about one pod's runner, as part of a round. -/
def question (cfg : Config) (identity : Identity) (p : Pod)
    (answer : Option (Sourced RunnerStatus)) : Inquiry :=
  ⟨.probe identity p.name cfg.probeTimeout, answer⟩

theorem haltAt_question : haltAt asked (question cfg identity p answer) =
    haltOf (askedAfter p.name asked) p.name answer := rfl

theorem calls_question {x : Inquiry} (hx : x ∈ [question cfg identity p answer]) :
    ∃ q ∈ p :: pods, x.call = RunnersCall.probe identity q.name cfg.probeTimeout := by
  obtain rfl := List.mem_singleton.mp hx
  exact ⟨p, List.mem_cons_self, rfl⟩

theorem halted {halt : Halt} (h : haltOf (askedAfter p.name asked) p.name answer = some halt) :
    Round cfg identity (p :: pods) asked [question cfg identity p answer] (some halt) :=
  ⟨.halted (haltAt_question.trans h), fun _ hx => calls_question hx⟩

theorem cons (h : haltOf (askedAfter p.name asked) p.name answer = none)
    (h' : Round cfg identity pods (asked ++ [question cfg identity p answer]) later outcome) :
    Round cfg identity (p :: pods) asked (question cfg identity p answer :: later) outcome :=
  append ⟨.cons (haltAt_question.trans h) .nil, fun _ hx => calls_question hx⟩
    (h'.mono fun _ => List.mem_cons_of_mem p)

end Round

theorem askedAfter_question (cfg : Config) (identity : Identity) (p : Pod)
    (answer : Option (Sourced RunnerStatus)) (pod : String) (asked : List Inquiry) :
    askedAfter pod (asked ++ [Round.question cfg identity p answer]) =
      (askedAfter pod asked || p.name == pod) := by
  rw [askedAfter_append]
  simp [askedAfter, asksAfter, Round.question]

theorem traces_probe {α : Type} {cfg : Config} {identity : Identity} {p : Pod}
    {f : Option (Sourced RunnerStatus) → RunnersDialogue α} {P : List Inquiry → α → Prop}
    (h : ∀ answer, (f answer).Traces fun later a =>
      P (Round.question cfg identity p answer :: later) a) :
    ((probe cfg identity p).bind f).Traces P := h

/-- A survey asks after each pod for the first time, up to an answer that breaks
it off. -/
theorem traces_survey (cfg : Config) (identity : Identity) (now : Instant) {pods : List Pod}
    (hnames : (pods.map (·.name)).Nodup) {asked : List Inquiry}
    (hnew : ∀ p ∈ pods, askedAfter p.name asked = false) :
    (survey cfg identity now pods).Traces fun later outcome =>
      Round cfg identity pods asked later (halt? outcome) ∧
        (halt? outcome = none → ∀ p ∈ pods, askedAfter p.name (asked ++ later) = true) := by
  induction pods generalizing asked with
  | nil => exact ⟨.nil, fun _ => nofun⟩
  | cons p pods ih =>
    obtain ⟨hp, hnames⟩ := List.nodup_cons.mp hnames
    rw [survey]
    refine traces_probe fun answer => ?_
    have hanswer := halt?_findingOf cfg now p answer
    rw [← hnew p List.mem_cons_self] at hanswer
    cases hfinding : findingOf cfg now p answer with
    | error halt =>
      rw [hfinding] at hanswer
      exact ⟨.halted hanswer.symm, nofun⟩
    | ok finding =>
      rw [hfinding] at hanswer
      have hothers : ∀ q ∈ pods,
          askedAfter q.name (asked ++ [Round.question cfg identity p answer]) = false := by
        intro q hq
        have hne : p.name ≠ q.name := fun h => hp (List.mem_map.mpr ⟨q, hq, h.symm⟩)
        rw [askedAfter_question, hnew q (List.mem_cons_of_mem p hq), beq_eq_false_iff_ne.mpr hne]
        rfl
      refine (ih hnames hothers).bind_done fun later outcome ⟨hround, hasked⟩ => ?_
      rcases outcome with halt | found
      · exact ⟨.error halt, rfl, .cons hanswer.symm hround, nofun⟩
      · refine ⟨.ok ((p, finding) :: found), rfl, .cons hanswer.symm hround, fun _ => ?_⟩
        rw [List.append_cons]
        refine List.forall_mem_cons.mpr ⟨?_, hasked rfl⟩
        rw [askedAfter_append, askedAfter_question, beq_self_eq_true, Bool.or_true, Bool.true_or]

/-- A recheck asks after pods again, up to an answer that breaks it off. -/
theorem traces_recheck (cfg : Config) (identity : Identity) (quota : Nat) {pods : List Pod}
    {asked : List Inquiry} (hagain : ∀ p ∈ pods, askedAfter p.name asked = true) :
    (recheck cfg identity quota pods).Traces fun later outcome =>
      Round cfg identity pods asked later (halt? outcome) := by
  induction pods generalizing asked quota with
  | nil =>
    cases quota with
    | zero => exact .nil
    | succ quota => exact .nil
  | cons p pods ih =>
    cases quota with
    | zero => exact .nil
    | succ quota =>
      rw [recheck]
      refine traces_probe fun answer => ?_
      have hanswer := halt?_stillIdle p answer
      rw [← hagain p List.mem_cons_self] at hanswer
      have hothers : ∀ q ∈ pods,
          askedAfter q.name (asked ++ [Round.question cfg identity p answer]) = true := by
        intro q hq
        rw [askedAfter_append, hagain q (List.mem_cons_of_mem p hq), Bool.true_or]
      cases hidle : stillIdle p answer with
      | error halt =>
        rw [hidle] at hanswer
        exact .halted hanswer.symm
      | ok idle =>
        rw [hidle] at hanswer
        cases idle with
        | false => exact (ih (quota + 1) hothers).imp fun _ _ => .cons hanswer.symm
        | true =>
          refine (ih quota hothers).bind_done fun later outcome hround => ?_
          rcases outcome with halt | chosen
          · exact ⟨.error halt, rfl, .cons hanswer.symm hround⟩
          · exact ⟨.ok (p :: chosen), rfl, .cons hanswer.symm hround⟩

theorem mem_of_mem_having {finding : Finding} {found : List (Pod × Finding)} {p : Pod}
    (hp : p ∈ having finding found) : p ∈ found.map (·.1) := by
  obtain ⟨e, he, rfl⟩ := List.mem_map.mp hp
  exact List.mem_map_of_mem (List.mem_of_mem_filter he)

/-- A choice asks after each pod, and after some of them again, up to an answer that
breaks it off. -/
theorem traces_choose (cfg : Config) (identity : Identity) (now : Instant) (excess : Nat)
    {pods : List Pod} (hnames : (pods.map (·.name)).Nodup) :
    (choose cfg identity now excess pods).Traces fun asked outcome =>
      Round cfg identity pods [] asked (halt? outcome) := by
  have hnew : ∀ p ∈ pods, askedAfter p.name [] = false := fun _ _ => rfl
  unfold choose
  refine ((traces_survey cfg identity now hnames hnew).and (survey_ends cfg identity now pods)).bind
    fun earlier outcome ⟨⟨hround, hasked⟩, hfound⟩ => ?_
  rcases outcome with halt | found
  · have hend : Round cfg identity pods [] (earlier ++ []) (some halt) := by
      rwa [List.append_nil]
    exact hend
  · have hidle : ∀ p ∈ having .idle found, p ∈ pods := fun p hp =>
      hfound found rfl ▸ mem_of_mem_having hp
    refine (traces_recheck cfg identity _ fun p hp => hasked rfl p (hidle p hp)).bind_done
      fun later outcome hrest => ?_
    rcases outcome with halt | idle
    · exact ⟨.error halt, rfl, hround.append (hrest.mono hidle)⟩
    · exact ⟨_, rfl, hround.append (hrest.mono hidle)⟩

end PoolScaler.Reconcile
