import Mathlib.Data.List.Nodup
import PoolScaler.Proofs.Dialogue
import PoolScaler.Reconcile.Survey
set_option autoImplicit false

/-!
# Choosing by the answers

Surroundings of a pool's keeper in which every question about a runner has its
answer laid down.  By these answers a choice is a selection from the list of
pods: the first of the offline, the unregistered and the idle ones that are idle
again, in this order.
-/

namespace PoolScaler.Reconcile

open Dialogue (Runs)

/-- What is answered in one pass. -/
structure Answers where
  /-- What the first, the second and each later question about a pod's runner
  is answered. -/
  probe : String → Nat → Option (Sourced RunnerStatus)
  /-- What a request for a token is answered. -/
  token : Sourced RegistrationToken

/-- How often the runner of each pod has been asked after. -/
abbrev Asked : Type := String → Nat

/-- Nobody has been asked after. -/
def Asked.none : Asked := fun _ => 0

/-- One runner has been asked after once more. -/
def Asked.bump (asked : Asked) (pod : String) : Asked :=
  fun name => if name = pod then asked name + 1 else asked name

/-- Answers as surroundings. -/
def Answers.surroundings (a : Answers) : Surroundings RunnersCall.interface Asked :=
  fun asked call =>
    match call with
    | .probe _ pod _ => (a.probe pod (asked pod), asked.bump pod)
    | .registrationToken _ => (a.token, asked)

/-! ## What the answers tell -/

namespace Answers

variable (a : Answers) (cfg : Config) (now : Instant) (p : Pod)

/-- A pod's first probe is answered with a busy flag, with a runner that is not
connected or with one that is not registered. -/
def Plain : Prop :=
  match a.probe p.name 0 with
  | some (.ok _) => True
  | some (.error fault) => fault.kind = .offline ∨ fault.kind = .notFound
  | none => False

/-- A pod's runner is not connected. -/
def isOffline : Bool :=
  match a.probe p.name 0 with
  | some (.error fault) => fault.kind = .offline
  | _ => false

/-- A pod's runner has not registered, and the pod is older than it may be. -/
def isUnregistered : Bool :=
  match a.probe p.name 0 with
  | some (.error fault) =>
    fault.kind = .notFound ∧ cfg.registrationTimeout.seconds < now.toNat - p.createdAt.toNat
  | _ => false

/-- A pod's runner is idle when asked after for the `k`th time, from 0. -/
def isIdle (k : Nat) : Bool := a.probe p.name k = some (.ok ⟨false⟩)

/-- A pod's runner is busy when asked after for the `k`th time, from 0. -/
def isBusy (k : Nat) : Bool := a.probe p.name k = some (.ok ⟨true⟩)

/-- The pods that go, if `excess` of them must: those that are not connected,
those that have not registered in time, and those that are idle twice. -/
def selection (pods : List Pod) (excess : Nat) : List Pod :=
  (pods.filter a.isOffline ++ pods.filter (a.isUnregistered cfg now) ++
    (pods.filter (a.isIdle · 0)).filter (a.isIdle · 1)).take excess

/-- What the first probe of a pod tells. -/
def finding : Finding :=
  match findingOf cfg now p (a.probe p.name 0) with
  | .ok finding => finding
  | .error _ => .young

variable {a cfg now p}

theorem Plain.cases (h : a.Plain p) :
    (∃ busy, a.probe p.name 0 = some (.ok ⟨busy⟩)) ∨
      ∃ fault, a.probe p.name 0 = some (.error fault) ∧
        (fault.kind = .offline ∨ fault.kind = .notFound) := by
  unfold Plain at h
  split at h
  · rename_i status hprobe
    exact .inl ⟨status.busy, hprobe⟩
  · rename_i fault hprobe
    exact .inr ⟨fault, hprobe, h⟩
  · exact h.elim

theorem findingOf_probe (h : a.Plain p) :
    findingOf cfg now p (a.probe p.name 0) = .ok (a.finding cfg now p) := by
  unfold finding
  rcases h.cases with ⟨busy, hprobe⟩ | ⟨fault, hprobe, hkind | hkind⟩
  · rw [hprobe, findingOf]
  · simp only [hprobe, findingOf, hkind]
  · simp only [hprobe, findingOf, hkind]

theorem finding_eq_offline (h : a.Plain p) :
    (a.finding cfg now p == .offline) = a.isOffline p := by
  unfold finding isOffline
  rcases h.cases with ⟨busy, hprobe⟩ | ⟨fault, hprobe, hkind | hkind⟩
  · cases busy <;> simp [hprobe, findingOf]
  · simp [hprobe, findingOf, hkind]
  · cases hold : isOverdue cfg now p <;> simp [hprobe, findingOf, hkind, hold]

theorem finding_eq_unregistered (h : a.Plain p) :
    (a.finding cfg now p == .unregistered) = a.isUnregistered cfg now p := by
  unfold finding isUnregistered
  rcases h.cases with ⟨busy, hprobe⟩ | ⟨fault, hprobe, hkind | hkind⟩
  · cases busy <;> simp [hprobe, findingOf]
  · simp [hprobe, findingOf, hkind]
  · by_cases hold : cfg.registrationTimeout.seconds < now.toNat - p.createdAt.toNat
    · have hoverdue : isOverdue cfg now p = true := decide_eq_true hold
      simp only [hprobe, findingOf, hkind, hoverdue, hold, if_true, and_self, decide_true]
      rfl
    · have hoverdue : isOverdue cfg now p = false := decide_eq_false hold
      simp only [hprobe, findingOf, hkind, hoverdue, hold, and_false, decide_false]
      rfl

theorem finding_eq_idle (h : a.Plain p) :
    (a.finding cfg now p == .idle) = a.isIdle p 0 := by
  unfold finding isIdle
  rcases h.cases with ⟨busy, hprobe⟩ | ⟨fault, hprobe, hkind | hkind⟩
  · cases busy <;> simp [hprobe, findingOf]
  · simp [hprobe, findingOf, hkind]
  · cases hold : isOverdue cfg now p <;> simp [hprobe, findingOf, hkind, hold]

end Answers

/-! ## Asking -/

theorem runs_probe (a : Answers) (cfg : Config) (identity : Identity) (p : Pod) (asked : Asked) :
    Runs a.surroundings (probe cfg identity p) asked (a.probe p.name (asked p.name))
      [.probe identity p.name cfg.probeTimeout] (asked.bump p.name) :=
  .ask rfl (.done _)

theorem Asked.bump_of_ne {pod name : String} (h : name ≠ pod) (asked : Asked) :
    asked.bump pod name = asked name := if_neg h

theorem Asked.bump_self (pod : String) (asked : Asked) : asked.bump pod pod = asked pod + 1 :=
  if_pos rfl

theorem Asked.le_bump (asked : Asked) (pod name : String) : asked name ≤ asked.bump pod name := by
  unfold bump
  split <;> omega

/-- Asking never makes anybody asked after less. -/
theorem le_state {α : Type} (a : Answers) (d : RunnersDialogue α) (asked : Asked) (name : String) :
    asked name ≤ (d.run a.surroundings asked).state name := by
  induction d generalizing asked with
  | done _ => exact Nat.le_refl _
  | ask call next ih =>
    refine Nat.le_trans ?_ (ih _ _)
    cases call with
    | probe identity pod limit => exact asked.le_bump pod name
    | registrationToken identity => exact Nat.le_refl _

/-- A survey asks after every pod once, and finds what the first answers tell. -/
theorem runs_survey {a : Answers} (cfg : Config) (now : Instant) (identity : Identity)
    {pods : List Pod} (hnames : (pods.map (·.name)).Nodup) (hplain : ∀ p ∈ pods, a.Plain p)
    {asked : Asked} (hasked : ∀ p ∈ pods, asked p.name = 0) :
    Runs a.surroundings (survey cfg identity now pods) asked
      (.ok (pods.map fun p => (p, a.finding cfg now p)))
      (pods.map fun p => .probe identity p.name cfg.probeTimeout)
      (fun name => asked name + (pods.map (·.name)).count name) := by
  induction pods generalizing asked with
  | nil => exact .done _
  | cons p pods ih =>
    obtain ⟨hp, hnames⟩ := List.nodup_cons.mp hnames
    have hothers : ∀ q ∈ pods, asked.bump p.name q.name = 0 := by
      intro q hq
      have hne : q.name ≠ p.name := fun h => hp (List.mem_map.mpr ⟨q, hq, h⟩)
      rw [Asked.bump_of_ne hne]
      exact hasked q (List.mem_cons_of_mem p hq)
    have hrest := ih hnames (fun q hq => hplain q (List.mem_cons_of_mem p hq)) hothers
    have hprobe := runs_probe a cfg identity p asked
    rw [hasked p List.mem_cons_self] at hprobe
    have hcount : (fun name => asked.bump p.name name + (pods.map (·.name)).count name) =
        fun name => asked name + ((p :: pods).map (·.name)).count name := by
      funext name
      rw [List.map_cons, List.count_cons]
      unfold Asked.bump
      by_cases hname : name = p.name
      · rw [if_pos hname, if_pos (beq_iff_eq.mpr hname.symm)]
        omega
      · rw [if_neg hname, if_neg fun h => hname (beq_iff_eq.mp h).symm]
        omega
    rw [hcount] at hrest
    rw [survey]
    refine hprobe.bind ?_
    simp only [Answers.findingOf_probe (hplain p List.mem_cons_self)]
    exact hrest.bind_done rfl

/-- Asking again takes the first pods that are idle again, if every pod that is
asked after once more has a busy flag. -/
theorem recheck_run {a : Answers} (cfg : Config) (identity : Identity) {pods : List Pod}
    (hnames : (pods.map (·.name)).Nodup) {asked : Asked} (hasked : ∀ p ∈ pods, asked p.name = 1)
    (quota : Nat)
    (hflag : ∀ p ∈ pods,
      2 ≤ ((recheck cfg identity quota pods).run a.surroundings asked).state p.name →
      ∃ status, a.probe p.name 1 = some (.ok status)) :
    ((recheck cfg identity quota pods).run a.surroundings asked).result =
      .ok ((pods.filter (a.isIdle · 1)).take quota) := by
  induction pods generalizing asked quota with
  | nil =>
    cases quota with
    | zero => rfl
    | succ quota => rfl
  | cons p pods ih =>
    cases quota with
    | zero => rfl
    | succ quota =>
      obtain ⟨hp, hnames⟩ := List.nodup_cons.mp hnames
      have hprobe := runs_probe a cfg identity p asked
      rw [hasked p List.mem_cons_self] at hprobe
      have hothers : ∀ q ∈ pods, asked.bump p.name q.name = 1 := by
        intro q hq
        have hne : q.name ≠ p.name := fun h => hp (List.mem_map.mpr ⟨q, hq, h⟩)
        rw [Asked.bump_of_ne hne]
        exact hasked q (List.mem_cons_of_mem p hq)
      rw [recheck, Dialogue.run_bind] at hflag ⊢
      simp only [hprobe.result, hprobe.state] at hflag ⊢
      -- the pod was asked after again, so its answer is a flag
      obtain ⟨⟨busy⟩, hstatus⟩ := hflag p List.mem_cons_self (by
        refine Nat.le_trans (Nat.le_of_eq ?_) (le_state a _ _ _)
        rw [Asked.bump_self, hasked p List.mem_cons_self])
      have hidle : a.isIdle p 1 = !busy := by
        cases busy <;> simp [Answers.isIdle, hstatus]
      rw [List.filter_cons, hidle]
      cases busy with
      | true =>
        simp only [hstatus, stillIdle, Bool.not_true] at hflag ⊢
        exact ih hnames hothers (quota + 1) fun q hq => hflag q (List.mem_cons_of_mem p hq)
      | false =>
        simp only [hstatus, stillIdle, Bool.not_false] at hflag ⊢
        rw [Dialogue.run_state_of_done _ _ _ (by
          rintro (halt | chosen)
          · exact ⟨_, rfl⟩
          · exact ⟨_, rfl⟩)] at hflag
        have hrest := ih hnames hothers quota fun q hq => hflag q (List.mem_cons_of_mem p hq)
        rw [Dialogue.run_bind]
        dsimp only
        rw [hrest]
        rfl

theorem having_map {pods : List Pod} {finding : Pod → Finding} {kind : Finding} {keep : Pod → Bool}
    (h : ∀ p ∈ pods, (finding p == kind) = keep p) :
    having kind (pods.map fun p => (p, finding p)) = pods.filter keep := by
  unfold having
  rw [List.filter_map, List.map_map]
  exact (List.map_id _).trans (List.filter_congr h)

/-- What a full list leaves of a quota is taken from another one. -/
theorem take_append_rest {α : Type} (first rest : List α) (quota : Nat) :
    first.take quota ++ rest.take (quota - (first.take quota).length) =
      (first ++ rest).take quota := by
  have hleft : quota - min quota first.length = quota - first.length := by omega
  rw [List.take_append, List.length_take, hleft]

/-- By the answers a choice is a selection. -/
theorem choose_run {a : Answers} (cfg : Config) (identity : Identity) (now : Instant)
    {pods : List Pod} (hnames : (pods.map (·.name)).Nodup) (hplain : ∀ p ∈ pods, a.Plain p)
    (excess : Nat)
    (hflag : ∀ p ∈ pods,
      2 ≤ ((choose cfg identity now excess pods).run a.surroundings Asked.none).state p.name →
      ∃ status, a.probe p.name 1 = some (.ok status)) :
    ((choose cfg identity now excess pods).run a.surroundings Asked.none).result =
      .ok (a.selection cfg now pods excess) := by
  have hnone : ∀ p ∈ pods, Asked.none p.name = 0 := fun _ _ => rfl
  have hsurvey := runs_survey cfg now identity hnames hplain hnone
  unfold choose at hflag ⊢
  rw [Dialogue.run_bind] at hflag ⊢
  simp only [hsurvey.result, hsurvey.state] at hflag ⊢
  rw [Dialogue.run_state_of_done _ _ _ (by
    rintro (halt | idle)
    · exact ⟨_, rfl⟩
    · exact ⟨_, rfl⟩)] at hflag
  have hoffline : having .offline (pods.map fun p => (p, a.finding cfg now p)) =
      pods.filter a.isOffline :=
    having_map fun p hp => Answers.finding_eq_offline (hplain p hp)
  have hunregistered : having .unregistered (pods.map fun p => (p, a.finding cfg now p)) =
      pods.filter (a.isUnregistered cfg now) :=
    having_map fun p hp => Answers.finding_eq_unregistered (hplain p hp)
  have hidle : having .idle (pods.map fun p => (p, a.finding cfg now p)) =
      pods.filter (a.isIdle · 0) :=
    having_map fun p hp => Answers.finding_eq_idle (hplain p hp)
  have honce : ∀ p ∈ pods.filter (a.isIdle · 0),
      Asked.none p.name + (pods.map (·.name)).count p.name = 1 := by
    intro p hp
    have hmem := List.mem_map_of_mem (f := fun p : Pod => p.name) (List.mem_filter.mp hp).1
    rw [List.count_eq_one_of_mem hnames hmem]
    rfl
  have hsublist : ((pods.filter (a.isIdle · 0)).map (·.name)).Nodup :=
    hnames.sublist (List.filter_sublist.map _)
  rw [hidle] at hflag ⊢
  have hrecheck := recheck_run cfg identity hsublist honce _ fun p hp =>
    hflag p (List.mem_filter.mp hp).1
  rw [Dialogue.run_bind]
  dsimp only
  rw [hrecheck]
  simp only [Dialogue.run_done, surelyIdle, hoffline, hunregistered, Answers.selection]
  rw [take_append_rest]

end PoolScaler.Reconcile
