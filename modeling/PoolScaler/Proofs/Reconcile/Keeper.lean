import PoolScaler.Proofs.Reconcile.Hysteresis
import PoolScaler.Proofs.Reconcile.Timeline
import PoolScaler.Simulation.Keeper
set_option autoImplicit false

/-!
# A keeper's life is a course

What a keeper on a scripted clock does and writes down, with the store and the demand it works
on and the replies it gets, is one of the courses that its timer allows: each thing it does is
a step, and it lets time go on only as long as nothing ends its wait.
-/

namespace PoolScaler.Simulation.Keeper

open Reconcile (Begins Course Endless Entry Fault Idle Move Opening PassesFollow Possible Stage
  Timely Timer Wake Watch)

/-- Opening a pass looks at demand, which is no news. -/
theorem signal_openPass (pool : String) (now : Instant) (s : Stage) :
    (Reconcile.openPass pool now s).2.tracker.signal = s.tracker.signal := by
  unfold Reconcile.openPass
  split
  · rfl
  · rfl
  · dsimp only
    split <;> rfl

/-! ## What a keeper does -/

/-- A keeper has gone on with a pass: it is still in it or has ended it and written that
down. -/
structure Pursues (k k' : Keeper) : Prop where
  clock_eq : k'.clock = k.clock
  interval_eq : k'.interval = k.interval
  stop_eq : k'.stopSignal = k.stopSignal
  signal_eq : k'.stage.tracker.signal = k.stage.tracker.signal
  goes_on : k'.activity.doing = .passing ∧ k'.journal = k.journal ∨
    ∃ outcome, k'.activity.doing = .waiting (.after k.interval k.clock outcome) ∧
      k'.journal = ⟨k.clock, .ends outcome⟩ :: k.journal

theorem pursues_proceed (k : Keeper) (o : Opening)
    (d : RunnersDialogue (Except Fault Move)) : Pursues k (k.proceed o d) := by
  induction d generalizing k with
  | done move =>
    have htracker := Reconcile.conclude_tracker k.config k.pool today o move k.stage
    exact ⟨rfl, rfl, rfl, congrArg (·.signal) htracker, .inr ⟨_, rfl, rfl⟩⟩
  | ask call next ih =>
    unfold proceed
    dsimp only
    split
    · obtain ⟨hclock, hinterval, hstop, hsignal, hdoing⟩ := ih
        (k.register.answer id call).1.1
        { k with
          register := (k.register.answer id call).2
          asked := (k.clock, call) :: k.asked }
      exact ⟨hclock, hinterval, hstop, hsignal, hdoing⟩
    · exact ⟨rfl, rfl, rfl, rfl, .inl ⟨rfl, rfl⟩⟩

theorem pursues_begin (k : Keeper) : Pursues k k.begin := by
  have hsignal := signal_openPass k.pool today k.stage
  unfold begin
  split
  · rename_i fault stage hopen
    rw [hopen] at hsignal
    exact ⟨rfl, rfl, rfl, hsignal, .inr ⟨.error fault, rfl, rfl⟩⟩
  · rename_i o stage hopen
    rw [hopen] at hsignal
    obtain ⟨hclock, hinterval, hstop, hsame, hdoing⟩ :=
      pursues_proceed { k with stage := stage } o (Reconcile.consider k.config o today)
    exact ⟨hclock, hinterval, hstop, hsame.trans hsignal, hdoing⟩

/-- At one moment a keeper has done this, and written it down. -/
structure Does (k : Keeper) (deeds : List Entry) (k' : Keeper) : Prop where
  goes : k.watch.Goes k.interval deeds k'.watch
  journal_eq : k'.journal = deeds.reverse ++ k.journal
  own : ∀ e ∈ deeds, e.isInput = false
  interval_eq : k'.interval = k.interval
  clock_eq : k'.clock = k.clock

theorem since_eq {k k' : Keeper} {deeds : List Entry}
    (hjournal : k'.journal = deeds.reverse ++ k.journal) : k.since k' = deeds := by
  unfold since
  rw [hjournal, List.length_append, Nat.add_sub_cancel, List.take_left', List.reverse_reverse]
  rfl

theorem Does.since_eq {k k' : Keeper} {deeds : List Entry} (h : Does k deeds k') :
    k.since k' = deeds := Keeper.since_eq h.journal_eq

/-- Going on with a pass is in the course of a keeper that is in one. -/
theorem Pursues.goes {k k' : Keeper} (h : Pursues k k') :
    ∃ deeds, ({ k.watch with doing := .passing } : Watch).Goes k.interval deeds k'.watch ∧
      k'.journal = deeds.reverse ++ k.journal ∧ ∀ e ∈ deeds, e.isInput = false := by
  obtain ⟨hclock, -, hstop, hsignal, hgoes⟩ := h
  have hwatch : k'.watch = { k.watch with doing := k'.activity.doing } := by
    simp [watch, hclock, hstop, hsignal]
  rw [hwatch]
  rcases hgoes with ⟨hpassing, hjournal⟩ | ⟨outcome, hwaiting, hjournal⟩
  · rw [hpassing]
    exact ⟨[], .waits (.refl _), hjournal, nofun⟩
  · rw [hwaiting]
    exact ⟨[⟨k.clock, .ends outcome⟩], .happens (.refl _) (.ends outcome rfl) (.waits (.refl _)),
      hjournal, List.forall_mem_singleton.mpr rfl⟩

/-- So is beginning one, once the wait has ended. -/
theorem does_begin {k k₁ k' : Keeper} {timer : Timer} {why : Wake} (hpursues : Pursues k₁ k')
    (hactivity : k.activity = .waiting timer)
    (hready : timer.Ready k.clock k.stage.tracker.signal k.stopSignal why)
    (hnoted : k₁.journal = ⟨k.clock, .wakes why⟩ :: k.journal)
    (hwoken : k.watch.woken why = { k₁.watch with doing := .passing })
    (hinterval : k₁.interval = k.interval) (hclock : k₁.clock = k.clock) :
    ∃ more, Does k (⟨k.clock, .wakes why⟩ :: more) k' := by
  obtain ⟨more, hgoes, hjournal, hown⟩ := hpursues.goes
  rw [← hwoken, hinterval] at hgoes
  have hdoing : k.watch.doing = .waiting timer := congrArg Activity.doing hactivity
  refine ⟨more, .happens (.refl _) (.wakes hdoing hready) hgoes, ?_,
    List.forall_mem_cons.mpr ⟨rfl, hown⟩, hpursues.interval_eq.trans hinterval,
    hpursues.clock_eq.trans hclock⟩
  rw [hjournal, hnoted, List.reverse_cons, List.append_assoc]
  rfl

/-- When its wait ends a keeper does something, and that is the first it writes down. -/
theorem does_wake {k : Keeper} {timer : Timer} {why : Wake}
    (hactivity : k.activity = .waiting timer)
    (hwake : timer.wake? k.clock k.stage.tracker.signal k.stopSignal = some why) :
    ∃ k' more, k.step? = some k' ∧ Does k (⟨k.clock, .wakes why⟩ :: more) k' := by
  have hready := Timer.ready_of_wake? hwake
  unfold step?
  rw [hactivity]
  dsimp only
  rw [hwake]
  cases why with
  | stop =>
    have hdoing : k.watch.doing = .waiting timer := congrArg Activity.doing hactivity
    exact ⟨_, [], rfl, .happens (.refl _) (.wakes hdoing hready) (.waits (.refl _)), rfl,
      List.forall_mem_singleton.mpr rfl, rfl, rfl⟩
  | due =>
    obtain ⟨more, hdoes⟩ := does_begin (pursues_begin (k.note (.wakes .due))) hactivity hready rfl
      rfl rfl rfl
    exact ⟨_, more, rfl, hdoes⟩
  | news =>
    obtain ⟨more, hdoes⟩ := does_begin
      (pursues_begin { k.note (.wakes .news) with
        stage := { k.stage with tracker := k.stage.tracker.takeSignal.2 } })
      hactivity hready rfl rfl rfl rfl
    exact ⟨_, more, rfl, hdoes⟩

/-- What a keeper does when it goes on is in its course, and it writes down all of it. -/
theorem does_step {k k' : Keeper} (h : k.step? = some k') : ∃ deeds, Does k deeds k' := by
  cases hactivity : k.activity with
  | stopped => simp [step?, hactivity] at h
  | waiting timer =>
    cases hwake : timer.wake? k.clock k.stage.tracker.signal k.stopSignal with
    | none => simp [step?, hactivity, hwake] at h
    | some why =>
      obtain ⟨k'', more, hstep, hdoes⟩ := does_wake hactivity hwake
      obtain rfl := Option.some.inj (h.symm.trans hstep)
      exact ⟨_, hdoes⟩
  | asking o due rest =>
    unfold step? at h
    rw [hactivity] at h
    dsimp only at h
    split at h
    · obtain rfl := Option.some.inj h
      have hpursues := pursues_proceed k o rest
      obtain ⟨deeds, hgoes, hjournal, hown⟩ := hpursues.goes
      have hsame : { k.watch with doing := .passing } = k.watch := by
        simp [watch, hactivity, Activity.doing]
      rw [hsame] at hgoes
      exact ⟨deeds, hgoes, hjournal, hown, hpursues.interval_eq, hpursues.clock_eq⟩
    · cases h

/-! ## What comes from outside -/

theorem signal_reserveAll (t : Demand.Tracker) (x : Instant) (ids : List RequestId) :
    (t.reserveAll x ids).2.signal = t.signal := by
  induction ids generalizing t with
  | nil => rfl
  | cons id ids ih =>
    change ((t.reserveOne x id).2.reserveAll x ids).2.signal = t.signal
    rw [ih]
    unfold Demand.Tracker.reserveOne
    split <;> rfl

/-- News leaves a signal, and nothing else does. -/
theorem signal_apply (t : Demand.Tracker) (e : Demand.Event) :
    (t.apply e).signal = (t.signal || notifies t e) := by
  cases e with
  | reserve ids now =>
    have hkept := signal_reserveAll t (now + t.ttl) ids
    simp [Demand.Tracker.apply, Demand.Tracker.reserve, notifies, hkept]
  | assign id =>
    unfold Demand.Tracker.apply notifies Demand.Tracker.assign
    dsimp only
    split <;> simp
  | complete id =>
    unfold Demand.Tracker.apply notifies Demand.Tracker.complete
    dsimp only
    split <;> simp

/-! ## When there is nothing to do -/

/-- There is nothing for a keeper to do now: it has stopped, the reply that it waits for has
not come yet, or its wait goes on. -/
def AtRest (k : Keeper) : Prop :=
  match k.activity with
  | .stopped => True
  | .asking _ due _ => k.clock < due
  | .waiting timer => k.stopSignal = false ∧ k.clock < timer.due ∧
    (k.stage.tracker.signal = true → timer.backingOff = true)

theorem step?_waiting {k : Keeper} {timer : Timer} (hactivity : k.activity = .waiting timer) :
    k.step? = none ↔ timer.wake? k.clock k.stage.tracker.signal k.stopSignal = none := by
  unfold step?
  rw [hactivity]
  dsimp only
  split
  · rename_i hwake
    simp [hwake]
  · rename_i hwake
    simp [hwake]
  · rename_i hwake
    simp [hwake]
  · rename_i hwake
    simp [hwake]

theorem step?_asking {k : Keeper} {o : Opening} {due : Nat}
    {rest : RunnersDialogue (Except Fault Move)} (hactivity : k.activity = .asking o due rest) :
    k.step? = none ↔ k.clock < due := by
  unfold step?
  rw [hactivity]
  dsimp only
  split
  · simp
    omega
  · simp
    omega

/-- A keeper steps unless there is nothing for it to do. -/
theorem step?_eq_none_iff (k : Keeper) : k.step? = none ↔ k.AtRest := by
  unfold AtRest
  cases hactivity : k.activity with
  | stopped => simp [step?, hactivity]
  | asking o due rest => exact step?_asking hactivity
  | waiting timer => exact (step?_waiting hactivity).trans Timer.wake?_eq_none_iff

/-- A keeper with nothing to do lets time go on until it has. -/
theorem lets_of_rest {k : Keeper} {time : Nat} (hrest : k.step? = none) (hle : k.clock ≤ time)
    (hdue : ∀ due, k.due? = some due → time ≤ due) : k.watch.Lets time := by
  cases hactivity : k.activity with
  | waiting timer =>
    have hdoing : k.watch.doing = .waiting timer := congrArg Activity.doing hactivity
    have htime : time ≤ timer.due := hdue timer.due (by simp [due?, hactivity])
    have hquiet := (step?_waiting hactivity).mp hrest
    obtain ⟨hstop, -, hnews⟩ := Timer.wake?_eq_none_iff.mp hquiet
    rw [Watch.lets_iff hdoing]
    rcases Nat.eq_or_lt_of_le hle with heq | hlt
    · exact .inl heq
    · exact .inr ⟨hlt, hstop, htime, hnews⟩
  | asking o due rest => exact .of_le hle (by simp [watch, Activity.doing, hactivity])
  | stopped => exact .of_le hle (by simp [watch, Activity.doing, hactivity])

/-! ## Lives -/

section

variable {config : Reconcile.Config} {pool : String} {interval : Span} {stage : Stage}
  {register : RunnersScript} {log : List Entry} {k : Keeper}

/-- What becomes of a keeper is in its course, and of all that happens it writes down what it
does itself. -/
theorem Lives.course (h : Lives (start config pool interval stage register) log k) :
    k.interval = interval ∧ Course interval log k.watch ∧
      (log.filter fun e => !e.isInput) = k.journal.reverse := by
  induction h with
  | init =>
    refine ⟨rfl, ?_⟩
    change Course interval (if stage.tracker.signal then [⟨0, .notified⟩] else [])
        ⟨0, .waiting (.start 0), stage.tracker.signal, false⟩ ∧
      ((if stage.tracker.signal then [(⟨0, .notified⟩ : Entry)] else []).filter
          fun e => !e.isInput) = []
    cases stage.tracker.signal with
    | false => exact ⟨.waits (.refl _), rfl⟩
    | true => exact ⟨.happens (.refl _) .notified (.waits (.refl _)), rfl⟩
  | @works log k k' _ hstep ih =>
    obtain ⟨rfl, hcourse, hjournal⟩ := ih
    obtain ⟨deeds, hdoes⟩ := does_step hstep
    refine ⟨hdoes.interval_eq, ?_, ?_⟩
    · rw [hdoes.since_eq]
      exact Watch.goes_append.mpr ⟨_, hcourse, hdoes.goes⟩
    · have hall : (deeds.filter fun e => !e.isInput) = deeds :=
        List.filter_eq_self.mpr fun e he => by rw [hdoes.own e he]; rfl
      rw [hdoes.since_eq, List.filter_append, hjournal, hall, hdoes.journal_eq,
        List.reverse_append, List.reverse_reverse]
  | waits _ hrest hle hdue ih =>
    obtain ⟨hinterval, hcourse, hjournal⟩ := ih
    exact ⟨hinterval, Watch.Goes.wait hcourse (lets_of_rest hrest hle hdue), hjournal⟩
  | @told log k _ e ih =>
    obtain ⟨hinterval, hcourse, hjournal⟩ := ih
    refine ⟨hinterval, ?_⟩
    have hsignal := signal_apply k.stage.tracker e
    unfold watch
    dsimp only
    rw [hsignal]
    cases notifies k.stage.tracker e with
    | false =>
      rw [Bool.or_false, if_neg Bool.false_ne_true, List.append_nil]
      exact ⟨hcourse, hjournal⟩
    | true =>
      rw [Bool.or_true, if_pos rfl]
      refine ⟨Watch.Goes.concat hcourse rfl .notified, ?_⟩
      rw [List.filter_append, hjournal]
      exact List.append_nil _
  | signalled _ ih =>
    obtain ⟨hinterval, hcourse, hjournal⟩ := ih
    refine ⟨hinterval, Watch.Goes.concat hcourse rfl .signalled, ?_⟩
    rw [List.filter_append, hjournal]
    exact List.append_nil _
  | shelved _ store ih => exact ih

/-- This can have happened to a keeper so far. -/
def Lived (k₀ : Keeper) (log : List Entry) : Prop := ∃ more k, Lives k₀ (log ++ more) k

theorem Lived.possible (h : Lived (start config pool interval stage register) log) :
    Possible interval log := by
  obtain ⟨more, k, hlives⟩ := h
  obtain ⟨-, hcourse, -⟩ := hlives.course
  obtain ⟨w, hfirst, -⟩ := Watch.goes_append.mp hcourse
  exact ⟨w, hfirst⟩

/-- A keeper whose wait ends begins a pass or stops. -/
theorem Lives.wakes {k₀ : Keeper} (h : Lives k₀ log k) {timer : Timer} {why : Wake}
    (hactivity : k.activity = .waiting timer)
    (hwake : timer.wake? k.clock k.stage.tracker.signal k.stopSignal = some why) :
    Lived k₀ (log ++ [⟨k.clock, .wakes why⟩]) := by
  obtain ⟨k', more, hstep, hdoes⟩ := does_wake hactivity hwake
  have hlives := h.works hstep
  rw [hdoes.since_eq, List.append_cons] at hlives
  exact ⟨more, k', hlives⟩

/-- A keeper that waits and has nothing to do lets time go on until its time is over. -/
theorem Lives.wait_until {k₀ : Keeper} (h : Lives k₀ log k) {timer : Timer}
    (hactivity : k.activity = .waiting timer) (hrest : k.step? = none) {time : Nat}
    (hle : k.clock ≤ time) (hdue : time ≤ timer.due) : Lives k₀ log { k with clock := time } :=
  h.waits hrest hle fun due hsome => by
    simp only [due?, hactivity, Option.some.injEq] at hsome
    exact hsome ▸ hdue

/-- A keeper that has not been told to stop begins a pass when its wait should end. -/
theorem Lives.begins_at {k₀ : Keeper} (h : Lives k₀ log k) (hstop : k.stopSignal = false)
    {timer : Timer} {w : Watch} {idle : List Entry} (hrests : Watch.Rests timer w idle k.watch) :
    ∃ why, why ≠ .stop ∧ Lived k₀
      (log ++ [⟨timer.nextWake (Reconcile.firstNews w.news w.now idle), .wakes why⟩]) := by
  have hactivity : k.activity = .waiting timer := by
    have hdoing : k.activity.doing = .waiting timer := hrests.doing_eq
    unfold Activity.doing at hdoing
    split at hdoing
    · rename_i hactivity
      rw [hactivity, Reconcile.Doing.waiting.inj hdoing]
    · cases hdoing
    · cases hdoing
  cases hwake : timer.wake? k.clock k.stage.tracker.signal k.stopSignal with
  | some why =>
    have hready := Timer.ready_of_wake? hwake
    have hwhy : why ≠ .stop := by
      rintro rfl
      exact Bool.false_ne_true (hstop.symm.trans hready.of_stop)
    have hnow : k.clock = _ := hrests.wakes hready hwhy
    rw [← hnow]
    exact ⟨why, hwhy, h.wakes hactivity hwake⟩
  | none =>
    -- there is no news that is heeded, so the wait goes on until its time is over
    obtain ⟨-, hearly, hdeaf⟩ := Timer.wake?_eq_none_iff.mp hwake
    have hend : timer.nextWake (Reconcile.firstNews w.news w.now idle) = timer.due := by
      have hnews : k.stage.tracker.signal = _ := hrests.news_eq
      unfold Timer.nextWake
      cases hbacking : timer.backingOff with
      | true => rfl
      | false =>
        rw [hbacking] at hdeaf
        have hquiet : k.stage.tracker.signal = false := by simpa using hdeaf
        rw [hquiet] at hnews
        rw [Option.isSome_eq_false_iff.mp hnews.symm |> Option.isNone_iff_eq_none.mp]
        rfl
    have hlater := h.wait_until hactivity ((step?_waiting hactivity).mpr hwake)
      (Nat.le_of_lt hearly) (Nat.le_refl _)
    have hwake' : timer.wake? timer.due k.stage.tracker.signal k.stopSignal = some .due := by
      rw [hstop]
      simp [Timer.wake?]
    rw [hend]
    exact ⟨.due, nofun, hlater.wakes hactivity hwake'⟩

/-- So its next pass begins when it is time for it. -/
theorem Lives.begins (h : Lives (start config pool interval stage register) log k)
    (hstop : k.stopSignal = false) :
    Begins interval (Lived (start config pool interval stage register)) log := by
  obtain ⟨-, hcourse, -⟩ := h.course
  constructor
  · intro hidle
    have hrests : Watch.Rests (.start 0) .start log k.watch :=
      Watch.Goes.rests hcourse hidle rfl (Nat.le_refl 0)
    have hzero := Timer.nextWake_le (.start 0)
      (Reconcile.firstNews Watch.start.news Watch.start.now log)
    have hbegins := h.begins_at hstop hrests
    rw [Nat.le_zero.mp hzero] at hbegins
    exact hbegins
  · intro earlier ended outcome idle hlog hidle
    rw [hlog] at hcourse
    obtain ⟨w, hended, hnews, hrests⟩ := hcourse.rests hidle
    rw [Reconcile.nextStart_eq, ← hended, ← hnews]
    rw [← hended] at hrests
    exact h.begins_at hstop hrests

end

/-! ## Advancing -/

/-- A keeper that has nothing to do at a time has nothing to do before it either. -/
theorem rest_of_later {k : Keeper} {time : Nat} (hle : k.clock ≤ time)
    (hrest : ({ k with clock := time } : Keeper).step? = none) :
    k.step? = none ∧ ∀ due, k.due? = some due → time < due := by
  cases hactivity : k.activity with
  | waiting timer =>
    have hthen : ({ k with clock := time } : Keeper).activity = .waiting timer := hactivity
    have hlater := (step?_waiting hthen).mp hrest
    obtain ⟨hstop, hdue, hnews⟩ := Timer.wake?_eq_none_iff.mp hlater
    rw [step?_waiting hactivity, Timer.wake?_eq_none_iff]
    simp only [due?, hactivity, Option.some.injEq, forall_eq']
    exact ⟨⟨hstop, Nat.lt_of_le_of_lt hle hdue, hnews⟩, hdue⟩
  | asking o due rest =>
    have hthen : ({ k with clock := time } : Keeper).activity = .asking o due rest := hactivity
    have hlater := (step?_asking hthen).mp hrest
    rw [step?_asking hactivity]
    simp only [due?, hactivity, Option.some.injEq, forall_eq']
    exact ⟨Nat.lt_of_le_of_lt hle hlater, hlater⟩
  | stopped => simp [step?, due?, hactivity]

/-- Where only time goes by nothing is written down. -/
theorem Lives.unchanged {k₀ k : Keeper} {log : List Entry} (h : Lives k₀ log k) :
    ∃ more, (∀ e ∈ more, e.isInput = false) ∧ Lives k₀ (log ++ more) k :=
  ⟨[], nofun, by rwa [List.append_nil]⟩

/-- Advancing a keeper until it has nothing to do is part of its life. -/
theorem Lives.advance {k₀ k : Keeper} {log : List Entry} (h : Lives k₀ log k) {time : Nat}
    (hle : k.clock ≤ time) {events : Nat} (hrest : (k.advance time events).step? = none) :
    ∃ more, (∀ e ∈ more, e.isInput = false) ∧ Lives k₀ (log ++ more) (k.advance time events) := by
  induction events generalizing k log with
  | zero =>
    have hmax : Nat.max k.clock time = time := Nat.max_eq_right hle
    unfold Keeper.advance at hrest ⊢
    rw [hmax] at hrest ⊢
    obtain ⟨hidle, hdue⟩ := rest_of_later hle hrest
    exact (h.waits hidle hle fun due hd => Nat.le_of_lt (hdue due hd)).unchanged
  | succ events ih =>
    unfold Keeper.advance at hrest ⊢
    cases hstep : k.step? with
    | some k' =>
      simp only [hstep] at hrest ⊢
      obtain ⟨deeds, hdoes⟩ := does_step hstep
      have hlives := h.works hstep
      rw [hdoes.since_eq] at hlives
      have hclock : k'.clock ≤ time := by
        rw [hdoes.clock_eq]
        exact hle
      obtain ⟨more, hown, hlives'⟩ := ih hlives hclock hrest
      rw [List.append_assoc] at hlives'
      exact ⟨deeds ++ more, List.forall_mem_append.mpr ⟨hdoes.own, hown⟩, hlives'⟩
    | none =>
      simp only [hstep] at hrest ⊢
      have hmax : Nat.max k.clock time = time := Nat.max_eq_right hle
      cases hdue : k.due? with
      | none =>
        simp only [hmax]
        exact (h.waits hstep hle (by simp [hdue])).unchanged
      | some due =>
        have hlt : k.clock < due := (rest_of_later (Nat.le_refl _) hstep).2 due hdue
        have hmax' : Nat.max k.clock due = due := Nat.max_eq_right (Nat.le_of_lt hlt)
        simp only [hdue, hmax, hmax'] at hrest ⊢
        split at hrest
        · rename_i hsoon
          rw [if_pos hsoon]
          refine ih (h.waits hstep (Nat.le_of_lt hlt) ?_) hsoon hrest
          simp [hdue]
        · rename_i hlate
          rw [if_neg hlate]
          refine (h.waits hstep hle ?_).unchanged
          simp only [hdue, Option.some.injEq, forall_eq']
          omega

/-! ## When passes begin -/

/-- A keeper keeps time, whatever its passes come to, however long they take, and whenever
demand changes and the signal to stop comes.

* Whatever has happened to a keeper, it has been timely: the first pass begins at once, and
  after a pass the next begins when the back-off is over, or at the first news of demand or the
  end of the pause, whichever is earlier.  It begins neither sooner nor later.  A change of
  demand stays noted until it has ended a wait, a single pass comes of any number of them, and
  no pass begins once the keeper has stopped.  Unless it has been told to stop, a pass can begin
  when it is time for it.
* Whatever happens, a pass begins after it as long as time goes on and passes end, unless
  the keeper stops.
* All this holds of a keeper on a scripted clock, of what it has written down and what has come
  from outside.  It steps whenever there is something for it to do, and to advance it is to go
  on with its life. -/
theorem passes_keep_time (interval : Span) :
    (∀ log w, Course interval log w →
      Timely interval log w ∧ (w.stop = false → Begins interval (Possible interval) log)) ∧
    (∀ events, Endless (Possible interval) events → PassesFollow events) ∧
    ∀ (config : Reconcile.Config) (pool : String) (stage : Stage) (register : RunnersScript),
      (∀ log k, Lives (start config pool interval stage register) log k →
        Course interval log k.watch ∧ Timely interval log k.watch ∧
        (log.filter fun e => !e.isInput) = k.journal.reverse ∧
        (k.step? = none ↔ k.AtRest) ∧
        (k.stopSignal = false →
          Begins interval (Lived (start config pool interval stage register)) log) ∧
        ∀ time events, k.clock ≤ time → (k.advance time events).step? = none →
          ∃ more, (∀ e ∈ more, e.isInput = false) ∧
            Lives (start config pool interval stage register) (log ++ more)
              (k.advance time events)) ∧
      ∀ events, Endless (Lived (start config pool interval stage register)) events →
        PassesFollow events := by
  refine ⟨fun log w h => ⟨h.timely, h.begins⟩, fun events h => h.passes_follow, ?_⟩
  intro config pool stage register
  refine ⟨fun log k h => ?_, fun events h => ?_⟩
  · obtain ⟨-, hcourse, hjournal⟩ := h.course
    exact ⟨hcourse, hcourse.timely, hjournal, k.step?_eq_none_iff, h.begins,
      fun _ _ hle hrest => h.advance hle hrest⟩
  · have hpossible : Endless (Possible interval) events := h.mono fun log => Lived.possible
    exact hpossible.passes_follow

/-! ## Keepers at work -/

/-- One minute. -/
def minute : Span := ⟨60000⟩

/-- A keeper whose register asks at first to be left alone. -/
def busyKeeper : Keeper :=
  start Reconcile.patient "ci" minute Reconcile.bareStage
    ⟨[], fun _ => .never, [], [.error (.rateLimited none)], 0⟩

/-- Its first pass is told to stay away for three minutes; meanwhile demand changes. -/
def busyLog : List Entry :=
  [⟨0, .wakes .due⟩, ⟨0, .ends (.ok (.rateLimited (.ofSeconds 180)))⟩, ⟨5000, .notified⟩]

theorem step?_due {k : Keeper} {timer : Timer} (hactivity : k.activity = .waiting timer)
    (hstop : k.stopSignal = false) (hdue : timer.due ≤ k.clock) :
    k.step? = some (k.note (.wakes .due)).begin := by
  simp [step?, hactivity, Timer.wake?, hstop, hdue]

/-- If it finds a pod missing, that keeper asks for a token and is told to stay away. -/
theorem proceed_busyKeeper {o : Opening} {s st : Stage}
    (hconclude : Reconcile.conclude Reconcile.patient "ci" today o (.ok .backOff) s =
      (.ok (.rateLimited (.ofSeconds 180)), st)) :
    ({ busyKeeper.note (.wakes .due) with stage := s } : Keeper).proceed o
        (Reconcile.grow Reconcile.patient Reconcile.bareRecord.spec.identity 1) =
      { busyKeeper.note (.wakes .due) with
        register := ⟨[], fun _ => .never, [], [], 0⟩
        asked := [(0, .registrationToken Reconcile.bareRecord.spec.identity)]
        stage := st }.rest (.ok (.rateLimited (.ofSeconds 180))) :=
  congrArg (fun out : Except Fault Reconcile.Verdict × Stage =>
    ({ busyKeeper.note (.wakes .due) with
      register := ⟨[], fun _ => .never, [], [], 0⟩
      asked := [(0, .registrationToken Reconcile.bareRecord.spec.identity)]
      stage := out.2 } : Keeper).rest out.1) hconclude

theorem begin_of_openPass {k : Keeper} {o : Opening} {s : Stage}
    (hopen : Reconcile.openPass k.pool today k.stage = (.ok o, s)) :
    k.begin = { k with stage := s }.proceed o (Reconcile.consider k.config o today) := by
  unfold begin
  rw [hopen]

/-- The first pass of that keeper. -/
theorem step_busyKeeper : ∃ k, busyKeeper.step? = some k ∧
    busyKeeper.since k = busyLog.take 2 ∧ k.activity = .waiting ⟨180000, true⟩ ∧ k.clock = 0 ∧
    k.stopSignal = false ∧ notifies k.stage.tracker (.complete 7) = true := by
  obtain ⟨st, hconclude, -, -⟩ : ∃ st, Reconcile.conclude Reconcile.patient "ci" today
      (Reconcile.opening today Reconcile.bareStage Reconcile.bareRecord []) (.ok .backOff)
      (Reconcile.opened "ci" today Reconcile.bareStage []) =
        (.ok (.rateLimited (.ofSeconds 180)), st) ∧ _ :=
    Reconcile.conclude_quiet Reconcile.roster_bareStage Reconcile.found_bareRecord today rfl
  have htracker := Reconcile.conclude_tracker Reconcile.patient "ci" today
    (Reconcile.opening today Reconcile.bareStage Reconcile.bareRecord []) (.ok .backOff)
    (Reconcile.opened "ci" today Reconcile.bareStage [])
  rw [hconclude] at htracker
  have hbegin : (busyKeeper.note (.wakes .due)).begin = _ := begin_of_openPass
    (Reconcile.openPass_ok Reconcile.roster_bareStage Reconcile.found_bareRecord today)
  have hgrow : Reconcile.consider (busyKeeper.note (.wakes .due)).config
      (Reconcile.opening today Reconcile.bareStage Reconcile.bareRecord []) today = _ :=
    Reconcile.consider_bareStage Reconcile.patient today
  rw [hgrow, proceed_busyKeeper hconclude] at hbegin
  have hstep : busyKeeper.step? = some _ := step?_due rfl rfl (Nat.le_refl 0)
  rw [hbegin] at hstep
  have htimer : Timer.after minute 0 (.ok (.rateLimited (.ofSeconds 180))) = ⟨180000, true⟩ := by
    decide
  refine ⟨_, hstep, rfl, congrArg Activity.waiting htimer, rfl, rfl, ?_⟩
  change notifies st.tracker (.complete 7) = true
  rw [htracker]
  rfl

/-- What has happened to that keeper; it does not heed the news. -/
theorem lives_busyKeeper : ∃ k, Lives busyKeeper busyLog k ∧ k.activity = .waiting ⟨180000, true⟩ ∧
    k.clock = 5000 ∧ k.stopSignal = false ∧ k.stage.tracker.signal = true := by
  obtain ⟨k, hstep, hsince, hactivity, hclock, hstop, hnotifies⟩ := step_busyKeeper
  have hfirst : Lives busyKeeper (busyLog.take 2) k := hsince ▸ Lives.init.works hstep
  have hrest : k.step? = none := by
    rw [step?_eq_none_iff]
    unfold AtRest
    rw [hactivity, hclock]
    exact ⟨hstop, by decide, fun _ => rfl⟩
  have hwaits : Lives busyKeeper (busyLog.take 2) { k with clock := 5000 } :=
    hfirst.wait_until hactivity hrest (by omega) (by decide)
  have htold := hwaits.told (.complete 7)
  rw [if_pos hnotifies] at htold
  refine ⟨_, htold, hactivity, rfl, hstop, ?_⟩
  have hsignal := signal_apply k.stage.tracker (.complete 7)
  rw [hnotifies, Bool.or_true] at hsignal
  exact hsignal

/-- A keeper of a pool that nobody has registered. -/
def strayKeeper : Keeper :=
  start Reconcile.patient "ci" minute ⟨.empty, .new minute, []⟩ ⟨[], fun _ => .never, [], [], 0⟩

/-- Every minute it makes a pass, which fails at once. -/
def strayEvents (n : Nat) : Entry :=
  ⟨60000 * (n / 2),
    if n % 2 = 0 then .wakes .due else .ends (.error (.state (.poolNotFound "ci")))⟩

/-- How that keeper is after each pass. -/
structure Stray (minutes : Nat) (k : Keeper) : Prop where
  lives : Lives strayKeeper (Reconcile.firstEntries strayEvents (2 * minutes)) k
  activity : k.activity = .waiting ⟨60000 * minutes, false⟩
  clock : k.clock = 60000 * minutes
  stop : k.stopSignal = false
  quiet : k.stage.tracker.signal = false
  pool : k.pool = "ci"
  store : k.stage.store = .empty
  interval : k.interval = minute

theorem begin_of_missing {k : Keeper} (hpool : k.pool = "ci") (hstore : k.stage.store = .empty) :
    k.begin = k.rest (.error (.state (.poolNotFound "ci"))) := by
  have hopen : Reconcile.openPass k.pool today k.stage =
      (.error (.state (.poolNotFound "ci")), k.stage) := by
    unfold Reconcile.openPass
    rw [hpool, hstore]
    rfl
  unfold begin
  rw [hopen]

theorem Stray.next {minutes : Nat} {k : Keeper} (h : Stray minutes k) :
    ∃ k', Stray (minutes + 1) k' := by
  have hstep := step?_due h.activity h.stop (Nat.le_of_eq h.clock.symm)
  have hfails : (k.note (.wakes .due)).begin = _ := begin_of_missing h.pool h.store
  rw [hfails] at hstep
  have hsince : k.since ((k.note (.wakes .due)).rest (.error (.state (.poolNotFound "ci")))) =
      [⟨60000 * minutes, .wakes .due⟩,
        ⟨60000 * minutes, .ends (.error (.state (.poolNotFound "ci")))⟩] :=
    since_eq (by simp [rest, note, h.clock])
  have hlog : Reconcile.firstEntries strayEvents (2 * (minutes + 1)) =
      Reconcile.firstEntries strayEvents (2 * minutes) ++ [⟨60000 * minutes, .wakes .due⟩,
        ⟨60000 * minutes, .ends (.error (.state (.poolNotFound "ci")))⟩] := by
    have hhalf : (2 * minutes + 1) / 2 = minutes := by omega
    rw [Nat.mul_succ, Reconcile.firstEntries_succ, Reconcile.firstEntries_succ]
    simp [strayEvents, hhalf]
  have hlives := h.lives.works hstep
  rw [hsince, ← hlog] at hlives
  have hactivity : ((k.note (.wakes .due)).rest (.error (.state (.poolNotFound "ci")))).activity =
      .waiting ⟨60000 * (minutes + 1), false⟩ := by
    simp [rest, note, Timer.after, Timer.pause, h.clock, h.interval, minute]
    omega
  have hle : k.clock < 60000 * (minutes + 1) := by
    rw [h.clock]
    omega
  have hrest : ((k.note (.wakes .due)).rest
      (.error (.state (.poolNotFound "ci")))).step? = none := by
    rw [step?_eq_none_iff]
    unfold AtRest
    rw [hactivity]
    exact ⟨h.stop, hle, fun hnews => absurd (h.quiet.symm.trans hnews) Bool.false_ne_true⟩
  exact ⟨_, hlives.wait_until hactivity hrest (Nat.le_of_lt hle) (Nat.le_refl _), hactivity, rfl,
    h.stop, h.quiet, h.pool, h.store, h.interval⟩

theorem exists_stray (minutes : Nat) : ∃ k, Stray minutes k := by
  induction minutes with
  | zero => exact ⟨strayKeeper, .init, rfl, rfl, rfl, rfl, rfl, rfl, rfl⟩
  | succ minutes ih =>
    obtain ⟨k, h⟩ := ih
    exact h.next

theorem endless_strayEvents : Endless (Lived strayKeeper) strayEvents := by
  constructor
  · intro n
    obtain ⟨k, h⟩ := exists_stray n
    have hsplit : Reconcile.firstEntries strayEvents (2 * n) =
        Reconcile.firstEntries strayEvents n ++
          (List.range n).map fun i => strayEvents (n + i) := by
      rw [Nat.two_mul, Reconcile.firstEntries, List.range_add, List.map_append, List.map_map]
      rfl
    exact ⟨_, k, hsplit ▸ h.lives⟩
  · intro time
    refine ⟨2 * (time + 1), ?_⟩
    simp [strayEvents]
    omega
  · intro n why hwake hwhy
    refine ⟨n + 1, .error (.state (.poolNotFound "ci")), Nat.lt_succ_self n, ?_⟩
    have heven : n % 2 = 0 := by
      refine Classical.byContradiction fun hodd => ?_
      simp [strayEvents, Entry.wake?, hodd] at hwake
    have hodd : (n + 1) % 2 = 1 := by omega
    simp [strayEvents, hodd]

theorem passes_keep_time_busy :
    (∃ k why more k', Lives busyKeeper busyLog k ∧ k.stage.tracker.signal = true ∧
      k.step? = none ∧ busyLog.filter (fun e => !e.isInput) = k.journal.reverse ∧
      Course minute busyLog k.watch ∧ Timely minute busyLog k.watch ∧
      Begins minute (Possible minute) busyLog ∧ why ≠ .stop ∧
      180000 = Reconcile.nextStart minute false 0 (.ok (.rateLimited (.ofSeconds 180)))
        [⟨5000, .notified⟩] ∧
      Lives busyKeeper (busyLog ++ [⟨180000, .wakes why⟩] ++ more) k') ∧
    Endless (Lived strayKeeper) strayEvents ∧ PassesFollow strayEvents ∧
    Endless (Possible minute) strayEvents ∧
    ((∃ m why, 7 < m ∧ (strayEvents m).wake? = some why ∧ why ≠ .stop) ∨
      ∃ m, (strayEvents m).wake? = some .stop) := by
  obtain ⟨htimely, hendless, hkeepers⟩ := passes_keep_time minute
  obtain ⟨hlives, -⟩ := hkeepers Reconcile.patient "ci" Reconcile.bareStage
    ⟨[], fun _ => .never, [], [.error (.rateLimited none)], 0⟩
  obtain ⟨-, hfollow⟩ := hkeepers Reconcile.patient "ci" ⟨.empty, .new minute, []⟩
    ⟨[], fun _ => .never, [], [], 0⟩
  obtain ⟨k, hlife, hactivity, hclock, hstop, hsignal⟩ := lives_busyKeeper
  obtain ⟨hcourse, hkept, hjournal, hrest, hbegins, -⟩ := hlives busyLog k hlife
  have hnext : 180000 = Reconcile.nextStart minute false 0 (.ok (.rateLimited (.ofSeconds 180)))
      [⟨5000, .notified⟩] := by decide
  obtain ⟨why, hwhy, more, k', hlonger⟩ := (hbegins hstop).next [⟨0, .wakes .due⟩] 0
    (.ok (.rateLimited (.ofSeconds 180))) [⟨5000, .notified⟩] rfl
    (List.forall_mem_singleton.mpr (.inl rfl))
  have hpossible : Endless (Possible minute) strayEvents :=
    endless_strayEvents.mono fun _ => Lived.possible
  refine ⟨⟨k, why, more, k', hlife, hsignal, hrest.mpr ?_, hjournal, hcourse, hkept,
    (htimely busyLog k.watch hcourse).2 hstop, hwhy, hnext, hlonger⟩, endless_strayEvents,
    hfollow strayEvents endless_strayEvents, hpossible, hendless strayEvents hpossible 7⟩
  unfold AtRest
  rw [hactivity, hclock]
  exact ⟨hstop, by decide, fun _ => rfl⟩

end PoolScaler.Simulation.Keeper
