import PoolScaler.Reconcile.Loop
set_option autoImplicit false

/-!
# When passes begin

From what has happened to a keeper it follows when its next pass begins, and that one does
as long as time goes on, passes end and the signal to stop has not been taken.
-/

namespace PoolScaler.Reconcile

/-! ## Why waiting can end -/

namespace Timer

variable {t : Timer} {now : Nat} {news stop : Bool} {why : Wake}

theorem ready_of_wake? (h : t.wake? now news stop = some why) : t.Ready now news stop why := by
  unfold wake? at h
  split at h
  · rename_i hstop
    obtain rfl := Option.some.inj h
    rw [hstop]
    exact .stop
  · split at h
    · rename_i hdue
      obtain rfl := Option.some.inj h
      exact .due hdue
    · split at h
      · rename_i hnews
        obtain rfl := Option.some.inj h
        simp only [Bool.and_eq_true, Bool.not_eq_true'] at hnews
        rw [hnews.1]
        exact .news hnews.2
      · cases h

theorem Ready.of_news (h : t.Ready now news stop .news) : news = true ∧ t.backingOff = false := by
  cases h with
  | news hheeds => exact ⟨rfl, hheeds⟩

theorem Ready.of_stop (h : t.Ready now news stop .stop) : stop = true := by
  cases h with
  | stop => rfl

theorem Ready.of_due (h : t.Ready now news stop .due) : t.due ≤ now := by
  cases h with
  | due hdue => exact hdue

theorem wake?_eq_none_iff : t.wake? now news stop = none ↔
    stop = false ∧ now < t.due ∧ (news = true → t.backingOff = true) := by
  unfold wake?
  cases stop <;> cases news <;> by_cases hdue : t.due ≤ now <;> simp [hdue] <;> omega

end Timer

/-! ## News, and the next pass -/

/-- Only things from outside happen. -/
def Idle (log : List Entry) : Prop := ∀ e ∈ log, e.notice = .notified ∨ e.notice = .signalled

/-- Whether a change of demand is noted after something has happened. -/
def heed (news : Bool) (e : Entry) : Bool :=
  match e.notice with
  | .notified => true
  | .wakes .news => false
  | _ => news

/-- A change of demand has not ended a wait yet. -/
def pending (log : List Entry) : Bool := log.foldl heed false

/-- When a waiting keeper first knew of a change of demand: at once if one was noted. -/
def firstNews (news : Bool) (since : Nat) (idle : List Entry) : Option Nat :=
  if news then some since else (idle.find? (·.isNews)).map (·.time)

/-- When the next pass begins after one that ended at `ended`, if demand changes as in
`idle` until then. -/
def nextStart (interval : Span) (news : Bool) (ended : Nat) (outcome : Except Fault Verdict)
    (idle : List Entry) : Nat :=
  let within (span : Nat) : Nat :=
    match firstNews news ended idle with
    | none => ended + span
    | some first => min first (ended + span)
  match outcome with
  | .ok .done => within interval.millis
  | .ok (.requeueAfter after) => within (min after.millis interval.millis)
  | .ok (.rateLimited backoff) => ended + backoff.millis
  | .error _ => within interval.millis

/-! ## How time goes by -/

namespace Watch

variable {interval : Span} {w w' : Watch} {timer : Timer} {log later : List Entry}

theorem Lets.refl (w : Watch) : w.Lets w.now :=
  ⟨Nat.le_refl _, fun _ _ _ hle hlt => absurd hle (Nat.not_le.mpr hlt)⟩

theorem Lets.trans {time time' : Nat} (h : w.Lets time)
    (h' : Lets { w with now := time } time') : w.Lets time' := by
  refine ⟨Nat.le_trans h.1 h'.1, fun timer hdoing t hle hlt => ?_⟩
  by_cases ht : t < time
  · exact h.2 timer hdoing t hle ht
  · exact h'.2 timer hdoing t (Nat.not_lt.mp ht) hlt

/-- A keeper that does not wait lets time go on. -/
theorem Lets.of_le {time : Nat} (hle : w.now ≤ time) (hdoing : ∀ timer, w.doing ≠ .waiting timer) :
    w.Lets time := ⟨hle, fun timer hwaiting => absurd hwaiting (hdoing timer)⟩

/-- A keeper that waits lets time go on up to its timer, and not at all if it has been
told to stop or heeds news that it knows of. -/
theorem lets_iff {time : Nat} (hdoing : w.doing = .waiting timer) : w.Lets time ↔
    w.now = time ∨ w.now < time ∧ w.stop = false ∧ time ≤ timer.due ∧
      (w.news = true → timer.backingOff = true) := by
  constructor
  · rintro ⟨hle, hquiet⟩
    rcases Nat.eq_or_lt_of_le hle with heq | hlt
    · exact .inl heq
    · have hlast := hquiet timer hdoing (time - 1) (by omega) (by omega)
      obtain ⟨hstop, hdue, hnews⟩ := Timer.wake?_eq_none_iff.mp hlast
      exact .inr ⟨hlt, hstop, by omega, hnews⟩
  · rintro (rfl | ⟨hlt, hstop, hdue, hnews⟩)
    · exact .refl w
    · refine ⟨Nat.le_of_lt hlt, fun timer' hdoing' t _ ht => ?_⟩
      obtain rfl := Doing.waiting.inj (hdoing.symm.trans hdoing')
      exact Timer.wake?_eq_none_iff.mpr ⟨hstop, by omega, hnews⟩

/-- What happens next can be told apart from what happened before it and after it. -/
theorem goes_append_cons {e : Entry} : w.Goes interval (log ++ e :: later) w' ↔
    ∃ w₁ w₂, w.Goes interval log w₁ ∧ w₁.now = e.time ∧ w₁.Step interval e.notice w₂ ∧
      w₂.Goes interval later w' := by
  constructor
  · intro h
    induction log generalizing w with
    | nil =>
      cases h with
      | happens hlets hstep hrest => exact ⟨_, _, .waits hlets, rfl, hstep, hrest⟩
    | cons e' log ih =>
      cases h with
      | happens hlets hstep hrest =>
        obtain ⟨w₁, w₂, hlog, hnow, hnext, hlater⟩ := ih hrest
        exact ⟨w₁, w₂, .happens hlets hstep hlog, hnow, hnext, hlater⟩
  · rintro ⟨w₁, w₂, hlog, hnow, hnext, hlater⟩
    induction hlog with
    | waits hlets =>
      obtain rfl := hnow
      exact .happens hlets hnext hlater
    | happens hlets hstep _ ih => exact .happens hlets hstep (ih hnow hnext)

theorem goes_append : w.Goes interval (log ++ later) w' ↔
    ∃ w₁, w.Goes interval log w₁ ∧ w₁.Goes interval later w' := by
  constructor
  · intro h
    induction log generalizing w with
    | nil => exact ⟨_, .waits (.refl w), h⟩
    | cons e log ih =>
      cases h with
      | happens hlets hstep hrest =>
        obtain ⟨w₁, hlog, hlater⟩ := ih hrest
        exact ⟨w₁, .happens hlets hstep hlog, hlater⟩
  · rintro ⟨w₁, hlog, hlater⟩
    induction hlog with
    | waits hlets =>
      cases hlater with
      | waits hlets' => exact .waits (hlets.trans hlets')
      | happens hlets' hstep hrest => exact .happens (hlets.trans hlets') hstep hrest
    | happens hlets hstep _ ih => exact .happens hlets hstep (ih hlater)

theorem Goes.concat {e : Entry} {w₁ w₂ : Watch} (h : w.Goes interval log w₁)
    (hnow : w₁.now = e.time) (hstep : w₁.Step interval e.notice w₂) :
    w.Goes interval (log ++ [e]) w₂ :=
  goes_append_cons.mpr ⟨w₁, w₂, h, hnow, hstep, .waits (.refl w₂)⟩

theorem Goes.wait {time : Nat} (h : w.Goes interval log w') (hlets : w'.Lets time) :
    w.Goes interval log { w' with now := time } := by
  induction h with
  | waits hfirst => exact .waits (hfirst.trans hlets)
  | happens hfirst hstep _ ih => exact .happens hfirst hstep (ih hlets)

/-- Whether a change of demand is noted goes by what has happened. -/
theorem Goes.news_eq (h : w.Goes interval log w') : w'.news = log.foldl heed w.news := by
  induction h with
  | waits => rfl
  | @happens w w₁ w' e log hlets hstep _ ih =>
    obtain ⟨time, notice⟩ := e
    rw [ih, List.foldl_cons]
    congr 1
    cases hstep with
    | notified => rfl
    | signalled => rfl
    | @wakes timer why => cases why <;> rfl
    | ends => rfl

theorem Goes.time_le (h : w.Goes interval log w') :
    w.now ≤ w'.now ∧ ∀ e ∈ log, e.time ≤ w'.now := by
  induction h with
  | waits hlets => exact ⟨hlets.1, List.forall_mem_nil _⟩
  | @happens w w₁ w' e log hlets hstep _ ih =>
    obtain ⟨hle, hlog⟩ := ih
    have hnow : w₁.now = e.time := by
      obtain ⟨time, notice⟩ := e
      cases hstep with
      | notified => rfl
      | signalled => rfl
      | @wakes timer why => cases why <;> rfl
      | ends => rfl
    rw [hnow] at hle
    exact ⟨Nat.le_trans hlets.1 hle, List.forall_mem_cons.mpr ⟨hle, hlog⟩⟩

/-- A keeper that has stopped does nothing more. -/
theorem Goes.stopped (h : w.Goes interval log w') (hdoing : w.doing = .stopped) :
    w'.doing = .stopped ∧ ∀ e ∈ log, e.wake? = none := by
  induction h with
  | waits => exact ⟨hdoing, List.forall_mem_nil _⟩
  | @happens w w₁ w' e log hlets hstep _ ih =>
    obtain ⟨time, notice⟩ := e
    cases hstep with
    | notified =>
      obtain ⟨hend, hlog⟩ := ih hdoing
      exact ⟨hend, List.forall_mem_cons.mpr ⟨rfl, hlog⟩⟩
    | signalled =>
      obtain ⟨hend, hlog⟩ := ih hdoing
      exact ⟨hend, List.forall_mem_cons.mpr ⟨rfl, hlog⟩⟩
    | wakes hwaiting => simp [hdoing] at hwaiting
    | ends _ hpassing => simp [hdoing] at hpassing

/-- While demand does not change, at most one wait is ended by news, and none if no
change was noted. -/
theorem Goes.countP_news (h : w.Goes interval log w') (hquiet : ∀ e ∈ log, e.isNews = false) :
    log.countP (fun e => e.wake? = some .news) + w'.news.toNat ≤ w.news.toNat := by
  induction h with
  | waits => simp
  | @happens w w₁ w' e log hlets hstep _ ih =>
    obtain ⟨time, notice⟩ := e
    obtain ⟨he, hlog⟩ := List.forall_mem_cons.mp hquiet
    have hrest := ih hlog
    cases hstep with
    | notified => simp [Entry.isNews] at he
    | signalled => simpa [Entry.wake?] using hrest
    | @wakes timer why hdoing hready =>
      cases why with
      | stop => simpa [Entry.wake?, woken] using hrest
      | due => simpa [Entry.wake?, woken] using hrest
      | news =>
        have hnoted : w.news = true := hready.of_news.1
        have hnone : log.countP (fun e => e.wake? = some .news) + w'.news.toNat ≤ 0 := hrest
        rw [List.countP_cons_of_pos rfl, hnoted, Bool.toNat_true]
        omega
    | ends => simpa [Entry.wake?] using hrest

end Watch

/-! ## While a keeper waits -/

/-- When a wait ends at the latest, if the keeper first knows of news at `first`. -/
def Timer.nextWake (t : Timer) (first : Option Nat) : Nat :=
  if t.backingOff then t.due
  else match first with
    | none => t.due
    | some first => min first t.due

theorem Timer.nextWake_le (t : Timer) (first : Option Nat) : t.nextWake first ≤ t.due := by
  unfold nextWake
  split
  · exact Nat.le_refl _
  · split
    · exact Nat.le_refl _
    · exact Nat.min_le_right _ _

theorem firstNews_notified (news : Bool) (since time : Nat) (idle : List Entry) :
    firstNews news since (⟨time, .notified⟩ :: idle) = some (if news then since else time) := by
  cases news <;> simp [firstNews, Entry.isNews]

theorem firstNews_signalled (news : Bool) (since time : Nat) (idle : List Entry) :
    firstNews news since (⟨time, .signalled⟩ :: idle) = firstNews news since idle := by
  simp [firstNews, Entry.isNews]

namespace Watch

variable {interval : Span} {w w' : Watch} {timer : Timer} {idle : List Entry}

/-- A keeper went on waiting, but not past the end of its wait, while only things from
outside happened. -/
structure Rests (timer : Timer) (w : Watch) (idle : List Entry) (w' : Watch) : Prop where
  doing_eq : w'.doing = .waiting timer
  le_wake : w'.now ≤ timer.nextWake (firstNews w.news w.now idle)
  news_eq : w'.news = (firstNews w.news w.now idle).isSome
  heard : ∀ first, firstNews w.news w.now idle = some first → first ≤ w'.now

/-- News that is known is either not heeded or leaves no time to go by. -/
theorem Lets.nextWake {time : Nat} (h : w.Lets time) (hdoing : w.doing = .waiting timer)
    (hnews : w.news = true) :
    timer.nextWake (some w.now) = timer.nextWake (some time) := by
  rcases (lets_iff hdoing).mp h with heq | ⟨-, -, -, hdeaf⟩
  · rw [heq]
  · simp [Timer.nextWake, hdeaf hnews]

theorem Goes.rests (h : w.Goes interval idle w') (hidle : Idle idle)
    (hdoing : w.doing = .waiting timer) (hdue : w.now ≤ timer.due) : Rests timer w idle w' := by
  induction h with
  | @waits w time hlets =>
    have hlater := (lets_iff hdoing).mp hlets
    refine ⟨hdoing, ?_, ?_, ?_⟩
    · cases hnews : w.news <;> cases hdeaf : timer.backingOff <;>
        simp [Timer.nextWake, firstNews, hnews, hdeaf] at hlater ⊢ <;> omega
    · cases w.news <;> simp [firstNews]
    · intro first hfirst
      cases hnews : w.news <;> simp [firstNews, hnews] at hfirst
      subst hfirst
      exact hlets.1
  | @happens w w₁ w' e idle hlets hstep _ ih =>
    obtain ⟨time, notice⟩ := e
    obtain ⟨he, hrest⟩ := List.forall_mem_cons.mp hidle
    have htime : time ≤ timer.due := by
      rcases (lets_iff hdoing).mp hlets with rfl | ⟨-, -, hle, -⟩
      · exact hdue
      · exact hle
    cases hstep with
    | notified =>
      obtain ⟨hend, hwake, hnoted, hheard⟩ := ih hrest hdoing htime
      have hle : time ≤ w'.now := hheard time rfl
      refine ⟨hend, ?_, ?_, ?_⟩
      · cases hnews : w.news with
        | false => exact hwake
        | true =>
          rw [firstNews_notified, if_pos rfl, hlets.nextWake hdoing hnews]
          exact hwake
      · rw [firstNews_notified, hnoted]
        rfl
      · intro first hfirst
        rw [firstNews_notified] at hfirst
        obtain rfl := Option.some.inj hfirst
        split
        · exact Nat.le_trans hlets.1 hle
        · exact hle
    | signalled =>
      obtain ⟨hend, hwake, hnoted, hheard⟩ := ih hrest hdoing htime
      refine ⟨hend, ?_, ?_, ?_⟩
      · rw [firstNews_signalled]
        cases hnews : w.news with
        | false => simpa [firstNews, hnews] using hwake
        | true =>
          rw [firstNews, if_pos rfl, hlets.nextWake hdoing hnews]
          simpa [firstNews, hnews] using hwake
      · rw [firstNews_signalled, hnoted]
        cases w.news <;> simp [firstNews]
      · intro first hfirst
        rw [firstNews_signalled] at hfirst
        cases hnews : w.news with
        | false => exact hheard first (by simpa [firstNews, hnews] using hfirst)
        | true =>
          have hle : time ≤ w'.now := hheard time (by simp [firstNews, hnews])
          obtain rfl : w.now = first := by simpa [firstNews, hnews] using hfirst
          exact Nat.le_trans hlets.1 hle
    | wakes => simp at he
    | ends => simp at he

/-- A wait that is not ended by the signal to stop ends neither sooner nor later than it
should. -/
theorem Rests.wakes {why : Wake} (h : Rests timer w idle w')
    (hready : timer.Ready w'.now w'.news w'.stop why) (hwhy : why ≠ .stop) :
    w'.now = timer.nextWake (firstNews w.news w.now idle) := by
  refine Nat.le_antisymm h.le_wake ?_
  cases why with
  | stop => exact absurd rfl hwhy
  | due => exact Nat.le_trans (Timer.nextWake_le timer _) hready.of_due
  | news =>
    obtain ⟨hnoted, hheeds⟩ := hready.of_news
    rw [h.news_eq] at hnoted
    obtain ⟨first, hfirst⟩ := Option.isSome_iff_exists.mp hnoted
    have hle := h.heard first hfirst
    simp [Timer.nextWake, hheeds, hfirst]
    omega

/-- Unless the signal to stop has come, time can go on until the wait should end, and then
it can end. -/
theorem Rests.can_wake (h : Rests timer w idle w') (hstop : w'.stop = false) {time : Nat}
    (htime : time = timer.nextWake (firstNews w.news w.now idle)) :
    w'.Lets time ∧ ∃ why, why ≠ .stop ∧ timer.Ready time w'.news w'.stop why := by
  obtain ⟨hdoing, hwake, hnoted, hheard⟩ := h
  rw [lets_iff hdoing]
  unfold Timer.nextWake at hwake htime
  cases hdeaf : timer.backingOff with
  | true =>
    simp only [hdeaf, if_true] at hwake htime
    subst htime
    exact ⟨by simp [hstop]; omega, .due, nofun, .due (Nat.le_refl _)⟩
  | false =>
    simp only [hdeaf, Bool.false_eq_true, if_false] at hwake htime
    cases hfirst : firstNews w.news w.now idle with
    | none =>
      simp only [hfirst, Option.isSome_none] at hwake hnoted htime
      subst htime
      exact ⟨by simp [hstop, hnoted]; omega, .due, nofun, .due (Nat.le_refl _)⟩
    | some first =>
      have hle := hheard first hfirst
      simp only [hfirst, Option.isSome_some] at hwake hnoted htime
      subst htime
      rw [hnoted]
      exact ⟨by omega, .news, nofun, .news hdeaf⟩

end Watch

/-! ## Courses -/

theorem Span.millis_min (a b : Span) : (a.min b).millis = min a.millis b.millis := by
  unfold Span.min
  split <;> omega

theorem nextStart_eq (interval : Span) (news : Bool) (ended : Nat)
    (outcome : Except Fault Verdict) (idle : List Entry) :
    nextStart interval news ended outcome idle =
      (Timer.after interval ended outcome).nextWake (firstNews news ended idle) := by
  rcases outcome with fault | (_ | span | span)
  · rfl
  · rfl
  · simp only [nextStart, Timer.after, Timer.pause, Span.millis_min]
    rfl
  · rfl

theorem Timer.after_due (interval : Span) (ended : Nat) (outcome : Except Fault Verdict) :
    ended ≤ (Timer.after interval ended outcome).due := Nat.le_add_right _ _

/-- What a keeper has kept to, given what has happened to it. -/
structure Timely (interval : Span) (log : List Entry) (w : Watch) : Prop where
  /-- The first pass needs no trigger: no time goes by before it. -/
  first : ∀ idle, Idle idle →
    (log = idle → w.now = 0) ∧ ∀ e later, log = idle ++ e :: later → e.time = 0
  /-- A pass begins when it is time for it and not before. -/
  begins : ∀ earlier ended outcome idle start why later,
    log = earlier ++ ⟨ended, .ends outcome⟩ :: (idle ++ ⟨start, .wakes why⟩ :: later) →
    Idle idle → why ≠ .stop → start = nextStart interval (pending earlier) ended outcome idle
  /-- Time does not go on past that without one. -/
  waits : ∀ earlier ended outcome idle, log = earlier ++ ⟨ended, .ends outcome⟩ :: idle →
    Idle idle → w.now ≤ nextStart interval (pending earlier) ended outcome idle
  /-- However often demand changes, once it does no more a single wait is ended by that. -/
  coalesces : ∀ earlier stretch later, log = earlier ++ stretch ++ later →
    (∀ e ∈ stretch, e.isNews = false) → stretch.countP (fun e => e.wake? = some .news) ≤ 1
  /-- A change of demand stays noted until it has ended a wait. -/
  keeps : ∀ earlier time later, log = earlier ++ ⟨time, .notified⟩ :: later →
    (∀ e ∈ later, e.wake? ≠ some .news) → pending log = true ∧ w.news = true
  /-- Once the signal to stop has been taken no pass begins. -/
  stops : ∀ earlier time later, log = earlier ++ ⟨time, .wakes .stop⟩ :: later →
    ∀ e ∈ later, e.wake? = none

/-- What can happen to a keeper that has not been told to stop, given what can happen at all:
its next pass begins. -/
structure Begins (interval : Span) (can : List Entry → Prop) (log : List Entry) : Prop where
  /-- The first pass begins at once. -/
  first : Idle log → ∃ why, why ≠ .stop ∧ can (log ++ [⟨0, .wakes why⟩])
  /-- After a pass another begins when it is time for it. -/
  next : ∀ earlier ended outcome idle, log = earlier ++ ⟨ended, .ends outcome⟩ :: idle →
    Idle idle → ∃ why, why ≠ .stop ∧
      can (log ++ [⟨nextStart interval (pending earlier) ended outcome idle, .wakes why⟩])

/-- This can have happened to a keeper since it was started. -/
def Possible (interval : Span) (log : List Entry) : Prop := ∃ w, Course interval log w

section

variable {interval : Span} {log earlier idle later : List Entry} {w : Watch} {ended : Nat}
  {outcome : Except Fault Verdict}

/-- How a keeper goes on after a pass. -/
theorem Course.after_pass (h : Course interval (earlier ++ ⟨ended, .ends outcome⟩ :: later) w) :
    ∃ w₁ : Watch, w₁.Goes interval later w ∧
      w₁.doing = .waiting (.after interval ended outcome) ∧ w₁.now = ended ∧
      w₁.news = pending earlier := by
  obtain ⟨w₀, w₁, hearlier, hnow, hstep, hlater⟩ := Watch.goes_append_cons.mp h
  have hnews := hearlier.news_eq
  cases hstep with
  | ends _ hdoing =>
    have hended : w₀.now = ended := hnow
    refine ⟨_, hlater, ?_, hended, hnews⟩
    rw [hended]

/-- While nothing ends its wait, a keeper rests. -/
theorem Course.rests (h : Course interval (earlier ++ ⟨ended, .ends outcome⟩ :: idle) w)
    (hidle : Idle idle) : ∃ w₁ : Watch, w₁.now = ended ∧ w₁.news = pending earlier ∧
      Watch.Rests (.after interval ended outcome) w₁ idle w := by
  obtain ⟨w₁, hgoes, hdoing, hnow, hnews⟩ := h.after_pass
  refine ⟨w₁, hnow, hnews, hgoes.rests hidle hdoing ?_⟩
  rw [hnow]
  exact Timer.after_due interval ended outcome

theorem foldl_heed_true {log : List Entry} (h : ∀ e ∈ log, e.wake? ≠ some .news) :
    log.foldl heed true = true := by
  induction log with
  | nil => rfl
  | cons e log ih =>
    obtain ⟨he, hlog⟩ := List.forall_mem_cons.mp h
    have hkept : heed true e = true := by
      unfold heed
      split
      · rfl
      · rename_i hnews
        simp [Entry.wake?, hnews] at he
      · rfl
    rw [List.foldl_cons, hkept, ih hlog]

/-- Before its first pass a keeper waits, and no time goes by. -/
theorem Course.first (h : Course interval log w) (hidle : Idle log) :
    w.doing = .waiting (.start 0) ∧ w.now = 0 := by
  have hrests : Watch.Rests (.start 0) .start log w :=
    Watch.Goes.rests h hidle rfl (Nat.le_refl 0)
  have hdue := Timer.nextWake_le (.start 0) (firstNews false 0 log)
  exact ⟨hrests.doing_eq, Nat.le_zero.mp (Nat.le_trans hrests.le_wake hdue)⟩

theorem Course.timely (h : Course interval log w) : Timely interval log w := by
  constructor
  · intro idle hidle
    refine ⟨?_, fun e later hlog => ?_⟩
    · rintro rfl
      exact (h.first hidle).2
    · rw [hlog] at h
      obtain ⟨w₁, _, hidled, hnow, _⟩ := Watch.goes_append_cons.mp h
      rw [← hnow]
      exact (Course.first hidled hidle).2
  · intro earlier ended outcome idle start why later hlog hidle hwhy
    rw [hlog, ← List.cons_append, ← List.append_assoc] at h
    obtain ⟨w₂, w₃, hidled, hnow, hstep, -⟩ := Watch.goes_append_cons.mp h
    obtain ⟨w₁, hended, hnews, hrests⟩ := Course.rests hidled hidle
    have hready : (Timer.after interval ended outcome).Ready w₂.now w₂.news w₂.stop why := by
      cases hstep with
      | wakes hdoing hready =>
        obtain rfl := Doing.waiting.inj (hrests.doing_eq.symm.trans hdoing)
        exact hready
    have hstart := hrests.wakes hready hwhy
    rw [hended, hnews, ← nextStart_eq] at hstart
    exact hnow.symm.trans hstart
  · intro earlier ended outcome idle hlog hidle
    rw [hlog] at h
    obtain ⟨w₁, hended, hnews, hrests⟩ := h.rests hidle
    have hwake := hrests.le_wake
    rw [hended, hnews, ← nextStart_eq] at hwake
    exact hwake
  · intro earlier stretch later hlog hquiet
    rw [hlog] at h
    obtain ⟨w₂, hboth, -⟩ := Watch.goes_append.mp h
    obtain ⟨w₁, -, hstretch⟩ := Watch.goes_append.mp hboth
    have hcount := hstretch.countP_news hquiet
    have hone := Bool.toNat_le w₁.news
    omega
  · intro earlier time later hlog hkept
    have hpending : pending log = true := by
      rw [hlog, pending, List.foldl_append, List.foldl_cons]
      exact foldl_heed_true hkept
    exact ⟨hpending, h.news_eq.trans hpending⟩
  · intro earlier time later hlog
    rw [hlog] at h
    obtain ⟨w₁, w₂, -, -, hstep, hlater⟩ := Watch.goes_append_cons.mp h
    cases hstep with
    | wakes => exact (hlater.stopped rfl).2

theorem Course.begins (h : Course interval log w) (hstop : w.stop = false) :
    Begins interval (Possible interval) log := by
  constructor
  · intro hidle
    obtain ⟨hdoing, hnow⟩ := h.first hidle
    exact ⟨.due, nofun, _, Watch.Goes.concat h hnow (.wakes hdoing (.due (Nat.zero_le w.now)))⟩
  · intro earlier ended outcome idle hlog hidle
    have hcourse := h
    rw [hlog] at hcourse
    obtain ⟨w₁, rfl, hnews, hrests⟩ := hcourse.rests hidle
    rw [← hnews]
    obtain ⟨hlets, why, hwhy, hready⟩ := hrests.can_wake hstop
      (nextStart_eq interval w₁.news w₁.now outcome idle)
    exact ⟨why, hwhy, _, (h.wait hlets).concat rfl (.wakes hrests.doing_eq hready)⟩

end

/-! ## Endless courses -/

/-- The first entries of a timeline that does not end. -/
def firstEntries (events : Nat → Entry) (n : Nat) : List Entry := (List.range n).map events

theorem firstEntries_succ (events : Nat → Entry) (n : Nat) :
    firstEntries events (n + 1) = firstEntries events n ++ [events n] := by
  simp [firstEntries, List.range_succ]

/-- A keeper goes on for ever in a way in which it can: time does not stop short, and every
pass ends. -/
structure Endless (can : List Entry → Prop) (events : Nat → Entry) : Prop where
  possible : ∀ n, can (firstEntries events n)
  unbounded : ∀ time, ∃ n, time < (events n).time
  passes_end : ∀ n why, (events n).wake? = some why → why ≠ .stop →
    ∃ m outcome, n < m ∧ (events m).notice = .ends outcome

/-- Whatever happens, a pass begins after it, unless the keeper takes the signal to stop. -/
def PassesFollow (events : Nat → Entry) : Prop :=
  ∀ n, (∃ m why, n < m ∧ (events m).wake? = some why ∧ why ≠ .stop) ∨
    ∃ m, (events m).wake? = some .stop

theorem Endless.mono {can can' : List Entry → Prop} {events : Nat → Entry}
    (h : Endless can events) (hcan : ∀ log, can log → can' log) : Endless can' events :=
  ⟨fun n => hcan _ (h.possible n), h.unbounded, h.passes_end⟩

namespace Watch

variable {interval : Span} {w w₁ w₂ : Watch} {log : List Entry}

theorem Step.eq {notice : Notice} (h : w.Step interval notice w₁)
    (h' : w.Step interval notice w₂) : w₁ = w₂ := by
  cases h with
  | notified => cases h'; rfl
  | signalled => cases h'; rfl
  | wakes => cases h'; rfl
  | ends => cases h'; rfl

/-- What has happened tells all about a keeper but the time. -/
theorem Goes.doing_eq (h : w.Goes interval log w₁) (h' : w.Goes interval log w₂) :
    w₁.doing = w₂.doing := by
  induction h with
  | waits =>
    cases h' with
    | waits => rfl
  | happens _ hstep _ ih =>
    cases h' with
    | happens _ hstep' hrest' =>
      obtain rfl := hstep.eq hstep'
      exact ih hrest'

end Watch

section

variable {interval : Span} {events : Nat → Entry} {w : Watch} {timer : Timer} {n : Nat}

/-- The last thing that happened, and how the keeper was then. -/
theorem Course.of_succ (h : Course interval (firstEntries events (n + 1)) w) :
    ∃ w₁ w₂ : Watch, Course interval (firstEntries events n) w₁ ∧
      w₁.Step interval (events n).notice w₂ ∧ w₂.Lets w.now ∧ w.doing = w₂.doing := by
  rw [firstEntries_succ] at h
  obtain ⟨w₁, w₂, hfirst, -, hstep, hlast⟩ := Watch.goes_append_cons.mp h
  cases hlast with
  | waits hlets => exact ⟨w₁, w₂, hfirst, hstep, hlets, rfl⟩

/-- A keeper that waits has not waited too long. -/
theorem Course.now_le_due (h : Course interval (firstEntries events n) w)
    (hdoing : w.doing = .waiting timer) : w.now ≤ timer.due := by
  induction n generalizing w timer with
  | zero =>
    have hstart : Watch.start.Goes interval [] w := h
    cases hstart with
    | waits hlets =>
      obtain rfl := Doing.waiting.inj hdoing
      rcases (Watch.lets_iff rfl).mp hlets with heq | ⟨-, -, hle, -⟩
      · exact Nat.le_of_eq heq.symm
      · exact hle
  | succ n ih =>
    obtain ⟨w₁, w₂, hfirst, hstep, hlets, hsame⟩ := h.of_succ
    rw [hsame] at hdoing
    have hbefore : w₂.now ≤ timer.due := by
      generalize (events n).notice = notice at hstep
      cases hstep with
      | notified =>
        have hwaited : w₁.now ≤ timer.due := ih hfirst hdoing
        exact hwaited
      | signalled =>
        have hwaited : w₁.now ≤ timer.due := ih hfirst hdoing
        exact hwaited
      | @wakes _ why => cases why <;> cases hdoing
      | ends outcome =>
        obtain rfl := Doing.waiting.inj hdoing
        exact Timer.after_due interval w₁.now outcome
    rcases (Watch.lets_iff hdoing).mp hlets with heq | ⟨-, -, hle, -⟩
    · rw [← heq]
      exact hbefore
    · exact hle

/-- A keeper that is in a pass has begun it, and it has not ended since. -/
theorem Course.begun (h : Course interval (firstEntries events n) w)
    (hdoing : w.doing = .passing) : ∃ i why, i < n ∧ (events i).wake? = some why ∧ why ≠ .stop ∧
      ∀ j outcome, i < j → j < n → (events j).notice ≠ .ends outcome := by
  induction n generalizing w with
  | zero =>
    have hstart : Watch.start.Goes interval [] w := h
    cases hstart with
    | waits => cases hdoing
  | succ n ih =>
    obtain ⟨w₁, w₂, hfirst, hstep, -, hsame⟩ := h.of_succ
    rw [hsame] at hdoing
    -- What happened last ended no pass, so one that had begun is still going on.
    have hlonger : w₁.doing = .passing → (∀ outcome, (events n).notice ≠ .ends outcome) →
        ∃ i why, i < n + 1 ∧ (events i).wake? = some why ∧ why ≠ .stop ∧
          ∀ j outcome, i < j → j < n + 1 → (events j).notice ≠ .ends outcome := by
      intro hpassing hlast
      obtain ⟨i, why, hi, hwake, hwhy, hopen⟩ := ih hfirst hpassing
      refine ⟨i, why, by omega, hwake, hwhy, fun j outcome hij hj => ?_⟩
      rcases Nat.lt_succ_iff_lt_or_eq.mp hj with hlt | rfl
      · exact hopen j outcome hij hlt
      · exact hlast outcome
    generalize hnotice : (events n).notice = notice at hstep
    cases hstep with
    | notified => exact hlonger hdoing (by simp [hnotice])
    | signalled => exact hlonger hdoing (by simp [hnotice])
    | @wakes _ why =>
      have hwhy : why ≠ .stop := by
        rintro rfl
        cases hdoing
      exact ⟨n, why, by omega, Entry.wake?_eq_some.mpr hnotice, hwhy, by omega⟩
    | ends => cases hdoing

/-- A keeper that has stopped has taken the signal to stop. -/
theorem Course.stopped (h : Course interval (firstEntries events n) w)
    (hdoing : w.doing = .stopped) : ∃ i, (events i).wake? = some .stop := by
  induction n generalizing w with
  | zero =>
    have hstart : Watch.start.Goes interval [] w := h
    cases hstart with
    | waits => cases hdoing
  | succ n ih =>
    obtain ⟨w₁, w₂, hfirst, hstep, -, hsame⟩ := h.of_succ
    rw [hsame] at hdoing
    generalize hnotice : (events n).notice = notice at hstep
    cases hstep with
    | notified => exact ih hfirst hdoing
    | signalled => exact ih hfirst hdoing
    | @wakes _ why =>
      cases why with
      | stop => exact ⟨n, Entry.wake?_eq_some.mpr hnotice⟩
      | due => cases hdoing
      | news => cases hdoing
    | ends => cases hdoing

/-- A keeper that is not woken goes on waiting. -/
theorem Course.still_waiting {m : Nat} (h : Course interval (firstEntries events (n + m)) w)
    (hwaiting : ∀ w, Course interval (firstEntries events n) w → w.doing = .waiting timer)
    (hnone : ∀ i, n ≤ i → (events i).wake? = none) : w.doing = .waiting timer := by
  induction m generalizing w with
  | zero => exact hwaiting w h
  | succ m ih =>
    obtain ⟨w₁, w₂, hfirst, hstep, -, hsame⟩ := Course.of_succ h
    have hdoing := ih hfirst
    have hlast := hnone (n + m) (Nat.le_add_right n m)
    rw [hsame]
    generalize hnotice : (events (n + m)).notice = notice at hstep
    cases hstep with
    | notified => exact hdoing
    | signalled => exact hdoing
    | wakes => simp [Entry.wake?, hnotice] at hlast
    | ends _ hpassing => simp [hdoing] at hpassing

/-- A keeper that waits is woken sooner or later. -/
theorem Endless.wakes (h : Endless (Possible interval) events)
    (hwaiting : ∀ w, Course interval (firstEntries events n) w → w.doing = .waiting timer) :
    ∃ i, n ≤ i ∧ (events i).wake? ≠ none := by
  refine Classical.byContradiction fun hnever => ?_
  have hnone : ∀ i, n ≤ i → (events i).wake? = none := fun i hi =>
    Classical.byContradiction fun hwake => hnever ⟨i, hi, hwake⟩
  obtain ⟨i, hi⟩ := h.unbounded timer.due
  obtain ⟨w, hcourse⟩ := h.possible (n + (i + 1))
  have hdue := hcourse.now_le_due (hcourse.still_waiting hwaiting hnone)
  have hmem : events i ∈ firstEntries events (n + (i + 1)) :=
    List.mem_map_of_mem (List.mem_range.mpr (by omega))
  have htime := (Watch.Goes.time_le hcourse).2 _ hmem
  omega

/-- So is one that is found waiting. -/
theorem Endless.wakes_of_waiting (h : Endless (Possible interval) events)
    (hcourse : Course interval (firstEntries events n) w) (hdoing : w.doing = .waiting timer) :
    ∃ i, n ≤ i ∧ (events i).wake? ≠ none :=
  h.wakes fun _ hcourse' => (Watch.Goes.doing_eq hcourse' hcourse).trans hdoing

/-- Whatever happens, the keeper is woken after it, unless it stops. -/
theorem Endless.wakes_after (h : Endless (Possible interval) events) (n : Nat) :
    (∃ i, n < i ∧ (events i).wake? ≠ none) ∨ ∃ i, (events i).wake? = some .stop := by
  obtain ⟨w, hcourse⟩ := h.possible (n + 1)
  cases hdoing : w.doing with
  | stopped => exact .inr (hcourse.stopped hdoing)
  | waiting timer => exact .inl (h.wakes_of_waiting hcourse hdoing)
  | passing =>
    left
    obtain ⟨i, why, hi, hwake, hwhy, hopen⟩ := hcourse.begun hdoing
    obtain ⟨m, outcome, hm, hends⟩ := h.passes_end i why hwake hwhy
    have hnm : n < m := Nat.lt_of_not_le fun hle => hopen m outcome hm (by omega) hends
    obtain ⟨w', hcourse'⟩ := h.possible (m + 1)
    obtain ⟨w₁, w₂, -, hstep, -, hsame⟩ := hcourse'.of_succ
    rw [hends] at hstep
    cases hstep with
    | ends =>
      obtain ⟨k, hk, hwoken⟩ := h.wakes_of_waiting hcourse' hsame
      exact ⟨k, by omega, hwoken⟩

theorem Endless.passes_follow (h : Endless (Possible interval) events) : PassesFollow events := by
  intro n
  rcases h.wakes_after n with ⟨m, hm, hwake⟩ | hstop
  · obtain ⟨why, hwhy⟩ := Option.ne_none_iff_exists'.mp hwake
    by_cases hstop : why = .stop
    · exact .inr ⟨m, hstop ▸ hwhy⟩
    · exact .inl ⟨m, why, hm, hwhy, hstop⟩
  · exact .inr hstop

end

end PoolScaler.Reconcile
