import PoolScaler.Reconcile.Schedule
set_option autoImplicit false

/-!
# The loop of a keeper

A keeper waits, makes a pass, waits again, until it stops.  Passes come to whatever they
come to and take as long as they take, demand changes at any time and so does the signal
to stop come.  Time does not go on while something ends the keeper's waiting, but which of
several reasons ends it is left open.  A change of demand stays noted until it has ended a
wait; one that comes while another is noted is the same note.  Of several things at one
moment any may have come first, so a change of demand at the time at which a pass begins may
have led to it or may come after.
-/

namespace PoolScaler.Reconcile

/-- Waiting can end at a time for a reason.  Where there are several, any may be the one. -/
inductive Timer.Ready (t : Timer) (now : Nat) : Bool → Bool → Wake → Prop
  /-- The signal to stop has come. -/
  | stop {news : Bool} : Ready t now news true .stop
  /-- The time is over. -/
  | due {news stop : Bool} (h : t.due ≤ now) : Ready t now news stop .due
  /-- There is news, and it is heeded. -/
  | news {stop : Bool} (h : t.backingOff = false) : Ready t now true stop .news

/-! ## What happens -/

/-- Something that happens to a keeper or that it does. -/
inductive Notice where
  /-- Demand changes. -/
  | notified
  /-- The signal to stop comes. -/
  | signalled
  /-- Its waiting ends: it begins a pass, or stops. -/
  | wakes (why : Wake)
  /-- A pass ends. -/
  | ends (outcome : Except Fault Verdict)
  deriving Repr

/-- Something that happens at a time. -/
structure Entry where
  time : Nat
  notice : Notice
  deriving Repr

namespace Entry

/-- Demand changes. -/
def isNews (e : Entry) : Bool :=
  match e.notice with
  | .notified => true
  | _ => false

/-- It comes from outside. -/
def isInput (e : Entry) : Bool :=
  match e.notice with
  | .notified => true
  | .signalled => true
  | _ => false

/-- The reason for which waiting ends. -/
def wake? (e : Entry) : Option Wake :=
  match e.notice with
  | .wakes why => some why
  | _ => none

theorem wake?_eq_some {e : Entry} {why : Wake} :
    e.wake? = some why ↔ e.notice = .wakes why := by
  unfold wake?
  split
  · rename_i h
    rw [h, Option.some.injEq, Notice.wakes.injEq]
  · rename_i h
    exact ⟨nofun, fun hwhy => absurd hwhy (h why)⟩

end Entry

/-! ## What a keeper does -/

/-- What a keeper is doing, as far as its passes go. -/
inductive Doing where
  /-- It waits for the next pass. -/
  | waiting (timer : Timer)
  /-- It makes a pass. -/
  | passing
  /-- It has stopped. -/
  | stopped

/-- A keeper at one moment. -/
structure Watch where
  now : Nat
  doing : Doing
  /-- A change of demand is noted. -/
  news : Bool
  /-- The signal to stop has come. -/
  stop : Bool

namespace Watch

/-- A keeper that has just been started. -/
def start : Watch := ⟨0, .waiting (.start 0), false, false⟩

/-- Time may go on until `time`: at no moment before it does a wait end. -/
def Lets (w : Watch) (time : Nat) : Prop :=
  w.now ≤ time ∧ ∀ timer, w.doing = .waiting timer →
    ∀ t, w.now ≤ t → t < time → timer.wake? t w.news w.stop = none

/-- A keeper whose waiting ends. -/
def woken (w : Watch) : Wake → Watch
  | .stop => { w with doing := .stopped }
  | .due => { w with doing := .passing }
  | .news => { w with doing := .passing, news := false }

/-- What can happen at one moment. -/
inductive Step (interval : Span) (w : Watch) : Notice → Watch → Prop
  | notified : Step interval w .notified { w with news := true }
  | signalled : Step interval w .signalled { w with stop := true }
  | wakes {timer : Timer} {why : Wake} (hdoing : w.doing = .waiting timer)
    (hready : timer.Ready w.now w.news w.stop why) : Step interval w (.wakes why) (w.woken why)
  | ends (outcome : Except Fault Verdict) (hdoing : w.doing = .passing) :
    Step interval w (.ends outcome)
      { w with doing := .waiting (.after interval w.now outcome) }

/-- From one moment to another this has happened. -/
inductive Goes (interval : Span) : Watch → List Entry → Watch → Prop
  /-- Time has gone by. -/
  | waits {w : Watch} {time : Nat} (hlets : w.Lets time) :
    Goes interval w [] { w with now := time }
  /-- Time has gone by until something happened. -/
  | happens {w w₁ w' : Watch} {e : Entry} {log : List Entry} (hlets : w.Lets e.time)
    (hstep : Step interval { w with now := e.time } e.notice w₁)
    (hrest : Goes interval w₁ log w') : Goes interval w (e :: log) w'

end Watch

/-- What can have happened to a keeper since it was started, and how it is now. -/
def Course (interval : Span) (log : List Entry) (w : Watch) : Prop :=
  Watch.start.Goes interval log w

end PoolScaler.Reconcile
