import PoolScaler.Reconcile.Loop
import PoolScaler.Reconcile.Pass
import PoolScaler.Simulation.Runners
set_option autoImplicit false

/-!
# A pool's keeper at work

A keeper that makes pass after pass, on a clock that moves from one event to
the next.  A pass that waits for a reply is suspended; the store and the demand
may change meanwhile.
-/

namespace PoolScaler.Simulation

open Reconcile (Doing Entry Move Notice Opening Timer Verdict Watch)

/-- What a keeper is doing. -/
inductive Activity where
  /-- It waits for the next pass. -/
  | waiting (timer : Timer)
  /-- It is in a pass and waits for a reply, with which it goes on at a time. -/
  | asking (opening : Opening) (due : Nat)
      (rest : RunnersDialogue (Except Reconcile.Fault Move))
  /-- It has stopped. -/
  | stopped

/-- What is seen of that if one goes by the passes. -/
def Activity.doing : Activity → Doing
  | .waiting timer => .waiting timer
  | .asking _ _ _ => .passing
  | .stopped => .stopped

/-- A keeper with all that it works on. -/
structure Keeper where
  config : Reconcile.Config
  pool : String
  interval : Span
  /-- Milliseconds that have passed. -/
  clock : Nat
  stage : Reconcile.Stage
  register : RunnersScript
  activity : Activity
  /-- The signal to stop has come. -/
  stopSignal : Bool
  /-- The questions that were asked and their times, the last one first. -/
  asked : List (Nat × RunnersCall)
  /-- The ends of its waits and of its passes, the last one first. -/
  journal : List Entry

namespace Keeper

/-- A keeper that has just been started. -/
def start (config : Reconcile.Config) (pool : String) (interval : Span)
    (stage : Reconcile.Stage) (register : RunnersScript) : Keeper :=
  { config := config
    pool := pool
    interval := interval
    clock := 0
    stage := stage
    register := register
    activity := .waiting (.start 0)
    stopSignal := false
    asked := []
    journal := [] }

/-- Write down what happens now. -/
def note (k : Keeper) (notice : Notice) : Keeper :=
  { k with journal := ⟨k.clock, notice⟩ :: k.journal }

/-- The pass has ended. -/
def rest (k : Keeper) (outcome : Except Reconcile.Fault Verdict) : Keeper :=
  { k.note (.ends outcome) with activity := .waiting (.after k.interval k.clock outcome) }

/-- Go on with a pass up to the next reply that takes time. -/
def proceed (k : Keeper) (o : Opening) :
    RunnersDialogue (Except Reconcile.Fault Move) → Keeper
  | .done move =>
    let (outcome, stage) := Reconcile.conclude k.config k.pool today o move k.stage
    { k with stage := stage }.rest outcome
  | .ask call next =>
    let ((answer, delay), register) := k.register.answer id call
    let k := { k with register := register, asked := (k.clock, call) :: k.asked }
    if delay.millis = 0 then k.proceed o (next answer)
    else { k with activity := .asking o (k.clock + delay.millis) (next answer) }

/-- Begin a pass. -/
def begin (k : Keeper) : Keeper :=
  match Reconcile.openPass k.pool today k.stage with
  | (.error fault, stage) => { k with stage := stage }.rest (.error fault)
  | (.ok o, stage) =>
    { k with stage := stage }.proceed o (Reconcile.consider k.config o today)

/-- What happens at this moment, if anything does. -/
def step? (k : Keeper) : Option Keeper :=
  match k.activity with
  | .stopped => none
  | .asking o due rest => if due ≤ k.clock then some (k.proceed o rest) else none
  | .waiting timer =>
    match timer.wake? k.clock k.stage.tracker.signal k.stopSignal with
    | none => none
    | some .stop => some { k.note (.wakes .stop) with activity := .stopped }
    | some .due => some (k.note (.wakes .due)).begin
    | some .news =>
      let (_, tracker) := k.stage.tracker.takeSignal
      some { k.note (.wakes .news) with stage := { k.stage with tracker := tracker } }.begin

/-- When something is going to happen by itself. -/
def due? (k : Keeper) : Option Nat :=
  match k.activity with
  | .stopped => none
  | .asking _ due _ => some due
  | .waiting timer => some timer.due

/-- Let everything happen until a time, `events` things at most. -/
def advance (k : Keeper) (time : Nat) : Nat → Keeper
  | 0 => { k with clock := Nat.max k.clock time }
  | events + 1 =>
    match k.step? with
    | some k => k.advance time events
    | none =>
      match k.due? with
      | some due =>
        if due ≤ time then { k with clock := Nat.max k.clock due }.advance time events
        else { k with clock := Nat.max k.clock time }
      | none => { k with clock := Nat.max k.clock time }

/-- The keeper has stopped. -/
def hasStopped (k : Keeper) : Bool :=
  match k.activity with
  | .stopped => true
  | _ => false

/-! ## What becomes of a keeper -/

/-- A keeper as one sees it who goes by its passes. -/
def watch (k : Keeper) : Watch :=
  ⟨k.clock, k.activity.doing, k.stage.tracker.signal, k.stopSignal⟩

/-- What a keeper has written down since it was `k`, in order. -/
def since (k k' : Keeper) : List Entry :=
  (k'.journal.take (k'.journal.length - k.journal.length)).reverse

/-- Whether an event is news: whether the tracker says that something has changed. -/
def notifies (t : Demand.Tracker) : Demand.Event → Bool
  | .reserve ids now => 0 < (t.reserve ids now).1
  | .assign id => (t.assign id).1
  | .complete id => (t.complete id).1

/-- What has become of a keeper, and all that has happened to it, in order: what it does
itself, which it writes down, and what comes from outside. -/
inductive Lives (k₀ : Keeper) : List Entry → Keeper → Prop
  /-- News may be noted at the beginning. -/
  | init : Lives k₀ (if k₀.stage.tracker.signal then [⟨k₀.clock, .notified⟩] else []) k₀
  /-- It does what there is to do. -/
  | works {log : List Entry} {k k' : Keeper} (h : Lives k₀ log k) (hstep : k.step? = some k') :
    Lives k₀ (log ++ k.since k') k'
  /-- Nothing is to be done and time goes by. -/
  | waits {log : List Entry} {k : Keeper} {time : Nat} (h : Lives k₀ log k)
    (hrest : k.step? = none) (hle : k.clock ≤ time)
    (hdue : ∀ due, k.due? = some due → time ≤ due) : Lives k₀ log { k with clock := time }
  /-- There is an event of demand. -/
  | told {log : List Entry} {k : Keeper} (h : Lives k₀ log k) (e : Demand.Event) :
    Lives k₀ (log ++ if notifies k.stage.tracker e then [⟨k.clock, .notified⟩] else [])
      { k with stage := { k.stage with tracker := k.stage.tracker.apply e } }
  /-- The signal to stop comes. -/
  | signalled {log : List Entry} {k : Keeper} (h : Lives k₀ log k) :
    Lives k₀ (log ++ [⟨k.clock, .signalled⟩]) { k with stopSignal := true }
  /-- Others change the store. -/
  | shelved {log : List Entry} {k : Keeper} (h : Lives k₀ log k) (store : Store) :
    Lives k₀ log { k with stage := { k.stage with store := store } }

end Keeper

end PoolScaler.Simulation
