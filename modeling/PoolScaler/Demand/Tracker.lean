import PoolScaler.Pool.Record
import PoolScaler.Time.Span
set_option autoImplicit false

/-!
# Demand

What the jobs of a pool ask of it.  A job that was acquired holds a reservation
until it lapses or the job is assigned; an assigned job counts until it is
completed; a completed job is remembered for a while so that late and repeated
news of it is ignored.  Everything goes by the id of the job's request, so the
same news twice counts once.
-/

namespace PoolScaler

/-- The id of a job's request at the job source. -/
abbrev RequestId := Int64

namespace Demand

/-- How many completed jobs are remembered. -/
def memorySize : Nat := 4096

/-- Demand at one moment.  Jobs are counted without a bound; a status, which has 32 bits for a
count, is where counts are cut to size. -/
structure Snapshot where
  /-- What has not lapsed, by expiration time, then by name. -/
  reservations : List Reservation
  /-- Jobs assigned and not completed. -/
  assigned : Nat
  deriving DecidableEq, Repr, Inhabited

namespace Snapshot

/-- Workers that reservations ask for. -/
def reserved (s : Snapshot) : Nat :=
  s.reservations.foldr (fun r n => r.replicas.toNat + n) 0

/-- Workers that all jobs ask for. -/
def demand (s : Snapshot) : Nat := s.reserved + s.assigned

/-- The names of the reservations, in the order of their bytes. -/
def names (s : Snapshot) : List String :=
  (s.reservations.map (·.name)).mergeSort fun a b => decide (a ≤ b)

end Snapshot

/-- What is known of the jobs of a pool. -/
structure Tracker where
  /-- Seconds that a reservation lasts. -/
  ttl : UInt64
  /-- Requests that hold a reservation, each once, with its expiration time. -/
  reserved : List (RequestId × Instant)
  /-- Requests whose jobs are assigned, each once. -/
  assigned : List RequestId
  /-- Requests whose jobs were completed, each once, the oldest first. -/
  completed : List RequestId
  /-- News waits for whoever watches. -/
  signal : Bool
  deriving DecidableEq, Repr, Inhabited

namespace Tracker

/-- Nothing is known; a reservation lasts the whole seconds of `ttl`. -/
def new (ttl : Span) : Tracker := ⟨UInt64.ofNat ttl.seconds, [], [], [], false⟩

/-- The expiration time of a request's reservation. -/
def reservation? (t : Tracker) (id : RequestId) : Option Instant := t.reserved.lookup id

/-- Give a request's reservation an expiration time. -/
def setExpiration (id : RequestId) (expiration : Instant) :
    List (RequestId × Instant) → List (RequestId × Instant)
  | [] => [(id, expiration)]
  | e :: rest =>
    if e.1 = id then (id, expiration) :: rest else e :: setExpiration id expiration rest

/-- Forget a request's reservation. -/
def dropReservation (id : RequestId) (l : List (RequestId × Instant)) :
    List (RequestId × Instant) :=
  l.filter fun e => e.1 != id

/-- Reserve for one granted request, unless its job is assigned or completed;
the flag tells whether it had no reservation. -/
def reserveOne (t : Tracker) (expiration : Instant) (id : RequestId) : Bool × Tracker :=
  if t.assigned.contains id || t.completed.contains id then (false, t)
  else ((t.reservation? id).isNone, { t with reserved := setExpiration id expiration t.reserved })

/-- Reserve for granted requests in turn, and count the new reservations. -/
def reserveAll (t : Tracker) (expiration : Instant) : List RequestId → Nat × Tracker
  | [] => (0, t)
  | id :: rest =>
    let (isNew, t) := t.reserveOne expiration id
    let (n, t) := t.reserveAll expiration rest
    (n + isNew.toNat, t)

/-- Reserve for granted requests at `now`.  New reservations are news. -/
def reserve (t : Tracker) (ids : List RequestId) (now : Instant) : Nat × Tracker :=
  let (added, t) := t.reserveAll (now + t.ttl) ids
  (added, { t with signal := t.signal || 0 < added })

/-- A request's job was assigned, which supersedes its reservation.  An
assignment that was not known is news. -/
def assign (t : Tracker) (id : RequestId) : Bool × Tracker :=
  if t.completed.contains id then (false, t)
  else
    let isNew := !t.assigned.contains id
    (isNew, { t with
      reserved := dropReservation id t.reserved
      assigned := if isNew then t.assigned ++ [id] else t.assigned
      signal := t.signal || isNew })

/-- The completed requests with one more, the oldest being forgotten when there
are too many. -/
def remember (completed : List RequestId) (id : RequestId) : List RequestId :=
  let all := completed ++ [id]
  all.drop (all.length - memorySize)

/-- A request's job was completed.  A completion that is not remembered is news. -/
def complete (t : Tracker) (id : RequestId) : Bool × Tracker :=
  if t.completed.contains id then (false, t)
  else
    (true, { t with
      reserved := dropReservation id t.reserved
      assigned := t.assigned.filter (· != id)
      completed := remember t.completed id
      signal := true })

/-- The name of a request's reservation. -/
def reservationName (id : RequestId) : String := "job-" ++ toString id.toInt

/-- The reservation of a request. -/
def toReservation (e : RequestId × Instant) : Reservation :=
  { name := reservationName e.1, replicas := 1, expirationTime := e.2 }

/-- The order of reservations in a snapshot. -/
def lapsesBefore (a b : Reservation) : Bool :=
  a.expirationTime < b.expirationTime
    || (a.expirationTime == b.expirationTime && decide (a.name ≤ b.name))

/-- Forget the reservations that have lapsed at `now`. -/
def purge (t : Tracker) (now : Instant) : Tracker :=
  { t with reserved := t.reserved.filter fun e => now < e.2 }

/-- Demand as known, reservations that lapsed being forgotten already. -/
def view (t : Tracker) : Snapshot :=
  { reservations := (t.reserved.map toReservation).mergeSort lapsesBefore
    assigned := t.assigned.length }

/-- Demand at `now`; reservations that have lapsed are forgotten. -/
def snapshot (t : Tracker) (now : Instant) : Snapshot × Tracker :=
  let t := t.purge now
  (t.view, t)

/-- Take the news, if any waits. -/
def takeSignal (t : Tracker) : Bool × Tracker := (t.signal, { t with signal := false })

end Tracker

/-! ## News of jobs -/

/-- What the queue tells about the demand of a pool. -/
inductive Event where
  /-- These requests were granted at this time. -/
  | reserve (ids : List RequestId) (now : Instant)
  /-- This request's job was assigned. -/
  | assign (id : RequestId)
  /-- This request's job was completed. -/
  | complete (id : RequestId)
  deriving DecidableEq, Repr, Inhabited

/-- What is known after an event. -/
def Tracker.apply (t : Tracker) : Event → Tracker
  | .reserve ids now => (t.reserve ids now).2
  | .assign id => (t.assign id).2
  | .complete id => (t.complete id).2

/-! ## Replicas -/

/-- The number of pods a pool should have: its demand, at least its minimum, at
most its maximum. -/
def desiredReplicas (spec : PoolSpec) (s : Snapshot) : Nat :=
  let wanted := Nat.max s.demand spec.minReplicas.toNat
  match spec.maxReplicas with
  | none => wanted
  | some most => Nat.min wanted most.toNat

end Demand

end PoolScaler
