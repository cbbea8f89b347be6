import PoolScaler.Pool.Scope
import PoolScaler.Reconcile.Survey
set_option autoImplicit false

/-!
# One pass over a pool

A pass opens by reading the pool and its demand and removing the pods that have
ended.  It then makes up its mind, asking the job source where it must, and
concludes by creating or deleting pods and recording what it left.  Only its
opening and its conclusion touch the store.
-/

namespace PoolScaler.Reconcile

/-- What a pass knows when it has opened. -/
structure Opening where
  record : PoolRecord
  demand : Demand.Snapshot
  /-- Pods that have not ended, in the order of the pod list. -/
  live : List Pod
  deriving DecidableEq, Repr, Inhabited

/-- The number of pods that the pool should have. -/
def Opening.desired (o : Opening) : Nat := Demand.desiredReplicas o.record.spec o.demand

/-- What a pass works on: the store, the demand, and the suffixes that are
going to be drawn for new pods. -/
structure Stage where
  store : Store
  tracker : Demand.Tracker
  draws : List String
  deriving DecidableEq, Repr, Inhabited

/-- Delete pods of a pool. -/
def deleteAll (pool : String) (store : Store) (pods : List Pod) : Store :=
  pods.foldl (fun s p => (s.deletePod pool p.name).2) store

/-- Open a pass. -/
def openPass (pool : String) (now : Instant) (s : Stage) : Except Fault Opening × Stage :=
  match s.store.getPool pool with
  | .error fault => (.error (.state fault), s)
  | .ok none => (.error (.state (.poolNotFound pool)), s)
  | .ok (some record) =>
    let (demand, tracker) := s.tracker.snapshot now
    let s := { s with tracker := tracker }
    match s.store.listPods record.spec.name with
    | .error fault => (.error (.state fault), s)
    | .ok pods =>
      let ended := pods.filter (·.phase.isFinished)
      (.ok ⟨record, demand, pods.filter fun p => !p.phase.isFinished⟩,
        { s with store := deleteAll record.spec.name s.store ended })

/-! ## Making up one's mind -/

/-- What a pass is going to do. -/
inductive Move where
  /-- The number of pods is right. -/
  | rest
  /-- Pods were created too recently; none goes before this span is over. -/
  | hold (remaining : Span)
  /-- Create pods with these variables in their environment. -/
  | create (count : Nat) (env : Pairs)
  /-- Delete these pods. -/
  | delete (pods : List Pod)
  /-- The source asks for fewer calls. -/
  | backOff
  deriving DecidableEq, Repr, Inhabited

/-- The variables that let a pod's runner join the scope. -/
def joinEnv (cfg : Config) (scope : Scope) (token : RegistrationToken) : Pairs :=
  .ofList [
    ("RUNNER_TOKEN", token.token),
    ("RUNNER_URL", scope.configUrl cfg.webUrl)]

/-- Get ready to create `count` pods: the pool must have a scope, and the
source must let runners join it. -/
def grow (cfg : Config) (identity : Identity) (count : Nat) :
    RunnersDialogue (Except Fault Move) :=
  match Scope.ofIdentity identity with
  | .error fault =>
    .done (.error (.runners fault))
  | .ok scope =>
    .ask (S := RunnersCall.interface) (.registrationToken identity) fun answer =>
      match (answer : Sourced RegistrationToken) with
      | .ok token => .done (.ok (.create count (joinEnv cfg scope token)))
      | .error fault =>
        .done (if fault.kind = .rateLimited then .ok .backOff else .error (.runners fault))

/-- The time until which all pods must be kept if the last ones were created at `last`.
Like all times it has 64 bits, and so wraps around. -/
def Config.holdUntil (cfg : Config) (last : Instant) : Instant :=
  last + UInt64.ofNat cfg.scaleDownDelay.seconds

/-- How long pods must still be kept after the last ones were created. -/
def holdRemaining (cfg : Config) (lastScaleUpAt : Option Instant) (now : Instant) :
    Option Span :=
  match lastScaleUpAt with
  | none => none
  | some last =>
    if now < cfg.holdUntil last then some (.ofSeconds (cfg.holdUntil last - now).toNat) else none

/-- Get ready to delete `excess` pods, unless all must still be kept. -/
def shrink (cfg : Config) (o : Opening) (now : Instant) (excess : Nat) :
    RunnersDialogue (Except Fault Move) :=
  match holdRemaining cfg o.record.status.lastScaleUpAt now with
  | some remaining => .done (.ok (.hold remaining))
  | none =>
    (choose cfg o.record.spec.identity now excess o.live).bind fun
      | .ok pods => .done (.ok (.delete pods))
      | .error .rateLimited => .done (.ok .backOff)
      | .error (.fault fault) => .done (.error fault)

/-- What a pass does about the number of pods. -/
def consider (cfg : Config) (o : Opening) (now : Instant) : RunnersDialogue (Except Fault Move) :=
  if o.live.length < o.desired then
    grow cfg o.record.spec.identity (o.desired - o.live.length)
  else if o.desired < o.live.length then shrink cfg o now (o.live.length - o.desired)
  else .done (.ok .rest)

/-! ## Concluding -/

/-- Create `count` pods one after the other. -/
def createAll (spec : PoolSpec) (env : Pairs) (now : Instant) :
    Nat → Stage → Except Fault Unit × Stage
  | 0, s => (.ok (), s)
  | count + 1, s =>
    match s.store.createPod spec env now s.draws with
    | .error fault => (.error (.state fault), s)
    | .ok (_, draws, store) =>
      createAll spec env now count { s with store := store, draws := draws }

/-- Delete pods one after the other; the names of those that were there. -/
def deleteChosen (pool : String) : List Pod → Store → List String × Store
  | [], store => ([], store)
  | p :: rest, store =>
    let (existed, store) := store.deletePod pool p.name
    let (names, store) := deleteChosen pool rest store
    (if existed then p.name :: names else names, store)

/-- What a move has left: the verdict, the pods counted, those of the opening
that are still there, and when pods were last created. -/
structure Result where
  verdict : Verdict
  available : Nat
  live : List Pod
  lastScaleUpAt : Option Instant
  deriving DecidableEq, Repr, Inhabited

/-- Make a move. -/
def perform (cfg : Config) (o : Opening) (now : Instant) (move : Move) (s : Stage) :
    Except Fault Result × Stage :=
  let unchanged (verdict : Verdict) : Result :=
    ⟨verdict, o.live.length, o.live, o.record.status.lastScaleUpAt⟩
  match move with
  | .rest => (.ok (unchanged .done), s)
  | .hold remaining => (.ok (unchanged (.requeueAfter remaining)), s)
  | .backOff => (.ok (unchanged (.rateLimited cfg.rateLimitBackoff)), s)
  | .create count env =>
    match createAll o.record.spec env now count s with
    | (.error fault, s) => (.error fault, s)
    | (.ok (), s) => (.ok ⟨.done, o.live.length + count, o.live, some now⟩, s)
  | .delete pods =>
    let (deleted, store) := deleteChosen o.record.spec.name pods s.store
    let live := o.live.filter fun p => !deleted.contains p.name
    (.ok ⟨.done, o.live.length - deleted.length, live, o.record.status.lastScaleUpAt⟩,
      { s with store := store })

/-- The status that a pass leaves. -/
def Result.status (r : Result) (o : Opening) (now : Instant) : PoolStatus :=
  { desiredReplicas := UInt32.ofNat o.desired
    availableReplicas := UInt32.ofNat r.available
    readyReplicas := UInt32.ofNat (r.live.countP (·.phase == .running))
    reservations := o.demand.reservations
    lastScaleUpAt := r.lastScaleUpAt
    updatedAt := now }

/-- Record a status, unless it says what the one before said. -/
def recordStatus (pool : String) (current next : PoolStatus) (store : Store) :
    Except StoreFault Store :=
  if { next with updatedAt := current.updatedAt } = current then .ok store
  else store.updatePoolStatus pool next

/-- Conclude a pass: make its move and record the status it leaves. -/
def conclude (cfg : Config) (pool : String) (now : Instant) (o : Opening)
    (move : Except Fault Move) (s : Stage) : Except Fault Verdict × Stage :=
  match move with
  | .error fault => (.error fault, s)
  | .ok move =>
    match perform cfg o now move s with
    | (.error fault, s) => (.error fault, s)
    | (.ok result, s) =>
      match recordStatus pool o.record.status (result.status o now) s.store with
      | .error fault => (.error (.state fault), s)
      | .ok store => (.ok result.verdict, { s with store := store })

/-- A whole pass at `now` over a stage that nobody else touches. -/
def pass (cfg : Config) (pool : String) (now : Instant) (s : Stage) :
    RunnersDialogue (Except Fault Verdict × Stage) :=
  match openPass pool now s with
  | (.error fault, s) => .done (.error fault, s)
  | (.ok o, s) => (consider cfg o now).bind fun move => .done (conclude cfg pool now o move s)

end PoolScaler.Reconcile
