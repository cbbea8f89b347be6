import PoolScaler.Reconcile.Basic
set_option autoImplicit false

/-!
# Choosing the pods to delete

When a pool has more pods than it should have, each pod's runner is asked after
once.  Pods whose runner is offline go first, then those whose runner should
have registered long ago and has not; idle ones make up the rest, and each of
those is asked after once more right before it is chosen.  Nothing is deleted
while questions are open, so a round that is broken off leaves the pool alone.
-/

namespace PoolScaler.Reconcile

/-- What is known of a pod's runner after a probe. -/
inductive Finding where
  /-- It has a job. -/
  | busy
  /-- It waits for a job. -/
  | idle
  /-- It is registered and not connected. -/
  | offline
  /-- It has not registered, and the time for it is over. -/
  | unregistered
  /-- It has not registered yet. -/
  | young
  deriving DecidableEq, Repr, Inhabited

/-- A pod is too old for a runner that has not registered. -/
def isOverdue (cfg : Config) (now : Instant) (p : Pod) : Bool :=
  cfg.registrationTimeout.seconds < p.age now

/-- What the first probe of a pod tells. -/
def findingOf (cfg : Config) (now : Instant) (p : Pod) :
    Option (Sourced RunnerStatus) → Except Halt Finding
  | none => .error (.fault (.probeTimeout p.name))
  | some (.ok status) => .ok (if status.busy then .busy else .idle)
  | some (.error fault) =>
    match fault.kind with
    | .offline => .ok .offline
    | .notFound => .ok (if isOverdue cfg now p then .unregistered else .young)
    | .rateLimited => .error .rateLimited
    | .tokenExpired | .conflict | .transient | .invalid => .error (.fault (.probe p.name fault))

/-- Ask after the runner of a pod. -/
def probe (cfg : Config) (identity : Identity) (p : Pod) :
    RunnersDialogue (Option (Sourced RunnerStatus)) :=
  Dialogue.call (S := RunnersCall.interface) (.probe identity p.name cfg.probeTimeout)

/-- Ask after the runners of pods in turn. -/
def survey (cfg : Config) (identity : Identity) (now : Instant) :
    List Pod → RunnersDialogue (Except Halt (List (Pod × Finding)))
  | [] => .done (.ok [])
  | p :: rest =>
    (probe cfg identity p).bind fun answer =>
      match findingOf cfg now p answer with
      | .error halt => .done (.error halt)
      | .ok finding =>
        (survey cfg identity now rest).bind fun
          | .error halt => .done (.error halt)
          | .ok found => .done (.ok ((p, finding) :: found))

/-- The pods of a survey with a given finding, in order. -/
def having (finding : Finding) (found : List (Pod × Finding)) : List Pod :=
  (found.filter (·.2 == finding)).map (·.1)

/-- What the second probe of an idle pod tells: whether it is still idle. -/
def stillIdle (p : Pod) : Option (Sourced RunnerStatus) → Except Halt Bool
  | none => .error (.fault (.probeTimeout p.name))
  | some (.ok status) => .ok !status.busy
  | some (.error fault) =>
    match fault.kind with
    | .rateLimited => .error .rateLimited
    | _ => .error (.fault (.probe p.name fault))

/-- The first `quota` of the pods whose runner is still idle when asked after
again; no further pod is asked after. -/
def recheck (cfg : Config) (identity : Identity) :
    Nat → List Pod → RunnersDialogue (Except Halt (List Pod))
  | 0, _ => .done (.ok [])
  | _ + 1, [] => .done (.ok [])
  | quota + 1, p :: rest =>
    (probe cfg identity p).bind fun answer =>
      match stillIdle p answer with
      | .error halt => .done (.error halt)
      | .ok true =>
        (recheck cfg identity quota rest).bind fun
          | .error halt => .done (.error halt)
          | .ok chosen => .done (.ok (p :: chosen))
      | .ok false => recheck cfg identity (quota + 1) rest

/-- The pods that go without a second question: those offline, then those that
never registered, `excess` of them at most. -/
def surelyIdle (excess : Nat) (found : List (Pod × Finding)) : List Pod :=
  (having .offline found ++ having .unregistered found).take excess

/-- Choose up to `excess` of a pool's pods for deletion. -/
def choose (cfg : Config) (identity : Identity) (now : Instant) (excess : Nat)
    (pods : List Pod) : RunnersDialogue (Except Halt (List Pod)) :=
  (survey cfg identity now pods).bind fun
    | .error halt => .done (.error halt)
    | .ok found =>
      let sure := surelyIdle excess found
      (recheck cfg identity (excess - sure.length) (having .idle found)).bind fun
        | .error halt => .done (.error halt)
        | .ok idle => .done (.ok (sure ++ idle))

end PoolScaler.Reconcile
