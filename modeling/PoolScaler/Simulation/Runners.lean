import PoolScaler.Simulation.Cue
set_option autoImplicit false

/-!
# A scripted register of runners

A source that tells about runners by a script: each runner has replies of its
own, the last of which is repeated, some questions are singled out by their
number, and tokens are handed out in order.
-/

namespace PoolScaler.Simulation

/-- What is replied to a question about the runner of a name. -/
abbrev RunnerReply : Type := String → Cue RunnerStatus

/-- The script of a register. -/
structure RunnersScript where
  /-- The replies that are left for some runners. -/
  runners : List (String × List RunnerReply)
  /-- The reply about any other runner. -/
  others : RunnerReply
  /-- Replies to questions of given numbers, which count from 1. -/
  byNumber : List (Nat × RunnerReply)
  /-- The answers that are left for whoever wants a token. -/
  tokens : List (Sourced String)
  /-- How many questions about runners there were. -/
  asked : Nat

namespace RunnersScript

/-- What is left of a runner's replies when the first has been given. -/
def advance : List RunnerReply → List RunnerReply
  | [] => []
  | [last] => [last]
  | _ :: rest => rest

/-- The replies of a runner put in the place of what was left of them. -/
def setReplies (s : RunnersScript) (runner : String) (replies : List RunnerReply) :
    RunnersScript :=
  { s with runners := (runner, replies) :: s.runners.filter (·.1 != runner) }

/-- Ask after a runner, which the script knows under a label. -/
def probe (s : RunnersScript) (label name : String) : Cue RunnerStatus × RunnersScript :=
  let replies := ((List.lookup label s.runners).getD [])
  let number := s.asked + 1
  let reply := (List.lookup number s.byNumber).getD (replies.headD s.others)
  (reply name,
    { s with
      asked := number
      runners := s.runners.map fun e => if e.1 = label then (e.1, advance e.2) else e })

/-- The token of a script that has no more of them. -/
def usualToken : String := "reg-token"

/-- Ask for a token. -/
def token (s : RunnersScript) : Sourced RegistrationToken × RunnersScript :=
  match s.tokens with
  | [] => (.ok ⟨usualToken, 0⟩, s)
  | answer :: rest => (answer.map fun t => ⟨t, 0⟩, { s with tokens := rest })

/-- The answer to a question, and how long it takes. -/
def answer (label : String → String) (s : RunnersScript) :
    (call : RunnersCall) → (call.Answer × Span) × RunnersScript
  | .probe _ runner limit =>
    let (cue, s) := s.probe (label runner) runner
    ((cue.within limit, cue.wait limit), s)
  | .registrationToken _ =>
    let (answer, s) := s.token
    ((answer, .zero), s)

/-- A register as surroundings in which waiting takes no time. -/
def surroundings (label : String → String) :
    Surroundings RunnersCall.interface RunnersScript := fun s call =>
  let ((answer, _), s) := s.answer label call
  (answer, s)

end RunnersScript

end PoolScaler.Simulation
