import PoolScaler.Simulation.Cue
import PoolScaler.Source.Api
import PoolScaler.Web.Framing
set_option autoImplicit false

/-!
# A scripted network

Every request that reaches the network gets the next turn of a script, in the
order in which requests are sent.  Requests that are to be encrypted do not
reach it.
-/

namespace PoolScaler.Simulation

/-- What happens to a request. -/
inductive Turn where
  /-- It is answered. -/
  | respond (r : Web.Response)
  /-- The connection is closed. -/
  | drop
  /-- Nothing happens until its time runs out. -/
  | hang
  /-- The program is told to stop, and nothing else happens. -/
  | interrupt
  deriving DecidableEq, Repr, Inhabited

/-- A turn that sends a status, headers and a body and closes the connection.
The length of the body is stated, and may be stated wrong. -/
def Turn.sending (status : Nat) (headers : List (String × String)) (body : List UInt8)
    (length : Option Nat) : Turn :=
  let stated := [("content-length", toString (length.getD body.length)), ("connection", "close")]
  let lines := (headers ++ stated).map fun h => h.1 ++ ": " ++ h.2 ++ "\x0d\n"
  match Web.received? status (String.join lines ++ "\x0d\n").toList body with
  | some r => .respond r
  | none => .drop

/-- How a request ends that gets a turn, if it ends. -/
def Turn.outcome? : Turn → Option Web.Outcome
  | respond r => some (.response r)
  | drop => some (.broken false)
  | hang => some (.broken true)
  | interrupt => none

/-- The network and what its users remember. -/
structure Network where
  /-- The turns that are left. -/
  turns : List Turn
  /-- The requests that were sent, the last one first. -/
  sent : List Web.Request
  shelf : TokenShelf
  /-- The time of day, which stands still. -/
  today : Instant

namespace Network

/-- A network with a script. -/
def start (today : Instant) (turns : List Turn) : Network := ⟨turns, [], .empty, today⟩

/-- Another script, and no requests yet; what was remembered stays. -/
def restart (n : Network) (turns : List Turn) : Network := { n with turns := turns, sent := [] }

/-- Send a request; the turn it gets, if it gets one. -/
def send (n : Network) (request : Web.Request) : Option Turn × Network :=
  if request.url.secure then (none, n)
  else (n.turns.head?, { n with turns := n.turns.tail, sent := request :: n.sent })

/-- The surroundings of a client. -/
def surroundings : Surroundings ClientNeed.interface Network := fun n need =>
  match need with
  | .clock => (n.today, n)
  | .send request =>
    let (turn, n) := n.send request
    ((turn.bind Turn.outcome?).getD (.broken false), n)
  | .shelf => (n.shelf, n)
  | .keep issue => ((), { n with shelf := n.shelf.keep issue })

end Network

/-! ## Records -/

/-- The value of a header as it is recorded: without blanks around it, an app's
statement by who made it and how long it counts. -/
def recordedValue : Web.HeaderValue → String
  | .text s => String.ofList (Text.stripBoth Web.isPad s.toList)
  | .signed s =>
    "Bearer <app-jwt iss=" ++ (Json.str s.issuer).render ++ " lifetime="
      ++ toString (s.expiresAt - s.issuedAt) ++ ">"

/-- The headers of a request as they are recorded. -/
def recordedHeaders (r : Web.Request) : List (String × Json) :=
  let stated (name : String) (value : Option Json) : List (String × Json) :=
    value.toList.map fun v => (name, v)
  stated "authorization" (r.authorization.map fun h => .str (recordedValue h))
    ++ [("accept", .str r.accept), ("user-agent", .str (recordedValue (.text r.userAgent)))]
    ++ stated "content-type" (r.body.map fun _ => .str "application/json")

/-- A request as it is recorded. -/
def recordOf (r : Web.Request) : Json :=
  .object [
    ("method", .str r.method.word),
    ("url", .str r.url.render),
    ("headers", .object (recordedHeaders r)),
    ("body", r.body.getD .null)]

end PoolScaler.Simulation
