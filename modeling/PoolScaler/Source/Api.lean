import PoolScaler.Json.Reader
import PoolScaler.Source.Service
import PoolScaler.Source.TokenCache
import PoolScaler.Text.Pieces
import PoolScaler.Time.Stamp
import PoolScaler.Web.Exchange
set_option autoImplicit false

/-!
# The programming interface of the job source

Where it is, how its responses are read, and what a client needs of its
surroundings: a clock, somewhere to send requests, and somewhere to keep the
tokens it was issued.
-/

namespace PoolScaler

/-- Where the job source is and how to talk to it. -/
structure ClientConfig where
  /-- Where the source is for people. -/
  webUrl : String
  /-- Where its programming interface is, unless that follows from `webUrl`. -/
  statedApiUrl : Option String
  userAgent : String
  /-- How long a request may take. -/
  requestTimeout : Span
  /-- How long waiting for a message may take. -/
  longPollTimeout : Span
  deriving DecidableEq, Repr, Inhabited

namespace ClientConfig

/-- What is between the scheme of an address and its first slash. -/
def hostOf (url : String) : String :=
  let rec rest : List Char → Option (List Char)
    | ':' :: '/' :: '/' :: cs => some cs
    | _ :: cs => rest cs
    | [] => none
  let cs := url.toList
  String.ofList (((rest cs).getD cs).takeWhile (· ≠ '/'))

/-- Where the programming interface is: where it is said to be, or at a host of
its own for the public source, or below the web address of any other. -/
def apiUrl (c : ClientConfig) : String :=
  match c.statedApiUrl with
  | some url => Text.trimEnd '/' url
  | none =>
    let base := Text.trimEnd '/' c.webUrl
    if hostOf base ∈ ["github.com", "www.github.com"] then "https://api.github.com"
    else base ++ "/api/v3"

end ClientConfig

/-! ## What a client needs -/

/-- The tokens that were issued and may be used again: those of apps under the
number of their installation, those for registrations under the key of their
scope. -/
structure TokenShelf where
  app : TtlCache String
  registration : TtlCache RegistrationToken
  deriving DecidableEq, Repr, Inhabited

/-- Nothing is kept. -/
def TokenShelf.empty : TokenShelf := ⟨.empty, .empty⟩

/-- A token to be kept until it lapses. -/
inductive Issue where
  /-- The token of an app's installation. -/
  | app (key token : String) (lapses now : Instant)
  /-- A token for registrations in a scope. -/
  | registration (key : String) (token : RegistrationToken) (lapses now : Instant)
  deriving DecidableEq, Repr, Inhabited

/-- Keep a token. -/
def TokenShelf.keep (s : TokenShelf) : Issue → TokenShelf
  | .app key token lapses now => { s with app := s.app.insert key token lapses now }
  | .registration key token lapses now =>
    { s with registration := s.registration.insert key token lapses now }

/-- What a client needs of its surroundings. -/
inductive ClientNeed where
  /-- Look at the clock. -/
  | clock
  /-- Send a request and wait for the response. -/
  | send (request : Web.Request)
  /-- Look at the tokens that are kept. -/
  | shelf
  /-- Keep a token. -/
  | keep (issue : Issue)

/-- What a client's needs are answered with. -/
def ClientNeed.Answer : ClientNeed → Type
  | clock => Instant
  | send _ => Web.Outcome
  | shelf => TokenShelf
  | keep _ => Unit

/-- The surroundings of a client. -/
def ClientNeed.interface : Interface := ⟨ClientNeed, ClientNeed.Answer⟩

/-- A dialogue of a client. -/
abbrev ClientDialogue (α : Type) : Type := Dialogue ClientNeed.interface (Sourced α)

/-! ## Reading responses -/

namespace Api

/-- The source asks for fewer calls: it says so, or it refuses a call with no
call left. -/
def isRateLimit (r : Web.Response) : Bool :=
  r.status = 429 || (r.status = 403 && r.header? "x-ratelimit-remaining" = some "0")

/-- How long the source asks to stay away: whole seconds. -/
def retryAfter (r : Web.Response) : Option Span :=
  match r.header? "retry-after" with
  | none => none
  | some value =>
    (Text.readBelow? UInt64.size (Text.trim value.toList)).map Span.ofSeconds

/-- A response that tells of success, or the fault that any other stands for. -/
def check (r : Web.Response) : Sourced Web.Response :=
  if r.isSuccess then .ok r
  else .error <|
    if isRateLimit r then .rateLimited (retryAfter r)
    else if r.status = 404 then .notFound r.text
    else if r.status = 409 then .conflict r.text
    else .api r.status r.text

/-- The record in the body of a response. -/
def decode {α : Type} (fields : Json.Fields α) (r : Web.Response) : Sourced α :=
  if !r.complete then .error (.http false)
  else match Json.decodeBytes fields.read r.body with
    | .ok a => .ok a
    | .error _ => .error (.decode none)

/-- The record in the body of a response that tells of success. -/
def checkedDecode {α : Type} (fields : Json.Fields α) (r : Web.Response) : Sourced α :=
  match check r with
  | .ok r => decode fields r
  | .error fault => .error fault

/-- The fault of a response that refuses the queue token. -/
def refusal? (r : Web.Response) : Option SourceFault :=
  if r.status = 401 then some (.tokenExpired r.text) else none

/-- A point in time as the source writes it; times before 1970 count as its
start. -/
def instant (value : String) : Sourced Instant :=
  match Stamp.parse? value with
  | some t => .ok (UInt64.ofNat t.toNat)
  | none => .error (.decode (some ("invalid timestamp " ++ Text.Quoted.quote value)))

/-- A time some seconds earlier, but not before 1970. -/
def earlier (t : Instant) (seconds : Nat) : Instant := UInt64.ofNat (t.toNat - seconds)

end Api

end PoolScaler
