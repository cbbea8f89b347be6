import PoolScaler.Text.Quoted
import PoolScaler.Time.Span
set_option autoImplicit false

/-!
# What can go wrong at the job source

Every failure of a call to the job source is one of these causes.  What callers
do about it depends on its kind alone.
-/

namespace PoolScaler

/-- Why a call to the job source failed. -/
inductive SourceFault where
  /-- The queue refused the queue token; the refusal's text is kept. -/
  | tokenExpired (text : String)
  /-- The source asks for fewer calls, perhaps none for a while. -/
  | rateLimited (retryAfter : Option Span)
  /-- The thing asked for is not there. -/
  | notFound (text : String)
  /-- No runner of this name is registered. -/
  | runnerNotFound (name : String)
  /-- The runner of this name is registered and not connected. -/
  | runnerOffline (name : String) (busy : Bool)
  /-- The call conflicts with what is there. -/
  | conflict (text : String)
  /-- Any other answer that is no success. -/
  | api (status : Nat) (text : String)
  /-- No answer came, or not all of it. -/
  | http (timedOut : Bool)
  /-- The answer is not what it should be; the reason is missing where the
  fault lies in its form. -/
  | decode (reason : Option String)
  /-- The pool has no scope at the source. -/
  | invalidScope (reason : String)
  /-- The credentials cannot be used. -/
  | credentials (reason : String)
  deriving DecidableEq, Repr, Inhabited

/-- What callers distinguish among faults. -/
inductive FaultKind where
  /-- The session must be refreshed. -/
  | tokenExpired
  /-- Stay away for a while. -/
  | rateLimited
  /-- There is no such thing. -/
  | notFound
  /-- The runner is not connected. -/
  | offline
  /-- Somebody else was first. -/
  | conflict
  /-- It may go better another time. -/
  | transient
  /-- It will never go. -/
  | invalid
  deriving DecidableEq, Repr, Inhabited

/-- The word of a kind. -/
def FaultKind.word : FaultKind → String
  | tokenExpired => "TokenExpired"
  | rateLimited => "RateLimited"
  | notFound => "NotFound"
  | offline => "Offline"
  | conflict => "Conflict"
  | transient => "Transient"
  | invalid => "Invalid"

namespace SourceFault

/-- The word of a cause. -/
def word : SourceFault → String
  | tokenExpired _ => "TokenExpired"
  | rateLimited _ => "RateLimited"
  | notFound _ => "NotFound"
  | runnerNotFound _ => "RunnerNotFound"
  | runnerOffline _ _ => "RunnerOffline"
  | conflict _ => "Conflict"
  | api _ _ => "Api"
  | http _ => "Http"
  | decode _ => "Decode"
  | invalidScope _ => "InvalidScope"
  | credentials _ => "Credentials"

/-- The kind of a fault. -/
def kind : SourceFault → FaultKind
  | tokenExpired _ => .tokenExpired
  | rateLimited _ => .rateLimited
  | notFound _ => .notFound
  | runnerNotFound _ => .notFound
  | runnerOffline _ _ => .offline
  | conflict _ => .conflict
  | api _ _ => .transient
  | http _ => .transient
  | decode _ => .transient
  | invalidScope _ => .invalid
  | credentials _ => .invalid

/-- The wording of a fault. -/
def message : SourceFault → String
  | tokenExpired text => "message queue token expired: " ++ text
  | rateLimited _ => "rate limited by the job source"
  | notFound text => "not found: " ++ text
  | runnerNotFound name => "runner " ++ Text.Quoted.quote name ++ " not found"
  | runnerOffline name _ => "runner " ++ Text.Quoted.quote name ++ " offline"
  | conflict text => "conflict: " ++ text
  | api status text => "API error (" ++ toString status ++ "): " ++ text
  | http _ => "http error"
  | decode reason => "failed to decode response: " ++ reason.getD "unreadable"
  | invalidScope reason => "invalid pool scope: " ++ reason
  | credentials reason => "credentials error: " ++ reason

end SourceFault

end PoolScaler
