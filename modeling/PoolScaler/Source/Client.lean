import PoolScaler.Pool.Scope
import PoolScaler.Source.Api
import PoolScaler.Source.QueueToken
set_option autoImplicit false

/-!
# The client of the job source

Every question about sessions and runners as the requests it takes.  Tokens
that were issued are used again while they stay valid long enough: those of
apps for a minute, those for registrations for half an hour, so that a runner
that is slow to start can still register.  Nothing is sent after a request that
failed.
-/

namespace PoolScaler

/-- A client: where the source is and who asks. -/
structure Client where
  config : ClientConfig
  credentials : Credentials
  deriving DecidableEq, Repr, Inhabited

namespace Client

/-- Seconds that a registration token must stay valid to be used again. -/
def registrationMargin : Nat := 1800

/-- Seconds that an app's token must stay valid to be used again. -/
def appMargin : Nat := 60

/-- Runners on a full page. -/
def pageSize : Nat := 100

/-- The form of responses that the interface for people's programs is asked for. -/
def apiForm : Option String := some "application/vnd.github+json"

/-- The form of responses that the service is asked for. -/
def serviceForm : Option String := some "application/json"

/-- A client needs a name that can be sent. -/
def make? (config : ClientConfig) (credentials : Credentials) : Sourced Client :=
  if Web.isHeaderText config.userAgent then .ok ⟨config, credentials⟩ else .error (.http false)

/-- Look at the clock. -/
def clock : Dialogue ClientNeed.interface Instant :=
  Dialogue.call (S := ClientNeed.interface) .clock

/-- Look at the tokens that are kept. -/
def shelf : Dialogue ClientNeed.interface TokenShelf :=
  Dialogue.call (S := ClientNeed.interface) .shelf

/-- Keep a token. -/
def keep (issue : Issue) : Dialogue ClientNeed.interface Unit :=
  Dialogue.call (S := ClientNeed.interface) (.keep issue)

/-- Send a request and wait for its response. -/
def exchange (c : Client) (timeout : Span) (d : Web.Draft) : ClientDialogue Web.Response :=
  match d.request? c.config.userAgent timeout with
  | none => .done (.error (.http false))
  | some request =>
    .ask (S := ClientNeed.interface) (.send request) fun outcome =>
      match (outcome : Web.Outcome) with
      | .response r => .done (.ok r)
      | .broken timedOut => .done (.error (.http timedOut))

/-- Send a request that is answered at once. -/
def send (c : Client) (d : Web.Draft) : ClientDialogue Web.Response :=
  c.exchange c.config.requestTimeout d

/-! ## Authorization -/

/-- The token of an app's installation: one that is kept, or a new one. -/
def installationToken (c : Client) (key : AppKey) : ClientDialogue String :=
  clock.bind fun now =>
    let name := toString key.installationId.toInt
    shelf.bind fun kept =>
      match kept.app.get? name now with
      | some token => .done (.ok token)
      | none =>
        Dialogue.after (key.statement now) fun statement =>
          (c.send {
            method := .post
            url := c.config.apiUrl ++ "/app/installations/" ++ name ++ "/access_tokens"
            query := []
            accept := apiForm
            authorization := some (.app statement)
            body := none }).andThen fun r =>
          Dialogue.after (Api.checkedDecode IssuedToken.fields r) fun issued =>
          Dialogue.after (Api.instant issued.expiresAt) fun expires =>
            (keep (.app name issued.token (Api.earlier expires appMargin) now)).bind fun _ =>
              .done (.ok issued.token)

/-- What shows who asks. -/
def authorization (c : Client) : ClientDialogue Web.Authorization :=
  match c.credentials with
  | .token token => .done (.ok (.bearer token))
  | .basic auth => .done (.ok (.basic auth))
  | .app key => (c.installationToken key).andThen fun token => .done (.ok (.bearer token))

/-! ## Runners -/

/-- A token with which runners join the scope of an identity: one that is kept,
or a new one. -/
def registrationToken (c : Client) (identity : Identity) : ClientDialogue RegistrationToken :=
  clock.bind fun now =>
    shelf.bind fun kept =>
      match kept.registration.get? identity.scopeKey now with
      | some token => .done (.ok token)
      | none =>
        Dialogue.after (Scope.ofIdentity identity) fun scope =>
        c.authorization.andThen fun authorization =>
        (c.send {
          method := .post
          url := c.config.apiUrl ++ scope.runnersPath ++ "/registration-token"
          query := []
          accept := apiForm
          authorization := some authorization
          body := none }).andThen fun r =>
        Dialogue.after (Api.checkedDecode IssuedToken.fields r) fun issued =>
        Dialogue.after (Api.instant issued.expiresAt) fun expires =>
          let token : RegistrationToken := ⟨issued.token, expires⟩
          (keep (.registration identity.scopeKey token
            (Api.earlier expires registrationMargin) now)).bind fun _ => .done (.ok token)

/-- What a listed runner tells. -/
def statusOf (name : String) (entry : RunnerEntry) : Sourced RunnerStatus :=
  if entry.status = "offline" then .error (.runnerOffline name entry.busy) else .ok ⟨entry.busy⟩

/-- One page of the runners of a scope. -/
def runnerPage (c : Client) (scope : Scope) (page : Nat) : ClientDialogue RunnerPage :=
  c.authorization.andThen fun authorization =>
  (c.send {
    method := .get
    url := c.config.apiUrl ++ scope.runnersPath
    query := [("per_page", toString pageSize), ("page", toString page)]
    accept := apiForm
    authorization := some authorization
    body := none }).andThen fun r =>
  .done (Api.checkedDecode RunnerPage.fields r)

/-- Look for a runner from a page on, `pages` pages at most: up to the first
page with its name, or else up to the first page that is not full. -/
def findRunner (c : Client) (scope : Scope) (name : String) (page : Nat) :
    Nat → ClientDialogue RunnerStatus
  | 0 => .done (.error (.runnerNotFound name))
  | pages + 1 =>
    (c.runnerPage scope page).andThen fun listed =>
      match listed.runners.find? (·.name == name) with
      | some entry => .done (statusOf name entry)
      | none =>
        if listed.runners.length < pageSize then .done (.error (.runnerNotFound name))
        else findRunner c scope name (page + 1) pages

/-- Pages are counted by words of 64 bits. -/
def pageLimit : Nat := UInt64.size

/-- Whether the runner of a name is busy. -/
def runnerStatus (c : Client) (identity : Identity) (name : String) : ClientDialogue RunnerStatus :=
  Dialogue.after (Scope.ofIdentity identity) fun scope => c.findRunner scope name 1 pageLimit

/-! ## The service -/

/-- Ask for the service of a scope. -/
def adminConnection (c : Client) (identity : Identity) : ClientDialogue AdminConnection :=
  Dialogue.after (Scope.ofIdentity identity) fun scope =>
  (c.registrationToken identity).andThen fun registration =>
  (c.send {
    method := .post
    url := c.config.apiUrl ++ "/actions/runner-registration"
    query := []
    accept := none
    authorization := some (.remote registration.token)
    body := some (.object [
      ("url", .str (scope.configUrl c.config.webUrl)),
      ("runner_event", .str "register")]) }).andThen fun r =>
  .done (Api.checkedDecode AdminConnection.fields r)

/-- Where the pools of a service are. -/
def poolsUrl (conn : AdminConnection) : String :=
  Text.trimEnd '/' conn.url ++ "/_apis/runtime/runnerscalesets"

/-- The version of the service that is asked for. -/
def version : String × String := ("api-version", "6.0-preview")

/-- Ask the service with the token that opens it. -/
def service (c : Client) (conn : AdminConnection) (method : Web.Method) (path : String)
    (query : List (String × String)) (body : Option Json) : ClientDialogue Web.Response :=
  c.send {
    method := method
    url := poolsUrl conn ++ path
    query := version :: query
    accept := serviceForm
    authorization := some (.bearer conn.token)
    body := body }

/-- The pool of a name; a name that several share is a fault. -/
def getRunnerPool (c : Client) (conn : AdminConnection) (name : String) :
    ClientDialogue (Option RunnerPool) :=
  (c.service conn .get "" [("name", name)] none).andThen fun r =>
  Dialogue.after (Api.checkedDecode (Listing.fields RunnerPool.fields.read) r) fun listing =>
    match listing.value with
    | [] => .done (.ok none)
    | [pool] => .done (.ok (some pool))
    | pools => .done (.error (.decode (some
        (toString pools.length ++ " runner pools share the name " ++ Text.Quoted.quote name))))

/-- Hand in a pool, as a new one or for a place. -/
def sendPool (c : Client) (conn : AdminConnection) (method : Web.Method) (path : String)
    (pool : RunnerPool) : ClientDialogue RunnerPool :=
  (c.service conn method path [] (some pool.toJson)).andThen fun r =>
  .done (Api.checkedDecode RunnerPool.fields r)

/-- The path of a pool. -/
def poolPath (poolId : Int64) : String := "/" ++ toString poolId.toInt

/-- The session of a lease. -/
def sessionOf (lease : SessionLease) : Session :=
  { poolId := lease.pool.id
    sessionId := lease.sessionId
    ownerName := lease.ownerName
    queueUrl := lease.queueUrl
    queueToken := lease.queueToken
    queueTokenExpiry := QueueToken.expiry? lease.queueToken }

/-- Ask for a lease, new or anew. -/
def sendSession (c : Client) (conn : AdminConnection) (method : Web.Method) (path : String)
    (body : Option Json) : ClientDialogue Session :=
  (c.service conn method path [] body).andThen fun r =>
  Dialogue.after (Api.checkedDecode SessionLease.fields r) fun lease =>
    .done (.ok (sessionOf lease))

/-- The path of a session. -/
def sessionPath (poolId : Int64) (sessionId : String) : String :=
  poolPath poolId ++ "/sessions/" ++ sessionId

/-- Give a lease back. -/
def deleteMessageSession (c : Client) (conn : AdminConnection) (poolId : Int64)
    (sessionId : String) : ClientDialogue Unit :=
  (c.service conn .delete (sessionPath poolId sessionId) [] none).andThen fun r =>
  .done ((Api.check r).map fun _ => ())

/-! ## The queue -/

/-- Wait for the next message after a cursor. -/
def getMessage (c : Client) (queueUrl queueToken : String) (cursor : Int64) :
    ClientDialogue (Option QueueMessage) :=
  (c.exchange c.config.longPollTimeout {
    method := .get
    url := queueUrl
    query := [("lastMessageId", toString cursor.toInt)]
    accept := serviceForm
    authorization := some (.bearer queueToken)
    body := none }).andThen fun r =>
  if r.status = 202 ∨ r.status = 204 then .done (.ok none)
  else match Api.refusal? r with
    | some fault => .done (.error fault)
    | none => .done ((Api.checkedDecode QueueMessage.fields r).map some)

/-- Acknowledge a message. -/
def deleteMessage (c : Client) (queueUrl queueToken : String) (messageId : Int64) :
    ClientDialogue Unit :=
  (c.send {
    method := .delete
    url := Text.trimEnd '/' queueUrl ++ "/" ++ toString messageId.toInt
    query := []
    accept := none
    authorization := some (.bearer queueToken)
    body := none }).andThen fun r =>
  match Api.refusal? r with
  | some fault => .done (.error fault)
  | none => .done ((Api.check r).map fun _ => ())

/-- Claim jobs. -/
def acquireJobs (c : Client) (conn : AdminConnection) (poolId : Int64) (queueToken : String)
    (ids : List RequestId) : ClientDialogue (List RequestId) :=
  (c.send {
    method := .post
    url := poolsUrl conn ++ poolPath poolId ++ "/acquirejobs"
    query := [version]
    accept := none
    authorization := some (.bearer queueToken)
    body := some (.list (ids.map Json.ofInt64)) }).andThen fun r =>
  match Api.refusal? r with
  | some fault => .done (.error fault)
  | none => .done ((Api.checkedDecode (Listing.fields Json.asInt64) r).map (·.value))

/-! ## Answering questions -/

/-- The answer to a question of a session holder. -/
def session (c : Client) : (call : SessionCall) → ClientDialogue call.Value
  | .adminConnection identity => c.adminConnection identity
  | .getRunnerPool conn name => c.getRunnerPool conn name
  | .createRunnerPool conn pool => c.sendPool conn .post "" pool
  | .replaceRunnerPool conn poolId pool => c.sendPool conn .put (poolPath poolId) pool
  | .createMessageSession conn poolId owner =>
    c.sendSession conn .post (poolPath poolId ++ "/sessions")
      (some (.object [("ownerName", .str owner)]))
  | .refreshMessageSession conn poolId sessionId =>
    c.sendSession conn .patch (sessionPath poolId sessionId) none
  | .deleteMessageSession conn poolId sessionId => c.deleteMessageSession conn poolId sessionId
  | .getMessage queueUrl queueToken cursor => c.getMessage queueUrl queueToken cursor
  | .deleteMessage queueUrl queueToken messageId => c.deleteMessage queueUrl queueToken messageId
  | .acquireJobs conn poolId queueToken ids => c.acquireJobs conn poolId queueToken ids

/-- The answer to a question of a pool's keeper. -/
def runners (c : Client) : (call : RunnersCall) → Dialogue ClientNeed.interface call.Answer
  | .probe identity runner _ =>
    (c.runnerStatus identity runner).bind fun answer => .done (some answer)
  | .registrationToken identity => c.registrationToken identity

end Client

end PoolScaler
