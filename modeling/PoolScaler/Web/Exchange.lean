import PoolScaler.Json.Basic
import PoolScaler.Source.Credentials
import PoolScaler.Time.Span
import PoolScaler.Web.Url
set_option autoImplicit false

/-!
# Requests and responses

What is sent over HTTP and what comes back.  A request is made of parts that
may not fit together; one that cannot be sent is never sent.
-/

namespace PoolScaler.Web

/-- What a request is to do. -/
inductive Method where
  /-- Look at something. -/
  | get
  /-- Hand something in. -/
  | post
  /-- Put something in the place of what is there. -/
  | put
  /-- Change something. -/
  | patch
  /-- Take something away. -/
  | delete
  deriving DecidableEq, Repr, Inhabited

/-- The word of a method. -/
def Method.word : Method → String
  | get => "GET"
  | post => "POST"
  | put => "PUT"
  | patch => "PATCH"
  | delete => "DELETE"

/-- How a request shows who sends it. -/
inductive Authorization where
  /-- By a token. -/
  | bearer (token : String)
  /-- By a name and a password. -/
  | basic (auth : BasicAuth)
  /-- By the token of a registration. -/
  | remote (token : String)
  /-- By the statement of an app, signed with its key. -/
  | app (statement : AppStatement)
  deriving DecidableEq, Repr, Inhabited

/-- A header as it is written, but for an app's statement, which stands for its
signed text. -/
inductive HeaderValue where
  /-- A text. -/
  | text (value : String)
  /-- The signed text of an app's statement, as a token. -/
  | signed (statement : AppStatement)
  deriving DecidableEq, Repr, Inhabited

/-- The header that an authorization is written as. -/
def Authorization.header : Authorization → HeaderValue
  | bearer token => .text ("Bearer " ++ token)
  | basic auth =>
    .text ("Basic " ++ String.ofList
      (Codec.Base64.encode Codec.Base64.standard
        (Text.Utf8.encode (auth.username ++ ":" ++ auth.password))))
  | remote token => .text ("RemoteAuth " ++ token)
  | app statement => .signed statement

/-- A blank inside a line. -/
def isPad (c : Char) : Bool := c = ' ' || c = '\t'

/-- A character of the name of a header. -/
def isNameChar (c : Char) : Bool :=
  c.isAlphanum
    || c ∈ ['!', '#', '$', '%', '&', '\'', '*', '+', '-', '.', '^', '_', '\x60', '|', '~']

/-- A character of the value of a header: no control but the tab. -/
def isValueChar (c : Char) : Bool := c = '\t' || (0x20 ≤ c.toNat && c.toNat ≠ 0x7F)

/-- A text may be the value of a header. -/
def isHeaderText (s : String) : Bool := s.toList.all isValueChar

/-- A text is made of visible characters of ASCII, blanks and tabs. -/
def isVisible (s : String) : Bool := s.toList.all fun c => isValueChar c && c.toNat < 0x7F

/-- The value of a header may be sent. -/
def HeaderValue.isValid : HeaderValue → Bool
  | text value => isHeaderText value
  | signed _ => true

/-- A request as it is put together. -/
structure Draft where
  method : Method
  url : String
  query : List (String × String)
  accept : Option String
  authorization : Option Authorization
  body : Option Json
  deriving Inhabited

/-- A request as it is sent. -/
structure Request where
  method : Method
  url : Url
  userAgent : String
  accept : String
  authorization : Option HeaderValue
  body : Option Json
  /-- How long to wait for the answer. -/
  timeout : Span
  deriving Inhabited

/-- How many bytes the address of a request may have. -/
def addressLimit : Nat := 65534

/-- The request of a draft, if it can be sent.  A name in the address shows who
sends it unless something else does. -/
def Draft.request? (d : Draft) (userAgent : String) (timeout : Span) : Option Request := do
  let url ← Url.parse? d.url
  let fromUrl := url.user.map fun (name, password) =>
    Authorization.header (.basic ⟨name, password.getD ""⟩)
  let stated := d.authorization.map Authorization.header
  if !(stated.all HeaderValue.isValid && isHeaderText userAgent) then none
  else
    let url := { url with user := none }
    let url := if d.query.isEmpty then url else url.withQuery d.query
    if addressLimit < url.render.utf8ByteSize then none
    return {
      method := d.method
      url := url
      userAgent := userAgent
      accept := d.accept.getD "*/*"
      authorization := match stated with
        | some header => some header
        | none => fromUrl
      body := d.body
      timeout := timeout }

/-- What comes back. -/
structure Response where
  status : Nat
  /-- The names, in lower case, and the values of the headers, without the
  blanks around them. -/
  headers : List (String × String)
  body : List UInt8
  /-- The whole body came. -/
  complete : Bool
  deriving DecidableEq, Repr, Inhabited

/-- How sending a request ends. -/
inductive Outcome where
  /-- With a response. -/
  | response (r : Response)
  /-- Without one; time may have run out. -/
  | broken (timedOut : Bool)
  deriving DecidableEq, Repr, Inhabited

namespace Response

/-- The response tells of success. -/
def isSuccess (r : Response) : Bool := 200 ≤ r.status && r.status < 300

/-- The value of a header, if it is made of visible characters, blanks and
tabs. -/
def header? (r : Response) (name : String) : Option String :=
  (r.headers.lookup name).filter isVisible

/-- The body as a text; one that did not come whole is empty. -/
def text (r : Response) : String := if r.complete then Text.Utf8.lossy r.body else ""

end Response

end PoolScaler.Web
