import PoolScaler.Codec.Pem
import PoolScaler.Codec.Rsa
import PoolScaler.Json.Writer
import PoolScaler.Source.Fault
import PoolScaler.Source.Wire
set_option autoImplicit false

/-!
# Credentials

How a client shows who it is: with a token, with a name and a password, or as
an app that signs a short statement with its key and gets a token for it.
-/

namespace PoolScaler

/-- A name and a password. -/
structure BasicAuth where
  username : String
  password : String
  deriving DecidableEq, Repr, Inhabited

/-- An app, where it is installed, and its key. -/
structure AppKey where
  appId : Int64
  installationId : Int64
  /-- The key as an armoured document. -/
  privateKey : String
  deriving DecidableEq, Repr, Inhabited

/-- How a client shows who it is. -/
inductive Credentials where
  /-- By a personal token. -/
  | token (token : String)
  /-- By a name and a password. -/
  | basic (auth : BasicAuth)
  /-- As an app. -/
  | app (key : AppKey)
  deriving DecidableEq, Repr, Inhabited

namespace Credentials

/-- A name and a password are complete when neither is empty. -/
def basicComplete (auth : BasicAuth) : Bool :=
  !auth.username.isEmpty && !auth.password.isEmpty

/-- An app is complete when its numbers are positive and there is a key. -/
def appComplete (key : AppKey) : Bool :=
  0 < key.appId && 0 < key.installationId && !key.privateKey.isEmpty

/-- The complete one of the given credentials that counts most: a name and a
password before a token, a token before an app. -/
def select (token : Option String) (auth : Option BasicAuth) (key : Option AppKey) :
    Except SourceFault Credentials :=
  match auth.filter basicComplete with
  | some auth => .ok (.basic auth)
  | none =>
    match token.filter fun t => !t.isEmpty with
    | some token => .ok (.token token)
    | none =>
      match key.filter appComplete with
      | some key => .ok (.app key)
      | none => .error (.credentials "must provide a token, app credentials or basic auth")

/-- Credentials as records show them, without what is secret. -/
def masked : Credentials → String
  | token _ => "Token(..)"
  | basic auth => "BasicAuth \x7b username: " ++ Text.Quoted.quote auth.username ++ ", .. \x7d"
  | app key =>
    "App \x7b app_id: " ++ toString key.appId.toInt ++ ", installation_id: "
      ++ toString key.installationId.toInt ++ ", .. \x7d"

end Credentials

/-! ## An app's statement -/

/-- What an app states about itself: who it is, and from when to when the
statement counts. -/
structure AppStatement where
  issuer : String
  issuedAt : Nat
  expiresAt : Nat
  deriving DecidableEq, Repr, Inhabited

namespace AppStatement

/-- A statement made now counts from a minute ago, because clocks differ, for
ten minutes. -/
def make (appId : Int64) (now : Instant) : AppStatement :=
  { issuer := toString appId.toInt
    issuedAt := now.toNat - 60
    expiresAt := now.toNat + 540 }

/-- How a statement is signed. -/
def header : Json := .object [("typ", .str "JWT"), ("alg", .str "RS256")]

/-- What a statement says. -/
def claims (s : AppStatement) : Json :=
  .object [
    ("iat", .int s.issuedAt),
    ("exp", .int s.expiresAt),
    ("iss", .str s.issuer)]

/-- A value as a part of a signed text. -/
def segment (j : Json) : String :=
  String.ofList (Codec.Base64.encode Codec.Base64.urlSafe (Text.Utf8.encode j.render))

/-- The text that the app's key signs. -/
def signedText (s : AppStatement) : String := segment header ++ "." ++ segment s.claims

end AppStatement

/-- A key that can be tried for signing. -/
structure SigningKey where
  content : List UInt8
  deriving DecidableEq, Repr, Inhabited

namespace SigningKey

open Codec (Der Pem)

/-- What a key that names its kind is for, if it is for one that is known. -/
inductive Family where
  /-- Elliptic curves. -/
  | ec
  /-- Products of two primes. -/
  | rsa
  /-- Edwards curves. -/
  | ed
  deriving DecidableEq, Repr

/-- The families under their names. -/
def families : List (List Nat × Family) := [
  ([1, 2, 840, 10045, 2, 1], .ec),
  ([1, 2, 840, 113549, 1, 1, 1], .rsa),
  ([1, 3, 101, 112], .ed)]

/-- The family that a value names. -/
def family? : Der → Option Family
  | .oid arcs => families.lookup arcs
  | _ => none

/-- The bytes that a value wraps. -/
def wrapped? : Der → Option (List UInt8)
  | .bits bytes => some bytes
  | .octets bytes => some bytes
  | _ => none

/-- The key in an armoured document: bare, or wrapped beside the name of its
family. -/
def parse? (text : String) : Option SigningKey := do
  let pem ← Pem.parse? text
  let values ← Der.parse? pem.content
  if pem.tag ∈ ["RSA PRIVATE KEY", "RSA PUBLIC KEY"] then some ⟨pem.content⟩
  else if pem.tag ∈ ["PRIVATE KEY", "PUBLIC KEY", "CERTIFICATE"] then
    match Der.firstOf? family? values with
    | some .rsa => (Der.firstOf? wrapped? values).map SigningKey.mk
    | _ => none
  else none

/-- A key can sign a text. -/
def canSign (k : SigningKey) (text : String) : Bool :=
  match Codec.Rsa.read? k.content with
  | some rsa => rsa.isSound && (rsa.sign? (Text.Utf8.encode text)).isSome
  | none => false

end SigningKey

/-- The statement of an app, if its key can sign it. -/
def AppKey.statement (key : AppKey) (now : Instant) : Except SourceFault AppStatement :=
  match SigningKey.parse? key.privateKey with
  | none => .error (.credentials "invalid app private key")
  | some signing =>
    let statement := AppStatement.make key.appId now
    if signing.canSign statement.signedText then .ok statement
    else .error (.credentials "failed to sign app JWT")

end PoolScaler
