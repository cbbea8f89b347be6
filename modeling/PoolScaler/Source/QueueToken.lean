import PoolScaler.Codec.Base64
import PoolScaler.Json.Fields
import PoolScaler.Json.Reach
import PoolScaler.Pool.Record
import PoolScaler.Source.TokenKey
set_option autoImplicit false

/-!
# Queue tokens

A queue token is opaque, but most are signed statements that tell when they
lapse.  The expiration time is read from a token that is one of these in every
part but its signature; nothing is verified.
-/

namespace PoolScaler.QueueToken

open Text.Utf8 (Symbol)

/-- The parts of a token: its last point ends the claims and the point before
ends the header. -/
def split? (token : String) : Option (List Char × List Char) :=
  let isPoint (c : Char) : Bool := c = '.'
  match (token.toList.reverse.dropWhile (!isPoint ·)) with
  | [] => none
  | _ :: rest =>
    let claims := rest.takeWhile (!isPoint ·)
    match rest.drop claims.length with
    | [] => none
    | _ :: header => some (header.reverse, claims.reverse)

/-- The ways of signing that are known. -/
def algorithms : List (String × Unit) :=
  ["HS256", "HS384", "HS512", "ES256", "ES384", "RS256", "RS384", "RS512",
    "PS256", "PS384", "PS512", "EdDSA"].map fun name => (name, ())

/-- A value that passes a test; what it says does not matter. -/
def such (test : Json → Bool) : Json.Decoder Unit := fun j =>
  if test j then .ok () else .error .mismatch

/-- How many lists and objects may be open inside of one that is read. -/
def depthLimit : Nat := 127

/-- The header of a token. -/
def headerFields : Json.Fields Unit :=
  (fun _ _ _ _ _ _ _ _ _ _ => ())
    <$> .optional "typ" Json.asText
    <*> .required "alg" (Json.asWord algorithms)
    <*> .optional "cty" Json.asText
    <*> .optional "jku" Json.asText
    <*> .optional "jwk" (such (TokenKey.isKey (depthLimit - 1)))
    <*> .optional "kid" Json.asText
    <*> .optional "x5u" Json.asText
    <*> .optional "x5c" (Json.asList Json.asText)
    <*> .optional "x5t" Json.asText
    <*> .optional "x5t#S256" Json.asText

/-- The claim that counts. -/
def expiryFields : Json.Fields Instant := id <$> .required "exp" Json.asUInt64

/-! ## Other claims -/

/-- How far a number of seconds is read.  A list or an object is left after its
bracket, and may end there. -/
def reachTime (cs : List Symbol) : Json.Reach :=
  match cs with
  | some '[' :: rest => (Json.Reach.halt rest).endList
  | some '\x7b' :: rest => (Json.Reach.halt rest).endObject
  | cs => .ofScalar cs

/-- How far a text is read.  A list or an object is not begun. -/
def reachText (cs : List Symbol) : Json.Reach :=
  match cs with
  | some '[' :: _ | some '\x7b' :: _ => .halt cs
  | cs => .ofScalar cs

/-- How far one text or a list of texts is read: any value is read first. -/
def reachTexts (cs : List Symbol) : Json.Reach := .ofValue (cs.length + 1) depthLimit cs

/-- The claims that are looked at without counting, and how far each is read.
What they say does not matter, but reading goes on from there. -/
def otherClaims : List (String × (List Symbol → Json.Reach)) := [
  ("exp", reachTime),
  ("nbf", reachTime),
  ("sub", reachText),
  ("iss", reachTexts),
  ("aud", reachTexts)]

/-- The value of a claim has been passed over; what follows it. -/
def passClaim? (name : String) (cs : List Symbol) : Option (List Symbol) :=
  match otherClaims.lookup name with
  | some reach => some (reach (Json.skipSpace cs)).rest
  | none =>
    match Json.readValue (cs.length + 1) cs with
    | (j, some rest) => if (Json.skip j).isOk then some rest else none
    | (_, none) => none

/-- So many claims at most lead to the end of the text; none of those that are
looked at comes twice.  `cs` begins after the brace or at the end of a claim. -/
def passClaims (seen : List String) : Nat → List Symbol → Bool
  | 0, _ => false
  | fuel + 1, cs =>
    let start := match Json.skipSpace cs with
      | some ',' :: rest =>
        let rest := Json.skipSpace rest
        if seen.isEmpty ∨ rest.head? ≠ some (some '"') then [] else rest
      | some '\x7d' :: rest => some '\x7d' :: rest
      | rest => if seen.isEmpty then rest else []
    match start with
    | some '\x7d' :: rest => (Json.skipSpace rest).isEmpty
    | some '"' :: rest =>
      let name := Json.readText .start rest
      match name.content, name.rest with
      | .ok name, .ok rest =>
        match Json.skipSpace rest with
        | some ':' :: rest =>
          if (otherClaims.lookup name).isSome && seen.contains name then false
          else match passClaim? name rest with
            | some rest => passClaims (name :: seen) fuel rest
            | none => false
        | _ => false
      | _, _ => false
    | _ => false

/-- The claims of a token can be looked at. -/
def claimsPass (cs : List Symbol) : Bool :=
  match Json.skipSpace cs with
  | some '\x7b' :: rest => passClaims [] (cs.length + 1) rest
  | _ => false

/-- The expiration time that a token tells. -/
def expiry? (token : String) : Option Instant := do
  let (header, claims) ← split? token
  let header ← Codec.Base64.decode? Codec.Base64.urlSafe header
  let _ ← (Json.decodeBytes headerFields.read header).toOption
  let claims ← Codec.Base64.decode? Codec.Base64.urlSafe claims
  let claims := Text.Utf8.read claims
  let expiry ← ((Json.readSymbols claims).decode expiryFields.read).toOption
  if claimsPass claims then return expiry else none

end PoolScaler.QueueToken
