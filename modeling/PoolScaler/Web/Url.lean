import PoolScaler.Web.Host
set_option autoImplicit false

/-!
# Addresses

Addresses of things that can be asked for over HTTP, read as generously as is
common on the web and kept in their normal form: dots in paths resolved,
default ports dropped, what has no place in a part escaped.
-/

namespace PoolScaler.Web

/-- An address. -/
structure Url where
  /-- The connection is to be encrypted. -/
  secure : Bool
  /-- The name and the password before the host. -/
  user : Option (String × Option String)
  host : String
  /-- The port, unless it is the usual one. -/
  port : Option Nat
  /-- The parts of the path, in written form. -/
  path : List String
  /-- The query, in written form. -/
  query : Option String
  deriving DecidableEq, Repr, Inhabited

namespace Url

/-- Characters that do not count at the ends of an address. -/
def isEdge (c : Char) : Bool := c.toNat ≤ 0x20

/-- Characters that do not count anywhere in an address. -/
def isBreak (c : Char) : Bool := c = '\t' || c = '\n' || c = '\r'

/-- Slashes of either direction. -/
def isSlash (c : Char) : Bool := c = '/' || c = '\\'

/-- What ends the part of an address that holds the host. -/
def endsAuthority (c : Char) : Bool := isSlash c || c = '?' || c = '#'

/-- The scheme of an address, and what follows the colon. -/
def scheme? (cs : List Char) : Option (Bool × List Char) :=
  let name := cs.takeWhile (· ≠ ':')
  match cs.drop name.length with
  | [] => none
  | _ :: rest =>
    if name.map Char.toLower = "http".toList then some (false, rest)
    else if name.map Char.toLower = "https".toList then some (true, rest)
    else none

/-- A text after its last copy of a character, and the text before it. -/
def splitLast? (c : Char) (cs : List Char) : Option (List Char × List Char) :=
  let after := (cs.reverse.takeWhile (· ≠ c)).reverse
  if after.length = cs.length then none
  else some (cs.take (cs.length - after.length - 1), after)

/-- The name and the password that stand before a host. -/
def user? (cs : List Char) : Option (String × Option String) :=
  let plain (cs : List Char) : String := Text.Utf8.lossy (unescape (Text.Utf8.encode (String.ofList cs)))
  let name := cs.takeWhile (· ≠ ':')
  let password := match cs.drop name.length with
    | [] | [_] => none
    | _ :: rest => some (plain rest)
  if name.isEmpty ∧ password = none then none else some (plain name, password)

/-- The host and the port in an authority; a colon in brackets belongs to the
host. -/
def splitPort (cs : List Char) : List Char × List Char :=
  match cs with
  | '[' :: _ =>
    let inside := cs.takeWhile (· ≠ ']')
    let rest := cs.drop inside.length
    let closing := rest.take 1
    (inside ++ closing, rest.drop 1)
  | _ =>
    let host := cs.takeWhile (· ≠ ':')
    (host, cs.drop host.length)

/-- The port after a host: none, or a colon and a number, which may be missing;
the usual port of the scheme goes without saying. -/
def port? (secure : Bool) : List Char → Option (Option Nat)
  | [] => some none
  | ':' :: digits =>
    if digits.isEmpty then some none
    else match Text.readDigits? digits with
      | some n =>
        if 65535 < n then none
        else some (if n = (if secure then 443 else 80) then none else some n)
      | none => none
  | _ => none

/-- A part of a path that means the place itself. -/
def isHere (part : String) : Bool := part.toLower ∈ [".", "%2e"]

/-- A part of a path that means the place above. -/
def isAbove (part : String) : Bool := part.toLower ∈ ["..", ".%2e", "%2e.", "%2e%2e"]

/-- The path after one more part, `last` telling whether none follows. -/
def pathStep (path : List String) (part : String) (last : Bool) : List String :=
  if isAbove part then path.dropLast ++ (if last then [""] else [])
  else if isHere part then path ++ (if last then [""] else [])
  else path ++ [part]

/-- A path as its parts lead. -/
def walk (path : List String) : List (List Char) → List String
  | [] => path
  | part :: rest =>
    walk (pathStep path (String.ofList (escapeWith pathSet part)) rest.isEmpty) rest

/-- The parts of a path between slashes; the first slash may be missing. -/
def pathParts (cs : List Char) : List (List Char) :=
  let cs := cs.map fun c => if c = '\\' then '/' else c
  match cs with
  | '/' :: rest => Text.pieces '/' rest
  | _ => Text.pieces '/' cs

/-- Read an address.  Nothing but an address that stands for itself is one. -/
def parse? (text : String) : Option Url := do
  let cs := (text.toList.dropWhile isEdge).reverse.dropWhile isEdge |>.reverse
  let cs := cs.filter fun c => !isBreak c
  let (secure, cs) ← scheme? cs
  let cs := cs.dropWhile isSlash
  let authority := cs.takeWhile fun c => !endsAuthority c
  let cs := cs.drop authority.length
  let (user, place) := match splitLast? '@' authority with
    | none => (none, authority)
    | some (user, place) => (user? user, place)
  let (host, port) := splitPort place
  let host ← host? host
  let port ← port? secure port
  let path := cs.takeWhile fun c => c ≠ '?' && c ≠ '#'
  let query := match cs.drop path.length with
    | '?' :: rest => some (String.ofList (escapeWith querySet (rest.takeWhile (· ≠ '#'))))
    | _ => none
  return ⟨secure, user, String.ofList host, port, walk [] (pathParts path), query⟩

/-- An address with names and values added to its query. -/
def withQuery (u : Url) (pairs : List (String × String)) : Url :=
  let added := String.ofList (formPairs pairs)
  match u.query with
  | none | some "" => { u with query := some added }
  | some query => { u with query := some (query ++ "&" ++ added) }

/-- An address as it is written. -/
def render (u : Url) : String :=
  (if u.secure then "https://" else "http://") ++ u.host
    ++ (match u.port with
      | some n => ":" ++ toString n
      | none => "")
    ++ "/" ++ "/".intercalate u.path
    ++ (match u.query with
      | some query => "?" ++ query
      | none => "")

end Url

end PoolScaler.Web
