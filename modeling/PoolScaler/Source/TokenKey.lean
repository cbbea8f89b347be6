import PoolScaler.Json.Basic
set_option autoImplicit false

/-!
# Keys in tokens

The key that the header of a token may hold.  It is an object of members that
any key may have and of members that make up a key of one kind.
-/

namespace PoolScaler.TokenKey

mutual

/-- How many lists and objects a value is deep. -/
def depth : Json → Nat
  | .arr items _ => depthOfItems items + 1
  | .obj members _ => depthOfMembers members + 1
  | _ => 0

/-- The depth of the deepest item. -/
def depthOfItems : List Json → Nat
  | [] => 0
  | j :: rest => max (depth j) (depthOfItems rest)

/-- The depth of the deepest member. -/
def depthOfMembers : List (Except Json.Fault String × Json) → Nat
  | [] => 0
  | (_, j) :: rest => max (depth j) (depthOfMembers rest)

end

mutual

/-- A value can be read whole. -/
def readable : Json → Bool
  | .arr items cut => cut.isNone && readableItems items
  | .obj members cut => cut.isNone && readableMembers members
  | .spoiled _ _ _ => false
  | _ => true

/-- Every item can be read. -/
def readableItems : List Json → Bool
  | [] => true
  | j :: rest => readable j && readableItems rest

/-- Every member and its name can be read. -/
def readableMembers : List (Except Json.Fault String × Json) → Bool
  | [] => true
  | (name, j) :: rest => name.isOk && readable j && readableMembers rest

end

/-- A text. -/
def isText : Json → Bool
  | .str _ => true
  | _ => false

/-- A list of texts. -/
def isTextList : Json → Bool
  | .arr items none => items.all isText
  | _ => false

/-- Nothing; an empty object may stand for it. -/
def isNothing (orEmpty : Bool) : Json → Bool
  | .null => true
  | .obj [] none => orEmpty
  | _ => false

/-- One of the listed words, alone or as the name of nothing. -/
def isWord (words : List String) (orEmpty : Bool) : Json → Bool
  | .str s => words.contains s
  | .obj [(.ok s, j)] none => words.contains s && isNothing orEmpty j
  | _ => false

/-- The ways of using a key that are known. -/
def algorithms : List String :=
  ["HS256", "HS384", "HS512", "ES256", "ES384", "RS256", "RS384", "RS512", "PS256", "PS384",
    "PS512", "EdDSA", "RSA1_5", "RSA-OAEP", "RSA-OAEP-256"]

/-- The curves that are known. -/
def curves : List String := ["P-256", "P-384", "P-521", "Ed25519"]

/-- The members that any key may have, and what they must be unless they are
null. -/
def sharedMembers : List (String × (Json → Bool)) := [
  ("use", isText),
  ("key_ops", isTextList),
  ("alg", isWord algorithms true),
  ("kid", isText),
  ("x5u", isText),
  ("x5c", isTextList),
  ("x5t", isText),
  ("x5t#S256", isText)]

/-- The members that make up the keys of each kind. -/
def kinds : List (List (String × (Json → Bool))) :=
  let kty (word : String) : String × (Json → Bool) := ("kty", isWord [word] false)
  let crv : String × (Json → Bool) := ("crv", isWord curves false)
  [ [kty "EC", crv, ("x", isText), ("y", isText)],
    [kty "RSA", ("n", isText), ("e", isText)],
    [kty "oct", ("k", isText)],
    [kty "OKP", crv, ("x", isText)] ]

/-- The values under a name. -/
def under (members : List (Except Json.Fault String × Json)) (name : String) : List Json :=
  members.filterMap fun
    | (.ok n, j) => if n = name then some j else none
    | _ => none

/-- A value is a key; `levels` bounds its depth. -/
def isKey (levels : Nat) (key : Json) : Bool :=
  match key with
  | .obj members none =>
    readableMembers members && depth key ≤ levels
      && sharedMembers.all (fun (name, test) => match under members name with
        | [] => true
        | [j] => isNothing false j || test j
        | _ => false)
      && kinds.any fun parts => parts.all fun (name, test) => match under members name with
        | [j] => test j
        | _ => false
  | _ => false

end PoolScaler.TokenKey
