import PoolScaler.Json.Basic
import PoolScaler.Text.Decimal
set_option autoImplicit false

/-!
# Writing JSON

Values in their shortest form: no white space, members in the order given.
In texts only quotes, backslashes and control characters are escaped.
-/

namespace PoolScaler.Json

/-- How one character is written between quotes. -/
def escape (c : Char) : List Char :=
  if c = '"' then ['\\', '"']
  else if c = '\\' then ['\\', '\\']
  else if c = '\x08' then ['\\', 'b']
  else if c = '\x0c' then ['\\', 'f']
  else if c = '\n' then ['\\', 'n']
  else if c = '\r' then ['\\', 'r']
  else if c = '\t' then ['\\', 't']
  else if c.toNat < 0x20 then
    ['\\', 'u', '0', '0', Text.hexDigit (c.toNat / 16), Text.hexDigit (c.toNat % 16)]
  else [c]

/-- A text between quotes. -/
def writeText (s : String) : List Char := '"' :: s.toList.flatMap escape ++ ['"']

mutual

/-- The characters of a value.  Numbers that are not whole are not kept and
unreadable pieces have no text; both are written as null. -/
def write : Json → List Char
  | .null => ['n', 'u', 'l', 'l']
  | .bool true => ['t', 'r', 'u', 'e']
  | .bool false => ['f', 'a', 'l', 's', 'e']
  | .int n => (toString n).toList
  | .real => ['n', 'u', 'l', 'l']
  | .str s => writeText s
  | .arr items _ => '[' :: writeItems items ++ [']']
  | .obj members _ => '\x7b' :: writeMembers members ++ ['\x7d']
  | .spoiled _ _ _ => ['n', 'u', 'l', 'l']

/-- The items of a list, with commas between them. -/
def writeItems : List Json → List Char
  | [] => []
  | [j] => write j
  | j :: rest => write j ++ ',' :: writeItems rest

/-- The members of an object, with commas between them. -/
def writeMembers : List (Except Fault String × Json) → List Char
  | [] => []
  | [(name, j)] => writeName name ++ ':' :: write j
  | (name, j) :: rest => writeName name ++ ':' :: write j ++ ',' :: writeMembers rest

/-- The name of a member. -/
def writeName : Except Fault String → List Char
  | .ok s => writeText s
  | .error _ => writeText ""

end

/-- The text of a value. -/
def render (j : Json) : String := String.ofList (write j)

end PoolScaler.Json
