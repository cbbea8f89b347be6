set_option autoImplicit false

/-!
# Values of a settings text

A settings text is a table of values under keys.  Of fractional numbers it only
matters that they are numbers; dates and times are kept as their normal text.
-/

namespace PoolScaler

/-- A value of a settings text. -/
inductive Toml where
  /-- A text. -/
  | str (value : String)
  /-- A whole number of 64 bits. -/
  | int (value : Int)
  /-- Any other number. -/
  | real
  /-- A truth value. -/
  | bool (value : Bool)
  /-- A date, a time, or both. -/
  | moment (text : String)
  /-- A list. -/
  | arr (items : List Toml)
  /-- A table: values under keys, no key twice. -/
  | table (entries : List (String × Toml))
  deriving Inhabited, Repr

namespace Toml

/-- How deep values may be nested, and how many parts a key may have, not
including the bound. -/
def depthLimit : Nat := 80

/-- A way to read the front of a text: what was read and what is left. -/
abbrev Parser (α : Type) : Type := List Char → Option (α × List Char)

/-- A blank within a line. -/
def isSpace (c : Char) : Bool := c = ' ' || c = '\t'

/-- Pass over blanks. -/
def skipSpace (cs : List Char) : List Char := cs.dropWhile isSpace

/-- What is left after one line break. -/
def newline? : List Char → Option (List Char)
  | '\n' :: rest => some rest
  | '\r' :: '\n' :: rest => some rest
  | _ => none

/-- A character of a comment. -/
def isCommentChar (c : Char) : Bool := c = '\t' || (0x20 ≤ c.toNat && c.toNat ≠ 0x7F)

/-- Pass over a comment, if one begins here. -/
def skipComment : List Char → List Char
  | '#' :: rest => rest.dropWhile isCommentChar
  | cs => cs

/-- Pass over the blanks and the comment at the end of a line, and the line
break, unless the text ends. -/
def lineEnd? (cs : List Char) : Option (List Char) :=
  match skipComment (skipSpace cs) with
  | [] => some []
  | cs => newline? cs

end Toml

end PoolScaler
