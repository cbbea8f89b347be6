import PoolScaler.Text.Alphanumeric
import PoolScaler.Text.Pieces
import PoolScaler.Web.Idna.Direction
import PoolScaler.Web.Idna.Joining
import PoolScaler.Web.Idna.Mapping
import PoolScaler.Web.Idna.Punycode
set_option autoImplicit false

/-!
# Names of hosts

A name in any script, written in ASCII.  Its characters are mapped, so that
names that look the same are the same, and each label with others than those of
ASCII is written in them, after a mark that tells so.
-/

namespace PoolScaler.Web.Idna

/-- What a label in ASCII begins with that stands for another. -/
def asciiMark : List Char := "xn--".toList

/-- How long a label may be before it is written in ASCII, and after. -/
def labelLimit : Nat := 1000

/-- A character of ASCII. -/
def isAscii (c : Char) : Bool := c.toNat < 0x80

/-- A label begins with no mark, and its joiners make a difference. -/
def isFit (label : List Char) : Bool := !label.head?.any Text.isMark && joinersFit [] label

/-- The label that one in ASCII stands for.  It has others than those of ASCII,
and they are what they would be mapped to. -/
def unmarked? (rest : List Char) : Option (List Char) :=
  if rest.getLast? = some '-' ∨ rest.all isAscii = false ∨ 2 * labelLimit < rest.length then none
  else
    match Punycode.decode? rest with
    | some label =>
      if label.isEmpty ∨ label.all isAscii = true ∨ label.any (useOf · ≠ .kept) = true
          ∨ Text.compose label ≠ label then none
      else some label
    | none => none

/-- A label as it is shown and as it is written in ASCII, if a name may have it. -/
def label? (label : List Char) : Option (List Char × List Char) :=
  if asciiMark.isPrefixOf label then
    match unmarked? (label.drop asciiMark.length) with
    | some shown => if isFit shown then some (shown, label) else none
    | none => none
  else if !isFit label then none
  else if label.all isAscii then some (label, label)
  else if labelLimit < label.length then none
  else some (label, asciiMark ++ Punycode.encode label)

/-- A name in ASCII.  If some of it is written from right to left, each label has
to go one way. -/
def ascii? (name : List Char) : Option (List Char) := do
  let mapped ← mapped? name
  let labels ← (Text.pieces '.' (Text.compose mapped)).mapM label?
  let shown := labels.map Prod.fst
  if shown.any (·.any turns) && !shown.all goesOneWay then none
  else return List.intercalate ['.'] (labels.map Prod.snd)

end PoolScaler.Web.Idna
