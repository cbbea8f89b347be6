import PoolScaler.Text.Alphanumeric
import PoolScaler.Text.Pieces
set_option autoImplicit false

/-!
# Patterns

Which texts are patterns that values can be held against.  There are groups,
alternatives, repetitions, classes of characters and escapes.  Classes of
letters and the folding of cases are known for ASCII alone, so they cannot be
asked for where a pattern is about all characters.
-/

namespace PoolScaler.CommandLine.Pattern

/-- How a pattern is read from some place on. -/
structure Modes where
  /-- Upper and lower case are the same. -/
  folded : Bool
  /-- The pattern is about all characters, not about bytes. -/
  wide : Bool
  /-- Blanks and comments do not count. -/
  loose : Bool
  deriving DecidableEq, Repr, Inhabited

/-- How a pattern begins. -/
def Modes.start : Modes := ⟨false, true, false⟩

/-- Letters and classes can be compared. -/
def Modes.canCompare (m : Modes) : Bool := !(m.folded && m.wide)

/-- Pass over what does not count. -/
def skip (m : Modes) : Nat → List Char → List Char
  | 0, cs => cs
  | n + 1, cs =>
    match cs with
    | '#' :: rest => if m.loose then skip m n (rest.dropWhile (· ≠ '\n')) else cs
    | c :: rest => if m.loose && Text.isBlank c then skip m n rest else cs
    | [] => []

/-! ## Escapes -/

/-- What an escape stands for. -/
inductive Escape where
  /-- A character. -/
  | char (code : Nat)
  /-- One of many characters. -/
  | kind
  /-- A place between characters. -/
  | place
  deriving DecidableEq, Repr, Inhabited

/-- The character that a number of so many hexadecimal digits stands for. -/
def numbered? (digits : Nat) (cs : List Char) : Option (Escape × List Char) :=
  match Text.hexValues? (cs.take digits) with
  | some n => if cs.length < digits ∨ !Nat.isValidChar n then none else some (.char n, cs.drop digits)
  | none => none

/-- What stands after a backslash. -/
def escape? (m : Modes) : List Char → Option (Escape × List Char)
  | 'x' :: rest => numbered? 2 rest
  | 'u' :: rest => numbered? 4 rest
  | 'U' :: rest => numbered? 8 rest
  | c :: rest =>
    if c ∈ ['d', 's', 'w'] then if m.wide then none else some (.kind, rest)
    else if c ∈ ['A', 'z'] then some (.place, rest)
    else if c ∈ ['b', 'B', '<', '>'] then if m.wide then none else some (.place, rest)
    else if c ∈ ['a', 'f', 't', 'n', 'r', 'v'] then some (.char 10, rest)
    else if c.isAlphanum ∨ 0x80 ≤ c.toNat then none
    else some (.char c.toNat, rest)
  | [] => none

/-! ## Classes -/

/-- The names of classes that have one. -/
def classNames : List String :=
  ["alnum", "alpha", "ascii", "blank", "cntrl", "digit", "graph", "lower", "print", "punct",
    "space", "upper", "word", "xdigit"]

/-- What follows a class with a name, of which the bracket has been read. -/
def namedClass? : List Char → Option (List Char)
  | ':' :: rest =>
    let rest := if rest.head? = some '^' then rest.tail else rest
    let name := rest.takeWhile (· ≠ ':')
    match rest.drop name.length with
    | ':' :: ']' :: after => if String.ofList name ∈ classNames then some after else none
    | _ => none
  | _ => none

/-- What follows the start of a class: its bracket has been read, a caret turns
the class around, and dashes or a closing bracket may stand for themselves. -/
def classStart? (m : Modes) (cs : List Char) : Option (List Char) :=
  let clean (cs : List Char) : List Char := skip m cs.length cs
  let cs := clean cs
  let inside := if cs.head? = some '^' then clean cs.tail else cs
  if cs.head? = some '^' && !m.wide then none
  else
    let rest := clean (inside.dropWhile (· = '-'))
    let rest := if inside.head? = some ']' then clean rest.tail else rest
    if rest.isEmpty then none else some rest

/-- One character of a class, or an escape. -/
def classItem? (m : Modes) : List Char → Option (Escape × List Char)
  | '\\' :: rest => escape? m rest
  | c :: rest => if m.wide || c.toNat < 0x80 then some (.char c.toNat, rest) else none
  | [] => none

/-- One item of a class, or the ends of a range of characters. -/
def classRange? (m : Modes) (cs : List Char) : Option (List Char) := do
  let clean (cs : List Char) : List Char := skip m cs.length cs
  let (first, rest) ← classItem? m cs
  match clean rest with
  | '-' :: rest =>
    let rest := clean rest
    if rest.head? = some ']' ∨ rest.head? = some '-' then
      if first = .place then none else return '-' :: rest
    else
      match first, ← classItem? m rest with
      | .char a, (.char b, rest) => if a ≤ b then return rest else none
      | _, _ => none
  | rest => if first = .place then none else return rest

/-- What follows a class, of which so many brackets are open. -/
def classRest? (m : Modes) : Nat → Nat → List Char → Option (List Char)
  | 0, _, _ => none
  | n + 1, depth, cs =>
    match skip m cs.length cs with
    | [] => none
    | ']' :: rest => if depth ≤ 1 then some rest else classRest? m n (depth - 1) rest
    | '[' :: rest =>
      match namedClass? rest with
      | some rest => classRest? m n depth rest
      | none => (classStart? m rest).bind (classRest? m n (depth + 1))
    | '&' :: '&' :: rest | '-' :: '-' :: rest | '~' :: '~' :: rest => classRest? m n depth rest
    | cs => (classRange? m cs).bind (classRest? m n depth)

/-! ## Groups -/

/-- The modes that letters after a question mark set, up to a colon or a closing
bracket.  A dash takes back the letters after it; none may be repeated. -/
def flags? (m : Modes) (seen : List Char) : List Char → Option (Modes × Char × List Char)
  | [] => none
  | c :: rest =>
    if c = ':' ∨ c = ')' then
      if seen.head? = some '-' ∨ (c = ')' ∧ seen.isEmpty) then none else some (m, c, rest)
    else if seen.contains c then none
    else
      let on := !seen.contains '-'
      match c with
      | 'i' => flags? { m with folded := on } (c :: seen) rest
      | 'u' => flags? { m with wide := on } (c :: seen) rest
      | 'x' => flags? { m with loose := on } (c :: seen) rest
      | '-' | 'm' | 's' | 'U' | 'R' => flags? m (c :: seen) rest
      | _ => none

/-- The name of a group and what follows it. -/
def groupName? (cs : List Char) : Option (List Char × List Char) :=
  let name := cs.takeWhile (· ≠ '>')
  let isStart (c : Char) : Bool := c = '_' || (Text.isAlphanumeric c && !Text.isDigit c)
  let isPart (c : Char) : Bool := c ∈ ['_', '.', '[', ']'] || Text.isAlphanumeric c
  match cs.drop name.length with
  | _ :: rest => if name.head?.any isStart && name.all isPart then some (name, rest) else none
  | [] => none

/-- What has been read: the modes, those outside of each open group, whether
something stands here that can be repeated, and the names of groups. -/
structure Progress where
  modes : Modes
  outside : List Modes
  repeatable : Bool
  names : List (List Char)
  deriving Inhabited

/-- Begin a group with modes of its own. -/
def Progress.enter (p : Progress) (m : Modes) : Progress :=
  { p with modes := m, outside := p.modes :: p.outside, repeatable := false }

/-- What an opening bracket begins, and what follows. -/
def group? (p : Progress) (cs : List Char) : Option (Progress × List Char) :=
  let named (cs : List Char) : Option (Progress × List Char) :=
    (groupName? cs).bind fun (name, rest) =>
      if p.names.contains name then none
      else some ({ p.enter p.modes with names := name :: p.names }, rest)
  match skip p.modes cs.length cs with
  | '?' :: 'P' :: '<' :: rest => named rest
  | '?' :: '<' :: rest => named rest
  | '?' :: rest =>
    match flags? p.modes [] rest with
    | none => none
    | some (m, ':', rest) => some (p.enter m, rest)
    | some (m, _, rest) => some ({ p with modes := m, repeatable := false }, rest)
  | rest => some (p.enter p.modes, rest)

/-! ## Patterns -/

/-- Something that can be repeated stands here. -/
def Progress.item (p : Progress) : Progress := { p with repeatable := true }

/-- One step through a pattern. -/
def step (p : Progress) : List Char → Option (Progress × List Char)
  | '(' :: rest => group? p rest
  | ')' :: rest =>
    match p.outside with
    | m :: outside => some ({ p.item with modes := m, outside := outside }, rest)
    | [] => none
  | '|' :: rest => some ({ p with repeatable := false }, rest)
  | '[' :: rest =>
    if p.modes.canCompare then
      ((classStart? p.modes rest).bind (classRest? p.modes (rest.length + 1) 1)).map
        fun rest => (p.item, rest)
    else none
  | '\\' :: rest =>
    match escape? p.modes rest with
    | some (.char _, rest) => if p.modes.canCompare then some (p.item, rest) else none
    | some (_, rest) => some (p.item, rest)
    | none => none
  | '.' :: rest => if p.modes.wide then some (p.item, rest) else none
  | '\x7b' :: _ => none
  | c :: rest =>
    if c ∈ ['?', '*', '+'] then
      if p.repeatable then some (p, if rest.head? = some '?' then rest.tail else rest) else none
    else if c ∈ ['^', '$'] ∨ p.modes.canCompare = true then some (p.item, rest)
    else none
  | [] => none

/-- So many steps at most lead to the end of a pattern, with no group open. -/
def walk : Nat → Progress → List Char → Bool
  | 0, _, _ => false
  | n + 1, p, cs =>
    match skip p.modes cs.length cs with
    | [] => p.outside.isEmpty
    | cs =>
      match step p cs with
      | some (p, rest) => walk n p rest
      | none => false

end Pattern

/-- A text is a pattern. -/
def isPattern (cs : List Char) : Bool :=
  Pattern.walk (cs.length + 1) ⟨.start, [], false, []⟩ cs

example : isPattern "fleet.*|[^a-z]+?".toList = true := by decide +kernel
example : isPattern "(".toList = false := by decide +kernel
example : isPattern "a|*".toList = false := by decide +kernel
example : isPattern "[]a]".toList = true := by decide +kernel
example : isPattern "[z-a]".toList = false := by decide +kernel

end PoolScaler.CommandLine
