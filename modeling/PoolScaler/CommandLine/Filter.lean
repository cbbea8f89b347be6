import PoolScaler.CommandLine.Notice
import PoolScaler.CommandLine.Pattern
set_option autoImplicit false

/-!
# Filters

Which notices are written.  A filter is a list of rules with commas between
them; a rule names a target, a span that the program has to be in, or a field
that a notice has to have, and the levels it lets pass.  Of the rules that fit
a notice the most exact one counts.
-/

namespace PoolScaler.CommandLine

/-! ## Rules -/

/-- A field that a notice has to have. -/
structure Trait where
  name : String
  /-- Its value has to be of a kind, too. -/
  valued : Bool
  deriving DecidableEq, Repr, Inhabited

/-- A rule of a filter: the notices that it is about are written up to a rank. -/
structure Rule where
  /-- How the target of a notice begins. -/
  target : Option String
  /-- What the program is in the middle of. -/
  span : Option String
  traits : List Trait
  rank : Nat
  deriving DecidableEq, Repr, Inhabited

/-- A rule that says nothing yet. -/
def Rule.blank : Rule := ⟨none, none, [], 5⟩

/-- A filter. -/
abbrev Filter : Type := List Rule

/-! ## Reading -/

/-- Why a text is no filter. -/
inductive Misfit where
  /-- A rule cannot be read. -/
  | unreadable
  /-- A part of a rule begins or ends inside a character. -/
  | torn
  deriving DecidableEq, Repr, Inhabited

/-- The rank of a level as it is written. -/
def rank? (word : String) : Option Nat :=
  match word.toLower with
  | "off" => some 0
  | "error" => some 1
  | "warn" => some 2
  | "info" => some 3
  | "debug" => some 4
  | "trace" => some 5
  | w => Text.readBelow? 6 w.toList

/-- A text cut after so many bytes. -/
def cutAt? (n : Nat) : List Char → Option (List Char × List Char)
  | [] => if n = 0 then some ([], []) else none
  | c :: rest =>
    if n = 0 then some ([], c :: rest)
    else if n < c.utf8Size then none
    else (cutAt? (n - c.utf8Size) rest).map fun (front, back) => (c :: front, back)

/-- The bytes of a text from `a` on, up to `b` if that is given. -/
def slice (cs : List Char) (a : Nat) (b : Option Nat) : Except Misfit String :=
  let front? := match b with
    | some b => (cutAt? b cs).map Prod.fst
    | none => some cs
  match front?.bind (cutAt? a) with
  | some (_, middle) => .ok (String.ofList middle)
  | none => .error .torn

/-- A number that may be written with a plus sign, which no pattern begins with. -/
def isPositive : List Char → Bool
  | '+' :: rest =>
    let isMark (c : Char) : Bool := c = 'e' || c = 'E'
    let point := rest.takeWhile fun c => !isMark c
    let whole := point.takeWhile Text.isDigit
    let fraction := (point.drop whole.length).tail
    let exponent := match rest.drop point.length with
      | [] => true
      | _ :: '+' :: digits | _ :: '-' :: digits | _ :: digits => (Text.readDigits? digits).isSome
    (String.ofList (rest.map Char.toLower)) ∈ ["inf", "infinity", "nan"]
      || (exponent && fraction.all Text.isDigit && !(whole ++ fraction).isEmpty
        && (point.drop whole.length).head?.all (· = '.'))
  | _ => false

/-- The field of a text: a name, and after an equals sign the kind of its value. -/
def Trait.read (text : String) : Except Misfit Trait :=
  match text.splitOn "=" with
  | [""] => .error .unreadable
  | name :: value :: _ =>
    let cs := value.toList
    if isPositive cs ∨ isPattern cs = true then .ok ⟨name, true⟩ else .error .unreadable
  | parts => .ok ⟨parts.headD "", false⟩

/-- Where in a rule a character stands; a part of the rule begins at a byte. -/
inductive Place where
  /-- At the start. -/
  | start
  /-- In a target or a level. -/
  | word
  /-- In the level after an equals sign. -/
  | level (since : Nat)
  /-- In the name of a span. -/
  | span (since : Nat)
  /-- In a field. -/
  | trait (since : Nat)
  /-- After the fields. -/
  | traits
  /-- After the brackets. -/
  | bracket
  deriving DecidableEq, Repr, Inhabited

/-- A character that a rule may begin with. -/
def isRuleStart (c : Char) : Bool := c ∈ ['-', ':', '_'] || Text.isAlphanumeric c

/-- A rule up to some character, and where that stands. -/
structure Rule.Partial where
  rule : Rule
  place : Place
  deriving DecidableEq, Repr, Inhabited

/-- One character of a rule, which stands at byte `i`; the parts of the rule are
taken from `whole`. -/
def Rule.Partial.step (whole : List Char) (p : Rule.Partial) (i : Nat) (c : Char) :
    Except Misfit Rule.Partial :=
  match p.place with
  | .start =>
    if c = '[' then .ok { p with place := .span (i + 1) }
    else if isRuleStart c then .ok { p with place := .word }
    else .error .unreadable
  | .word =>
    if c = '=' ∨ c = '[' then do
      let target ← slice whole 0 (some i)
      return { rule := { p.rule with target := some target }
               place := if c = '=' then .level (i + 1) else .span (i + 1) }
    else .ok p
  | .level _ => .ok p
  | .span since =>
    if c = ']' ∨ c = '\x7b' then do
      let span ← slice whole since (some i)
      let span? := if c = '\x7b' ∧ span.isEmpty then none else some span
      return { rule := { p.rule with span := span? }
               place := if c = ']' then .bracket else .trait (i + 1) }
    else .ok p
  | .trait since =>
    if c = '\x7d' then do
      let trait ← Trait.read (← slice whole since (some i))
      return { rule := { p.rule with traits := p.rule.traits ++ [trait] }, place := .traits }
    else .ok p
  | .traits => if c = ']' then .ok { p with place := .bracket } else .error .unreadable
  | .bracket => if c = '=' then .ok { p with place := .level (i + 1) } else .error .unreadable

/-- A rule at its end. -/
def Rule.Partial.finish (whole : List Char) (p : Rule.Partial) : Except Misfit Rule :=
  match p.place with
  | .word => do
    let word ← slice whole 0 none
    match rank? word with
    | some rank => return { p.rule with rank := rank }
    | none => return { p.rule with target := some word }
  | .level since => do
    let word ← slice whole since none
    if word.isEmpty then return p.rule
    else match rank? word with
      | some rank => return { p.rule with rank := rank }
      | none => .error .unreadable
  | .bracket => .ok p.rule
  | _ => .error .unreadable

/-- The characters of a rule from byte `i` on. -/
def Rule.scan (whole : List Char) (i : Nat) (p : Rule.Partial) : List Char → Except Misfit Rule
  | [] => p.finish whole
  | c :: rest => do Rule.scan whole (i + c.utf8Size) (← p.step whole i c) rest

/-- The rule of a text.  Its places are counted without the blanks around it,
but its parts are taken from the text as it is. -/
def Rule.read (text : String) : Except Misfit Rule :=
  Rule.scan text.toList 0 ⟨.blank, .start⟩ (Text.trim text.toList)

/-- The filter of a text; without any rule only failures are written. -/
def Filter.read (text : String) : Except Misfit Filter :=
  let parts := (text.splitOn ",").filter fun part => !part.isEmpty
  if parts.isEmpty then .ok [{ Rule.blank with rank := 1 }] else parts.mapM Rule.read

/-- The filter unless another is set. -/
def Filter.usual : Filter :=
  { Rule.blank with rank := 3 } ::
    ["fleetd", "runnerfleet_listener", "runnerfleet_autoscale"].map fun target =>
      { Rule.blank with target := some target, rank := 4 }

/-- The filter of an environment: the one that is set, if it can be read.  One
that is torn ends the program. -/
def Filter.ofEnvironment? (setting : Option String) : Option Filter :=
  match setting.map Filter.read with
  | some (.ok f) => some f
  | some (.error .torn) => none
  | some (.error .unreadable) | none => some .usual

/-! ## Passing -/

/-- A rule is about a notice.  One that asks for a span or for values says
nothing about notices on their own. -/
def Rule.fits (r : Rule) (n : Notice) : Bool :=
  r.span.isNone && r.target.all (fun start => start.toList.isPrefixOf n.target.toList)
    && r.traits.all fun t => !t.valued && (t.name = "message" || n.fields.any (·.1 = t.name))

/-- How exact a rule is: by the length of its target, then by its fields. -/
def Rule.weight (r : Rule) : Nat × Nat × List String :=
  ((r.target.map fun t => t.utf8ByteSize + 1).getD 0, r.traits.length, r.traits.map (·.name))

/-- A rule is no less exact than another. -/
def Rule.outranks (a b : Rule) : Bool :=
  let (m, k, xs) := a.weight
  let (n, l, ys) := b.weight
  n < m || (m = n && (l < k || (k = l && !xs.lex ys fun x y => decide (x < y))))

/-- The last one of the most exact rules about a notice. -/
def Filter.rule? (f : Filter) (n : Notice) : Option Rule :=
  f.foldl (fun best r =>
    if r.fits n && best.all r.outranks then some r else best) none

/-- A filter lets a notice pass. -/
def Filter.passes (f : Filter) (n : Notice) : Bool :=
  match f.rule? n with
  | some r => n.level.rank ≤ r.rank
  | none => false

end PoolScaler.CommandLine
