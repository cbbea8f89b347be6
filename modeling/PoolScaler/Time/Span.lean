import PoolScaler.Text.Pieces
import PoolScaler.Text.Decimal
set_option autoImplicit false

/-!
# Lengths of time

A span counts whole milliseconds.  Settings write spans as a number with a
unit: `500ms`, `30s`, `5m`, `1h`, or bare seconds.
-/

namespace PoolScaler

/-- A length of time in milliseconds. -/
structure Span where
  millis : Nat
  deriving DecidableEq, Repr, Inhabited

namespace Span

/-- No time at all. -/
def zero : Span := ⟨0⟩

/-- A span of whole seconds. -/
def ofSeconds (n : Nat) : Span := ⟨1000 * n⟩

/-- The whole seconds of a span. -/
def seconds (s : Span) : Nat := s.millis / 1000

/-- What is left of a span beside its whole seconds, in milliseconds. -/
def subsecond (s : Span) : Nat := s.millis % 1000

/-- The shorter of two spans. -/
def min (a b : Span) : Span := if a.millis ≤ b.millis then a else b

/-- The units a span is written in. -/
inductive Unit where
  /-- Milliseconds, `ms`. -/
  | milli
  /-- Seconds, `s` or no suffix. -/
  | second
  /-- Minutes, `m`. -/
  | minute
  /-- Hours, `h`. -/
  | hour
  deriving DecidableEq, Repr, Inhabited

/-- Milliseconds in one unit. -/
def Unit.millis : Unit → Nat
  | .milli => 1
  | .second => 1000
  | .minute => 60000
  | .hour => 3600000

/-- A written span taken apart: the numeral before its unit and the unit.  A
two-letter unit is looked for first, since it ends like a one-letter one. -/
def splitUnit (cs : List Char) : List Char × Unit :=
  match cs.reverse with
  | 's' :: 'm' :: rest => (rest.reverse, .milli)
  | 's' :: rest => (rest.reverse, .second)
  | 'm' :: rest => (rest.reverse, .minute)
  | 'h' :: rest => (rest.reverse, .hour)
  | _ => (cs, .second)

/-- The span a text denotes: blanks around it aside, an unsigned numeral of 64
bits and a unit. -/
def parse? (s : String) : Option Span :=
  let (numeral, unit) := splitUnit (Text.trim s.toList)
  (Text.readBelow? UInt64.size numeral).map fun n => ⟨n * unit.millis⟩

example : parse? "30s" = some ⟨30000⟩ := by decide
example : parse? " +2m\n" = some ⟨120000⟩ := by decide
example : parse? "s" = none := by decide
example : parse? "1d" = none := by decide

end Span

end PoolScaler
