import PoolScaler.Time.Stamp
import PoolScaler.Toml.Basic
set_option autoImplicit false

/-!
# Dates and times

A date, a time of day, or a date with a time and perhaps the distance from
universal time.  The value of one is its normal text.
-/

namespace PoolScaler.Toml

/-- Two digits worth no less than `low` and no more than `high`. -/
def twoDigits (low high : Nat) (cs : List Char) : Option (Nat × List Char) :=
  match Stamp.digits? 2 cs with
  | some (n, rest) => if low ≤ n ∧ n ≤ high then some (n, rest) else none
  | none => none

/-- A date, as its text. -/
def date (cs : List Char) : Option (String × List Char) := do
  let (year, cs) ← Stamp.digits? 4 cs
  let cs ← Stamp.char? '-' cs
  let (month, cs) ← twoDigits 1 12 cs
  let cs ← Stamp.char? '-' cs
  let (day, cs) ← twoDigits 1 (Stamp.daysInMonth year month) cs
  return (Text.padded 4 year ++ "-" ++ Text.padded 2 month ++ "-" ++ Text.padded 2 day, cs)

/-- The digits after the point of a second, to the billionth, without zeros at
the end. -/
def subsecond : List Char → Option (String × List Char)
  | '.' :: rest =>
    match rest.takeWhile Text.isDigit with
    | [] => none
    | digits =>
      let kept := ((digits.take 9).reverse.dropWhile (· == '0')).reverse
      some (if kept.isEmpty then "" else "." ++ String.ofList kept,
        rest.dropWhile Text.isDigit)
  | cs => some ("", cs)

/-- A time of day, as its text. -/
def timeOfDay (cs : List Char) : Option (String × List Char) := do
  let (hour, cs) ← twoDigits 0 23 cs
  let cs ← Stamp.char? ':' cs
  let (minute, cs) ← twoDigits 0 59 cs
  let cs ← Stamp.char? ':' cs
  let (second, cs) ← twoDigits 0 60 cs
  let (fraction, cs) ← subsecond cs
  return (Text.padded 2 hour ++ ":" ++ Text.padded 2 minute ++ ":" ++ Text.padded 2 second
    ++ fraction, cs)

/-- The distance from universal time, as its text, if it is given. -/
def offset (cs : List Char) : Option (String × List Char) :=
  match cs with
  | 'Z' :: rest | 'z' :: rest => some ("Z", rest)
  | '+' :: rest => signed "+" rest
  | '-' :: rest => signed "-" rest
  | _ => some ("", cs)
where
  /-- A distance after its sign. -/
  signed (sign : String) (cs : List Char) : Option (String × List Char) := do
    let (hour, cs) ← twoDigits 0 23 cs
    let cs ← Stamp.char? ':' cs
    let (minute, cs) ← twoDigits 0 59 cs
    return (sign ++ Text.padded 2 hour ++ ":" ++ Text.padded 2 minute, cs)

/-- What may stand between a date and a time. -/
def isDivider (c : Char) : Bool := c = 'T' || c = 't' || c = ' '

/-- A date, a time, or both. -/
def anyMoment (cs : List Char) : Option (Toml × List Char) :=
  match date cs with
  | some (day, rest) =>
    match rest with
    | c :: more =>
      if isDivider c then
        match timeOfDay more with
        | some (time, more) =>
          (offset more).map fun (zone, more) => (.moment (day ++ "T" ++ time ++ zone), more)
        | none => some (.moment day, rest)
      else some (.moment day, rest)
    | [] => some (.moment day, rest)
  | none => (timeOfDay cs).map fun (time, rest) => (.moment time, rest)

end PoolScaler.Toml
