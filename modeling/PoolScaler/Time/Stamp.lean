import PoolScaler.Text.Decimal
set_option autoImplicit false

/-!
# Points in time as the job source writes them

RFC 3339 date-times, read as seconds of Unix time.  Fractions of a second are
dropped and a leap second counts as the second before it.
-/

namespace PoolScaler.Stamp

/-- Days in each month of a year. -/
def daysInMonth (year month : Nat) : Nat :=
  if month == 2 then
    if year % 4 == 0 && (year % 100 != 0 || year % 400 == 0) then 29 else 28
  else if month == 4 || month == 6 || month == 9 || month == 11 then 30
  else 31

/-- Days from 1970-01-01 to a date of the Gregorian calendar, counted with the
year starting in March so that the leap day is its last. -/
def daysFromEpoch (year month day : Nat) : Int :=
  let y : Int := if month ≤ 2 then (year : Int) - 1 else year
  let era := y / 400
  let yearOfEra := y % 400
  let shifted := (month + 9) % 12
  let dayOfYear := (153 * shifted + 2) / 5 + day - 1
  let dayOfEra := yearOfEra * 365 + yearOfEra / 4 - yearOfEra / 100 + dayOfYear
  era * 146097 + dayOfEra - 719468

example : daysFromEpoch 1970 1 1 = 0 := by decide
example : daysFromEpoch 2000 3 1 = 11017 := by decide

/-- A number of exactly `n` digits at the start of a text, and the rest. -/
def digits? (n : Nat) (cs : List Char) : Option (Nat × List Char) :=
  let head := cs.take n
  if head.length = n ∧ head.all Text.isDigit = true then
    some (Text.digitsValue head, cs.drop n)
  else none

/-- One fixed character at the start of a text, and the rest. -/
def char? (c : Char) : List Char → Option (List Char)
  | d :: rest => if d = c then some rest else none
  | [] => none

/-- The fraction of a second, if one is written: a point and one or more digits. -/
def fraction? : List Char → Option (List Char)
  | '.' :: rest =>
    match rest with
    | d :: _ => if Text.isDigit d then some (rest.dropWhile Text.isDigit) else none
    | [] => none
  | cs => some cs

/-- The distance from universal time in seconds, east being positive; it must
be less than a day and end the text. -/
def offset? (cs : List Char) : Option Int :=
  let signed (sign : Int) (cs : List Char) : Option Int :=
    match digits? 2 cs with
    | none => none
    | some (hours, cs) =>
      match char? ':' cs with
      | none => none
      | some cs =>
        match digits? 2 cs with
        | some (minutes, []) =>
          if hours < 24 ∧ minutes < 60 then some (sign * (hours * 3600 + minutes * 60)) else none
        | _ => none
  match cs with
  | ['Z'] | ['z'] => some 0
  | '+' :: rest => signed 1 rest
  | '-' :: rest => signed (-1) rest
  | '\u2212' :: rest => signed (-1) rest
  | _ => none

/-- The seconds of Unix time that a date-time denotes. -/
def parse? (s : String) : Option Int := do
  let (year, cs) ← digits? 4 s.toList
  let cs ← char? '-' cs
  let (month, cs) ← digits? 2 cs
  let cs ← char? '-' cs
  let (day, cs) ← digits? 2 cs
  let cs ← match cs with
    | 'T' :: rest | 't' :: rest | ' ' :: rest => some rest
    | _ => none
  let (hour, cs) ← digits? 2 cs
  let cs ← char? ':' cs
  let (minute, cs) ← digits? 2 cs
  let cs ← char? ':' cs
  let (second, cs) ← digits? 2 cs
  let cs ← fraction? cs
  let east ← offset? cs
  if 1 ≤ month ∧ month ≤ 12 ∧ 1 ≤ day ∧ day ≤ daysInMonth year month
      ∧ hour < 24 ∧ minute < 60 ∧ second ≤ 60 then
    let ofDay := hour * 3600 + minute * 60 + Nat.min second 59
    some (daysFromEpoch year month day * 86400 + ofDay - east)
  else none

/-- Two digits of a date or a time. -/
def twoDigits (n : Nat) : String := Text.padded 2 n

/-- The year, the month and the day of a day counted from the start of 1970. -/
def dateOf (days : Nat) : Nat × Nat × Nat :=
  let day := days + 719468
  let era := day / 146097
  let ofEra := day % 146097
  let year := (ofEra - ofEra / 1460 + ofEra / 36524 - ofEra / 146096) / 365
  let ofYear := ofEra - (365 * year + year / 4 - year / 100)
  let month := (5 * ofYear + 2) / 153
  let ofMonth := ofYear - (153 * month + 2) / 5 + 1
  let civil := if month < 10 then month + 3 else month - 9
  (year + era * 400 + (if civil ≤ 2 then 1 else 0), civil, ofMonth)

/-- The date-time of a number of seconds of Unix time. -/
def render (seconds : Nat) : String :=
  let (year, month, day) := dateOf (seconds / 86400)
  let ofDay := seconds % 86400
  Text.padded 4 year ++ "-" ++ twoDigits month ++ "-" ++ twoDigits day ++ "T"
    ++ twoDigits (ofDay / 3600) ++ ":" ++ twoDigits (ofDay / 60 % 60) ++ ":"
    ++ twoDigits (ofDay % 60) ++ "Z"

example : render 4070908800 = "2099-01-01T00:00:00Z" := by decide
example : parse? "2099-01-01T00:00:00Z" = some 4070908800 := by decide
example : parse? "2099-01-01t02:00:00.5+02:00" = some 4070908800 := by decide
example : parse? "2099-02-29T00:00:00Z" = none := by decide

end PoolScaler.Stamp
