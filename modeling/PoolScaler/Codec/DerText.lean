import PoolScaler.Text.Utf8
import PoolScaler.Time.Stamp
set_option autoImplicit false

/-!
# Texts and times in tagged values

Which bytes may stand in the kinds of values that hold texts and points in
time.  What they say does not matter.
-/

namespace PoolScaler.Codec.DerText

/-- Bytes read as one character each. -/
def characters (bytes : List UInt8) : List Char := bytes.map fun b => Char.ofNat b.toNat

/-- A text of letters, digits and some marks. -/
def isPrintable (bytes : List UInt8) : Bool :=
  (characters bytes).all fun c =>
    c.isAlphanum || c ∈ [' ', '\'', '(', ')', '+', ',', '-', '.', '/', ':', '=', '?']

/-- A text in UTF-8. -/
def isText (bytes : List UInt8) : Bool := (Text.Utf8.decode? bytes).isSome

/-- A year, a month, a day, an hour, a minute and a second, two digits each but
for the year, and what follows. -/
def moment? (cs : List Char) : Option (List Char) := do
  let (year, cs) ← Stamp.digits? 4 cs
  let (month, cs) ← Stamp.digits? 2 cs
  let (day, cs) ← Stamp.digits? 2 cs
  let (hour, cs) ← Stamp.digits? 2 cs
  let (minute, cs) ← Stamp.digits? 2 cs
  let (second, cs) ← Stamp.digits? 2 cs
  if 1 ≤ month ∧ month ≤ 12 ∧ 1 ≤ day ∧ day ≤ Stamp.daysInMonth year month
      ∧ hour < 24 ∧ minute < 60 ∧ second < 60 then
    some cs
  else none

/-- A point in time with two digits for its year, of which those from 50 on are
of the century before. -/
def isShortMoment (bytes : List UInt8) : Bool :=
  let cs := characters bytes
  let century := if (Text.digitsValue (cs.take 2)) < 50 then ['2', '0'] else ['1', '9']
  moment? (century ++ cs) = some ['Z']

/-- A point in time with a fraction of a second, before which the point may be
missing. -/
def isLongMoment (bytes : List UInt8) : Bool :=
  match moment? (characters bytes) with
  | none => false
  | some rest =>
    let digits := if rest.head? = some '.' then rest.tail else rest
    digits.dropWhile Text.isDigit = ['Z']

example : isShortMoment (Text.Utf8.encode "240229235959Z") = true := by decide +kernel
example : isShortMoment (Text.Utf8.encode "230229235959Z") = false := by decide +kernel
example : isLongMoment (Text.Utf8.encode "20240101000000.5Z") = true := by decide +kernel

end PoolScaler.Codec.DerText
