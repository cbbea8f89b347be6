import PoolScaler.Text.Decimal
import PoolScaler.Toml.Basic
set_option autoImplicit false

/-!
# Numbers

Whole numbers in four bases and numbers with a fraction or an exponent.
Underscores may stand between digits.
-/

namespace PoolScaler.Toml

/-- The digits at the front of a text, without the underscores between them: at
least one, and each underscore between two. -/
def digitRun (isDigit : Char → Bool) : Parser (List Char)
  | [] => none
  | c :: rest => if isDigit c then some (more [c] rest) else none
where
  /-- Digits after the first one, the last one first. -/
  more (done : List Char) : List Char → List Char × List Char
    | '_' :: c :: rest =>
      if isDigit c then more (c :: done) rest else (done.reverse, '_' :: c :: rest)
    | c :: rest => if isDigit c then more (c :: done) rest else (done.reverse, c :: rest)
    | [] => (done.reverse, [])

/-- The sign at the front of a text: whether it is a minus. -/
def sign : List Char → Bool × List Char
  | '+' :: rest => (false, rest)
  | '-' :: rest => (true, rest)
  | cs => (false, cs)

/-- The digits of a decimal number, which has no zeros in front. -/
def decimalRun : Parser (List Char)
  | '0' :: rest => some (['0'], rest)
  | cs => digitRun Text.isDigit cs

/-- A value that fits a signed word of 64 bits. -/
def word? (n : Int) : Option Toml :=
  if -9223372036854775808 ≤ n ∧ n ≤ 9223372036854775807 then some (.int n) else none

/-- What digits of a base are worth. -/
def baseValue (base : Nat) (cs : List Char) : Nat :=
  cs.foldl (fun n c => n * base + (Text.hexValue? c).getD 0) 0

/-- A digit of a base up to sixteen. -/
def isBaseDigit (base : Nat) (c : Char) : Bool := (Text.hexValue? c).any (· < base)

/-- A whole number. -/
def integer (cs : List Char) : Option (Toml × List Char) :=
  match cs with
  | '0' :: 'x' :: rest => based 16 rest
  | '0' :: 'o' :: rest => based 8 rest
  | '0' :: 'b' :: rest => based 2 rest
  | _ => do
    let (negative, rest) := sign cs
    let (digits, rest) ← decimalRun rest
    let n : Int := Text.digitsValue digits
    let v ← word? (if negative then -n else n)
    return (v, rest)
where
  /-- A number in a given base, after the mark of the base. -/
  based (base : Nat) (cs : List Char) : Option (Toml × List Char) := do
    let (digits, rest) ← digitRun (isBaseDigit base) cs
    let v ← word? (baseValue base digits)
    return (v, rest)

/-- The least number that is too large for a float: half a step above the
largest one. -/
def floatBound : Nat := Nat.pow 2 1024 - Nat.pow 2 970

/-- A number, `digits` times a power of ten, is too large for a float. -/
def isTooLarge (digits : List Char) (exponent : Int) : Bool :=
  let digits := digits.dropWhile (· == '0')
  let magnitude := exponent + digits.length
  if digits.isEmpty then false
  else if magnitude ≤ 308 then false
  else if 310 ≤ magnitude then true
  else
    let n := Text.digitsValue digits
    if 0 ≤ exponent then floatBound ≤ n * Nat.pow 10 exponent.toNat
    else floatBound * Nat.pow 10 (-exponent).toNat ≤ n

/-- The exponent of a number. -/
def exponent : Parser Int
  | 'e' :: rest | 'E' :: rest => do
    let (negative, rest) := sign rest
    let (digits, rest) ← digitRun Text.isDigit rest
    let n : Int := Text.digitsValue digits
    return (if negative then -n else n, rest)
  | _ => none

/-- The digits after a point. -/
def fraction : Parser (List Char)
  | '.' :: rest => digitRun Text.isDigit rest
  | _ => none

/-- Words for numbers that have no digits, after the sign. -/
def special? : List Char → Option (List Char)
  | 'i' :: 'n' :: 'f' :: rest => some rest
  | 'n' :: 'a' :: 'n' :: rest => some rest
  | _ => none

/-- A number with a fraction or an exponent.  One that is too large must be
below zero. -/
def realNumber (cs : List Char) : Option (Toml × List Char) :=
  let (negative, rest) := sign cs
  match special? rest with
  | some rest => some (.real, rest)
  | none => do
    let (whole, rest) ← decimalRun rest
    let (digits, shift, rest) ← match fraction rest with
      | some (after, rest) =>
        match exponent rest with
        | some (e, rest) => some (whole ++ after, e - after.length, rest)
        | none => some (whole ++ after, -after.length, rest)
      | none => (exponent rest).map fun (e, rest) => (whole, e, rest)
    if isTooLarge digits shift && !negative then none else some (.real, rest)

end PoolScaler.Toml
