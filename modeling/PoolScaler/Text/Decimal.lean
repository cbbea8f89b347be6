set_option autoImplicit false

/-!
# Decimal and hexadecimal numerals

Unsigned numerals as lists of characters: what a run of digits is worth, which
texts are numerals below a bound, and fixed-width groups of hexadecimal digits.
-/

namespace PoolScaler.Text

/-- A decimal digit of ASCII. -/
def isDigit (c : Char) : Bool := '0' ≤ c && c ≤ '9'

/-- What a decimal digit is worth. -/
def digitValue (c : Char) : Nat := c.toNat - 48

/-- What a run of decimal digits is worth, the first digit weighing most. -/
def digitsValue (cs : List Char) : Nat :=
  cs.foldl (fun n c => 10 * n + digitValue c) 0

@[simp] theorem digitsValue_nil : digitsValue [] = 0 := rfl

/-- The value of a numeral: one or more digits and nothing else. -/
def readDigits? (cs : List Char) : Option Nat :=
  if cs ≠ [] ∧ cs.all isDigit = true then some (digitsValue cs) else none

/-- The value of a numeral below `bound`, which may be written with a plus sign. -/
def readBelow? (bound : Nat) (cs : List Char) : Option Nat :=
  let digits := match cs with
    | '+' :: rest => rest
    | _ => cs
  match readDigits? digits with
  | some n => if n < bound then some n else none
  | none => none

/-- The value of an unsigned numeral that fits 64 bits. -/
def readWord? (cs : List Char) : Option UInt64 :=
  (readBelow? UInt64.size cs).map UInt64.ofNat

/-- What a hexadecimal digit is worth. -/
def hexValue? (c : Char) : Option Nat :=
  if isDigit c then some (digitValue c)
  else if 'a' ≤ c && c ≤ 'f' then some (c.toNat - 87)
  else if 'A' ≤ c && c ≤ 'F' then some (c.toNat - 55)
  else none

/-- What a group of hexadecimal digits is worth, if all of them are. -/
def hexValues? (cs : List Char) : Option Nat :=
  cs.foldl (fun n? c => match n?, hexValue? c with
    | some n, some d => some (16 * n + d)
    | _, _ => none) (some 0)

/-- The lower case hexadecimal digit worth `n`, for `n` below sixteen. -/
def hexDigit (n : Nat) : Char :=
  if n < 10 then Char.ofNat (48 + n) else Char.ofNat (87 + n)

/-- The upper case hexadecimal digit worth `n`, for `n` below sixteen. -/
def hexDigitUpper (n : Nat) : Char :=
  if n < 10 then Char.ofNat (48 + n) else Char.ofNat (55 + n)

/-- The shortest lower case hexadecimal numeral of `n`. -/
def hexNumeral (n : Nat) : List Char :=
  (Nat.toDigits 16 n)

/-- A decimal numeral of at least `width` digits, filled up with zeros. -/
def padded (width n : Nat) : String :=
  let digits := (toString n).toList
  String.ofList (List.replicate (width - digits.length) '0' ++ digits)

end PoolScaler.Text
