import PoolScaler.Text.Decimal
set_option autoImplicit false

/-!
# How large a number is

A number with a fraction or an exponent is read as a significand of 64 bits and
a power of ten, and is too large when the product of the two, each rounded to a
double, is.  Digits that no longer fit the significand only count as places.
-/

namespace PoolScaler.Json

/-- A natural number rounded to 53 bits, a half going to the even neighbour. -/
def roundDouble (n : Nat) : Nat :=
  let spare := n.log2 - 52
  let unit := Nat.pow 2 spare
  let q := n / unit
  let r := n % unit
  if unit < 2 * r ∨ (2 * r = unit ∧ q % 2 = 1) then (q + 1) * unit else q * unit

example : roundDouble (Nat.pow 2 53 + 1) = Nat.pow 2 53 := by decide +kernel
example : roundDouble (Nat.pow 2 53 + 3) = Nat.pow 2 53 + 4 := by decide +kernel

/-- What has been read of a number: the significand and the power of ten. -/
structure Magnitude where
  significand : Nat
  exponent : Int
  deriving DecidableEq, Repr, Inhabited

namespace Magnitude

/-- Append digits as long as the significand fits 64 bits; the digits that are
left over are returned. -/
def fill (significand : Nat) : List Char → Nat × List Char
  | [] => (significand, [])
  | c :: rest =>
    let n := 10 * significand + Text.digitValue c
    if n < UInt64.size then fill n rest else (significand, c :: rest)

/-- The digits of a whole number; each one that is left over is a place. -/
def ofWhole (digits : List Char) : Magnitude :=
  let (n, left) := fill 0 digits
  ⟨n, left.length⟩

/-- The digits of a fraction after those of the whole; the ones that are left
over do not count. -/
def withFraction (m : Magnitude) (digits : List Char) : Magnitude :=
  let (n, left) := fill m.significand digits
  ⟨n, m.exponent - (digits.length - left.length : Nat)⟩

/-- The number after the `e` adds to the power of ten. -/
def withExponent (m : Magnitude) (e : Int) : Magnitude := { m with exponent := m.exponent + e }

/-- The number is beyond every double. -/
def overflows (m : Magnitude) : Bool :=
  if m.significand = 0 ∨ m.exponent < 0 then false
  else if 308 < m.exponent then true
  else
    Nat.pow 2 1024 - Nat.pow 2 970
      ≤ roundDouble m.significand * roundDouble (Nat.pow 10 m.exponent.toNat)

example : (withExponent ⟨17976931348623157, 0⟩ 292).overflows = false := by decide +kernel
example : (withExponent ⟨1797693134862315807, 0⟩ 290).overflows = true := by decide +kernel

end Magnitude

end PoolScaler.Json
