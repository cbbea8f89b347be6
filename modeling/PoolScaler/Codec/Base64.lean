import PoolScaler.Text.Decimal
set_option autoImplicit false

/-!
# Base64

Three bytes as four of sixty-four characters.  The standard alphabet is written
with padding, the alphabet for addresses without.  Reading is strict: there is
one written form of a sequence of bytes, and no other is read.
-/

namespace PoolScaler.Codec.Base64

/-- The characters for 62 and 63, and whether a written form is padded. -/
structure Variant where
  last : Char × Char
  padded : Bool
  deriving DecidableEq, Repr

/-- The standard alphabet, padded. -/
def standard : Variant := ⟨('+', '/'), true⟩

/-- The alphabet that is safe in addresses, not padded. -/
def urlSafe : Variant := ⟨('-', '_'), false⟩

/-- The character that stands for `n`, for `n` below 64. -/
def digit (v : Variant) (n : Nat) : Char :=
  if n < 26 then Char.ofNat (65 + n)
  else if n < 52 then Char.ofNat (71 + n)
  else if n < 62 then Char.ofNat (n - 4)
  else if n = 62 then v.last.1
  else v.last.2

/-- What a character stands for. -/
def value? (v : Variant) (c : Char) : Option Nat :=
  if 'A' ≤ c ∧ c ≤ 'Z' then some (c.toNat - 65)
  else if 'a' ≤ c ∧ c ≤ 'z' then some (c.toNat - 71)
  else if Text.isDigit c then some (c.toNat + 4)
  else if c = v.last.1 then some 62
  else if c = v.last.2 then some 63
  else none

/-- The padding that brings a written form to a multiple of four. -/
def padding (v : Variant) (n : Nat) : List Char := if v.padded then List.replicate n '=' else []

/-- The written form of bytes. -/
def encode (v : Variant) : List UInt8 → List Char
  | a :: b :: c :: rest =>
    let n := a.toNat * 65536 + b.toNat * 256 + c.toNat
    digit v (n / 262144) :: digit v (n / 4096 % 64) :: digit v (n / 64 % 64) :: digit v (n % 64)
      :: encode v rest
  | [a, b] =>
    let n := a.toNat * 256 + b.toNat
    digit v (n / 1024) :: digit v (n / 16 % 64) :: digit v (n % 16 * 4) :: padding v 1
  | [a] =>
    let n := a.toNat
    digit v (n / 4) :: digit v (n % 4 * 16) :: padding v 2
  | [] => []

/-- The bytes of groups of values; bits that belong to no byte must be zero. -/
def join : List Nat → Option (List UInt8)
  | a :: b :: c :: d :: rest =>
    let n := a * 262144 + b * 4096 + c * 64 + d
    (join rest).map fun bytes =>
      UInt8.ofNat (n / 65536) :: UInt8.ofNat (n / 256 % 256) :: UInt8.ofNat (n % 256) :: bytes
  | [a, b, c] =>
    let n := a * 4096 + b * 64 + c
    if n % 4 = 0 then some [UInt8.ofNat (n / 1024), UInt8.ofNat (n / 4 % 256)] else none
  | [a, b] =>
    let n := a * 64 + b
    if n % 16 = 0 then some [UInt8.ofNat (n / 16)] else none
  | [_] => none
  | [] => some []

/-- A written form without its padding, if it has just the padding it needs. -/
def unpad? (v : Variant) (cs : List Char) : Option (List Char) :=
  if v.padded then
    let body := cs.takeWhile (· ≠ '=')
    let pad := cs.drop body.length
    if cs.length % 4 = 0 ∧ pad = List.replicate pad.length '=' ∧ pad.length ≤ 2 then some body
    else none
  else some cs

/-- The bytes that a text is the written form of. -/
def decode? (v : Variant) (cs : List Char) : Option (List UInt8) := do
  let body ← unpad? v cs
  let values ← body.mapM (value? v)
  join values

example : encode standard [0x75, 0x3A, 0x70] = ['d', 'T', 'p', 'w'] := by decide
example : encode standard [0x75] = ['d', 'Q', '=', '='] := by decide
example : decode? urlSafe ['d', 'Q'] = some [0x75] := by decide
example : decode? urlSafe ['d', 'R'] = none := by decide

end PoolScaler.Codec.Base64
