import PoolScaler.Codec.Der
import PoolScaler.Codec.Sha256
set_option autoImplicit false

/-!
# RSA keys that sign

A private key of two primes: how it is written, when its numbers may be used,
and the signature that it gives to bytes.  Nothing is taken on trust: a
signature that its own key does not confirm is not given.
-/

namespace PoolScaler.Codec

/-- The numbers of a private key. -/
structure Rsa where
  modulus : Nat
  publicExponent : Nat
  privateExponent : Nat
  p : Nat
  q : Nat
  /-- The exponent to sign with modulo `p`. -/
  exponentP : Nat
  /-- The exponent to sign with modulo `q`. -/
  exponentQ : Nat
  /-- The inverse of `q` modulo `p`. -/
  coefficient : Nat
  deriving DecidableEq, Repr, Inhabited

namespace Rsa

/-! ## Reading -/

/-- The bytes of a value with a tag, and what follows it.  Its length is written
in the shortest form and has two bytes at most. -/
def tagged? (tag : UInt8) : List UInt8 → Option (List UInt8 × List UInt8)
  | t :: rest =>
    let sized? : Option (Nat × List UInt8) := match rest with
      | 0x81 :: a :: rest => if a < 0x80 then none else some (a.toNat, rest)
      | 0x82 :: a :: b :: rest =>
        if a = 0 then none else some (a.toNat * 256 + b.toNat, rest)
      | n :: rest => if n < 0x80 then some (n.toNat, rest) else none
      | [] => none
    match sized? with
    | some (n, rest) =>
      if t = tag ∧ n ≤ rest.length then some (rest.take n, rest.drop n) else none
    | none => none
  | [] => none

/-- A number that is not negative, without zeros before it but for one that
keeps its sign. -/
def number? (bytes : List UInt8) : Option (Nat × List UInt8) := do
  let (body, rest) ← tagged? 0x02 bytes
  match body with
  | [] => none
  | [0] => return (0, rest)
  | 0 :: b :: _ => if b < 0x80 then none else return (Der.magnitude body, rest)
  | b :: _ => if b < 0x80 then return (Der.magnitude body, rest) else none

/-- So many numbers, and what follows them. -/
def numbers? : Nat → List UInt8 → Option (List Nat × List UInt8)
  | 0, bytes => some ([], bytes)
  | n + 1, bytes => do
    let (a, rest) ← number? bytes
    let (as, rest) ← numbers? n rest
    return (a :: as, rest)

/-- The key that bytes hold and nothing else; its version is zero. -/
def read? (bytes : List UInt8) : Option Rsa :=
  match tagged? 0x30 bytes with
  | some (body, []) =>
    match numbers? 9 body with
    | some ([0, n, e, d, p, q, dp, dq, c], []) => some ⟨n, e, d, p, q, dp, dq, c⟩
    | _ => none
  | _ => none

/-! ## Checking -/

/-- The number of binary digits. -/
def bitLength (n : Nat) : Nat := if n = 0 then 0 else n.log2 + 1

/-- The length of the modulus in bytes. -/
def size (k : Rsa) : Nat := (bitLength k.modulus + 7) / 8

/-- A modulus has an odd value and more than three words. -/
def isModulus (n : Nat) : Bool := n % 2 = 1 && 192 < bitLength n

/-- A prime factor, and the exponent that goes with it: the factor has half as
many digits as the modulus, which makes whole blocks of 512. -/
def factorFits (k : Rsa) (factor exponent : Nat) : Bool :=
  isModulus factor
    && bitLength factor = (bitLength k.modulus + 1) / 2 && bitLength factor % 512 = 0
    && exponent % 2 = 1 && exponent < factor

/-- The numbers of a key may be used. -/
def isSound (k : Rsa) : Bool :=
  isModulus k.modulus && 256 ≤ k.size && bitLength k.modulus ≤ 4096
    && k.publicExponent % 2 = 1 && 65537 ≤ k.publicExponent && k.publicExponent < 2 * UInt32.size
    && k.factorFits k.p k.exponentP && k.factorFits k.q k.exponentQ
    && k.p * k.q % k.modulus = 0
    && isModulus k.privateExponent && k.privateExponent < k.modulus
    && (bitLength k.modulus + 1) / 2 < bitLength k.privateExponent
    && k.coefficient < k.p && k.coefficient * k.q % k.p = 1

/-! ## Signing -/

/-- A power modulo `m`. -/
def powMod (m base exponent : Nat) : Nat :=
  if exponent = 0 then 1 % m
  else
    let half := powMod m (base * base % m) (exponent / 2)
    if exponent % 2 = 1 then half * base % m else half
termination_by exponent
decreasing_by omega

example : powMod 1000 7 13 = 407 := by decide +kernel

/-- What stands before a digest in the text that is signed: that it is one of
SHA-256. -/
def digestInfo : List UInt8 := [
  0x30, 0x31, 0x30, 0x0d, 0x06, 0x09, 0x60, 0x86, 0x48, 0x01, 0x65, 0x03, 0x04, 0x02, 0x01,
  0x05, 0x00, 0x04, 0x20]

/-- The digest of bytes, filled up from the left to the length of the modulus. -/
def encoded (k : Rsa) (bytes : List UInt8) : Nat :=
  let tail := 0x00 :: digestInfo ++ Sha256.digest bytes
  Der.magnitude (0x00 :: 0x01 :: List.replicate (k.size - 2 - tail.length) 0xFF ++ tail)

/-- The number whose remainders are `a` modulo `p` and `b` modulo `q`. -/
def combine (k : Rsa) (a b : Nat) : Nat :=
  let difference := (a + k.p - b % k.p) % k.p
  (b + k.q * (k.coefficient * difference % k.p)) % k.modulus

/-- The signature of bytes, if the key confirms it. -/
def sign? (k : Rsa) (bytes : List UInt8) : Option Nat :=
  let m := k.encoded bytes
  let s := k.combine (powMod k.p (m % k.p) k.exponentP) (powMod k.q (m % k.q) k.exponentQ)
  if m < k.modulus ∧ powMod k.modulus s k.publicExponent = m then some s else none

end Rsa

end PoolScaler.Codec
