import PoolScaler.Text.Decimal
set_option autoImplicit false

/-!
# Labels in ASCII

A way to write a label in letters, digits and dashes alone: the characters of
ASCII first, and after the last dash one number for each other character, which
tells where it goes and which one it is.
-/

namespace PoolScaler.Web.Idna.Punycode

/-! ## Writing -/

/-- A digit of a generalized number. -/
def digit (n : Nat) : Char := if n < 26 then Char.ofNat (97 + n) else Char.ofNat (22 + n)

/-- How much a position weighs, given the bias. -/
def threshold (k bias : Nat) : Nat := if k ≤ bias + 1 then 1 else if bias + 26 ≤ k then 26 else k - bias

/-- A number in generalized digits, from position `k` on. -/
def number (fuel k bias q : Nat) : List Char :=
  match fuel with
  | 0 => []
  | fuel + 1 =>
    let t := threshold k bias
    if q < t then [digit q]
    else digit (t + (q - t) % (36 - t)) :: number fuel (k + 36) bias ((q - t) / (36 - t))

/-- Halve a delta as often as it is too large, counting positions. -/
def settle (fuel k delta : Nat) : Nat :=
  match fuel with
  | 0 => k
  | fuel + 1 => if 455 < delta then settle fuel (k + 36) (delta / 35)
    else k + 36 * delta / (delta + 38)

/-- The bias after a delta. -/
def adapt (delta points : Nat) (first : Bool) : Nat :=
  let delta := if first then delta / 700 else delta / 2
  settle (delta + 1) 0 (delta + delta / points)

/-- Progress of encoding: the delta, the bias, the characters handled and the
digits written. -/
structure Progress where
  delta : Nat
  bias : Nat
  handled : Nat
  out : List Char

/-- Write every character `n` of a label. -/
def writeAt (basic n : Nat) (label : List Char) (p : Progress) : Progress :=
  label.foldl (fun p c =>
    if c.toNat < n then { p with delta := p.delta + 1 }
    else if c.toNat = n then
      { delta := 0
        bias := adapt p.delta (p.handled + 1) (p.handled = basic)
        handled := p.handled + 1
        out := p.out ++ number (p.delta + 1) 36 p.bias p.delta }
    else p) p

/-- Write the characters of a label in the order of their numbers. -/
def writeFrom (basic : Nat) (label : List Char) (n : Nat) : List Nat → Progress → Progress
  | [], p => p
  | m :: rest, p =>
    let p := { p with delta := p.delta + (m - n) * (p.handled + 1) }
    let p := writeAt basic m label p
    writeFrom basic label (m + 1) rest { p with delta := p.delta + 1 }

/-- The characters beyond ASCII of a label, each once, in order. -/
def beyond (label : List Char) : List Nat :=
  ((label.map (·.toNat)).filter (0x80 ≤ ·)).mergeSort.eraseDups

/-- A label in characters of ASCII: those that it has, a dash if there are any,
and the numbers that tell where the others go. -/
def encode (label : List Char) : List Char :=
  let ascii := label.filter (·.toNat < 0x80)
  let start := if ascii.isEmpty then [] else ascii ++ ['-']
  let p := writeFrom ascii.length label 0x80 (beyond label) ⟨0, 72, ascii.length, []⟩
  start ++ p.out

/-! ## Reading -/

/-- What a digit of a generalized number is worth. -/
def digitValue? (c : Char) : Option Nat :=
  if 'a' ≤ c ∧ c ≤ 'z' then some (c.toNat - 97)
  else if Text.isDigit c then some (Text.digitValue c + 26)
  else none

/-- A number in generalized digits from position `k` on, whose digits weigh
`weight` and more, added to `sum`. -/
def readNumber? (bias k weight sum : Nat) : List Char → Option (Nat × List Char)
  | [] => none
  | c :: rest =>
    match digitValue? c with
    | none => none
    | some d =>
      let t := threshold k bias
      let sum := sum + d * weight
      if d < t then some (sum, rest)
      else if UInt32.size ≤ weight * (36 - t) then none
      else readNumber? bias (k + 36) (weight * (36 - t)) sum rest

/-- Put the characters that numbers tell of into a label; `n` is the least one
that may come next, `place` the first place for it. -/
def readInto? : Nat → Nat → Nat → Nat → List Char → List Char → Option (List Char)
  | _, _, _, _, label, [] => some label
  | 0, _, _, _, _, _ :: _ => none
  | fuel + 1, n, place, bias, label, cs =>
    match readNumber? bias 36 1 0 cs with
    | none => none
    | some (delta, rest) =>
      let points := label.length + 1
      let total := place + delta
      let n := n + total / points
      let at_ := total % points
      if Nat.isValidChar n then
        readInto? fuel n (at_ + 1) (adapt delta points (place = 0))
          (label.take at_ ++ Char.ofNat n :: label.drop at_) rest
      else none

/-- The label that is written in characters of ASCII. -/
def decode? (cs : List Char) : Option (List Char) :=
  let numbers := (cs.reverse.takeWhile (· ≠ '-')).reverse
  let before := cs.length - numbers.length
  if before ≤ 1 then readInto? cs.length 0x80 0 72 [] cs
  else readInto? cs.length 0x80 0 72 (cs.take (before - 1)) numbers

example : encode "bücher".toList = "bcher-kva".toList := by decide +kernel
example : decode? "bcher-kva".toList = some "bücher".toList := by decide +kernel

end PoolScaler.Web.Idna.Punycode
