import PoolScaler.Web.Escape
import PoolScaler.Web.Idna.Name
set_option autoImplicit false

/-!
# Hosts

The host of an address: a name, or a number written in one of many ways.  Every
host has one normal form; that of a name is in ASCII.
-/

namespace PoolScaler.Web

/-! ## Numbers -/

/-- The value of digits of a base. -/
def baseValue? (base : Nat) (cs : List Char) : Option Nat :=
  cs.foldl (fun n? c => match n?, Text.hexValue? c with
    | some n, some d => if d < base then some (base * n + d) else none
    | _, _ => none) (some 0)

/-- A part of a numeric host: decimal, or octal after a zero, or hexadecimal
after a zero and an x, where no digits at all are worth nothing. -/
def numericPart? : List Char → Option Nat
  | [] => none
  | '0' :: 'x' :: rest | '0' :: 'X' :: rest => baseValue? 16 rest
  | '0' :: c :: rest => baseValue? 8 (c :: rest)
  | cs => baseValue? 10 cs

/-- The parts of a host, less one empty part at the end. -/
def hostParts (host : List Char) : List (List Char) :=
  let parts := Text.pieces '.' host
  if parts.getLast? = some [] ∧ 1 < parts.length then parts.dropLast else parts

/-- The last part of a host is a number. -/
def endsInNumber (host : List Char) : Bool :=
  match (hostParts host).getLast? with
  | none | some [] => false
  | some part => part.all Text.isDigit || (numericPart? part).isSome

/-- A numeric host; its last part fills what the parts before it leave. -/
def numericHost? (host : List Char) : Option (List Char) := do
  let parts := hostParts host
  if 4 < parts.length then none
  else
    let numbers ← parts.mapM numericPart?
    let last ← numbers.getLast?
    let heads := numbers.dropLast
    if heads.any (255 < ·) ∨ Nat.pow 256 (4 - heads.length) ≤ last then none
    else
      let n := heads.zipIdx.foldl (fun n h => n + h.1 * Nat.pow 256 (3 - h.2)) last
      return List.intercalate ['.']
        ([n / 16777216, n / 65536 % 256, n / 256 % 256, n % 256].map fun b =>
          (toString b).toList)

example : numericHost? "0x7f.1".toList = some "127.0.0.1".toList := by decide +kernel
example : endsInNumber "a.1".toList = true := by decide +kernel

/-! ## Long numbers -/

/-- The pieces of a long number between colons, a number at its end written
with points counting as two pieces. -/
def longPieces? (cs : List Char) : Option (List Nat) :=
  if cs.isEmpty then some []
  else
    let parts := Text.pieces ':' cs
    let piece? (part : List Char) : Option (List Nat) :=
      if part.isEmpty ∨ 4 < part.length then none else (Text.hexValues? part).map fun n => [n]
    let tail? (part : List Char) : Option (List Nat) :=
      if part.contains '.' then do
        let bytes ← (Text.pieces '.' part).mapM fun b =>
          if 1 < b.length ∧ b.head? = some '0' then none
          else (Text.readDigits? b).bind fun n => if n < 256 then some n else none
        match bytes with
        | [a, b, c, d] => some [a * 256 + b, c * 256 + d]
        | _ => none
      else piece? part
    match parts.getLast? with
    | none => none
    | some last => do
      let heads ← parts.dropLast.mapM piece?
      return heads.flatten ++ (← tail? last)

/-- Where two colons stand together, the text before and after them. -/
def splitGap? : List Char → Option (List Char × List Char)
  | ':' :: ':' :: rest => some ([], rest)
  | c :: rest => (splitGap? rest).map fun (a, b) => (c :: a, b)
  | [] => none

/-- The eight pieces of a long number; two colons together stand for zeros. -/
def longNumber? (cs : List Char) : Option (List Nat) :=
  match splitGap? cs with
  | none => (longPieces? cs).bind fun p => if p.length = 8 then some p else none
  | some (before, after) => do
    let a ← longPieces? before
    let b ← longPieces? after
    if before.contains '.' ∨ 7 < a.length + b.length then none
    else some (a ++ List.replicate (8 - a.length - b.length) 0 ++ b)

/-- The length of the run of zeros at the start of pieces. -/
def zeroRun (pieces : List Nat) : Nat := (pieces.takeWhile (· == 0)).length

/-- Where the first longest run of two or more zeros starts. -/
def longestRun? (pieces : List Nat) : Option (Nat × Nat) :=
  (List.range pieces.length).foldl (fun best i =>
    let n := zeroRun (pieces.drop i)
    match best with
    | none => if 2 ≤ n then some (i, n) else none
    | some (_, m) => if m < n then some (i, n) else best) none

/-- The normal form of a long number. -/
def longText (pieces : List Nat) : List Char :=
  let text (ps : List Nat) : List Char := List.intercalate [':'] (ps.map Text.hexNumeral)
  match longestRun? pieces with
  | none => text pieces
  | some (i, n) => text (pieces.take i) ++ ':' :: ':' :: text (pieces.drop (i + n))

/-! ## All hosts -/

/-- What may not stand in a name that something is asked for at. -/
def forbiddenInName (c : Char) : Bool :=
  c.toNat ≤ 0x20 || c.toNat = 0x7F
    || c ∈ ['"', '#', '%', '/', ':', '<', '>', '?', '@', '[', '\\', ']', '^', '\x60', '\x7b', '|',
      '\x7d']

/-- The normal form of a host. -/
def host? (cs : List Char) : Option (List Char) :=
  match cs with
  | '[' :: rest =>
    if rest.getLast? = some ']' then
      (longNumber? rest.dropLast).map fun pieces => '[' :: longText pieces ++ [']']
    else none
  | cs => do
    let name ← Text.Utf8.decode? (unescape (Text.Utf8.encode (String.ofList cs)))
    let ascii ← Idna.ascii? name.toList
    if ascii.isEmpty ∨ ascii.any forbiddenInName = true then none
    else if endsInNumber ascii then numericHost? ascii
    else some ascii

end PoolScaler.Web
