import PoolScaler.Codec.DerText
set_option autoImplicit false

/-!
# Tagged binary values

The distinguished encoding of nested values: a tag, a length and that many
bytes.  Of the basic kinds those are told apart that keys are made of.
-/

namespace PoolScaler.Codec

/-- A value. -/
inductive Der where
  /-- A signed number of any size. -/
  | integer (value : Int)
  /-- Bits, in whole bytes. -/
  | bits (bytes : List UInt8)
  /-- Bytes. -/
  | octets (bytes : List UInt8)
  /-- The name of a kind of thing. -/
  | oid (arcs : List Nat)
  /-- Values in order. -/
  | sequence (items : List Der)
  /-- Values without order. -/
  | set (items : List Der)
  /-- A value that an outer tag names. -/
  | explicit (item : Der)
  /-- Anything else. -/
  | other
  deriving Repr, Inhabited

namespace Der

/-- A number in groups of seven bits, all but the last one marked. -/
def base128? (n : Nat) : List UInt8 → Option (Nat × List UInt8)
  | [] => none
  | b :: rest =>
    let n := n * 128 + b.toNat % 128
    if b < 0x80 then some (n, rest) else base128? n rest

/-- Numbers in groups of seven bits, up to the end. -/
def arcs? (fuel : Nat) (bytes : List UInt8) : Option (List Nat) :=
  match fuel, bytes with
  | _, [] => some []
  | 0, _ => none
  | fuel + 1, bytes => do
    let (n, rest) ← base128? 0 bytes
    return n :: (← arcs? fuel rest)

/-- The name that bytes denote; the first byte holds two of its numbers. -/
def oid? : List UInt8 → Option (List Nat)
  | [] => none
  | b :: rest => do
    let n := b.toNat
    let first := if n < 40 then 0 else if n < 80 then 1 else 2
    return first :: (n - 40 * first) :: (← arcs? rest.length rest)

/-- The number of bytes read most significant first. -/
def magnitude (bytes : List UInt8) : Nat := bytes.foldl (fun n b => n * 256 + b.toNat) 0

/-- The signed number of bytes in two's complement. -/
def signed (bytes : List UInt8) : Int :=
  match bytes with
  | [] => 0
  | b :: _ =>
    if b < 0x80 then magnitude bytes else (magnitude bytes : Int) - Nat.pow 256 bytes.length

/-- A tag: its class is the basic one, it is made of other values, its number. -/
structure Tag where
  basic : Bool
  nested : Bool
  number : Nat

/-- The tag at the start of bytes. -/
def tag? : List UInt8 → Option (Tag × List UInt8)
  | [] => none
  | b :: rest =>
    let tag (n : Nat) : Tag := ⟨b < 0x40, b.toNat / 32 % 2 = 1, n⟩
    if b.toNat % 32 = 31 then (base128? 0 rest).map fun (n, rest) => (tag n, rest)
    else some (tag (b.toNat % 32), rest)

/-- The length at the start of bytes. -/
def length? : List UInt8 → Option (Nat × List UInt8)
  | [] => none
  | b :: rest =>
    if b < 0x80 then some (b.toNat, rest)
    else
      let n := b.toNat - 0x80
      if n ≤ 8 ∧ n ≤ rest.length then some (magnitude (rest.take n), rest.drop n) else none

/-- A basic value that is not made of others, from its number and its bytes. -/
def plain? (number : Nat) (body : List UInt8) : Option Der :=
  let passing (ok : Bool) : Option Der := if ok then some .other else none
  match number with
  | 0x01 => passing (body.length = 1)
  | 0x02 => some (.integer (signed body))
  | 0x03 =>
    match body with
    | [] => some (.bits [])
    | spare :: bytes => if 8 * bytes.length < spare.toNat then none else some (.bits bytes)
  | 0x04 => some (.octets body)
  | 0x06 => (oid? body).map .oid
  | 0x0C | 0x14 | 0x1C | 0x1E => passing (DerText.isText body)
  | 0x13 => passing (DerText.isPrintable body)
  | 0x17 => passing (DerText.isShortMoment body)
  | 0x18 => passing (DerText.isLongMoment body)
  | _ => some .other

/-- The values that bytes are made of; there is at least one. -/
def values? (fuel : Nat) (bytes : List UInt8) : Option (List Der) :=
  match fuel with
  | 0 => none
  | fuel + 1 => do
    let (tag, rest) ← tag? bytes
    let (n, rest) ← length? rest
    if rest.length < n then none
    else
      let body := rest.take n
      let item ←
        if !tag.basic then
          match if tag.nested then values? fuel body else none with
          | some [item] => some (.explicit item)
          | _ => some .other
        else match tag.number with
          | 0x10 => (values? fuel body).map .sequence
          | 0x11 => (values? fuel body).map .set
          | number => plain? number body
      let more := rest.drop n
      if more.isEmpty then return [item] else return item :: (← values? fuel more)

/-- The values of a whole document. -/
def parse? (bytes : List UInt8) : Option (List Der) := values? (bytes.length + 1) bytes

/-! ## Looking through sequences -/

mutual

/-- The first of what `pick` finds in a value, sequences being looked through. -/
def first? {α : Type} (pick : Der → Option α) : Der → Option α
  | .sequence items => firstOf? pick items
  | d => pick d

/-- The first of what `pick` finds in values. -/
def firstOf? {α : Type} (pick : Der → Option α) : List Der → Option α
  | [] => none
  | d :: rest =>
    match first? pick d with
    | some a => some a
    | none => firstOf? pick rest

end

end Der

end PoolScaler.Codec
