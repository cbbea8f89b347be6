set_option autoImplicit false

/-!
# Bytes read as characters

UTF-8 with its ill-formed parts kept in place.  Reading never fails: each
longest part that begins a character and cannot end it, and each byte that
begins none, stands in the result as one gap.
-/

namespace PoolScaler.Text.Utf8

/-- A character, or a gap where the bytes are none. -/
abbrev Symbol := Option Char

/-- What the first byte of a character asks of the bytes after it: how many
there are, the bounds of the first of them, and the bits it gives itself. -/
structure Lead where
  tails : Nat
  low : UInt8
  high : UInt8
  bits : Nat
  deriving DecidableEq, Repr

/-- The demands of a first byte above ASCII, if it can be one. -/
def lead? (b : UInt8) : Option Lead :=
  let n := b.toNat
  if 0xC2 ≤ n && n ≤ 0xDF then some ⟨1, 0x80, 0xBF, n - 0xC0⟩
  else if n == 0xE0 then some ⟨2, 0xA0, 0xBF, 0⟩
  else if n == 0xED then some ⟨2, 0x80, 0x9F, 13⟩
  else if 0xE1 ≤ n && n ≤ 0xEF then some ⟨2, 0x80, 0xBF, n - 0xE0⟩
  else if n == 0xF0 then some ⟨3, 0x90, 0xBF, 0⟩
  else if 0xF1 ≤ n && n ≤ 0xF3 then some ⟨3, 0x80, 0xBF, n - 0xF0⟩
  else if n == 0xF4 then some ⟨3, 0x80, 0x8F, 4⟩
  else none

/-- Between characters, or inside one: the bytes still owed, the bounds of the
next of them and the bits so far. -/
abbrev State := Option Lead

/-- One byte from between characters. -/
def begin (b : UInt8) : List Symbol × State :=
  if b < 0x80 then ([some (Char.ofNat b.toNat)], none)
  else match lead? b with
    | some l => ([], some l)
    | none => ([none], none)

/-- One byte: the symbols it completes and the state after it.  A byte that
cannot go on with the character begun leaves a gap for it and begins anew. -/
def step (s : State) (b : UInt8) : List Symbol × State :=
  match s with
  | none => begin b
  | some l =>
    if l.low ≤ b && b ≤ l.high then
      let bits := l.bits * 64 + (b.toNat - 0x80)
      if l.tails ≤ 1 then ([some (Char.ofNat bits)], none)
      else ([], some ⟨l.tails - 1, 0x80, 0xBF, bits⟩)
    else
      let (out, s) := begin b
      (none :: out, s)

/-- The symbols of the bytes from a state on; an unfinished character at the
end is a gap. -/
def readFrom (s : State) : List UInt8 → List Symbol
  | [] => if s.isSome then [none] else []
  | b :: rest =>
    let (out, s) := step s b
    out ++ readFrom s rest

/-- The characters and gaps of a sequence of bytes. -/
def read (bytes : List UInt8) : List Symbol := readFrom none bytes

/-- The text of the bytes, if they have no gap. -/
def decode? (bytes : List UInt8) : Option String :=
  let symbols := read bytes
  if symbols.all Option.isSome then some (String.ofList (symbols.filterMap id)) else none

/-- The text of the bytes with U+FFFD in the place of each gap. -/
def lossy (bytes : List UInt8) : String :=
  String.ofList ((read bytes).map (·.getD '\uFFFD'))

/-- The bytes of a text. -/
def encode (s : String) : List UInt8 := s.toUTF8.toList

/-- The symbols of a text: it has no gaps. -/
def ofText (s : String) : List Symbol := s.toList.map some

example : read [0x41, 0xFF, 0xC3, 0xA9] = [some 'A', none, some 'é'] := by decide
example : read [0xE2, 0x82, 0x41] = [none, some 'A'] := by decide

end PoolScaler.Text.Utf8
