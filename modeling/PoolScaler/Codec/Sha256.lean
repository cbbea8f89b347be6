set_option autoImplicit false

/-!
# SHA-256

The digest of a row of bytes: the bytes are filled up to whole blocks of
sixty-four, and each block is mixed into a state of eight words.
-/

namespace PoolScaler.Codec.Sha256

/-- The first bits of the fractions of the cube roots of the first primes. -/
def constants : Array UInt32 := #[
  0x428a2f98, 0x71374491, 0xb5c0fbcf, 0xe9b5dba5, 0x3956c25b, 0x59f111f1, 0x923f82a4, 0xab1c5ed5,
  0xd807aa98, 0x12835b01, 0x243185be, 0x550c7dc3, 0x72be5d74, 0x80deb1fe, 0x9bdc06a7, 0xc19bf174,
  0xe49b69c1, 0xefbe4786, 0x0fc19dc6, 0x240ca1cc, 0x2de92c6f, 0x4a7484aa, 0x5cb0a9dc, 0x76f988da,
  0x983e5152, 0xa831c66d, 0xb00327c8, 0xbf597fc7, 0xc6e00bf3, 0xd5a79147, 0x06ca6351, 0x14292967,
  0x27b70a85, 0x2e1b2138, 0x4d2c6dfc, 0x53380d13, 0x650a7354, 0x766a0abb, 0x81c2c92e, 0x92722c85,
  0xa2bfe8a1, 0xa81a664b, 0xc24b8b70, 0xc76c51a3, 0xd192e819, 0xd6990624, 0xf40e3585, 0x106aa070,
  0x19a4c116, 0x1e376c08, 0x2748774c, 0x34b0bcb5, 0x391c0cb3, 0x4ed8aa4a, 0x5b9cca4f, 0x682e6ff3,
  0x748f82ee, 0x78a5636f, 0x84c87814, 0x8cc70208, 0x90befffa, 0xa4506ceb, 0xbef9a3f7, 0xc67178f2]

/-- The words of a state. -/
structure State where
  a : UInt32
  b : UInt32
  c : UInt32
  d : UInt32
  e : UInt32
  f : UInt32
  g : UInt32
  h : UInt32
  deriving DecidableEq, Repr, Inhabited

/-- The first bits of the fractions of the square roots of the first primes. -/
def State.start : State :=
  ⟨0x6a09e667, 0xbb67ae85, 0x3c6ef372, 0xa54ff53a, 0x510e527f,
    0x9b05688c, 0x1f83d9ab, 0x5be0cd19⟩

/-- The sum of two states, word by word. -/
def State.add (s t : State) : State :=
  ⟨s.a + t.a, s.b + t.b, s.c + t.c, s.d + t.d, s.e + t.e, s.f + t.f, s.g + t.g, s.h + t.h⟩

/-- The words of a state in order. -/
def State.words (s : State) : List UInt32 := [s.a, s.b, s.c, s.d, s.e, s.f, s.g, s.h]

/-- A word with its bits moved round to the right. -/
def rotate (w : UInt32) (n : UInt32) : UInt32 := (w >>> n) ||| (w <<< (32 - n))

/-- One round, with the word of the schedule and the constant of its number. -/
def round (s : State) (w k : UInt32) : State :=
  let choice := (s.e &&& s.f) ^^^ (~~~s.e &&& s.g)
  let mixed := s.h + (rotate s.e 6 ^^^ rotate s.e 11 ^^^ rotate s.e 25) + choice + k + w
  let majority := (s.a &&& s.b) ^^^ (s.a &&& s.c) ^^^ (s.b &&& s.c)
  let total := (rotate s.a 2 ^^^ rotate s.a 13 ^^^ rotate s.a 22) + majority
  ⟨mixed + total, s.a, s.b, s.c, s.d + mixed, s.e, s.f, s.g⟩

/-- The word after those of a schedule. -/
def nextWord (ws : Array UInt32) : UInt32 :=
  let back (n : Nat) : UInt32 := ws.getD (ws.size - n) 0
  let low := rotate (back 15) 7 ^^^ rotate (back 15) 18 ^^^ (back 15 >>> 3)
  let high := rotate (back 2) 17 ^^^ rotate (back 2) 19 ^^^ (back 2 >>> 10)
  back 16 + low + back 7 + high

/-- The words of bytes, most significant byte first. -/
def wordsOf : List UInt8 → List UInt32
  | a :: b :: c :: d :: rest =>
    ((a.toUInt32 <<< 24) ||| (b.toUInt32 <<< 16) ||| (c.toUInt32 <<< 8) ||| d.toUInt32)
      :: wordsOf rest
  | _ => []

/-- The schedule of a block: its sixteen words and forty-eight more. -/
def schedule (block : List UInt8) : Array UInt32 :=
  (List.range 48).foldl (fun ws _ => ws.push (nextWord ws)) (wordsOf block).toArray

/-- Mix a block into a state. -/
def mix (s : State) (block : List UInt8) : State :=
  let ws := schedule block
  s.add ((List.range 64).foldl (fun s i => round s (ws.getD i 0) (constants.getD i 0)) s)

/-- So many bytes of a number, most significant byte first. -/
def bytesOf (count n : Nat) : List UInt8 :=
  (List.range count).map fun i => UInt8.ofNat (n >>> (8 * (count - 1 - i)))

/-- Bytes filled up to whole blocks: one bit, zeros, and how many bits there are. -/
def padded (bytes : List UInt8) : List UInt8 :=
  bytes ++ 0x80 :: List.replicate ((119 - bytes.length % 64) % 64) 0
    ++ bytesOf 8 (8 * bytes.length)

/-- So many blocks mixed into a state. -/
def mixAll : Nat → State → List UInt8 → State
  | 0, s, _ => s
  | n + 1, s, bytes => mixAll n (mix s (bytes.take 64)) (bytes.drop 64)

/-- The digest of bytes. -/
def digest (bytes : List UInt8) : List UInt8 :=
  let all := padded bytes
  (mixAll (all.length / 64) .start all).words.flatMap fun w => bytesOf 4 w.toNat

example : (digest []).take 4 = [0xe3, 0xb0, 0xc4, 0x42] := by decide +kernel

end PoolScaler.Codec.Sha256
