import PoolScaler.Json.Basic
import PoolScaler.Json.Magnitude
import PoolScaler.Text.Decimal
import PoolScaler.Text.Utf8
set_option autoImplicit false

/-!
# Reading JSON

The grammar of JSON over characters and gaps.  A fault is put where it
stands and ends the reading there; texts with lone surrogates or gaps and
numbers beyond every float are faults only to whoever reads them.
-/

namespace PoolScaler.Json

open Text.Utf8 (Symbol)

/-- The white space of JSON. -/
def isSpace : Symbol → Bool
  | some ' ' | some '\t' | some '\n' | some '\r' => true
  | _ => false

/-- A text without the white space at its start. -/
def skipSpace (cs : List Symbol) : List Symbol := cs.dropWhile isSpace

/-! ## Texts between quotes -/

/-- A text after its opening quote: its content or the fault of reading it,
and what follows it or the fault that ends it. -/
structure TextRead where
  content : Except Fault String
  rest : Except Fault (List Symbol)

namespace TextRead

/-- What has been read of a text: its characters, last one first, a code unit
that waits for the second half of its pair, the first fault of an escape, and
whether there was a gap. -/
structure Progress where
  chars : List Char
  high : Option Nat
  fault : Option Fault
  gap : Bool

/-- Nothing has been read. -/
def Progress.start : Progress := ⟨[], none, none, false⟩

/-- A fault; the first one counts. -/
def Progress.spoil (p : Progress) (f : Fault) : Progress :=
  { p with high := none, fault := some (p.fault.getD f) }

/-- One more character, which cannot come between the halves of a pair. -/
def Progress.push (p : Progress) (c : Char) : Progress :=
  match p.high with
  | none => { p with chars := c :: p.chars }
  | some _ => p.spoil .malformed

/-- A code unit that begins a pair. -/
def isHigh (n : Nat) : Bool := 0xD800 ≤ n && n ≤ 0xDBFF

/-- A code unit that ends a pair. -/
def isLow (n : Nat) : Bool := 0xDC00 ≤ n && n ≤ 0xDFFF

/-- One more code unit written by its number. -/
def Progress.pushUnit (p : Progress) (n : Nat) : Progress :=
  match p.high with
  | some h =>
    if isLow n then
      { p with high := none
               chars := Char.ofNat (0x10000 + (h - 0xD800) * 0x400 + (n - 0xDC00)) :: p.chars }
    else p.spoil .malformed
  | none =>
    if isHigh n then { p with high := some n }
    else if isLow n then p.spoil .malformed
    else p.push (Char.ofNat n)

/-- A place where the bytes are no character. -/
def Progress.pushGap (p : Progress) : Progress :=
  match p.high with
  | none => { p with gap := true }
  | some _ => p.spoil .malformed

/-- The closing quote. -/
def Progress.close (p : Progress) (rest : List Symbol) : TextRead :=
  { content := match p.fault with
      | some f => .error f
      | none =>
        if p.gap || p.high.isSome then .error .malformed
        else .ok (String.ofList p.chars.reverse)
    rest := .ok rest }

/-- A fault that ends the text. -/
def Progress.break (p : Progress) (f : Fault) : TextRead :=
  { content := .error (p.fault.getD f), rest := .error f }

end TextRead

/-- The character that a one-letter escape stands for. -/
def shortEscape? : Char → Option Char
  | '"' => some '"'
  | '\\' => some '\\'
  | '/' => some '/'
  | 'b' => some '\x08'
  | 'f' => some '\x0c'
  | 'n' => some '\n'
  | 'r' => some '\r'
  | 't' => some '\t'
  | _ => none

/-- The code unit written by four hexadecimal digits. -/
def unit? (a b c d : Symbol) : Option Nat :=
  match a, b, c, d with
  | some a, some b, some c, some d => Text.hexValues? [a, b, c, d]
  | _, _, _, _ => none

/-- The bytes a symbol takes. -/
def symbolSize : Symbol → Nat
  | none => 1
  | some c => c.utf8Size

/-- The fault of an escape by number without its four digits: the text ends
too early when fewer than four bytes are left. -/
def shortUnit (cs : List Symbol) : Fault :=
  if cs.foldl (fun n s => n + symbolSize s) 0 < 4 then .truncated else .malformed

/-- Read a text from after its opening quote. -/
def readText (p : TextRead.Progress) : List Symbol → TextRead
  | [] => p.break .truncated
  | none :: rest => readText p.pushGap rest
  | some '"' :: rest => p.close rest
  | some '\\' :: some 'u' :: a :: b :: c :: d :: rest =>
    match unit? a b c d with
    | none => p.break .malformed
    | some n => readText (p.pushUnit n) rest
  | some '\\' :: some 'u' :: rest => p.break (shortUnit rest)
  | some '\\' :: some c :: rest =>
    match shortEscape? c with
    | some e => readText (p.push e) rest
    | none => p.break .malformed
  | [some '\\'] => p.break .truncated
  | some '\\' :: none :: _ => p.break .malformed
  | some c :: rest =>
    if c.toNat < 0x20 then p.break .malformed else readText (p.push c) rest

/-! ## Numbers -/

/-- The digits at the start of a text, and the rest. -/
def spanDigits (cs : List Symbol) : List Char × List Symbol :=
  let isDigit : Symbol → Bool := fun s => match s with
    | some c => Text.isDigit c
    | none => false
  ((cs.takeWhile isDigit).filterMap id, cs.dropWhile isDigit)

/-- A value and the text after it, which is missing when the text broke. -/
abbrev Step := Json × Option (List Symbol)

/-- A number that its text does not finish. -/
def unfinished (rest : List Symbol) : Step :=
  (.spoiled .other (if rest.isEmpty then .truncated else .malformed) (some .malformed), none)

/-- A number with a fraction or an exponent, or too long for a word. -/
def realStep (m : Magnitude) (rest : List Symbol) : Step :=
  if m.overflows then (.spoiled .other .malformed none, some rest) else (.real, some rest)

/-- A number after the letter of its exponent. -/
def readExponent (m : Magnitude) (cs : List Symbol) : Step :=
  let (negative, cs) := match cs with
    | some '-' :: rest => (true, rest)
    | some '+' :: rest => (false, rest)
    | _ => (false, cs)
  match spanDigits cs with
  | ([], rest) => unfinished rest
  | (es, rest) =>
    let e := Text.digitsValue es
    realStep (m.withExponent (if negative then -e else e)) rest

/-- A number from its first digit on. -/
def readNumber (negative : Bool) (cs : List Symbol) : Step :=
  match spanDigits cs with
  | ([], rest) => unfinished rest
  | ('0' :: _ :: _, _) => (.spoiled .other .malformed (some .malformed), none)
  | (digits, rest) =>
    let whole := Magnitude.ofWhole digits
    match rest with
    | some '.' :: rest =>
      match spanDigits rest with
      | ([], rest) => unfinished rest
      | (fs, rest) =>
        let m := whole.withFraction fs
        match rest with
        | some 'e' :: rest | some 'E' :: rest => readExponent m rest
        | _ => realStep m rest
    | some 'e' :: rest | some 'E' :: rest => readExponent whole rest
    | _ =>
      let n := Text.digitsValue digits
      if whole.overflows then (.spoiled .other .malformed none, some rest)
      else if negative && n == 0 then (.real, some rest)
      else (.int (if negative then -n else n), some rest)

/-! ## Values -/

/-- A word of the grammar after its first letter. -/
def readWord (value : Json) : List Char → List Symbol → Step
  | [], rest => (value, some rest)
  | _ :: _, [] => (.spoiled .other .truncated (some .truncated), none)
  | c :: word, s :: rest =>
    if s = some c then readWord value word rest
    else (.spoiled .other .malformed (some .malformed), none)

/-- A text as a value. -/
def textStep (t : TextRead) : Step :=
  match t.rest with
  | .error skip =>
    let read := match t.content with
      | .error f => f
      | .ok _ => skip
    (.spoiled .text read (some skip), none)
  | .ok rest =>
    match t.content with
    | .ok s => (.str s, some rest)
    | .error f => (.spoiled .text f none, some rest)

/-- A break where reading and passing over meet the same fault. -/
def cutBy (afterComma : Bool) (f : Fault) : Cut := ⟨afterComma, f, f, f⟩

/-- The fault at a place where neither a comma nor the closing bracket stands. -/
def gapFault : List Symbol → Fault
  | [] => .truncated
  | _ => .malformed

mutual

/-- Read one value.  `fuel` bounds the nesting and is never reached when it
exceeds the length of the text. -/
def readValue (fuel : Nat) (cs : List Symbol) : Step :=
  match fuel with
  | 0 => (.spoiled .absent .truncated (some .truncated), none)
  | fuel + 1 =>
    match skipSpace cs with
    | [] => (.spoiled .absent .truncated (some .truncated), none)
    | some 'n' :: rest => readWord .null ['u', 'l', 'l'] rest
    | some 't' :: rest => readWord (.bool true) ['r', 'u', 'e'] rest
    | some 'f' :: rest => readWord (.bool false) ['a', 'l', 's', 'e'] rest
    | some '"' :: rest => textStep (readText .start rest)
    | some '-' :: rest => readNumber true rest
    | some '[' :: rest =>
      match skipSpace rest with
      | [] => (.arr [] (some (cutBy false .truncated)), none)
      | some ']' :: rest => (.list [], some rest)
      | rest => readList fuel [] rest
    | some '\x7b' :: rest =>
      match skipSpace rest with
      | [] => (.obj [] (some (cutBy false .truncated)), none)
      | some '\x7d' :: rest => (.obj [] none, some rest)
      | some '"' :: rest => readMember fuel [] (readText .start rest)
      | rest =>
        let asValue := match (readValue fuel rest).1 with
          | .spoiled _ f _ => f
          | _ => .mismatch
        (.obj [] (some ⟨false, .malformed, .malformed, asValue⟩), none)
    | some c :: rest =>
      if Text.isDigit c then readNumber false (some c :: rest)
      else (.spoiled .other .malformed (some .malformed), none)
    | none :: _ => (.spoiled .other .malformed (some .malformed), none)

/-- Read the items of a list from the start of one on; `done` holds those
before it, last one first. -/
def readList (fuel : Nat) (done : List Json) (cs : List Symbol) : Step :=
  match fuel with
  | 0 => (.arr done.reverse (some (cutBy false .truncated)), none)
  | fuel + 1 =>
    match readValue fuel cs with
    | (j, none) => (.arr (j :: done).reverse none, none)
    | (j, some rest) =>
      match skipSpace rest with
      | some ']' :: rest => (.arr (j :: done).reverse none, some rest)
      | some ',' :: rest =>
        match skipSpace rest with
        | some ']' :: _ =>
          (.arr (.spoiled .other .malformed (some .malformed) :: j :: done).reverse none, none)
        | rest => readList fuel (j :: done) rest
      | rest => (.arr (j :: done).reverse (some (cutBy false (gapFault rest))), none)

/-- Read the members of an object from after one name on. -/
def readMember (fuel : Nat) (done : List (Except Fault String × Json)) (name : TextRead) : Step :=
  match fuel with
  | 0 => (.obj done.reverse (some (cutBy false .truncated)), none)
  | fuel + 1 =>
    match name.rest with
    | .error skip =>
      let read := match name.content with
        | .error f => f
        | .ok _ => skip
      (.obj done.reverse (some ⟨!done.isEmpty, read, skip, read⟩), none)
    | .ok rest =>
      match skipSpace rest with
      | some ':' :: rest =>
        match readValue fuel rest with
        | (j, none) => (.obj ((name.content, j) :: done).reverse none, none)
        | (j, some rest) =>
          let done := (name.content, j) :: done
          match skipSpace rest with
          | some '\x7d' :: rest => (.obj done.reverse none, some rest)
          | some ',' :: rest =>
            match skipSpace rest with
            | some '"' :: rest => readMember fuel done (readText .start rest)
            | [] => (.obj done.reverse (some (cutBy true .truncated)), none)
            | _ => (.obj done.reverse (some (cutBy true .malformed)), none)
          | rest => (.obj done.reverse (some (cutBy false (gapFault rest))), none)
      | rest =>
        let f := gapFault rest
        (.obj ((name.content, .spoiled .absent f (some f)) :: done).reverse none, none)

end

/-- The value of a text and whether more follows it. -/
def readSymbols (cs : List Symbol) : Document :=
  match readValue (cs.length + 1) cs with
  | (root, none) => ⟨root, false⟩
  | (root, some rest) => ⟨root, !(skipSpace rest).isEmpty⟩

/-- Read a record from a text. -/
def decodeText {α : Type} (dec : Decoder α) (s : String) : Except Fault α :=
  (readSymbols (Text.Utf8.ofText s)).decode dec

/-- Read a record from bytes. -/
def decodeBytes {α : Type} (dec : Decoder α) (bytes : List UInt8) : Except Fault α :=
  (readSymbols (Text.Utf8.read bytes)).decode dec

end PoolScaler.Json
