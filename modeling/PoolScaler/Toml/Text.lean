import PoolScaler.Text.Decimal
import PoolScaler.Toml.Basic
set_option autoImplicit false

/-!
# Texts and keys

Texts stand between quotes: double ones, with escapes, or single ones, as they
are.  Three quotes enclose a text that may run over lines.  A key is a bare
word, or a text of one line.
-/

namespace PoolScaler.Toml

/-- A character that may stand for itself in a text of one line. -/
def isPlain (c : Char) : Bool := c = '\t' || (0x20 ≤ c.toNat && c.toNat ≠ 0x7F)

/-- The character of a number, unless it is a surrogate or too large. -/
def charOf? (n : Nat) : Option Char := if h : n.isValidChar then some (Char.ofNatAux n h) else none

/-- The character that an escape denotes, after its backslash. -/
def escaped? : Parser Char
  | 'b' :: rest => some ('\x08', rest)
  | 't' :: rest => some ('\t', rest)
  | 'n' :: rest => some ('\n', rest)
  | 'f' :: rest => some ('\x0c', rest)
  | 'r' :: rest => some ('\r', rest)
  | '"' :: rest => some ('"', rest)
  | '\\' :: rest => some ('\\', rest)
  | 'u' :: rest => numbered 4 rest
  | 'U' :: rest => numbered 8 rest
  | _ => none
where
  /-- The character whose number is written with so many digits. -/
  numbered (width : Nat) (cs : List Char) : Option (Char × List Char) := do
    let digits := cs.take width
    if digits.length ≠ width then none
    else
      let n ← Text.hexValues? digits
      let c ← charOf? n
      return (c, cs.drop width)

/-- The number of quotes at the front of a text. -/
def quoteRun (quote : Char) (cs : List Char) : Nat := (cs.takeWhile (· == quote)).length

/-- Pass over what an escaped line break joins: blanks up to the break, then
blanks and breaks. -/
def joined? (cs : List Char) : Option (List Char) :=
  match newline? (skipSpace cs) with
  | none => none
  | some rest => some (skipBlank rest.length rest)
where
  /-- Pass over blanks and line breaks. -/
  skipBlank : Nat → List Char → List Char
    | 0, cs => cs
    | fuel + 1, cs =>
      match newline? (skipSpace cs) with
      | some rest => skipBlank fuel rest
      | none => skipSpace cs

/-- The rest of a text of one line, up to its closing quote. -/
def lineText (quote : Char) (escapes : Bool) (done : List Char) :
    Nat → Parser (List Char)
  | 0, _ => none
  | fuel + 1, cs =>
    match cs with
    | [] => none
    | c :: rest =>
      if c = quote then some (done.reverse, rest)
      else if c = '\\' && escapes then
        match escaped? rest with
        | some (c, rest) => lineText quote escapes (c :: done) fuel rest
        | none => none
      else if isPlain c then lineText quote escapes (c :: done) fuel rest
      else none

/-- The rest of a text of several lines, up to its closing quotes, of which the
last three count as such. -/
def blockText (quote : Char) (escapes : Bool) (done : List Char) :
    Nat → Parser (List Char)
  | 0, _ => none
  | fuel + 1, cs =>
    match cs with
    | [] => none
    | c :: rest =>
      if c = quote then
        let run := quoteRun quote cs
        if run < 3 then
          blockText quote escapes (List.replicate run quote ++ done) fuel (cs.drop run)
        else
          let inner := Nat.min (run - 3) 2
          some ((List.replicate inner quote ++ done).reverse, cs.drop (inner + 3))
      else if c = '\\' && escapes then
        match escaped? rest with
        | some (c, rest) => blockText quote escapes (c :: done) fuel rest
        | none =>
          match joined? rest with
          | some rest => blockText quote escapes done fuel rest
          | none => none
      else match newline? cs with
        | some rest => blockText quote escapes ('\n' :: done) fuel rest
        | none => if isPlain c then blockText quote escapes (c :: done) fuel rest else none

/-- A text of one line that begins with the given quote. -/
def lineTextOf (quote : Char) (cs : List Char) : Option (String × List Char) :=
  (lineText quote (quote = '"') [] (cs.length + 1) cs).map fun (s, rest) => (String.ofList s, rest)

/-- The text whose opening quote has been passed; a line break right after
three quotes does not count. -/
def textOf (quote : Char) (cs : List Char) : Option (String × List Char) :=
  match cs with
  | a :: b :: rest =>
    if a = quote ∧ b = quote then
      let rest := (newline? rest).getD rest
      (blockText quote (quote = '"') [] (rest.length + 1) rest).map fun (s, rest) =>
        (String.ofList s, rest)
    else lineTextOf quote cs
  | _ => lineTextOf quote cs

/-! ## Keys -/

/-- A character of a bare key. -/
def isKeyChar (c : Char) : Bool :=
  ('a' ≤ c && c ≤ 'z') || ('A' ≤ c && c ≤ 'Z') || Text.isDigit c || c = '_' || c = '-'

/-- One part of a key. -/
def keyPart : Parser String
  | '"' :: rest => lineTextOf '"' rest
  | '\'' :: rest => lineTextOf '\'' rest
  | cs =>
    match cs.takeWhile isKeyChar with
    | [] => none
    | word => some (String.ofList word, cs.dropWhile isKeyChar)

/-- A key: parts with dots between them, and blanks around each. -/
def keyParts : Nat → Parser (List String)
  | 0, _ => none
  | parts + 1, cs =>
    match keyPart (skipSpace cs) with
    | none => none
    | some (part, rest) =>
      match skipSpace rest with
      | '.' :: rest => (keyParts parts rest).map fun (more, rest) => (part :: more, rest)
      | rest => some ([part], rest)

/-- A key of fewer parts than there may be. -/
def key (cs : List Char) : Option (List String × List Char) := keyParts (depthLimit - 1) cs

end PoolScaler.Toml
