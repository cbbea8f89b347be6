import PoolScaler.Codec.Base64
import PoolScaler.Text.Pieces
set_option autoImplicit false

/-!
# Armoured documents

A document between a line that begins it and one that ends it, both naming what
it is: optional header lines, an empty line after them, and bytes in Base64.
What comes before the first document is passed over, and so is all after it.
-/

namespace PoolScaler.Codec

/-- A document: what it is and its bytes. -/
structure Pem where
  tag : String
  content : List UInt8
  deriving DecidableEq, Repr, Inhabited

namespace Pem

/-- The text before a mark and the text after it.  The search does not look
back: a part of the mark that breaks off is passed over whole. -/
def splitAt? (mark : List Char) (cs : List Char) : Option (List Char × List Char) :=
  go mark [] cs
where
  /-- Search on: what is left of the mark, and the text passed, last first. -/
  go (left : List Char) (passed : List Char) (cs : List Char) :
      Option (List Char × List Char) :=
    match left, cs with
    | [], _ => some ((passed.drop mark.length).reverse, cs)
    | _, [] => none
    | m :: left, c :: cs => go (if c = m then left else mark) (c :: passed) cs

/-- A text without the blanks at its start. -/
def skipBlanks (cs : List Char) : List Char :=
  cs.dropWhile fun c => c = ' ' || c = '\t' || c = '\n' || c = '\r'

/-- The header lines and the data of a document's body. -/
def splitBody (body : List Char) : List Char × List Char :=
  match splitAt? ['\n', '\n'] body with
  | some parts => parts
  | none =>
    match splitAt? ['\r', '\n', '\r', '\n'] body with
    | some parts => parts
    | none => ([], body)

/-- Every line of the headers names something. -/
def headersOk (headers : List Char) : Bool :=
  (String.ofList headers).splitOn "\n" |>.all fun line =>
    line.isEmpty || line.contains ':'

/-- The first document of a text. -/
def parse? (text : String) : Option Pem := do
  let (_, cs) ← splitAt? "-----BEGIN ".toList text.toList
  let (tag, cs) ← splitAt? "-----".toList cs
  let (body, cs) ← splitAt? "-----END ".toList (skipBlanks cs)
  let (closing, _) ← splitAt? "-----".toList cs
  if tag.isEmpty ∨ tag ≠ closing then none
  else
    let (headers, data) := splitBody body
    let content ← Base64.decode? Base64.standard (data.filter fun c => !Text.isBlank c)
    if headersOk headers then some ⟨String.ofList tag, content⟩ else none

end Pem

end PoolScaler.Codec
