import PoolScaler.Text.Decimal
import PoolScaler.Text.Utf8
set_option autoImplicit false

/-!
# Percent signs

Characters that have no place in a part of an address are written as their
bytes, each as a percent sign and two digits.  Which characters these are goes
by the part.
-/

namespace PoolScaler.Web

/-- A byte as a percent sign and two digits. -/
def percentByte (b : UInt8) : List Char :=
  ['%', Text.hexDigitUpper (b.toNat / 16), Text.hexDigitUpper (b.toNat % 16)]

/-- A character as its bytes. -/
def percentChar (c : Char) : List Char :=
  (Text.Utf8.encode (String.singleton c)).flatMap percentByte

/-- A text with the characters of a set escaped; what is no visible character
of ASCII is always escaped. -/
def escapeWith (set : Char → Bool) (cs : List Char) : List Char :=
  cs.flatMap fun c =>
    if c.toNat < 0x20 || 0x7E < c.toNat || set c then percentChar c else [c]

/-- What may not stand in a path. -/
def pathSet (c : Char) : Bool :=
  c ∈ [' ', '"', '<', '>', '\x60', '#', '?', '\x7b', '\x7d']

/-- What may not stand in the name or the password before a host. -/
def userSet (c : Char) : Bool :=
  pathSet c || c ∈ ['/', ':', ';', '=', '@', '[', '\\', ']', '^', '|']

/-- What may not stand in a query. -/
def querySet (c : Char) : Bool := c ∈ [' ', '"', '#', '<', '>', '\'']

/-- The bytes of a text with its escapes taken back.  A percent sign without
two digits stands for itself. -/
def unescape : List UInt8 → List UInt8
  | 0x25 :: h :: l :: rest =>
    match Text.hexValue? (Char.ofNat h.toNat), Text.hexValue? (Char.ofNat l.toNat) with
    | some h', some l' => UInt8.ofNat (16 * h' + l') :: unescape rest
    | _, _ => 0x25 :: unescape (h :: l :: rest)
  | b :: rest => b :: unescape rest
  | [] => []
termination_by bytes => bytes.length

/-! ## Form encoding -/

/-- A character of a name or a value in a query: a blank is a plus sign, and
all but letters, digits and four marks is escaped. -/
def formChar (c : Char) : List Char :=
  if c = ' ' then ['+']
  else if c.toNat < 0x80 && (c.isAlphanum || c ∈ ['*', '-', '.', '_']) then [c]
  else percentChar c

/-- A name and its value in a query. -/
def formPair (p : String × String) : List Char :=
  p.1.toList.flatMap formChar ++ '=' :: p.2.toList.flatMap formChar

/-- Names and values in a query. -/
def formPairs (pairs : List (String × String)) : List Char :=
  List.intercalate ['&'] (pairs.map formPair)

example : formPairs [("a b", "ü")] = "a+b=%C3%BC".toList := by decide +kernel

end PoolScaler.Web
