set_option autoImplicit false

/-!
# JSON values as far as they were written

A value of this type is what a reader made of a text, faults in place: a list
or an object may break off, and a member may be unreadable.  Records decide
what a fault means when they reach it, so the first fault in the order of the
text is the one that is reported.
-/

namespace PoolScaler

/-- Why a text is not the record that was asked for. -/
inductive Json.Fault where
  /-- The text is no JSON. -/
  | malformed
  /-- The text is JSON of another kind: a wrong type, a missing, repeated or
  unknown name, a number out of range. -/
  | mismatch
  /-- The text ends too early. -/
  | truncated
  deriving DecidableEq, Repr, Inhabited

/-- Where a list of members breaks off. -/
structure Json.Cut where
  /-- A comma came before the break. -/
  afterComma : Bool
  /-- The fault met by whoever reads on. -/
  read : Json.Fault
  /-- The fault met by whoever passes over the list. -/
  skip : Json.Fault
  /-- The fault met by whoever wants a value in the place of a name. -/
  asValue : Json.Fault
  deriving DecidableEq, Repr, Inhabited

/-- What kind of value an unreadable piece would have been. -/
inductive Json.Piece where
  /-- Nothing is left of the text. -/
  | absent
  /-- A text between quotes. -/
  | text
  /-- A number, a word, or no value at all. -/
  | other
  deriving DecidableEq, Repr, Inhabited

/-- A JSON value as written. -/
inductive Json where
  | null
  | bool (value : Bool)
  /-- A number without fraction and exponent. -/
  | int (value : Int)
  /-- Any other number. -/
  | real
  | str (value : String)
  /-- A list, and where it breaks off if it is not closed. -/
  | arr (items : List Json) (cut : Option Json.Cut)
  /-- The members of an object in the order of the text.  A name that cannot
  be read is a fault to whoever reads it. -/
  | obj (members : List (Except Json.Fault String × Json)) (cut : Option Json.Cut)
  /-- A piece that cannot be read; without `skip` it can be passed over. -/
  | spoiled (piece : Json.Piece) (read : Json.Fault) (skip : Option Json.Fault)
  deriving Inhabited

namespace Json

/-- A whole list. -/
def list (items : List Json) : Json := .arr items none

/-- A whole object. -/
def object (members : List (String × Json)) : Json :=
  .obj (members.map fun m => (.ok m.1, m.2)) none

/-- A text that holds a value: the value, and whether more than blanks follow. -/
structure Document where
  root : Json
  trailing : Bool
  deriving Inhabited

/-- A way to read a value. -/
abbrev Decoder (α : Type) : Type := Json → Except Fault α

/-- The record of a whole text: its value is read first, then nothing but
blanks may follow. -/
def Document.decode {α : Type} (d : Document) (dec : Decoder α) : Except Fault α :=
  match dec d.root with
  | .error f => .error f
  | .ok a => if d.trailing then .error .malformed else .ok a

/-! ## Passing over a value -/

/-- The end of a list of members, for whoever passes over it. -/
def skipCut : Option Cut → Except Fault Unit
  | none => .ok ()
  | some c => .error c.skip

mutual

/-- Whoever does not know a name passes over its value, which must be JSON
but may hold texts and numbers that no reader would take. -/
def skip : Json → Except Fault Unit
  | .arr items cut => skipItems items cut
  | .obj members cut => skipMembers members cut
  | .spoiled _ _ (some f) => .error f
  | _ => .ok ()

/-- Pass over the items of a list and its end. -/
def skipItems : List Json → Option Cut → Except Fault Unit
  | [], cut => skipCut cut
  | j :: rest, cut =>
    match skip j with
    | .error f => .error f
    | .ok () => skipItems rest cut

/-- Pass over the members of an object and its end. -/
def skipMembers : List (Except Fault String × Json) → Option Cut → Except Fault Unit
  | [], cut => skipCut cut
  | (_, j) :: rest, cut =>
    match skip j with
    | .error f => .error f
    | .ok () => skipMembers rest cut

end

/-! ## Reading a value -/

/-- The fault of a value that is not of the kind asked for. -/
def otherKind : Json → Fault
  | .spoiled _ f _ => f
  | _ => .mismatch

/-- A text. -/
def asText : Decoder String
  | .str s => .ok s
  | j => .error j.otherKind

/-- A truth value. -/
def asBool : Decoder Bool
  | .bool b => .ok b
  | j => .error j.otherKind

/-- A whole number from `low` up to, not including, `high`. -/
def asIntIn (low high : Int) : Decoder Int
  | .int n => if low ≤ n ∧ n < high then .ok n else .error .mismatch
  | j => .error j.otherKind

/-- An unsigned number of 32 bits. -/
def asUInt32 : Decoder UInt32 := fun j =>
  (asIntIn 0 UInt32.size j).map fun n => UInt32.ofNat n.toNat

/-- An unsigned number of 64 bits. -/
def asUInt64 : Decoder UInt64 := fun j =>
  (asIntIn 0 UInt64.size j).map fun n => UInt64.ofNat n.toNat

/-- A signed number of 64 bits. -/
def asInt64 : Decoder Int64 := fun j =>
  (asIntIn (-9223372036854775808) 9223372036854775808 j).map Int64.ofInt

/-- A value that may be null. -/
def asOption {α : Type} (dec : Decoder α) : Decoder (Option α)
  | .null => .ok none
  | j => (dec j).map some

/-- The end of a list of members, for whoever reads it. -/
def readCut : Option Cut → Except Fault Unit
  | none => .ok ()
  | some c => .error c.read

/-- The items of a list, each read by `dec`. -/
def readItems {α : Type} (dec : Decoder α) : List Json → Option Cut → Except Fault (List α)
  | [], cut => (readCut cut).map fun _ => []
  | j :: rest, cut => do
    let a ← dec j
    let as ← readItems dec rest cut
    return a :: as

/-- A list. -/
def asList {α : Type} (dec : Decoder α) : Decoder (List α)
  | .arr items cut => readItems dec items cut
  | j => .error j.otherKind

/-- The members of an object with any names, each value read by `dec`. -/
def readEntries {α : Type} (dec : Decoder α) :
    List (Except Fault String × Json) → Option Cut → Except Fault (List (String × α))
  | [], cut => (readCut cut).map fun _ => []
  | (name, j) :: rest, cut => do
    let name ← name
    let a ← dec j
    let as ← readEntries dec rest cut
    return (name, a) :: as

/-- An object with any names: its entries in the order of the text. -/
def asEntries {α : Type} (dec : Decoder α) : Decoder (List (String × α))
  | .obj members cut => readEntries dec members cut
  | j => .error j.otherKind

/-- One of the listed words, written as a text or as an object that holds the
word as its only name, with null. -/
def asWord {α : Type} (words : List (String × α)) : Decoder α
  | .str s => pick s
  | .obj [] none => .error .malformed
  | .obj [] (some c) => .error c.asValue
  | .obj ((name, j) :: rest) cut => do
    let a ← pick (← name)
    match j with
    | .null => match rest, cut with
      | [], none => return a
      | [], some c => .error (if c.afterComma then .malformed else c.read)
      | _ :: _, _ => .error .malformed
    | j => .error j.otherKind
  | .spoiled .absent f _ | .spoiled .text f _ => .error f
  | _ => .error .malformed
where
  /-- The meaning of a word. -/
  pick (s : String) : Except Fault α :=
    match words.lookup s with
    | some a => .ok a
    | none => .error .mismatch

end Json

end PoolScaler
