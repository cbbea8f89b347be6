import PoolScaler.Json.Basic
set_option autoImplicit false

/-!
# Records

A record is read from an object, by the names of its fields in any order and
among names it does not know, or from a list, by position.  A field may be
required, may be left out because it has a default, or may be absent from an
object because it is optional.
-/

namespace PoolScaler.Json

/-- What reading a record has found: the value under each name, and whether
the values were listed by position. -/
structure Found where
  value : String → Option Json
  positional : Bool

/-- A name a record knows, and the check of its value. -/
structure Field where
  name : String
  check : Json → Except Fault Unit

/-- A way to read a record: the fields in the order of their positions, and
the record made of their values. -/
structure Fields (α : Type) where
  known : List Field
  build : Found → Except Fault α

namespace Fields

/-- A record without fields. -/
def pure {α : Type} (a : α) : Fields α := ⟨[], fun _ => .ok a⟩

/-- One record after the other. -/
def seq {α β : Type} (f : Fields (α → β)) (x : Unit → Fields α) : Fields β :=
  { known := f.known ++ (x ()).known
    build := fun found =>
      match f.build found with
      | .error e => .error e
      | .ok g =>
        match (x ()).build found with
        | .error e => .error e
        | .ok a => .ok (g a) }

instance : Applicative Fields where
  pure := pure
  seq := seq

/-- A field that is known under one name, whose absence means `absent`. -/
def field {α : Type} (name : String) (dec : Decoder α)
    (absent : Bool → Except Fault α) : Fields α :=
  { known := [⟨name, fun j => (dec j).map fun _ => ()⟩]
    build := fun found =>
      match found.value name with
      | some j => dec j
      | none => absent found.positional }

/-- A field that must be there. -/
def required {α : Type} (name : String) (dec : Decoder α) : Fields α :=
  field name dec fun _ => .error .mismatch

/-- A field that has a default. -/
def defaulted {α : Type} (name : String) (dec : Decoder α) (default : α) : Fields α :=
  field name dec fun _ => .ok default

/-- A field that may be null, and may be absent from an object but not from a
list. -/
def optional {α : Type} (name : String) (dec : Decoder α) : Fields (Option α) :=
  field name (asOption dec) fun positional =>
    if positional then .error .mismatch else .ok none

/-- The field of a name. -/
def find? {α : Type} (r : Fields α) (name : String) : Option Field :=
  r.known.find? (·.name == name)

/-- Go through the members of an object: a known name is checked and kept, and
may not come again; the value of any other name is passed over. -/
def scan {α : Type} (r : Fields α) (seen : List (String × Json)) :
    List (Except Fault String × Json) → Option Cut → Except Fault (List (String × Json))
  | [], cut =>
    match readCut cut with
    | .error e => .error e
    | .ok () => .ok seen
  | (.error e, _) :: _, _ => .error e
  | (.ok name, j) :: rest, cut =>
    match r.find? name with
    | some f =>
      if (seen.lookup name).isSome then .error .mismatch
      else match f.check j with
        | .error e => .error e
        | .ok () => scan r (seen ++ [(name, j)]) rest cut
    | none =>
      match skip j with
      | .error e => .error e
      | .ok () => scan r seen rest cut

/-- Go through the items of a list, one for each field; the list may end
early, and the fields decide whether it may end there, but it may not go on. -/
def place (seen : List (String × Json)) :
    List Field → List Json → Option Cut → Except Fault (List (String × Json))
  | [], [], none => .ok seen
  | [], [], some c => .error c.read
  | [], _ :: _, _ => .error .malformed
  | _ :: _, [], cut =>
    match readCut cut with
    | .error e => .error e
    | .ok () => .ok seen
  | f :: fields, j :: rest, cut =>
    match f.check j with
    | .error e => .error e
    | .ok () => place (seen ++ [(f.name, j)]) fields rest cut

/-- The record that a value holds. -/
def read {α : Type} (r : Fields α) : Decoder α
  | .obj members cut =>
    match r.scan [] members cut with
    | .error e => .error e
    | .ok seen => r.build ⟨(List.lookup · seen), false⟩
  | .arr items cut =>
    match place [] r.known items cut with
    | .error e => .error e
    | .ok seen => r.build ⟨(List.lookup · seen), true⟩
  | j => .error j.otherKind

end Fields

end PoolScaler.Json
