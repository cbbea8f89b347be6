import PoolScaler.Toml.Basic
set_option autoImplicit false

/-!
# Sections

A section is read from a table, by the names of its fields and whatever else is
there, or from a list, by position.  A date or a time counts as a table with
one key that no section knows.
-/

namespace PoolScaler.Toml

/-- A way to read a value. -/
abbrev Decoder (α : Type) : Type := Toml → Option α

/-- The key under which a date or a time has its text. -/
def momentKey : String := "$__toml_private_datetime"

/-- The entries of a table. -/
def asEntries : Decoder (List (String × Toml))
  | .table es => some es
  | .moment text => some [(momentKey, .str text)]
  | _ => none

/-- A text. -/
def asText : Decoder String
  | .str s => some s
  | _ => none

/-- An unsigned number of 32 bits. -/
def asUInt32 : Decoder UInt32
  | .int n => if 0 ≤ n ∧ n < UInt32.size then some (UInt32.ofNat n.toNat) else none
  | _ => none

/-- A signed number of 64 bits. -/
def asInt64 : Decoder Int64
  | .int n => some (Int64.ofInt n)
  | _ => none

/-- Texts under keys. -/
def asTexts : Decoder (List (String × String)) := fun v => do
  (← asEntries v).mapM fun e => (asText e.2).map fun s => (e.1, s)

/-- What the fields of a section are read from. -/
inductive Supply where
  /-- Values under names. -/
  | named (entries : List (String × Toml))
  /-- Values in the order of the fields. -/
  | placed (items : List Toml)

/-- The value for the next field, which has a name. -/
def Supply.next (s : Supply) (name : String) : Option Toml × Supply :=
  match s with
  | .named es => (es.lookup name, s)
  | .placed [] => (none, .placed [])
  | .placed (v :: rest) => (some v, .placed rest)

/-- A way to read a section: its fields in order. -/
abbrev Fields (α : Type) : Type := StateT Supply Option α

namespace Fields

variable {α : Type}

/-- A field that must be there. -/
def required (name : String) (dec : Decoder α) : Fields α := fun s =>
  match s.next name with
  | (some v, s) => (dec v).map fun a => (a, s)
  | (none, _) => none

/-- A field that has a default. -/
def defaulted (name : String) (dec : Decoder α) (default : α) : Fields α := fun s =>
  match s.next name with
  | (some v, s) => (dec v).map fun a => (a, s)
  | (none, s) => some (default, s)

/-- A field that may be absent from a table but not from a list. -/
def optional (name : String) (dec : Decoder α) : Fields (Option α) := fun s =>
  match s.next name with
  | (some v, s) => (dec v).map fun a => (some a, s)
  | (none, .named es) => some (none, .named es)
  | (none, .placed _) => none

/-- The section that a value holds; items of a list beyond the last field do
not count. -/
def read (f : Fields α) : Decoder α
  | .arr items => (f (.placed items)).map (·.1)
  | v => match asEntries v with
    | some es => (f (.named es)).map (·.1)
    | none => none

end Fields

end PoolScaler.Toml
