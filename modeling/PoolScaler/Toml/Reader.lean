import PoolScaler.Toml.Moment
import PoolScaler.Toml.Number
import PoolScaler.Toml.Table
import PoolScaler.Toml.Text
set_option autoImplicit false

/-!
# Reading a settings text

Values, the lines of a document, and the document as a whole.  Nothing is said
about a text that cannot be read.
-/

namespace PoolScaler.Toml

/-- Pass over blanks, comments and line breaks. -/
def skipLines (cs : List Char) : List Char :=
  go cs.length cs
where
  /-- Pass over so many lines at most. -/
  go : Nat → List Char → List Char
    | 0, cs => cs
    | lines + 1, cs =>
      match newline? (skipComment (skipSpace cs)) with
      | some rest => go lines rest
      | none => skipSpace cs

/-- A value that has neither items nor entries. -/
def scalar : Parser Toml
  | '"' :: rest => (textOf '"' rest).map fun (s, rest) => (.str s, rest)
  | '\'' :: rest => (textOf '\'' rest).map fun (s, rest) => (.str s, rest)
  | 't' :: 'r' :: 'u' :: 'e' :: rest => some (.bool true, rest)
  | 'f' :: 'a' :: 'l' :: 's' :: 'e' :: rest => some (.bool false, rest)
  | cs =>
    match anyMoment cs with
    | some r => some r
    | none =>
      match realNumber cs with
      | some r => some r
      | none => integer cs

mutual

/-- A value; `depth` counts the lists and tables it is in. -/
def value (fuel depth : Nat) (cs : List Char) : Option (Toml × List Char) :=
  match fuel, cs with
  | 0, _ => none
  | fuel + 1, '[' :: rest =>
    if depth + 1 < depthLimit then
      match skipLines rest with
      | ']' :: rest => some (.arr [], rest)
      | rest => items fuel (depth + 1) [] rest
    else none
  | fuel + 1, '\x7b' :: rest =>
    if depth + 1 < depthLimit then
      match skipSpace rest with
      | '\x7d' :: rest => some (.table [], rest)
      | rest => entries fuel (depth + 1) [] rest
    else none
  | _ + 1, cs => scalar cs

/-- The items of a list from the next one on. -/
def items (fuel depth : Nat) (done : List Toml) (cs : List Char) : Option (Toml × List Char) :=
  match fuel with
  | 0 => none
  | fuel + 1 =>
    match value fuel depth (skipLines cs) with
    | none => none
    | some (v, rest) =>
      match skipLines rest with
      | ']' :: rest => some (.arr (v :: done).reverse, rest)
      | ',' :: rest =>
        match skipLines rest with
        | ']' :: rest => some (.arr (v :: done).reverse, rest)
        | rest => items fuel depth (v :: done) rest
      | _ => none

/-- The entries of a table between braces from the next one on. -/
def entries (fuel depth : Nat) (done : Entries) (cs : List Char) : Option (Toml × List Char) :=
  match fuel with
  | 0 => none
  | fuel + 1 =>
    match key cs with
    | some (path, '=' :: rest) =>
      match value fuel depth (skipSpace rest) with
      | none => none
      | some (v, rest) =>
        match done.define path v with
        | none => none
        | some done =>
          match skipSpace rest with
          | '\x7d' :: rest => some (.table (entryValues done), rest)
          | ',' :: rest => entries fuel depth done rest
          | _ => none
    | _ => none

end

/-! ## Lines -/

/-- A line that is a header. -/
def header (d : Draft) (cs : List Char) : Option (Draft × List Char) :=
  match cs with
  | '[' :: rest =>
    match key rest with
    | some (path, ']' :: ']' :: rest) => do
      let d ← d.beginListed path
      return (d, ← lineEnd? rest)
    | _ => none
  | _ =>
    match key cs with
    | some (path, ']' :: rest) => do
      let d ← d.beginTable path
      return (d, ← lineEnd? rest)
    | _ => none

/-- A line that gives a key its value. -/
def assignment (d : Draft) (cs : List Char) : Option (Draft × List Char) :=
  match key cs with
  | some (path, '=' :: rest) => do
    let (v, rest) ← value (rest.length + 1) 0 (skipSpace rest)
    let d ← d.define path v
    return (d, ← lineEnd? rest)
  | _ => none

/-- One line, which is not empty. -/
def line (d : Draft) (cs : List Char) : Option (Draft × List Char) :=
  match skipSpace cs with
  | '[' :: rest => header d rest
  | cs =>
    match lineEnd? cs with
    | some rest => some (d, rest)
    | none => assignment d cs

/-- So many lines at most, up to the end of the text. -/
def lines : Nat → Draft → List Char → Option Draft
  | _, d, [] => some d
  | 0, _, _ => none
  | n + 1, d, cs =>
    match line d cs with
    | some (d, rest) => lines n d rest
    | none => none

/-- The table of a whole text, which may begin with a byte order mark. -/
def read? (s : String) : Option Toml :=
  let cs := match s.toList with
    | '\ufeff' :: rest => rest
    | cs => cs
  (lines (cs.length + 1) .start cs).bind Draft.close

end PoolScaler.Toml
