import PoolScaler.Toml.Basic
set_option autoImplicit false

/-!
# Building tables

A text names the tables of a document by headers and by keys with dots.  A
table may be named once by a header of its own; a table that only came about
because others are in it may be named later; a table that came about by keys
with dots may only be added to by such keys.
-/

namespace PoolScaler.Toml

/-- How a table came about. -/
inductive Origin where
  /-- By a header of its own, or between braces. -/
  | named
  /-- Because another table's header goes through it. -/
  | implied
  /-- Because a key with dots goes through it. -/
  | dotted
  deriving DecidableEq, Repr, Inhabited

/-- What stands under a key while a document is built. -/
inductive Node where
  /-- A value. -/
  | leaf (value : Toml)
  /-- A table. -/
  | table (origin : Origin) (entries : List (String × Node))
  /-- A list of tables, the last one first. -/
  | tables (items : List (List (String × Node)))
  deriving Inhabited

/-- The entries of a table. -/
abbrev Entries : Type := List (String × Node)

namespace Entries

/-- Put a node in the place of the one under its key, or at the end. -/
def put (key : String) (node : Node) : Entries → Entries
  | [] => [(key, node)]
  | e :: rest => if e.1 = key then (key, node) :: rest else e :: put key node rest

/-- The entries without a key. -/
def erase (key : String) (es : Entries) : Entries := es.filter (·.1 != key)

/-- Change the table at the end of a path.  Tables that are missing on the way
come about; a list of tables stands for its last one.  A key with dots may not
go through a table that has a header. -/
def within (dotted : Bool) (change : Origin → Entries → Option Entries) :
    List String → Origin → Entries → Option Entries
  | [], origin, es => change origin es
  | key :: path, _, es =>
    match es.lookup key with
    | none =>
      let origin := if dotted then .dotted else .implied
      (within dotted change path origin []).map fun sub => es.put key (.table origin sub)
    | some (.leaf _) => none
    | some (.table origin sub) =>
      if dotted && origin == .named then none
      else (within dotted change path origin sub).map fun sub => es.put key (.table origin sub)
    | some (.tables []) => none
    | some (.tables (last :: others)) =>
      (within dotted change path .named last).map fun last => es.put key (.tables (last :: others))

/-- Put a value under a key with dots: its last part must be new, and its other
parts must go through tables that came about by keys with dots. -/
def define (es : Entries) (path : List String) (value : Toml) : Option Entries :=
  match path.getLast? with
  | none => none
  | some key =>
    let front := path.dropLast
    within true (fun origin sub =>
      if (origin == .dotted) == front.isEmpty then none
      else if (sub.lookup key).isSome then none
      else some (sub.put key (.leaf value))) front .named es

end Entries

mutual

/-- The value that a node has become. -/
def Node.value : Node → Toml
  | .leaf v => v
  | .table _ es => .table (entryValues es)
  | .tables items => .arr (tableValues items).reverse

/-- The values under the keys of a table. -/
def entryValues : List (String × Node) → List (String × Toml)
  | [] => []
  | (key, node) :: rest => (key, node.value) :: entryValues rest

/-- The values of a list of tables. -/
def tableValues : List (List (String × Node)) → List Toml
  | [] => []
  | es :: rest => .table (entryValues es) :: tableValues rest

end

/-! ## Documents -/

/-- A document that is being built: the tables that are finished, and the one
that is being filled with where it belongs. -/
structure Draft where
  root : Entries
  /-- The path of the current table. -/
  path : List String
  /-- The current table is one of a list. -/
  listed : Bool
  current : Entries
  deriving Inhabited

namespace Draft

/-- Nothing has been read; the current table is the whole document's. -/
def start : Draft := ⟨[], [], false, []⟩

/-- Put the current table where it belongs. -/
def finish (d : Draft) : Option Entries :=
  match d.path.getLast? with
  | none => some d.current
  | some key =>
    Entries.within false (fun _ es =>
      match es.lookup key, d.listed with
      | none, false => some (es.put key (.table .named d.current))
      | some (.tables items), true => some (es.put key (.tables (d.current :: items)))
      | _, _ => none) d.path.dropLast .named d.root

/-- Begin the table of a header. -/
def beginTable (d : Draft) (path : List String) : Option Draft := do
  let root ← d.finish
  let key ← path.getLast?
  let front := path.dropLast
  let place ← Entries.within false (fun _ es =>
    match es.lookup key with
    | none | some (.table .implied _) => some es
    | _ => none) front .named root
  let current := match lookupAt place front with
    | some es =>
      match es.lookup key with
      | some (.table _ sub) => sub
      | _ => []
    | none => []
  let root ← Entries.within false (fun _ es => some (es.erase key)) front .named place
  return ⟨root, path, false, current⟩
where
  /-- The entries of the table at the end of a path. -/
  lookupAt (es : Entries) : List String → Option Entries
    | [] => some es
    | key :: path =>
      match es.lookup key with
      | some (.table _ sub) => lookupAt sub path
      | some (.tables (last :: _)) => lookupAt last path
      | _ => none

/-- Begin one more table of the list of a header. -/
def beginListed (d : Draft) (path : List String) : Option Draft := do
  let root ← d.finish
  let key ← path.getLast?
  let root ← Entries.within false (fun _ es =>
    match es.lookup key with
    | none => some (es.put key (.tables []))
    | some (.tables _) => some es
    | _ => none) path.dropLast .named root
  return ⟨root, path, true, []⟩

/-- Put a value under a key of the current table. -/
def define (d : Draft) (path : List String) (value : Toml) : Option Draft :=
  (d.current.define path value).map fun current => { d with current := current }

/-- The table of the whole document. -/
def close (d : Draft) : Option Toml := d.finish.map fun es => .table (entryValues es)

end Draft

end PoolScaler.Toml
