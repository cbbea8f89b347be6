import PoolScaler.Json.Reader
import PoolScaler.Json.Writer
import PoolScaler.Pool.Record
set_option autoImplicit false

/-!
# The store

Two tables of texts: pools under their names, pods under the name of their
pool, a colon and their own name.  A record is written as JSON and read back
when it is asked for, so a text that is no record is a fault only to whoever
asks.  An operation that fails changes nothing.  A store in a file is one text, its
two tables with their texts under their keys; an empty text is a store without
records.
-/

namespace PoolScaler

/-- Why the store did not do what it was asked. -/
inductive StoreFault where
  /-- The file is no store, or cannot be made one. -/
  | unopened
  /-- A stored text is no record. -/
  | unreadable
  /-- There is no pool of this name. -/
  | poolNotFound (name : String)
  /-- Every name that was drawn for a pod is taken. -/
  | noFreeName
  deriving DecidableEq, Repr, Inhabited

namespace StoreFault

/-- The wording of a fault. -/
def message : StoreFault → String
  | unopened => "failed to open database"
  | unreadable => "deserialization error"
  | poolNotFound name => "pool not found: " ++ name
  | noFreeName => "failed to generate pod name"

end StoreFault

/-- The tables of pools and pods. -/
structure Store where
  pools : Keyed String
  pods : Keyed String
  deriving DecidableEq, Repr

namespace Store

/-- A store without records. -/
def empty : Store := ⟨.empty, .empty⟩

instance : Inhabited Store := ⟨empty⟩

/-- The record that a stored text holds. -/
def readRecord {α : Type} (fields : Json.Fields α) (text : String) : Except StoreFault α :=
  match Json.decodeText fields.read text with
  | .ok a => .ok a
  | .error _ => .error .unreadable

/-- The pool of a stored text. -/
def readPool (text : String) : Except StoreFault PoolRecord := readRecord PoolRecord.fields text

/-- The pod of a stored text. -/
def readPod (text : String) : Except StoreFault Pod := readRecord Pod.fields text

/-- The text of a pool. -/
def writePool (r : PoolRecord) : String := r.toJson.render

/-- The text of a pod. -/
def writePod (p : Pod) : String := p.toJson.render

/-! ## Pools -/

/-- Put a pool in the place of any other of its name. -/
def putPool (s : Store) (r : PoolRecord) : Store :=
  { s with pools := s.pools.insert r.tableKey (writePool r) }

/-- The pool of a name. -/
def getPool (s : Store) (name : String) : Except StoreFault (Option PoolRecord) :=
  match s.pools.find? name with
  | none => .ok none
  | some text => (readPool text).map some

/-- Every pool, in the order of the names. -/
def listPools (s : Store) : Except StoreFault (List PoolRecord) :=
  s.pools.entries.mapM fun e => readPool e.2

/-- Replace the status of a pool and nothing else. -/
def updatePoolStatus (s : Store) (name : String) (status : PoolStatus) :
    Except StoreFault Store :=
  match s.pools.find? name with
  | none => .error (.poolNotFound name)
  | some text =>
    match readPool text with
    | .error e => .error e
    | .ok r =>
      .ok { s with pools := s.pools.insert name (writePool { r with status := status }) }

/-- The start of the keys of a pool's pods. -/
def podKeyStart (pool : String) : String := pool ++ ":"

/-- A key starts with another text. -/
def startsWith (key start : String) : Bool := start.toList.isPrefixOf key.toList

/-- Delete a pool and every pod whose key starts with its name and a colon, and
tell whether there was such a pool. -/
def deletePool (s : Store) (name : String) : Bool × Store :=
  (s.pools.contains name,
    { pools := s.pools.erase name
      pods := s.pods.filter fun e => !startsWith e.1 (podKeyStart name) })

/-! ## Pods -/

/-- The first drawn suffix whose pod name is not taken, and the draws after it. -/
def freeName? (pods : Keyed String) (pool : String) :
    List String → Option (String × List String)
  | [] => none
  | suffix :: rest =>
    let name := pool ++ "-" ++ suffix
    if pods.contains (Pod.key pool name) then freeName? pods pool rest else some (name, rest)

/-- Create a pod of a pool from its template, its environment overlaid with
`extra`.  Names are tried in the order of the drawn suffixes; the draws that
are left are returned. -/
def createPod (s : Store) (spec : PoolSpec) (extra : Pairs) (now : Instant)
    (draws : List String) : Except StoreFault (Pod × List String × Store) :=
  match freeName? s.pods spec.name draws with
  | none => .error .noFreeName
  | some (name, draws) =>
    let pod : Pod :=
      { name := name
        owner := spec.name
        phase := .pending
        image := spec.template.image
        labels := spec.template.labels
        env := spec.template.env.overlay extra
        createdAt := now }
    .ok (pod, draws, { s with pods := s.pods.insert pod.tableKey (writePod pod) })

/-- Put a pod in the place of any other of its key. -/
def putPod (s : Store) (p : Pod) : Store :=
  { s with pods := s.pods.insert p.tableKey (writePod p) }

/-- Whether a pod is listed before another or at its place: by the time of
creation, then by name. -/
def listedBefore (a b : Pod) : Bool :=
  a.createdAt < b.createdAt || (a.createdAt == b.createdAt && decide (a.name ≤ b.name))

/-- The pods whose keys start with a pool's name and a colon, oldest first. -/
def listPods (s : Store) (pool : String) : Except StoreFault (List Pod) :=
  let texts := s.pods.entries.filter fun e => startsWith e.1 (podKeyStart pool)
  match texts.mapM fun e => readPod e.2 with
  | .error e => .error e
  | .ok pods => .ok (pods.mergeSort listedBefore)

/-- Delete a pod and tell whether it was there. -/
def deletePod (s : Store) (pool name : String) : Bool × Store :=
  let key := Pod.key pool name
  (s.pods.contains key, { s with pods := s.pods.erase key })

/-- Set the phase of a pod and tell whether it is there. -/
def setPodPhase (s : Store) (pool name : String) (phase : Phase) :
    Except StoreFault (Bool × Store) :=
  let key := Pod.key pool name
  match s.pods.find? key with
  | none => .ok (false, s)
  | some text =>
    match readPod text with
    | .error e => .error e
    | .ok pod =>
      .ok (true, { s with pods := s.pods.insert key (writePod { pod with phase := phase }) })

/-! ## A store as one text -/

/-- The fields of a written store. -/
def fields : Json.Fields Store :=
  Store.mk
    <$> .required "pools" Pairs.decoder
    <*> .required "pods" Pairs.decoder

/-- The text of a store. -/
def toText (s : Store) : String :=
  (Json.object [("pools", Pairs.toJson s.pools), ("pods", Pairs.toJson s.pods)]).render

/-- The store of a text. -/
def ofText (text : String) : Except StoreFault Store :=
  if text.isEmpty then .ok .empty
  else match Json.decodeText fields.read text with
    | .ok s => .ok s
    | .error _ => .error .unopened

end Store

end PoolScaler
