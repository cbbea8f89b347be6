import PoolScaler.Pool.Record
set_option autoImplicit false

/-!
# A cache of values that lapse

Values under keys, each readable until its expiration time.  Writing forgets
what has lapsed; reading never shows it.
-/

namespace PoolScaler

/-- A value with the time it lapses at. -/
structure CacheEntry (α : Type) where
  key : String
  value : α
  expirationTime : Instant
  deriving DecidableEq, Repr, Inhabited

namespace CacheEntry

variable {α : Type}

/-- An entry is not readable from its expiration time on. -/
def isExpired (e : CacheEntry α) (now : Instant) : Bool := e.expirationTime ≤ now

/-- The fields of a stored entry whose value is read by `dec`. -/
def fields (dec : Json.Decoder α) : Json.Fields (CacheEntry α) :=
  CacheEntry.mk
    <$> .required "key" Json.asText
    <*> .required "value" dec
    <*> .required "expiration_time" Json.asUInt64

/-- An entry as it is stored. -/
def toJson (write : α → Json) (e : CacheEntry α) : Json :=
  .object [
    ("key", .str e.key),
    ("value", write e.value),
    ("expiration_time", .ofUInt64 e.expirationTime)]

end CacheEntry

/-- Entries, at most one for each key. -/
structure TtlCache (α : Type) where
  entries : List (CacheEntry α)
  deriving DecidableEq, Repr, Inhabited

namespace TtlCache

variable {α : Type}

/-- A cache without entries. -/
def empty : TtlCache α := ⟨[]⟩

/-- The entry of a key, lapsed or not. -/
def entry? (c : TtlCache α) (key : String) : Option (CacheEntry α) :=
  c.entries.find? (·.key == key)

/-- The value under a key, unless it has lapsed. -/
def get? (c : TtlCache α) (key : String) (now : Instant) : Option α :=
  match c.entry? key with
  | some e => if e.isExpired now then none else some e.value
  | none => none

/-- Forget what has lapsed, then put a value under a key. -/
def insert (c : TtlCache α) (key : String) (value : α) (expiration now : Instant) : TtlCache α :=
  ⟨⟨key, value, expiration⟩ ::
    c.entries.filter fun e => !e.isExpired now && e.key != key⟩

/-- Take the value of a key out, lapsed or not. -/
def remove (c : TtlCache α) (key : String) : Option α × TtlCache α :=
  ((c.entry? key).map (·.value), ⟨c.entries.filter (·.key != key)⟩)

/-- The number of entries, lapsed ones included. -/
def size (c : TtlCache α) : Nat := c.entries.length

end TtlCache

end PoolScaler
