import PoolScaler.Simulation.Cue
import PoolScaler.Time.Stamp
set_option autoImplicit false

/-!
# Times relative to the simulation's

Scripts write times as distances from the time of day, between marks; a time
that is near to it is told from one that a script made up.
-/

namespace PoolScaler.Simulation

/-- A relative time after its mark: whether it is earlier, how many seconds, and
what follows. -/
def relative? : List Char → Option (Bool × Nat × List Char)
  | sign :: rest =>
    if sign = '+' ∨ sign = '-' then
      match Text.readDigits? (rest.takeWhile Text.isDigit), rest.dropWhile Text.isDigit with
      | some n, '@' :: rest => some (sign = '-', n, rest)
      | _, _ => none
    else none
  | [] => none

/-- The characters of a text with its relative times written out; `fuel` bounds
their number. -/
def writeTimes : Nat → List Char → List Char
  | 0, cs => cs
  | fuel + 1, '@' :: 'T' :: cs =>
    match relative? cs with
    | some (earlier, n, rest) =>
      let time := if earlier then today.toNat - n else today.toNat + n
      (Stamp.render time).toList ++ writeTimes fuel rest
    | none => '@' :: 'T' :: writeTimes fuel cs
  | fuel + 1, c :: cs => c :: writeTimes fuel cs
  | _, [] => []

/-- A text with its relative times written out. -/
def withTimes (text : String) : String :=
  String.ofList (writeTimes text.length text.toList)

/-- Seconds from the time of day to a time. -/
def fromToday (t : Instant) : Int := (t.toNat : Int) - today.toNat

/-- A time is within ten days of the time of day. -/
def isNear (t : Instant) : Bool := (fromToday t).natAbs ≤ 864000

/-! ## Records without their times -/

/-- The fields of records that hold times. -/
def timeFields : List String := ["created_at", "updated_at", "last_scale_up_at", "expiration_time"]

/-- The value of a field of a record: a time near to the time of day is written
as a word, and a name is put through `label`. -/
def timelessField (label : String → String) (name : String) : Json → Json
  | .int n =>
    if timeFields.contains name && isNear (UInt64.ofNat n.toNat) then .str "now" else .int n
  | .str s => .str (if name = "name" then label s else s)
  | j => j

mutual

/-- A value whose records have lost the times of the simulation. -/
def timeless (label : String → String) : Json → Json
  | .arr items cut => .arr (timelessItems label items) cut
  | .obj members cut => .obj (timelessMembers label members) cut
  | j => j

/-- The items of a list, each without the times of the simulation. -/
def timelessItems (label : String → String) : List Json → List Json
  | [] => []
  | j :: rest => timeless label j :: timelessItems label rest

/-- The members of an object, each without the times of the simulation. -/
def timelessMembers (label : String → String) :
    List (Except Json.Fault String × Json) → List (Except Json.Fault String × Json)
  | [] => []
  | (.ok name, j) :: rest =>
    (.ok name, timelessField label name (timeless label j)) :: timelessMembers label rest
  | (.error f, j) :: rest => (.error f, timeless label j) :: timelessMembers label rest

end

end PoolScaler.Simulation
