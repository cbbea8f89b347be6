import PoolScaler.Json.Reader
set_option autoImplicit false

/-!
# How far a value is read

A reader that meets a fault inside a value stops there.  Whoever goes on all
the same, as if the value had been read, goes on from that place: after a text
with gaps or a number that is too large, but in the middle of a text with half
of a pair.  The text around the value is taken to be JSON.
-/

namespace PoolScaler.Json

open Text.Utf8 (Symbol)

/-- Whether a value is read whole, and what follows the place of the last step. -/
structure Reach where
  whole : Bool
  rest : List Symbol
  deriving Inhabited

namespace Reach

/-- A value that is read whole. -/
def done (rest : List Symbol) : Reach := ⟨true, rest⟩

/-- A value that is read to a fault. -/
def halt (rest : List Symbol) : Reach := ⟨false, rest⟩

/-- A text after its opening quote.  The first half of a pair must come before
the second, each written by its number; whatever stands in its place is taken
away with the fault. -/
def ofText (gap : Bool) : List Symbol → Reach
  | [] => halt []
  | none :: rest => ofText true rest
  | some '"' :: rest => ⟨!gap, rest⟩
  | some '\\' :: some 'u' :: a :: b :: c :: d :: rest =>
    match unit? a b c d with
    | none => halt rest
    | some n =>
      if TextRead.isLow n then halt rest
      else if TextRead.isHigh n then
        match rest with
        | some '\\' :: some 'u' :: a :: b :: c :: d :: rest =>
          if (unit? a b c d).any TextRead.isLow then ofText gap rest else halt rest
        | some '\\' :: _ :: rest => halt rest
        | _ :: rest => halt rest
        | [] => halt []
      else ofText gap rest
  | some '\\' :: _ :: rest => ofText gap rest
  | _ :: rest => ofText gap rest

/-- A number; one with an exponent beyond 32 bits is left at the digit that
goes too far. -/
def ofNumber (negative : Bool) (cs : List Symbol) : Reach :=
  let (value, rest) := readNumber negative cs
  let read := cs.take (cs.length - (rest.getD []).length)
  let digits := (read.reverse.takeWhile fun s => (s.map Text.isDigit).getD false).reverse
  let before := read.take (read.length - digits.length)
  let isPower := match before.getLast? with
    | some (some 'e') | some (some 'E') | some (some '+') => true
    | _ => false
  match value with
  | .spoiled _ _ _ =>
    let tooFar (n : Nat) : Bool := UInt32.size ≤ 2 * Text.digitsValue ((digits.take n).filterMap id)
    if isPower then
      match (List.range (digits.length + 1)).find? tooFar with
      | some n => halt (cs.drop (before.length + n))
      | none => halt (rest.getD [])
    else halt (rest.getD [])
  | _ => done (rest.getD [])

/-- A value that is no list and no object. -/
def ofScalar : List Symbol → Reach
  | some '"' :: rest => ofText false rest
  | some 't' :: rest | some 'n' :: rest => done (rest.drop 3)
  | some 'f' :: rest => done (rest.drop 4)
  | some '-' :: rest => ofNumber true rest
  | cs => ofNumber false cs

/-- The end of a list, also of one that is left after a fault. -/
def endList (r : Reach) : Reach :=
  match skipSpace r.rest with
  | some ']' :: rest => ⟨r.whole, rest⟩
  | some ',' :: rest => halt (skipSpace rest)
  | rest => halt rest

/-- The end of an object, also of one that is left after a fault. -/
def endObject (r : Reach) : Reach :=
  match skipSpace r.rest with
  | some '\x7d' :: rest => ⟨r.whole, rest⟩
  | rest => halt rest

mutual

/-- Any value; so many lists and objects may be open, less one. -/
def ofValue (fuel depth : Nat) (cs : List Symbol) : Reach :=
  match fuel with
  | 0 => halt cs
  | fuel + 1 =>
    match skipSpace cs with
    | some '[' :: rest =>
      if depth ≤ 1 then halt (some '[' :: rest) else endList (ofItems fuel (depth - 1) rest)
    | some '\x7b' :: rest =>
      if depth ≤ 1 then halt (some '\x7b' :: rest) else endObject (ofMembers fuel (depth - 1) rest)
    | cs => ofScalar cs

/-- The items of a list, up to its end or to a fault. -/
def ofItems (fuel depth : Nat) (cs : List Symbol) : Reach :=
  match fuel with
  | 0 => halt cs
  | fuel + 1 =>
    match skipSpace cs with
    | some ']' :: rest => done (some ']' :: rest)
    | cs =>
      match ofValue fuel depth cs with
      | ⟨false, rest⟩ => halt rest
      | ⟨true, rest⟩ =>
        match skipSpace rest with
        | some ',' :: rest => ofItems fuel depth rest
        | rest => done rest

/-- The members of an object, up to its end or to a fault. -/
def ofMembers (fuel depth : Nat) (cs : List Symbol) : Reach :=
  match fuel with
  | 0 => halt cs
  | fuel + 1 =>
    match skipSpace cs with
    | some '"' :: rest =>
      match ofText false rest with
      | ⟨false, rest⟩ => halt rest
      | ⟨true, rest⟩ =>
        match ofValue fuel depth ((skipSpace rest).drop 1) with
        | ⟨false, rest⟩ => halt rest
        | ⟨true, rest⟩ =>
          match skipSpace rest with
          | some ',' :: rest => ofMembers fuel depth rest
          | rest => done rest
    | rest => done rest

end

end Reach

end PoolScaler.Json
