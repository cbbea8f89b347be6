import PoolScaler.Text.Decimal
set_option autoImplicit false

/-!
# Runs of code points

A property of code points is kept as its runs: where each one starts and the
value it has up to the next.  A table is written as words, one for each run,
with the length of the run in hexadecimal digits, a letter that is none, and
what else the value needs.
-/

namespace PoolScaler.Text

/-- The words of a text between blanks and line breaks. -/
def words (cs : List Char) : List (List Char) :=
  let (word, done) := cs.foldr (fun c (acc : List Char × List (List Char)) =>
    if c = ' ' || c = '\n' then
      (if acc.1.isEmpty then acc else ([], acc.1 :: acc.2))
    else (c :: acc.1, acc.2)) ([], [])
  if word.isEmpty then done else word :: done

example : words "10x  3y".toList = ["10x".toList, "3y".toList] := by decide +kernel

/-- The starts of runs in increasing order, and their values. -/
structure Runs (α : Type) where
  starts : Array Nat
  values : Array α
  deriving Inhabited

namespace Runs

variable {α : Type}

/-- The last place from `lo` on and before `hi` where a start is at most `n`,
given that the one at `lo` is. -/
def seek (starts : Array Nat) (n lo hi : Nat) : Nat :=
  if lo + 1 < hi then
    let mid := (lo + hi) / 2
    if starts.getD mid 0 ≤ n then seek starts n mid hi else seek starts n lo mid
  else lo
termination_by hi - lo

/-- The value of the run that a number is in. -/
def get? (r : Runs α) (n : Nat) : Option α :=
  if n < r.starts.getD 0 0 then none else r.values[seek r.starts n 0 r.starts.size]?

/-- The value of the run that a character is in. -/
def of? (r : Runs α) (c : Char) : Option α := r.get? c.toNat

/-- The runs that are read so far, and where the next one starts. -/
structure Partial (α : Type) where
  next : Nat
  runs : Runs α

/-- One more run. -/
def Partial.add (p : Partial α) (value : Nat → Char → List Char → α) (word : List Char) :
    Partial α :=
  let digits := word.takeWhile fun c => (hexValue? c).isSome
  match word.drop digits.length with
  | [] => p
  | kind :: rest =>
    ⟨p.next + (hexValues? digits).getD 0,
      ⟨p.runs.starts.push p.next, p.runs.values.push (value p.next kind rest)⟩⟩

/-- The runs of a text; `value` takes the start of a run, its letter and what
follows the letter. -/
def ofText (value : Nat → Char → List Char → α) (text : String) : Runs α :=
  ((words text.toList).foldl (fun p word => p.add value word) (⟨0, ⟨#[], #[]⟩⟩ : Partial α)).runs

/-- The runs of a text in which the letters are the values. -/
def ofLetters (text : String) : Runs Char := ofText (fun _ kind _ => kind) text

example : ((ofLetters "10x 3y 2x").get? 0x12).map Char.toNat = some 121 := by decide +kernel

end Runs

end PoolScaler.Text
