set_option autoImplicit false

/-!
# Cutting texts

What is left of a text when the white space around it is taken away, and its pieces
when it is cut at every copy of a character.  There is always at least one piece,
and the pieces put together again with that character are the text.
-/

namespace PoolScaler.Text

/-! ## Blanks -/

/-- A character with the property `White_Space`. -/
def isBlank (c : Char) : Bool :=
  let n := c.toNat
  (0x09 ≤ n && n ≤ 0x0D) || n == 0x20 || n == 0x85 || n == 0xA0 || n == 0x1680
    || (0x2000 ≤ n && n ≤ 0x200A) || n == 0x2028 || n == 0x2029 || n == 0x202F
    || n == 0x205F || n == 0x3000

/-- A text without the characters of `drop` at its start and its end. -/
def stripBoth (drop : Char → Bool) (cs : List Char) : List Char :=
  ((cs.dropWhile drop).reverse.dropWhile drop).reverse

/-- A text without the blanks around it. -/
def trim (cs : List Char) : List Char := stripBoth isBlank cs

/-- A text without the copies of `c` at its end. -/
def trimEnd (c : Char) (s : String) : String :=
  String.ofList (s.toList.reverse.dropWhile (· == c)).reverse

@[simp] theorem trim_nil : trim [] = [] := rfl

/-- A text is blank when nothing is left of it. -/
def blank (s : String) : Bool := s.toList.all isBlank

/-! ## Pieces -/

/-- The pieces of a text between copies of a character. -/
def pieces (c : Char) : List Char → List (List Char)
  | [] => [[]]
  | d :: rest =>
    if d = c then [] :: pieces c rest
    else match pieces c rest with
      | [] => [[d]]
      | piece :: more => (d :: piece) :: more

theorem pieces_ne_nil (c : Char) (cs : List Char) : pieces c cs ≠ [] := by
  cases cs with
  | nil => simp [pieces]
  | cons d rest =>
    unfold pieces
    split
    · simp
    · split <;> simp

/-- Nothing is lost by cutting. -/
theorem intercalate_pieces (c : Char) (cs : List Char) :
    List.intercalate [c] (pieces c cs) = cs := by
  induction cs with
  | nil => simp [pieces]
  | cons d rest ih =>
    have hne := pieces_ne_nil c rest
    cases hp : pieces c rest with
    | nil => exact absurd hp hne
    | cons piece more =>
      rw [hp] at ih
      by_cases hd : d = c
      · subst hd
        simp only [pieces, if_pos, hp]
        rw [← ih]
        simp [List.intercalate]
      · simp only [pieces, if_neg hd, hp]
        rw [← ih]
        cases more <;> simp [List.intercalate]

end PoolScaler.Text
