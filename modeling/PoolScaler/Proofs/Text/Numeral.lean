import Mathlib.Tactic.Tauto
import PoolScaler.Text.Decimal
set_option autoImplicit false

/-!
# Numerals

Which texts are numerals below a bound, and what the shortest numerals of numbers are
worth.  No two integers have the same one.
-/

namespace PoolScaler.Text

/-! ## Reading -/

/-- A numeral below a bound: digits, after a plus sign or not. -/
def Numeral (bound : Nat) (cs : List Char) (n : Nat) : Prop :=
  ∃ digits, (cs = digits ∨ cs = '+' :: digits) ∧ digits ≠ [] ∧ (∀ c ∈ digits, isDigit c = true) ∧
    digitsValue digits = n ∧ n < bound

theorem readDigits?_eq_some_iff {cs : List Char} {n : Nat} :
    readDigits? cs = some n ↔ cs ≠ [] ∧ (∀ c ∈ cs, isDigit c = true) ∧ digitsValue cs = n := by
  rw [readDigits?, Option.ite_none_right_eq_some, List.all_eq_true, Option.some.injEq, and_assoc]

theorem readBelow?_of_plus (bound : Nat) (digits : List Char) :
    readBelow? bound ('+' :: digits) = (readDigits? digits).filter (· < bound) := by
  unfold readBelow?
  cases hread : readDigits? digits with
  | none =>
    simp only [hread]
    rfl
  | some n => simp only [hread, Option.filter_some, decide_eq_true_eq]

theorem readBelow?_of_bare {bound : Nat} {cs : List Char} (h : ∀ digits, cs ≠ '+' :: digits) :
    readBelow? bound cs = (readDigits? cs).filter (· < bound) := by
  unfold readBelow?
  split
  · exact absurd rfl (h _)
  · cases hread : readDigits? cs with
    | none =>
      simp only [hread]
      rfl
    | some n => simp only [hread, Option.filter_some, decide_eq_true_eq]

theorem filter_readDigits?_eq_some_iff {bound n : Nat} {digits : List Char} :
    (readDigits? digits).filter (· < bound) = some n ↔
      digits ≠ [] ∧ (∀ c ∈ digits, isDigit c = true) ∧ digitsValue digits = n ∧ n < bound := by
  rw [Option.filter_eq_some_iff, readDigits?_eq_some_iff, decide_eq_true_eq]
  tauto

theorem readBelow?_eq_some_iff {bound n : Nat} {cs : List Char} :
    readBelow? bound cs = some n ↔ Numeral bound cs n := by
  unfold Numeral
  by_cases hplus : ∃ digits, cs = '+' :: digits
  · obtain ⟨digits, rfl⟩ := hplus
    rw [readBelow?_of_plus, filter_readDigits?_eq_some_iff]
    constructor
    · exact fun h => ⟨digits, .inr rfl, h⟩
    · rintro ⟨digits', rfl | hcs, h⟩
      · exact absurd (h.2.1 '+' List.mem_cons_self) (by decide)
      · obtain rfl := (List.cons.inj hcs).2
        exact h
  · have hbare : ∀ digits, cs ≠ '+' :: digits := fun digits hcs => hplus ⟨digits, hcs⟩
    rw [readBelow?_of_bare hbare, filter_readDigits?_eq_some_iff]
    constructor
    · exact fun h => ⟨cs, .inl rfl, h⟩
    · rintro ⟨digits, rfl | hcs, h⟩
      · exact h
      · exact absurd hcs (hbare digits)

/-- A numeral ends in a digit. -/
theorem Numeral.ends {bound n : Nat} {cs : List Char} (h : Numeral bound cs n) :
    ∃ init d, cs = init ++ [d] ∧ isDigit d = true := by
  obtain ⟨digits, hcs, hne, hdigits, -, -⟩ := h
  have hsplit := List.dropLast_concat_getLast hne
  refine hcs.elim (fun hbare => ⟨digits.dropLast, _, ?_, hdigits _ (List.getLast_mem hne)⟩)
    fun hplus => ⟨'+' :: digits.dropLast, _, ?_, hdigits _ (List.getLast_mem hne)⟩
  · rw [hbare, hsplit]
  · rw [hplus, List.cons_append, hsplit]

/-- It is made of digits and a plus sign at most. -/
theorem Numeral.isDigit_or_plus {bound n : Nat} {cs : List Char} (h : Numeral bound cs n) :
    ∀ c ∈ cs, isDigit c = true ∨ c = '+' := by
  obtain ⟨digits, rfl | rfl, -, hdigits, -, -⟩ := h
  · exact fun c hc => .inl (hdigits c hc)
  · intro c hc
    rcases List.mem_cons.mp hc with rfl | hc
    · exact .inr rfl
    · exact .inl (hdigits c hc)

/-! ## The shortest numerals -/

theorem isDigit_of_mem_toDigits {n : Nat} {c : Char} (hc : c ∈ Nat.toDigits 10 n) :
    isDigit c = true := by
  have hdigit := Nat.isDigit_of_mem_toDigits (by omega) (by omega) hc
  simpa [Char.isDigit, isDigit, Char.le_def] using hdigit

theorem digitsValue_toDigits (n : Nat) : digitsValue (Nat.toDigits 10 n) = n := by
  have hvalue := Nat.ofDigitChars_ten_toDigits (n := n)
  rw [Nat.ofDigitChars_eq_foldl] at hvalue
  exact hvalue

/-- Only the numeral of 0 begins with a zero. -/
theorem toDigits_ne_zero_cons (n : Nat) (c : Char) (cs : List Char) :
    Nat.toDigits 10 n ≠ '0' :: c :: cs := by
  induction n using Nat.strongRecOn generalizing c cs with
  | _ n ih =>
    intro hdigits
    rw [Nat.toDigits_eq_if (by omega)] at hdigits
    split at hdigits
    · simp at hdigits
    · rename_i hn
      cases hfront : Nat.toDigits 10 (n / 10) with
      | nil => exact Nat.toDigits_ne_nil hfront
      | cons d ds =>
        rw [hfront, List.cons_append] at hdigits
        obtain ⟨rfl, -⟩ := List.cons.inj hdigits
        cases ds with
        | nil =>
          have hvalue := digitsValue_toDigits (n / 10)
          rw [hfront] at hvalue
          have hzero : digitsValue ['0'] = 0 := rfl
          omega
        | cons d' ds => exact ih (n / 10) (by omega) d' ds hfront

theorem toList_toString_ofNat (n : Nat) :
    (toString (Int.ofNat n)).toList = Nat.toDigits 10 n :=
  Nat.toList_repr

theorem toList_toString_negSucc (n : Nat) :
    (toString (Int.negSucc n)).toList = '-' :: Nat.toDigits 10 (n + 1) := by
  change ("-" ++ (n + 1).repr).toList = _
  rw [String.toList_append, Nat.toList_repr]
  rfl

theorem toDigits_injective {m n : Nat} (h : Nat.toDigits 10 m = Nat.toDigits 10 n) : m = n := by
  rw [← digitsValue_toDigits m, h, digitsValue_toDigits]

theorem toDigits_ne_minus_cons (n : Nat) (cs : List Char) : Nat.toDigits 10 n ≠ '-' :: cs := by
  intro h
  have hdigit := isDigit_of_mem_toDigits (h ▸ List.mem_cons_self : '-' ∈ Nat.toDigits 10 n)
  exact absurd hdigit (by decide)

/-- Integers are told apart by their numerals, negative ones by the minus sign. -/
theorem toString_int_injective {a b : Int} (h : toString a = toString b) : a = b := by
  have hchars := congrArg String.toList h
  rcases a with m | m <;> rcases b with n | n
  · rw [toList_toString_ofNat, toList_toString_ofNat] at hchars
    exact congrArg Int.ofNat (toDigits_injective hchars)
  · rw [toList_toString_ofNat, toList_toString_negSucc] at hchars
    exact absurd hchars (toDigits_ne_minus_cons m _)
  · rw [toList_toString_negSucc, toList_toString_ofNat] at hchars
    exact absurd hchars.symm (toDigits_ne_minus_cons n _)
  · rw [toList_toString_negSucc, toList_toString_negSucc] at hchars
    exact congrArg Int.negSucc (Nat.succ.inj (toDigits_injective (List.cons.inj hchars).2))

end PoolScaler.Text
