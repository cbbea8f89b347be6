import Mathlib.Data.List.TakeWhile
import PoolScaler.Proofs.Text.Numeral
import PoolScaler.Time.Span
set_option autoImplicit false

/-!
# How spans are written

A span is written as a numeral and the mark of a unit, blanks around them aside.  Some
marks end alike, and one begins as another does, but no text can be taken for two spans,
and what is written in any other way is taken for none.
-/

namespace PoolScaler

namespace Text

/-! ## Blanks around a text -/

theorem isBlank_of_isDigit {c : Char} (h : isDigit c = true) : isBlank c = false := by
  simp only [isDigit, Bool.and_eq_true, decide_eq_true_eq, Char.le_def, UInt32.le_iff_toNat_le] at h
  obtain ⟨hlow, hhigh⟩ := h
  change 48 ≤ c.toNat at hlow
  change c.toNat ≤ 57 at hhigh
  simp only [isBlank, Bool.or_eq_false_iff, Bool.and_eq_false_iff, decide_eq_false_iff_not,
    beq_eq_false_iff_ne]
  omega

theorem dropWhile_between {drop : Char → Bool} {before core : List Char}
    (hbefore : ∀ c ∈ before, drop c = true) (hcore : ∀ c ∈ core, drop c = false)
    (hne : core ≠ []) (rest : List Char) :
    (before ++ (core ++ rest)).dropWhile drop = core ++ rest := by
  rw [List.dropWhile_append_of_pos hbefore]
  cases core with
  | nil => exact absurd rfl hne
  | cons a core => exact List.dropWhile_cons_of_neg (by simp [hcore a List.mem_cons_self])

/-- What is stripped off a text stands at its ends. -/
theorem stripBoth_eq {drop : Char → Bool} {before core after : List Char}
    (hbefore : ∀ c ∈ before, drop c = true) (hcore : ∀ c ∈ core, drop c = false)
    (hne : core ≠ []) (hafter : ∀ c ∈ after, drop c = true) :
    stripBoth drop (before ++ core ++ after) = core := by
  have hback : (core ++ after).reverse = after.reverse ++ (core.reverse ++ []) := by simp
  unfold stripBoth
  rw [List.append_assoc, dropWhile_between hbefore hcore hne, hback,
    dropWhile_between (by simpa using hafter) (by simpa using hcore) (by simpa using hne),
    List.append_nil, List.reverse_reverse]

/-- A text is what is left of it between the blanks around that. -/
theorem exists_trim (cs : List Char) : ∃ before after, cs = before ++ trim cs ++ after ∧
    (∀ c ∈ before, isBlank c = true) ∧ ∀ c ∈ after, isBlank c = true := by
  refine ⟨cs.takeWhile isBlank, ((cs.dropWhile isBlank).reverse.takeWhile isBlank).reverse,
    ?_, fun c hc => List.mem_takeWhile_imp hc,
    fun c hc => List.mem_takeWhile_imp (List.mem_reverse.mp hc)⟩
  unfold trim stripBoth
  rw [List.append_assoc, ← List.reverse_append, List.takeWhile_append_dropWhile,
    List.reverse_reverse, List.takeWhile_append_dropWhile]

theorem takeWhile_digits {digits rest : List Char} (hdigits : ∀ c ∈ digits, isDigit c = true)
    (hrest : ∀ c ∈ rest.head?, isDigit c = false) :
    (digits ++ rest).takeWhile isDigit = digits := by
  rw [List.takeWhile_append_of_pos hdigits]
  cases rest with
  | nil => simp
  | cons c rest => simp [hrest c rfl]

theorem digits_append_inj {digits digits' rest rest' : List Char}
    (h : ∀ c ∈ digits, isDigit c = true) (h' : ∀ c ∈ digits', isDigit c = true)
    (hrest : ∀ c ∈ rest.head?, isDigit c = false) (hrest' : ∀ c ∈ rest'.head?, isDigit c = false)
    (heq : digits ++ rest = digits' ++ rest') : digits = digits' ∧ rest = rest' := by
  have hsame : digits = digits' := by
    rw [← takeWhile_digits h hrest, heq, takeWhile_digits h' hrest']
  exact ⟨hsame, List.append_cancel_left (hsame ▸ heq)⟩

/-- A numeral goes as far as its digits do. -/
theorem Numeral.append_inj {bound bound' n n' : Nat} {cs cs' rest rest' : List Char}
    (h : Numeral bound cs n) (h' : Numeral bound' cs' n')
    (hrest : ∀ c ∈ rest.head?, isDigit c = false) (hrest' : ∀ c ∈ rest'.head?, isDigit c = false)
    (heq : cs ++ rest = cs' ++ rest') : cs = cs' ∧ rest = rest' := by
  obtain ⟨digits, hcs, hne, hd, -, -⟩ := h
  obtain ⟨digits', hcs', hne', hd', -, -⟩ := h'
  obtain ⟨d, more, rfl⟩ := List.exists_cons_of_ne_nil hne
  obtain ⟨d', more', rfl⟩ := List.exists_cons_of_ne_nil hne'
  rcases hcs with rfl | rfl <;> rcases hcs' with rfl | rfl
  · exact digits_append_inj hd hd' hrest hrest' heq
  · obtain rfl := (List.cons.inj heq).1
    exact absurd (hd '+' List.mem_cons_self) (by decide)
  · obtain rfl := (List.cons.inj heq).1
    have hplus := hd' '+' List.mem_cons_self
    exact absurd hplus (by decide)
  · obtain ⟨hsame, hrests⟩ := digits_append_inj hd hd' hrest hrest' (List.cons.inj heq).2
    exact ⟨congrArg _ hsame, hrests⟩

end Text

namespace Span

open Text (Numeral isBlank isDigit)

/-! ## Spellings -/

/-- How a unit is marked. -/
def Unit.marks : Unit → List String
  | .milli => ["ms"]
  | .second => ["s", ""]
  | .minute => ["m"]
  | .hour => ["h"]

/-- So many of a unit. -/
def Unit.times (n : Nat) : Unit → Span
  | .milli => ⟨n⟩
  | .second => ofSeconds n
  | .minute => ofSeconds (60 * n)
  | .hour => ofSeconds (3600 * n)

/-- A text is a numeral of 64 bits and a mark, with blanks around them or not. -/
structure Parts (s : String) (n : Nat) (mark : String) (before numeral after : List Char) :
    Prop where
  eq : s.toList = before ++ (numeral ++ mark.toList) ++ after
  before : ∀ c ∈ before, isBlank c = true
  numeral : Numeral UInt64.size numeral n
  after : ∀ c ∈ after, isBlank c = true

/-- A text spells a number of units. -/
def Spells (s : String) (n : Nat) (unit : Unit) : Prop :=
  ∃ mark ∈ unit.marks, ∃ before numeral after, Parts s n mark before numeral after

theorem Unit.times_eq (n : Nat) (unit : Unit) : unit.times n = ⟨n * unit.millis⟩ := by
  cases unit <;> simp only [times, millis, ofSeconds, Span.mk.injEq] <;> omega

/-- A mark is made of letters. -/
theorem letters_of_mem_marks (unit : Unit) :
    ∀ mark ∈ unit.marks, ∀ c ∈ mark.toList, c ∈ ['m', 's', 'h'] := by
  cases unit <;> simp [Unit.marks]

/-- A text is what is left of it when its unit is split off, and a mark of that unit. -/
theorem splitUnit_eq (cs : List Char) :
    ∃ mark ∈ (splitUnit cs).2.marks, cs = (splitUnit cs).1 ++ mark.toList := by
  have hback : cs = cs.reverse.reverse := (List.reverse_reverse cs).symm
  unfold splitUnit
  split
  · rename_i rest hrev
    exact ⟨"ms", List.mem_singleton_self _, by rw [hback, hrev]; simp⟩
  · rename_i rest _ hrev
    exact ⟨"s", List.mem_cons_self, by rw [hback, hrev]; simp⟩
  · rename_i rest hrev
    exact ⟨"m", List.mem_singleton_self _, by rw [hback, hrev]; simp⟩
  · rename_i rest hrev
    exact ⟨"h", List.mem_singleton_self _, by rw [hback, hrev]; simp⟩
  · exact ⟨"", List.mem_cons_of_mem _ List.mem_cons_self, (List.append_nil _).symm⟩

/-- The longest mark is split off a numeral, which ends in a digit. -/
theorem splitUnit_append {init : List Char} {d : Char} (hd : isDigit d = true) {unit : Unit}
    {mark : String} (hmark : mark ∈ unit.marks) :
    splitUnit (init ++ [d] ++ mark.toList) = (init ++ [d], unit) := by
  have hs : d ≠ 's' := by rintro rfl; exact absurd hd (by decide)
  have hm : d ≠ 'm' := by rintro rfl; exact absurd hd (by decide)
  have hh : d ≠ 'h' := by rintro rfl; exact absurd hd (by decide)
  have hback : (init ++ [d] ++ mark.toList).reverse = mark.toList.reverse ++ d :: init.reverse := by
    simp
  unfold splitUnit
  rw [hback]
  cases unit with
  | milli =>
    obtain rfl := List.mem_singleton.mp hmark
    simp
  | second =>
    obtain rfl | hmark := List.mem_cons.mp hmark
    · simp [hm]
    · obtain rfl := List.mem_singleton.mp hmark
      simp [hs, hm, hh]
  | minute =>
    obtain rfl := List.mem_singleton.mp hmark
    simp
  | hour =>
    obtain rfl := List.mem_singleton.mp hmark
    simp

/-- What is spelled has no blank inside. -/
theorem visible_of_mark {numeral : List Char} {n : Nat} (hnumeral : Numeral UInt64.size numeral n)
    {mark : String} (hmark : ∀ c ∈ mark.toList, isBlank c = false) :
    ∀ c ∈ numeral ++ mark.toList, isBlank c = false := by
  intro c hc
  rcases List.mem_append.mp hc with hc | hc
  · rcases hnumeral.isDigit_or_plus c hc with hdigit | rfl
    · exact Text.isBlank_of_isDigit hdigit
    · decide
  · exact hmark c hc

theorem Parts.trim_eq {s : String} {n : Nat} {mark : String} {before numeral after : List Char}
    (h : Parts s n mark before numeral after) (hmark : ∀ c ∈ mark.toList, isBlank c = false) :
    Text.trim s.toList = numeral ++ mark.toList := by
  obtain ⟨init, d, hends, -⟩ := h.numeral.ends
  have hne : numeral ++ mark.toList ≠ [] := by simp [hends]
  rw [h.eq, Text.trim, Text.stripBoth_eq h.before (visible_of_mark h.numeral hmark) hne h.after]

theorem visible_of_mem_marks {unit : Unit} {mark : String} (h : mark ∈ unit.marks) :
    ∀ c ∈ mark.toList, isBlank c = false := by
  have hvisible : ∀ c ∈ ['m', 's', 'h'], isBlank c = false := by simp [isBlank]
  exact fun c hc => hvisible c (letters_of_mem_marks unit mark h c hc)

/-- A text spells what is left of it when its unit is split off, and it spells nothing else. -/
theorem spells_iff {s : String} {n : Nat} {unit : Unit} :
    Spells s n unit ↔ Text.readBelow? UInt64.size (splitUnit (Text.trim s.toList)).1 = some n ∧
      (splitUnit (Text.trim s.toList)).2 = unit := by
  constructor
  · rintro ⟨mark, hmark, before, numeral, after, h⟩
    obtain ⟨init, d, hends, hd⟩ := h.numeral.ends
    rw [h.trim_eq (visible_of_mem_marks hmark), hends, splitUnit_append hd hmark, ← hends]
    exact ⟨Text.readBelow?_eq_some_iff.mpr h.numeral, rfl⟩
  · rintro ⟨hread, rfl⟩
    obtain ⟨before, after, hs, hbefore, hafter⟩ := Text.exists_trim s.toList
    obtain ⟨mark, hmark, hcore⟩ := splitUnit_eq (Text.trim s.toList)
    refine ⟨mark, hmark, before, _, after, ?_, hbefore, Text.readBelow?_eq_some_iff.mp hread,
      hafter⟩
    rw [← hcore]
    exact hs

/-- A span is read from what spells it, and only from that. -/
theorem parse?_eq_some_iff {s : String} {d : Span} :
    parse? s = some d ↔ ∃ n unit, Spells s n unit ∧ d = unit.times n := by
  have hparse : parse? s = (Text.readBelow? UInt64.size (splitUnit (Text.trim s.toList)).1).map
      fun n => (splitUnit (Text.trim s.toList)).2.times n := by
    simp only [Unit.times_eq]
    rfl
  rw [hparse, Option.map_eq_some_iff]
  constructor
  · rintro ⟨n, hread, rfl⟩
    exact ⟨n, _, spells_iff.mpr ⟨hread, rfl⟩, rfl⟩
  · rintro ⟨n, unit, hspells, rfl⟩
    obtain ⟨hread, rfl⟩ := spells_iff.mp hspells
    exact ⟨n, hread, rfl⟩

theorem parse?_eq_none_iff {s : String} : parse? s = none ↔ ∀ n unit, ¬ Spells s n unit := by
  rw [Option.eq_none_iff_forall_ne_some]
  constructor
  · exact fun h n unit hspells => h _ (parse?_eq_some_iff.mpr ⟨n, unit, hspells, rfl⟩)
  · intro h d hparse
    obtain ⟨n, unit, hspells, -⟩ := parse?_eq_some_iff.mp hparse
    exact h n unit hspells

/-- No text has two readings. -/
theorem Spells.unique {s : String} {n n' : Nat} {unit unit' : Unit} (h : Spells s n unit)
    (h' : Spells s n' unit') : n = n' ∧ unit = unit' := by
  obtain ⟨hread, hunit⟩ := spells_iff.mp h
  obtain ⟨hread', hunit'⟩ := spells_iff.mp h'
  exact ⟨Option.some.inj (hread.symm.trans hread'), hunit.symm.trans hunit'⟩

/-- The characters of a spelling. -/
theorem Spells.mem {s : String} {n : Nat} {unit : Unit} (h : Spells s n unit) :
    ∀ c ∈ s.toList, isBlank c = true ∨ isDigit c = true ∨ c ∈ ['+', 'm', 's', 'h'] := by
  obtain ⟨mark, hmark, before, numeral, after, h⟩ := h
  intro c hc
  simp only [h.eq, List.mem_append] at hc
  rcases hc with (hc | hc | hc) | hc
  · exact .inl (h.before c hc)
  · exact (h.numeral.isDigit_or_plus c hc).elim (fun hd => .inr (.inl hd))
      fun hplus => .inr (.inr (hplus ▸ List.mem_cons_self))
  · exact .inr (.inr (List.mem_cons_of_mem _ (letters_of_mem_marks unit mark hmark c hc)))
  · exact .inl (h.after c hc)

/-- It has a digit. -/
theorem Spells.exists_digit {s : String} {n : Nat} {unit : Unit} (h : Spells s n unit) :
    ∃ c ∈ s.toList, isDigit c = true := by
  obtain ⟨mark, -, before, numeral, after, h⟩ := h
  obtain ⟨init, d, hends, hd⟩ := h.numeral.ends
  exact ⟨d, by simp [h.eq, hends], hd⟩

/-- A text has a blank with something visible on both sides. -/
def Broken (s : String) : Prop :=
  ∃ left b right, s.toList = left ++ b :: right ∧ isBlank b = true ∧
    (∃ c ∈ left, isBlank c = false) ∧ ∃ c ∈ right, isBlank c = false

/-- The blanks of a spelling are around it. -/
theorem Spells.not_broken {s : String} {n : Nat} {unit : Unit} (h : Spells s n unit) :
    ¬ Broken s := by
  obtain ⟨mark, hmark, before, numeral, after, h⟩ := h
  have hcore := visible_of_mark h.numeral (visible_of_mem_marks hmark)
  rintro ⟨left, b, right, hs, hb, ⟨x, hx, hxv⟩, y, hy, hyv⟩
  have hparts : left ++ b :: right = before ++ ((numeral ++ mark.toList) ++ after) := by
    rw [← hs, h.eq, List.append_assoc]
  rcases List.append_eq_append_iff.mp hparts with ⟨t, ht, -⟩ | ⟨t, -, hright⟩
  · -- what stands left of the blank is blank
    have hxb := h.before x (ht ▸ List.mem_append_left _ hx)
    rw [hxv] at hxb
    cases hxb
  have hafter : b :: right <:+ after := by
    rcases List.append_eq_append_iff.mp hright with ⟨u, -, hafter⟩ | ⟨u, hu, hafter⟩
    · exact ⟨u, hafter.symm⟩
    · cases u with
      | nil => exact hafter ▸ List.suffix_rfl
      | cons b' u =>
        obtain rfl := (List.cons.inj hafter).1
        rw [hcore b (hu ▸ List.mem_append_right _ List.mem_cons_self)] at hb
        cases hb
  have hyb := h.after y (hafter.subset (List.mem_cons_of_mem _ hy))
  rw [hyv] at hyb
  cases hyb

/-- A numeral before something that is no mark spells nothing. -/
theorem Parts.not_spells {s : String} {n : Nat} {mark : String} {before numeral after : List Char}
    (h : Parts s n mark before numeral after) (hvisible : ∀ c ∈ mark.toList, isBlank c = false)
    (hfirst : ∀ c ∈ mark.toList.head?, isDigit c = false) (hnone : ∀ unit : Unit, mark ∉ unit.marks)
    (n' : Nat) (unit : Unit) : ¬ Spells s n' unit := by
  rintro ⟨mark', hmark', before', numeral', after', h'⟩
  have hcores : numeral ++ mark.toList = numeral' ++ mark'.toList := by
    rw [← h.trim_eq hvisible, h'.trim_eq (visible_of_mem_marks hmark')]
  have hfirst' : ∀ c ∈ mark'.toList.head?, isDigit c = false := by
    have hletters : ∀ c ∈ ['m', 's', 'h'], isDigit c = false := by simp [isDigit]
    exact fun c hc => hletters c
      (letters_of_mem_marks unit mark' hmark' c (List.mem_of_head? hc))
  obtain ⟨-, hmarks⟩ := h.numeral.append_inj h'.numeral hfirst hfirst' hcores
  exact hnone unit (String.toList_injective hmarks ▸ hmark')

/-! ## Reading -/

/-- Spans are read exactly as they are written: where no spelling stands for more whole
seconds than 64 bits count, a text is read as a span if and only if it spells that span.
No text has two readings, and a text is not read at all if it has blanks inside, a minus
sign or no digit, or if something that is no mark follows its numeral. -/
theorem spans_are_read_exactly (s : String) :
    ((∀ n unit, Spells s n unit → (unit.times n).seconds < UInt64.size) →
      ∀ d, parse? s = some d ↔ ∃ n unit, Spells s n unit ∧ d = unit.times n) ∧
    (∀ n n' unit unit', Spells s n unit → Spells s n' unit' → n = n' ∧ unit = unit') ∧
    (Broken s → parse? s = none) ∧
    ('-' ∈ s.toList → parse? s = none) ∧
    ((∀ c ∈ s.toList, isDigit c = false) → parse? s = none) ∧
    ∀ n mark before numeral after, Parts s n mark before numeral after →
      (∀ c ∈ mark.toList, isBlank c = false) → (∀ c ∈ mark.toList.head?, isDigit c = false) →
      (∀ unit : Unit, mark ∉ unit.marks) → parse? s = none := by
  refine ⟨fun _ d => parse?_eq_some_iff, fun n n' unit unit' h h' => h.unique h',
    fun hbroken => ?_, fun hminus => ?_, fun hnone => ?_,
    fun n mark before numeral after h hvisible hfirst hnone => ?_⟩
  · exact parse?_eq_none_iff.mpr fun n unit h => h.not_broken hbroken
  · refine parse?_eq_none_iff.mpr fun n unit h => ?_
    exact absurd (h.mem '-' hminus) (by decide)
  · refine parse?_eq_none_iff.mpr fun n unit h => ?_
    obtain ⟨c, hc, hdigit⟩ := h.exists_digit
    rw [hnone c hc] at hdigit
    cases hdigit
  · exact parse?_eq_none_iff.mpr (h.not_spells hvisible hfirst hnone)

/-- Two minutes, with a plus sign and blanks around. -/
theorem spans_are_read_exactly_two_minutes :
    Spells " +2m\n" 2 .minute ∧
      (∀ n unit, Spells " +2m\n" n unit → (unit.times n).seconds < UInt64.size) ∧
      parse? " +2m\n" = some (.ofSeconds 120) := by
  have htwo : Spells " +2m\n" 2 .minute := spells_iff.mpr (by decide)
  obtain ⟨hread, hunique, -⟩ := spans_are_read_exactly " +2m\n"
  have hfits : ∀ n unit, Spells " +2m\n" n unit → (unit.times n).seconds < UInt64.size := by
    intro n unit h
    obtain ⟨rfl, rfl⟩ := hunique 2 n .minute unit htwo h
    decide
  exact ⟨htwo, hfits, (hread hfits _).mpr ⟨2, .minute, htwo, rfl⟩⟩

end Span

end PoolScaler
