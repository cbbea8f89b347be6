import PoolScaler.Json.Reader
import PoolScaler.Json.Writer
import PoolScaler.Proofs.Text.Numeral
set_option autoImplicit false

/-!
# What is written is read back

The reader takes the text of a value that can be written for that value, and
stops where the value ends.
-/

namespace PoolScaler.Json

open Text.Utf8 (Symbol)

/-! ## Texts -/

theorem hexValue?_hexDigit : ∀ n < 16, Text.hexValue? (Text.hexDigit n) = some n := by
  decide

theorem unit?_control {n : Nat} (hn : n < 0x20) :
    unit? (some '0') (some '0') (some (Text.hexDigit (n / 16))) (some (Text.hexDigit (n % 16))) =
      some n := by
  have hhigh := hexValue?_hexDigit (n / 16) (by omega)
  have hlow := hexValue?_hexDigit (n % 16) (by omega)
  have hzero : Text.hexValue? '0' = some 0 := rfl
  simp only [unit?, Text.hexValues?, List.foldl_cons, List.foldl_nil, hhigh, hlow, hzero]
  congr 1
  omega

theorem pushUnit_control (chars : List Char) {c : Char} (hcontrol : c.toNat < 0x20) :
    (TextRead.Progress.mk chars none none false).pushUnit c.toNat =
      ⟨c :: chars, none, none, false⟩ := by
  have hhigh : TextRead.isHigh c.toNat = false := by
    simp only [TextRead.isHigh, Bool.and_eq_false_iff, decide_eq_false_iff_not]
    omega
  have hlow : TextRead.isLow c.toNat = false := by
    simp only [TextRead.isLow, Bool.and_eq_false_iff, decide_eq_false_iff_not]
    omega
  simp only [TextRead.Progress.pushUnit, hhigh, hlow, TextRead.Progress.push, Char.ofNat_toNat]
  rfl

theorem readText_escape (c : Char) (chars : List Char) (rest : List Symbol) :
    readText ⟨chars, none, none, false⟩ ((escape c).map some ++ rest) =
      readText ⟨c :: chars, none, none, false⟩ rest := by
  unfold escape
  iterate 7
    split
    · subst_vars
      rfl
  split
  · rename_i hcontrol
    simp only [List.map_cons, List.map_nil, List.cons_append, List.nil_append]
    rw [readText]
    simp only [unit?_control hcontrol, pushUnit_control chars hcontrol]
  · rename_i hquote hbackslash _ _ _ _ _ hcontrol
    simp only [List.map_cons, List.map_nil, List.cons_append, List.nil_append]
    rw [readText, if_neg hcontrol]
    · rfl
    · exact hquote
    -- the other arms of the reader begin with a backslash
    all_goals
      intros
      contradiction

theorem readText_flatMap (cs chars : List Char) (rest : List Symbol) :
    readText ⟨chars, none, none, false⟩ ((cs.flatMap escape).map some ++ some '"' :: rest) =
      ⟨.ok (String.ofList (chars.reverse ++ cs)), .ok rest⟩ := by
  induction cs generalizing chars with
  | nil =>
    rw [List.append_nil]
    rfl
  | cons c cs ih =>
    rw [List.flatMap_cons, List.map_append, List.append_assoc, readText_escape, ih]
    simp only [List.reverse_cons, List.append_assoc, List.cons_append, List.nil_append]

/-- A text that is written is read back. -/
theorem readText_writeText (s : String) (rest : List Symbol) :
    readText .start ((s.toList.flatMap escape).map some ++ some '"' :: rest) =
      ⟨.ok s, .ok rest⟩ := by
  have hread := readText_flatMap s.toList [] rest
  rw [List.reverse_nil, List.nil_append, String.ofList_toList] at hread
  exact hread

/-! ## Numbers -/

/-- A place where no number goes on. -/
def Stops (rest : List Symbol) : Prop :=
  ∀ c tail, rest = some c :: tail → Text.isDigit c = false ∧ c ≠ '.' ∧ c ≠ 'e' ∧ c ≠ 'E'

theorem spanDigits_append {ds : List Char} (hds : ∀ c ∈ ds, Text.isDigit c = true)
    {rest : List Symbol} (hrest : Stops rest) : spanDigits (ds.map some ++ rest) = (ds, rest) := by
  induction ds with
  | nil =>
    rw [List.map_nil, List.nil_append]
    unfold spanDigits
    cases rest with
    | nil => rfl
    | cons s tail =>
      cases s with
      | none => rfl
      | some c => simp [(hrest c tail rfl).1]
  | cons d ds ih =>
    have hspan := ih fun c hc => hds c (List.mem_cons_of_mem d hc)
    have hd := hds d List.mem_cons_self
    unfold spanDigits at hspan ⊢
    simp only [Prod.mk.injEq] at hspan
    simp only [List.map_cons, List.cons_append, List.takeWhile_cons, List.dropWhile_cons, hd,
      if_true]
    rw [List.filterMap_cons_some (by rfl), hspan.1, hspan.2]

theorem le_foldl_digits (ds : List Char) (n : Nat) :
    n ≤ ds.foldl (fun n c => 10 * n + Text.digitValue c) n := by
  induction ds generalizing n with
  | nil => exact Nat.le_refl n
  | cons d ds ih => exact Nat.le_trans (by omega) (ih (10 * n + Text.digitValue d))

/-- Digits that make a number of a word fill the significand. -/
theorem fill_of_lt (ds : List Char) (n : Nat)
    (hfits : ds.foldl (fun n c => 10 * n + Text.digitValue c) n < UInt64.size) :
    Magnitude.fill n ds = (ds.foldl (fun n c => 10 * n + Text.digitValue c) n, []) := by
  induction ds generalizing n with
  | nil => rfl
  | cons d ds ih =>
    rw [List.foldl_cons] at hfits ⊢
    have hd := Nat.lt_of_le_of_lt (le_foldl_digits ds _) hfits
    rw [Magnitude.fill]
    simp only [hd, if_true]
    exact ih _ hfits

theorem roundDouble_le {n : Nat} (hn : n ≠ 0) : roundDouble n ≤ 2 * n := by
  have hunit : Nat.pow 2 (n.log2 - 52) ≤ n :=
    Nat.le_trans (Nat.pow_le_pow_right (by omega) (Nat.sub_le _ _)) (Nat.log2_self_le hn)
  have hquotient := Nat.div_mul_le_self n (Nat.pow 2 (n.log2 - 52))
  unfold roundDouble
  dsimp only
  split
  · rw [Nat.add_mul, Nat.one_mul]
    omega
  · omega

theorem overflows_of_lt {n : Nat} (hn : n < UInt64.size) :
    Magnitude.overflows ⟨n, 0⟩ = false := by
  unfold Magnitude.overflows
  dsimp only
  split
  · rfl
  · rename_i hzero
    have hpos : n ≠ 0 := fun h => hzero (.inl h)
    have hround := roundDouble_le hpos
    have hone : roundDouble (Nat.pow 10 (0 : Int).toNat) = 1 := by decide
    have hlarge : 2 * UInt64.size < Nat.pow 2 1024 - Nat.pow 2 970 := by decide +kernel
    rw [if_neg (by omega), hone, Nat.mul_one]
    exact decide_eq_false (by omega)

theorem ofWhole_toDigits {n : Nat} (hn : n < UInt64.size) :
    Magnitude.ofWhole (Nat.toDigits 10 n) = ⟨n, 0⟩ := by
  have hvalue : (Nat.toDigits 10 n).foldl (fun n c => 10 * n + Text.digitValue c) 0 = n :=
    Text.digitsValue_toDigits n
  unfold Magnitude.ofWhole
  rw [fill_of_lt _ 0 (by rw [hvalue]; exact hn), hvalue]
  rfl

theorem readNumber_toDigits (negative : Bool) {n : Nat} (hn : n < UInt64.size)
    (hsign : negative = true → n ≠ 0) {rest : List Symbol} (hrest : Stops rest) :
    readNumber negative ((Nat.toDigits 10 n).map some ++ rest) =
      (.int (if negative then -n else n), some rest) := by
  have hspan := spanDigits_append (fun c hc => Text.isDigit_of_mem_toDigits (n := n) hc) hrest
  unfold readNumber
  rw [hspan]
  split
  · rename_i hdigits
    exact absurd (congrArg Prod.fst hdigits) Nat.toDigits_ne_nil
  · rename_i hdigits
    exact absurd (congrArg Prod.fst hdigits) (Text.toDigits_ne_zero_cons n _ _)
  · rename_i digits rest' _ _ hdigits
    obtain ⟨rfl, rfl⟩ := Prod.mk.inj hdigits
    rw [ofWhole_toDigits hn]
    dsimp only
    split
    · exact absurd rfl (hrest _ _ rfl).2.1
    · exact absurd rfl (hrest _ _ rfl).2.2.1
    · exact absurd rfl (hrest _ _ rfl).2.2.2
    · rw [overflows_of_lt hn, Text.digitsValue_toDigits]
      cases negative with
      | false => rfl
      | true => simp [hsign rfl]

/-! ## Values -/

/-- A value that can be written: its numbers fit a word with or without sign,
its lists and objects are whole, and its names can be read. -/
inductive Plain : Json → Prop where
  | null : Plain .null
  | bool (b : Bool) : Plain (.bool b)
  | int {n : Int} (low : -9223372036854775808 ≤ n) (high : n < UInt64.size) : Plain (.int n)
  | str (s : String) : Plain (.str s)
  | list {items : List Json} (plain : ∀ j ∈ items, Plain j) : Plain (.list items)
  | object {members : List (String × Json)} (plain : ∀ m ∈ members, Plain m.2) :
    Plain (.object members)

theorem skipSpace_cons {s : Symbol} (hs : isSpace s = false) (rest : List Symbol) :
    skipSpace (s :: rest) = s :: rest := by
  unfold skipSpace
  rw [List.dropWhile_cons_of_neg (by simp [hs])]

theorem isSpace_digit {c : Char} (hc : Text.isDigit c = true) : isSpace (some c) = false := by
  unfold isSpace
  split
  all_goals first
    | rfl
    | (rename_i heq
       cases Option.some.inj heq
       exact absurd hc (by decide))

theorem readValue_digit {fuel : Nat} {c : Char} (hc : Text.isDigit c = true)
    (rest : List Symbol) :
    readValue (fuel + 1) (some c :: rest) = readNumber false (some c :: rest) := by
  unfold readValue
  rw [skipSpace_cons (isSpace_digit hc)]
  split
  · rename_i heq
    cases heq
  iterate 7
    · rename_i heq
      cases Option.some.inj (List.cons.inj heq).1
      exact absurd hc (by decide)
  · rename_i heq
    obtain ⟨hhead, rfl⟩ := List.cons.inj heq
    cases Option.some.inj hhead
    rw [if_pos hc]
  · rename_i heq
    cases (List.cons.inj heq).1

/-- What is written begins with a character that is neither white space nor the
end of a list. -/
theorem write_eq_cons {j : Json} (hj : j.Plain) :
    ∃ c cs, write j = c :: cs ∧ isSpace (some c) = false ∧ c ≠ ']' := by
  cases hj with
  | null => exact ⟨_, _, rfl, rfl, by decide⟩
  | bool b =>
    cases b with
    | false => exact ⟨_, _, rfl, rfl, by decide⟩
    | true => exact ⟨_, _, rfl, rfl, by decide⟩
  | str s => exact ⟨_, _, rfl, rfl, by decide⟩
  | list plain => exact ⟨_, _, rfl, rfl, by decide⟩
  | object plain => exact ⟨_, _, rfl, rfl, by decide⟩
  | @int n low high =>
    cases n with
    | ofNat n =>
      rw [write, Text.toList_toString_ofNat]
      cases hdigits : Nat.toDigits 10 n with
      | nil => exact absurd hdigits Nat.toDigits_ne_nil
      | cons d ds =>
        have hd : Text.isDigit d = true := Text.isDigit_of_mem_toDigits (n := n) (by simp [hdigits])
        refine ⟨d, ds, rfl, isSpace_digit hd, ?_⟩
        rintro rfl
        exact absurd hd (by decide)
    | negSucc n =>
      rw [write, Text.toList_toString_negSucc]
      exact ⟨_, _, rfl, rfl, by decide⟩

theorem writeItems_eq_cons {j : Json} (hj : j.Plain) (rest : List Json) :
    ∃ c cs, writeItems (j :: rest) = c :: cs ∧ isSpace (some c) = false ∧ c ≠ ']' := by
  obtain ⟨c, cs, hwrite, hc⟩ := write_eq_cons hj
  cases rest with
  | nil => exact ⟨c, cs, by rw [writeItems, hwrite], hc⟩
  | cons k rest =>
    refine ⟨c, cs ++ ',' :: writeItems (k :: rest), ?_, hc⟩
    rw [writeItems, hwrite]
    · rfl
    · simp

theorem stops_nil : Stops [] := by
  intro c tail h
  cases h

theorem stops_cons {c : Char} (hdigit : Text.isDigit c = false) (hdot : c ≠ '.') (he : c ≠ 'e')
    (hE : c ≠ 'E') (rest : List Symbol) : Stops (some c :: rest) := by
  intro c' tail h
  cases h
  exact ⟨hdigit, hdot, he, hE⟩

/-- What the reader owes to a value: it takes the value's text and stops there. -/
def Readable (j : Json) : Prop :=
  ∀ (fuel : Nat) (rest : List Symbol), (write j).length < fuel → Stops rest →
    readValue fuel ((write j).map some ++ rest) = (j, some rest)

theorem readList_writeItems {items : List Json} (hne : items ≠ [])
    (hplain : ∀ j ∈ items, j.Plain) (hread : ∀ j ∈ items, Readable j) {fuel : Nat}
    (hfuel : (writeItems items).length + 1 < fuel) (done : List Json) (rest : List Symbol) :
    readList fuel done ((writeItems items).map some ++ some ']' :: rest) =
      (.list (done.reverse ++ items), some rest) := by
  induction items generalizing fuel done with
  | nil => exact absurd rfl hne
  | cons j items ih =>
    obtain ⟨fuel, rfl⟩ := Nat.exists_eq_succ_of_ne_zero (by omega : fuel ≠ 0)
    have hj := hread j List.mem_cons_self
    rw [readList]
    cases items with
    | nil =>
      have hstops : Stops (some ']' :: rest) :=
        stops_cons (by decide) (by decide) (by decide) (by decide) rest
      rw [writeItems] at hfuel ⊢
      rw [hj fuel _ (by omega) hstops]
      simp only [skipSpace_cons (show isSpace (some ']') = false from rfl), List.reverse_cons]
      rfl
    | cons k items =>
      obtain ⟨c, cs, hwrite, hspace, hbracket⟩ :=
        writeItems_eq_cons (hplain k (by simp)) items
      have hitems : writeItems (j :: k :: items) = write j ++ ',' :: writeItems (k :: items) := by
        rw [writeItems]
        simp
      rw [hitems, List.length_append, List.length_cons] at hfuel
      have hstops (tail : List Symbol) : Stops (some ',' :: tail) :=
        stops_cons (by decide) (by decide) (by decide) (by decide) tail
      rw [hitems, List.map_append, List.map_cons, List.append_assoc, List.cons_append,
        hj fuel _ (by omega) (hstops _)]
      simp only [skipSpace_cons (show isSpace (some ',') = false from rfl)]
      have hshort : (writeItems (k :: items)).length + 1 < fuel := by omega
      have htail := ih (by simp) (fun i hi => hplain i (List.mem_cons_of_mem j hi))
        (fun i hi => hread i (List.mem_cons_of_mem j hi)) hshort (j :: done)
      rw [hwrite, List.map_cons, List.cons_append] at htail ⊢
      rw [skipSpace_cons hspace]
      split
      · rename_i heq
        cases Option.some.inj (List.cons.inj heq).1
        exact absurd rfl hbracket
      · rw [htail, List.reverse_cons, List.append_assoc]
        rfl

/-- The members of an object as a reader keeps them. -/
def readNames (members : List (String × Json)) : List (Except Fault String × Json) :=
  members.map fun m => (.ok m.1, m.2)

theorem writeMembers_cons_cons (m n : String × Json) (members : List (String × Json)) :
    writeMembers (readNames (m :: n :: members)) =
      '"' :: (m.1.toList.flatMap escape ++
        '"' :: ':' :: (write m.2 ++ ',' :: writeMembers (readNames (n :: members)))) := by
  change writeMembers ((.ok m.1, m.2) :: readNames (n :: members)) = _
  rw [writeMembers, writeName, writeText]
  · simp only [List.append_assoc, List.cons_append, List.nil_append]
  · simp [readNames]

theorem writeMembers_singleton (m : String × Json) :
    writeMembers (readNames [m]) =
      '"' :: (m.1.toList.flatMap escape ++ '"' :: ':' :: write m.2) := by
  change writeMembers [(.ok m.1, m.2)] = _
  rw [writeMembers, writeName, writeText]
  simp only [List.append_assoc, List.cons_append, List.nil_append]

theorem writeMembers_eq_cons (m : String × Json) (members : List (String × Json)) :
    ∃ text, writeMembers (readNames (m :: members)) = '"' :: text := by
  cases members with
  | nil => exact ⟨_, writeMembers_singleton m⟩
  | cons n members => exact ⟨_, writeMembers_cons_cons m n members⟩

theorem readMember_writeMembers {members : List (String × Json)} (hne : members ≠ [])
    (hread : ∀ m ∈ members, Readable m.2) {fuel : Nat} {text : List Char}
    (htext : writeMembers (readNames members) = '"' :: text) (hfuel : text.length < fuel)
    (done : List (Except Fault String × Json)) (rest : List Symbol) :
    readMember fuel done (readText .start (text.map some ++ some '\x7d' :: rest)) =
      (.obj (done.reverse ++ readNames members) none, some rest) := by
  induction members generalizing fuel text done with
  | nil => exact absurd rfl hne
  | cons m members ih =>
    obtain ⟨fuel, rfl⟩ := Nat.exists_eq_succ_of_ne_zero (by omega : fuel ≠ 0)
    have hm := hread m List.mem_cons_self
    cases members with
    | nil =>
      rw [writeMembers_singleton] at htext
      obtain rfl := (List.cons.inj htext).2
      simp only [List.length_append, List.length_cons] at hfuel
      have hstops : Stops (some '\x7d' :: rest) :=
        stops_cons (by decide) (by decide) (by decide) (by decide) rest
      simp only [List.map_append, List.map_cons, List.append_assoc, List.cons_append]
      rw [readText_writeText, readMember]
      simp only [skipSpace_cons (show isSpace (some ':') = false from rfl)]
      rw [hm fuel _ (by omega) hstops]
      simp only [skipSpace_cons (show isSpace (some '\x7d') = false from rfl), List.reverse_cons]
      rfl
    | cons n members =>
      obtain ⟨text', htext'⟩ := writeMembers_eq_cons n members
      rw [writeMembers_cons_cons, htext'] at htext
      obtain rfl := (List.cons.inj htext).2
      simp only [List.length_append, List.length_cons] at hfuel
      have hstops (tail : List Symbol) : Stops (some ',' :: tail) :=
        stops_cons (by decide) (by decide) (by decide) (by decide) tail
      simp only [List.map_append, List.map_cons, List.append_assoc, List.cons_append]
      rw [readText_writeText, readMember]
      simp only [skipSpace_cons (show isSpace (some ':') = false from rfl)]
      rw [hm fuel _ (by omega) (hstops _)]
      simp only [skipSpace_cons (show isSpace (some ',') = false from rfl),
        skipSpace_cons (show isSpace (some '"') = false from rfl)]
      rw [ih (by simp) (fun i hi => hread i (List.mem_cons_of_mem m hi)) htext' (by omega),
        List.reverse_cons, List.append_assoc]
      rfl

theorem readable_int {n : Int} (low : -9223372036854775808 ≤ n) (high : n < UInt64.size) :
    Readable (.int n) := by
  intro fuel rest hfuel hrest
  obtain ⟨fuel, rfl⟩ := Nat.exists_eq_succ_of_ne_zero (by omega : fuel ≠ 0)
  cases n with
  | ofNat n =>
    have hsize : n < UInt64.size := by
      have := Int.ofNat_lt.mp high
      exact this
    have hnumber := readNumber_toDigits false hsize nofun hrest
    rw [write, Text.toList_toString_ofNat]
    cases hdigits : Nat.toDigits 10 n with
    | nil => exact absurd hdigits Nat.toDigits_ne_nil
    | cons d ds =>
      have hd : Text.isDigit d = true := Text.isDigit_of_mem_toDigits (n := n) (by simp [hdigits])
      rw [hdigits] at hnumber
      rw [List.map_cons, List.cons_append, readValue_digit hd]
      exact hnumber
  | negSucc n =>
    have hsize : n + 1 < UInt64.size := by
      have : UInt64.size = 18446744073709551616 := rfl
      omega
    have hnumber := readNumber_toDigits true hsize (fun _ => by omega) hrest
    rw [write, Text.toList_toString_negSucc, List.map_cons, List.cons_append]
    rw [readValue, skipSpace_cons (show isSpace (some '-') = false from rfl)]
    exact hnumber

theorem readable_str (s : String) : Readable (.str s) := by
  intro fuel rest hfuel hrest
  obtain ⟨fuel, rfl⟩ := Nat.exists_eq_succ_of_ne_zero (by omega : fuel ≠ 0)
  rw [write, writeText]
  simp only [List.map_append, List.map_cons, List.append_assoc, List.cons_append]
  rw [readValue, List.map_nil, List.nil_append]
  simp only [skipSpace_cons (show isSpace (some '"') = false from rfl)]
  rw [readText_writeText]
  rfl

theorem readable_list {items : List Json} (hplain : ∀ j ∈ items, j.Plain)
    (hread : ∀ j ∈ items, Readable j) : Readable (.list items) := by
  intro fuel rest hfuel hrest
  obtain ⟨fuel, rfl⟩ := Nat.exists_eq_succ_of_ne_zero (by omega : fuel ≠ 0)
  rw [list, write] at hfuel ⊢
  simp only [List.length_append, List.length_cons, List.length_nil] at hfuel
  simp only [List.map_append, List.map_cons, List.map_nil, List.append_assoc, List.cons_append,
    List.nil_append]
  rw [readValue]
  simp only [skipSpace_cons (show isSpace (some '[') = false from rfl)]
  cases items with
  | nil => rfl
  | cons j items =>
    obtain ⟨c, cs, hwrite, hspace, hbracket⟩ :=
      writeItems_eq_cons (hplain j List.mem_cons_self) items
    have hshort : (writeItems (j :: items)).length + 1 < fuel := by omega
    have hitems := readList_writeItems (by simp) hplain hread hshort [] rest
    rw [hwrite, List.map_cons, List.cons_append] at hitems ⊢
    rw [skipSpace_cons hspace]
    split
    · rename_i heq
      cases heq
    · rename_i heq
      cases Option.some.inj (List.cons.inj heq).1
      exact absurd rfl hbracket
    · exact hitems

theorem readable_object {members : List (String × Json)} (hread : ∀ m ∈ members, Readable m.2) :
    Readable (.object members) := by
  intro fuel rest hfuel hrest
  obtain ⟨fuel, rfl⟩ := Nat.exists_eq_succ_of_ne_zero (by omega : fuel ≠ 0)
  rw [object, write] at hfuel ⊢
  simp only [List.length_append, List.length_cons, List.length_nil] at hfuel
  simp only [List.map_append, List.map_cons, List.map_nil, List.append_assoc, List.cons_append,
    List.nil_append]
  rw [readValue]
  simp only [skipSpace_cons (show isSpace (some '\x7b') = false from rfl)]
  cases members with
  | nil => rfl
  | cons m members =>
    obtain ⟨text, htext⟩ := writeMembers_eq_cons m members
    have hlength : (writeMembers (readNames (m :: members))).length = text.length + 1 := by
      rw [htext, List.length_cons]
    change (writeMembers (readNames (m :: members))).length + 1 + 1 < _ at hfuel
    rw [show writeMembers ((m :: members).map fun m => (.ok m.1, m.2)) = '"' :: text from htext,
      List.map_cons, List.cons_append]
    simp only [skipSpace_cons (show isSpace (some '"') = false from rfl)]
    exact readMember_writeMembers (by simp) hread htext (by omega) [] rest

/-- A value that can be written is read back from its text. -/
theorem Plain.readable {j : Json} (hj : j.Plain) : Readable j := by
  induction hj with
  | null =>
    intro fuel rest hfuel hrest
    obtain ⟨fuel, rfl⟩ := Nat.exists_eq_succ_of_ne_zero (by omega : fuel ≠ 0)
    rfl
  | bool b =>
    intro fuel rest hfuel hrest
    obtain ⟨fuel, rfl⟩ := Nat.exists_eq_succ_of_ne_zero (by omega : fuel ≠ 0)
    cases b with
    | false => rfl
    | true => rfl
  | str s => exact readable_str s
  | int low high => exact readable_int low high
  | list plain ih => exact readable_list plain ih
  | object plain ih => exact readable_object ih

/-- Reading a record from the text of a value reads it from the value. -/
theorem decodeText_render {α : Type} (dec : Decoder α) {j : Json} (hj : j.Plain) :
    decodeText dec j.render = dec j := by
  have hread := hj.readable ((write j).length + 1) [] (by omega) stops_nil
  rw [List.append_nil] at hread
  unfold decodeText render Text.Utf8.ofText readSymbols
  rw [String.toList_ofList, List.length_map, hread]
  unfold Document.decode
  cases dec j with
  | error f => rfl
  | ok a => rfl

end PoolScaler.Json
