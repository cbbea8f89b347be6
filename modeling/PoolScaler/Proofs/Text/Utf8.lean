import PoolScaler.Text.Utf8
set_option autoImplicit false

/-!
# A text is read from its bytes

The bytes of a text are read as its characters, without a gap.
-/

namespace PoolScaler.Text.Utf8

theorem toList_loop (bytes : ByteArray) (i : Nat) (done : List UInt8) :
    ByteArray.toList.loop bytes i done = done.reverse ++ bytes.data.toList.drop i := by
  fun_induction ByteArray.toList.loop bytes i done with
  | case1 i done hi ih =>
    have hdrop : bytes.data.toList.drop i =
        bytes.get! i :: bytes.data.toList.drop (i + 1) := by
      simpa [ByteArray.get!, hi] using
        List.drop_eq_getElem_cons (l := bytes.data.toList) (i := i) hi
    rw [ih, hdrop, List.reverse_cons, List.append_assoc]
    rfl
  | case2 i done hi =>
    have hdrop : bytes.data.toList.drop i = [] :=
      List.drop_eq_nil_iff.mpr (by simpa using Nat.le_of_not_gt hi)
    rw [hdrop, List.append_nil]

theorem encode_eq (s : String) : encode s = s.toList.flatMap String.utf8EncodeChar := by
  have hbytes := String.toByteArray_ofList (l := s.toList)
  rw [String.ofList_toList] at hbytes
  change s.toUTF8 = (s.toList.flatMap String.utf8EncodeChar).toByteArray at hbytes
  rw [encode, ByteArray.toList, toList_loop, hbytes, List.data_toByteArray]
  rfl

/-! ## One character -/

section

variable {low high b : UInt8} {bits : Nat} {rest : List UInt8}

/-- The last byte of a character. -/
theorem readFrom_last (hlow : low ≤ b) (hhigh : b ≤ high) :
    readFrom (some ⟨1, low, high, bits⟩) (b :: rest) =
      some (Char.ofNat (bits * 64 + (b.toNat - 0x80))) :: readFrom none rest := by
  rw [readFrom]
  simp only [step, hlow, hhigh, decide_true, Bool.and_self, if_true]
  rfl

/-- A byte of a character that is not the last one. -/
theorem readFrom_next (hlow : low ≤ b) (hhigh : b ≤ high) (n : Nat) :
    readFrom (some ⟨n + 2, low, high, bits⟩) (b :: rest) =
      readFrom (some ⟨n + 1, 0x80, 0xBF, bits * 64 + (b.toNat - 0x80)⟩) rest := by
  rw [readFrom]
  have hmore : ¬ n + 2 ≤ 1 := by omega
  simp only [step, hlow, hhigh, decide_true, Bool.and_self, if_true, hmore, if_false]
  rfl

/-- The first byte of a character above ASCII. -/
theorem readFrom_lead {l : Lead} (hascii : ¬ b < 0x80) (hlead : lead? b = some l) :
    readFrom none (b :: rest) = readFrom (some l) rest := by
  rw [readFrom]
  simp only [step, begin, hascii, if_false, hlead]
  rfl

end

theorem toNat_ofNat_of_lt {n : Nat} (h : n < 256) : (UInt8.ofNat n).toNat = n := by
  rw [UInt8.toNat_ofNat']
  exact Nat.mod_eq_of_lt h

theorem ofNat_le_ofNat {m n : Nat} (hle : m ≤ n) (h : n < 256) : UInt8.ofNat m ≤ UInt8.ofNat n := by
  rwa [UInt8.le_iff_toNat_le, toNat_ofNat_of_lt (Nat.lt_of_le_of_lt hle h), toNat_ofNat_of_lt h]

theorem not_ofNat_lt {n : Nat} (hlow : 0x80 ≤ n) (hhigh : n < 256) : ¬ UInt8.ofNat n < 0x80 := by
  rw [UInt8.lt_iff_toNat_lt, toNat_ofNat_of_lt hhigh]
  exact Nat.not_lt_of_le hlow

/-- A byte that goes on with a character, with the bits that it gives. -/
def tail (t : Nat) : UInt8 := UInt8.ofNat (t + 128)

theorem toNat_tail {t : Nat} (ht : t < 64) : (tail t).toNat - 0x80 = t := by
  rw [tail, toNat_ofNat_of_lt (by omega)]
  omega

/-- A byte that goes on with a character is in its bounds, and in narrower ones where those
apply. -/
theorem tail_bounds {t a b : Nat} {p q : Prop} [Decidable p] [Decidable q]
    (ht : t < 64) (ha : p → a ≤ t) (hb : q → t ≤ b) (hbits : b < 64) :
    (if p then tail a else 0x80) ≤ tail t ∧
      tail t ≤ if q then tail b else 0xBF := by
  constructor
  · split
    · rename_i hp
      exact ofNat_le_ofNat (Nat.add_le_add_right (ha hp) 128) (by omega)
    · exact ofNat_le_ofNat (m := 0x80) (by omega) (by omega)
  · split
    · rename_i hq
      exact ofNat_le_ofNat (Nat.add_le_add_right (hb hq) 128) (by omega)
    · exact ofNat_le_ofNat (n := 0xBF) (by omega) (by omega)

theorem tail_bounds_plain {t : Nat} (ht : t < 64) : 0x80 ≤ tail t ∧ tail t ≤ 0xBF :=
  tail_bounds (p := False) (q := False) (a := 0) (b := 0) ht nofun nofun (by omega)

/-- The first bytes of characters of two, three and four bytes, with the bits that they give;
the next byte is bounded where the character could be written shorter, is a surrogate or
lies beyond the last one. -/
theorem lead?_two : ∀ m < 32, 2 ≤ m →
    lead? (UInt8.ofNat (m + 192)) = some ⟨1, 0x80, 0xBF, m⟩ := by decide

theorem lead?_three : ∀ m < 16, lead? (UInt8.ofNat (m + 224)) =
    some ⟨2, if m = 0 then tail 32 else 0x80, if m = 13 then tail 31 else 0xBF, m⟩ := by decide

theorem lead?_four : ∀ m < 5, lead? (UInt8.ofNat (m + 240)) =
    some ⟨3, if m = 0 then tail 16 else 0x80, if m = 4 then tail 15 else 0xBF, m⟩ := by decide

theorem readFrom_two {m t : Nat} (hm : m < 32) (hlong : 2 ≤ m) (ht : t < 64) (rest : List UInt8) :
    readFrom none (UInt8.ofNat (m + 192) :: tail t :: rest) =
      some (Char.ofNat (m * 64 + t)) :: readFrom none rest := by
  obtain ⟨hlow, hhigh⟩ := tail_bounds_plain ht
  rw [readFrom_lead (not_ofNat_lt (by omega) (by omega)) (lead?_two m hm hlong),
    readFrom_last hlow hhigh, toNat_tail ht]

theorem readFrom_three {m t t' : Nat} (hm : m < 16) (ht : t < 64) (ht' : t' < 64)
    (hshort : m = 0 → 32 ≤ t) (hsurrogate : m = 13 → t ≤ 31) (rest : List UInt8) :
    readFrom none (UInt8.ofNat (m + 224) :: tail t :: tail t' :: rest) =
      some (Char.ofNat ((m * 64 + t) * 64 + t')) :: readFrom none rest := by
  obtain ⟨hlow, hhigh⟩ := tail_bounds ht hshort hsurrogate (by omega)
  obtain ⟨hlow', hhigh'⟩ := tail_bounds_plain ht'
  rw [readFrom_lead (not_ofNat_lt (by omega) (by omega)) (lead?_three m hm),
    readFrom_next hlow hhigh, toNat_tail ht, readFrom_last hlow' hhigh', toNat_tail ht']

theorem readFrom_four {m t t' t'' : Nat} (hm : m < 5) (ht : t < 64) (ht' : t' < 64)
    (ht'' : t'' < 64) (hshort : m = 0 → 16 ≤ t) (hlast : m = 4 → t ≤ 15) (rest : List UInt8) :
    readFrom none (UInt8.ofNat (m + 240) :: tail t :: tail t' :: tail t'' :: rest) =
      some (Char.ofNat (((m * 64 + t) * 64 + t') * 64 + t'')) :: readFrom none rest := by
  obtain ⟨hlow, hhigh⟩ := tail_bounds ht hshort hlast (by omega)
  obtain ⟨hlow', hhigh'⟩ := tail_bounds_plain ht'
  obtain ⟨hlow'', hhigh''⟩ := tail_bounds_plain ht''
  rw [readFrom_lead (not_ofNat_lt (by omega) (by omega)) (lead?_four m hm),
    readFrom_next hlow hhigh, toNat_tail ht, readFrom_next hlow' hhigh', toNat_tail ht',
    readFrom_last hlow'' hhigh'', toNat_tail ht'']

/-- The bytes of a character are read as the character. -/
theorem readFrom_char (c : Char) (rest : List UInt8) :
    readFrom none (String.utf8EncodeChar c ++ rest) = some c :: readFrom none rest := by
  have hvalid : c.toNat < 0xD800 ∨ 0xDFFF < c.toNat ∧ c.toNat < 0x110000 := c.valid
  have hchar : Char.ofNat c.toNat = c := Char.ofNat_toNat c
  unfold String.utf8EncodeChar
  simp only [Char.toNat] at hvalid hchar ⊢
  generalize c.val.toNat = n at hvalid hchar ⊢
  split
  · rename_i hn
    have hascii : UInt8.ofNat n < 0x80 := by
      rw [UInt8.lt_iff_toNat_lt, toNat_ofNat_of_lt (by omega)]
      exact Nat.lt_succ_of_le hn
    rw [List.singleton_append, readFrom]
    simp only [step, begin, hascii, if_true, toNat_ofNat_of_lt (show n < 256 by omega), hchar]
    rfl
  · split
    · have hbits : n / 64 % 32 * 64 + n % 64 = n := by omega
      refine (readFrom_two (m := n / 64 % 32) (t := n % 64) (by omega) (by omega) (by omega)
        rest).trans ?_
      rw [hbits, hchar]
    · split
      · have hbits : (n / 4096 % 16 * 64 + n / 64 % 64) * 64 + n % 64 = n := by omega
        refine (readFrom_three (m := n / 4096 % 16) (t := n / 64 % 64) (by omega) (by omega)
          (Nat.mod_lt n (by omega)) (by omega) (by omega) rest).trans ?_
        rw [hbits, hchar]
      · have hbits : ((n / 262144 % 8 * 64 + n / 4096 % 64) * 64 + n / 64 % 64) * 64 + n % 64 =
            n := by omega
        refine (readFrom_four (m := n / 262144 % 8) (t := n / 4096 % 64) (by omega) (by omega)
          (Nat.mod_lt (n / 64) (by omega)) (Nat.mod_lt n (by omega)) (by omega) (by omega)
          rest).trans ?_
        rw [hbits, hchar]

/-- The bytes of a text are read as its characters. -/
theorem read_encode (s : String) : read (encode s) = ofText s := by
  rw [read, encode_eq, ofText]
  induction s.toList with
  | nil => rfl
  | cons c cs ih => rw [List.flatMap_cons, readFrom_char, ih, List.map_cons]

end PoolScaler.Text.Utf8
