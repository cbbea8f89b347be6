import Mathlib.Data.List.Basic
import PoolScaler.Proofs.Text.Utf8
import PoolScaler.Web.Url
set_option autoImplicit false

/-!
# What escaping keeps apart

A text is escaped byte by byte, and a percent sign of its own is left as it is.  Different
texts without percent signs are escaped differently, and no dots come from anything but
dots.
-/

namespace PoolScaler

namespace Text.Utf8

/-- A text is known by its bytes. -/
theorem encode_injective {s s' : String} (h : encode s = encode s') : s = s' := by
  have hread := congrArg read h
  rw [read_encode, read_encode] at hread
  exact String.toList_injective ((List.map_inj_right fun _ _ => Option.some.inj).mp hread)

theorem utf8EncodeChar_ascii {c : Char} (h : c.toNat < 0x80) :
    String.utf8EncodeChar c = [UInt8.ofNat c.toNat] :=
  if_pos (Nat.le_of_lt_succ h)

theorem le_of_mem_utf8EncodeChar {c : Char} (h : 0x80 ≤ c.toNat) {b : UInt8}
    (hb : b ∈ String.utf8EncodeChar c) : 0x80 ≤ b.toNat := by
  have hbyte : ∀ {n : Nat}, 0x80 ≤ n → n < 256 → b = UInt8.ofNat n → 0x80 ≤ b.toNat := by
    rintro n hle hlt rfl
    rwa [toNat_ofNat_of_lt hlt]
  unfold String.utf8EncodeChar at hb
  dsimp only [Char.toNat] at h hb
  generalize c.val.toNat = n at h hb
  rw [if_neg (by omega)] at hb
  split at hb
  · rcases List.mem_pair.mp hb with hb | hb
    · exact hbyte (by omega) (by omega) hb
    · exact hbyte (by omega) (by omega) hb
  · split at hb
    · simp only [List.mem_cons, List.not_mem_nil, or_false] at hb
      rcases hb with hb | hb | hb
      · exact hbyte (by omega) (by omega) hb
      · exact hbyte (by omega) (by omega) hb
      · exact hbyte (by omega) (by omega) hb
    · simp only [List.mem_cons, List.not_mem_nil, or_false] at hb
      rcases hb with hb | hb | hb | hb
      · exact hbyte (by omega) (by omega) hb
      · exact hbyte (by omega) (by omega) hb
      · exact hbyte (by omega) (by omega) hb
      · exact hbyte (by omega) (by omega) hb

end Text.Utf8

namespace Web

open Text (hexDigitUpper)

/-! ## Bytes -/

/-- A byte as it is escaped. -/
def byteCode (set : Char → Bool) (b : UInt8) : List Char :=
  if b.toNat < 0x20 || 0x7E < b.toNat || set (Char.ofNat b.toNat) then percentByte b
  else [Char.ofNat b.toNat]

theorem percentByte_injective {b b' : UInt8} (h : percentByte b = percentByte b') : b = b' := by
  have hdigit : ∀ m < 16, ∀ n < 16, hexDigitUpper m = hexDigitUpper n → m = n := by decide
  have hlt := b.toNat_lt
  have hlt' := b'.toNat_lt
  simp only [percentByte, List.cons.injEq, and_true, true_and] at h
  have hhigh := hdigit _ (by omega) _ (by omega) h.1
  have hlow := hdigit _ (by omega) _ (by omega) h.2
  exact UInt8.toNat_inj.mp (by omega)

theorem char_injective {b b' : UInt8} (h : Char.ofNat b.toNat = Char.ofNat b'.toNat) :
    b = b' := by
  have hcode : ∀ n < 256, (Char.ofNat n).toNat = n := by decide +kernel
  have hsame := congrArg Char.toNat h
  rw [hcode _ b.toNat_lt, hcode _ b'.toNat_lt] at hsame
  exact UInt8.toNat_inj.mp hsame

theorem escapeChar_eq (set : Char → Bool) (c : Char) :
    (if c.toNat < 0x20 || 0x7E < c.toNat || set c then percentChar c else [c]) =
      (String.utf8EncodeChar c).flatMap (byteCode set) := by
  have hbytes : percentChar c = (String.utf8EncodeChar c).flatMap percentByte := by
    unfold percentChar
    rw [Text.Utf8.encode_eq]
    simp
  rcases Nat.lt_or_ge c.toNat 0x80 with hascii | hwide
  · have hbyte : (UInt8.ofNat c.toNat).toNat = c.toNat :=
      Text.Utf8.toNat_ofNat_of_lt (Nat.lt_trans hascii (by decide))
    rw [hbytes, Text.Utf8.utf8EncodeChar_ascii hascii]
    simp only [List.flatMap_cons, List.flatMap_nil, List.append_nil, byteCode, hbyte,
      Char.ofNat_toNat]
  · rw [if_pos (by simp; omega), hbytes]
    refine List.flatMap_congr fun b hb => ?_
    have hhigh := Text.Utf8.le_of_mem_utf8EncodeChar hwide hb
    unfold byteCode
    rw [if_pos (by simp; omega)]

/-- A text is escaped byte by byte. -/
theorem escapeWith_eq (set : Char → Bool) (cs : List Char) :
    escapeWith set cs = (Text.Utf8.encode (String.ofList cs)).flatMap (byteCode set) := by
  rw [Text.Utf8.encode_eq, String.toList_ofList, List.flatMap_assoc]
  exact List.flatMap_congr fun c _ => escapeChar_eq set c

/-- The byte of a percent sign. -/
def percent : UInt8 := 0x25

theorem not_mem_encode {cs : List Char} (h : '%' ∉ cs) :
    percent ∉ Text.Utf8.encode (String.ofList cs) := by
  rw [Text.Utf8.encode_eq, String.toList_ofList, List.mem_flatMap]
  rintro ⟨c, hc, hb⟩
  rcases Nat.lt_or_ge c.toNat 0x80 with hascii | hwide
  · rw [Text.Utf8.utf8EncodeChar_ascii hascii, List.mem_singleton] at hb
    have hcode := congrArg UInt8.toNat hb
    rw [Text.Utf8.toNat_ofNat_of_lt (Nat.lt_trans hascii (by decide))] at hcode
    have hchar : c = '%' := by rw [← Char.ofNat_toNat c, ← hcode]; rfl
    exact h (hchar ▸ hc)
  · exact absurd (Text.Utf8.le_of_mem_utf8EncodeChar hwide hb) (by decide)

/-- Where the codes of two texts begin alike, so do their bytes. -/
theorem byteCode_append_inj {set : Char → Bool} {b b' : UInt8} {rest rest' : List Char}
    (hb : b ≠ percent) (hb' : b' ≠ percent)
    (h : byteCode set b ++ rest = byteCode set b' ++ rest') : b = b' ∧ rest = rest' := by
  have hplain : ∀ {b : UInt8}, b ≠ percent → Char.ofNat b.toNat ≠ '%' :=
    fun hb hchar => hb (char_injective hchar)
  unfold byteCode at h
  split at h
  · split at h
    · obtain ⟨hcode, hrest⟩ := List.append_inj h rfl
      exact ⟨percentByte_injective hcode, hrest⟩
    · exact absurd (List.cons.inj h).1.symm (hplain hb')
  · split at h
    · exact absurd (List.cons.inj h).1 (hplain hb)
    · obtain ⟨hcode, hrest⟩ := List.cons.inj h
      exact ⟨char_injective hcode, hrest⟩

theorem byteCode_ne_nil (set : Char → Bool) (b : UInt8) : byteCode set b ≠ [] := by
  unfold byteCode percentByte
  split
  · exact List.cons_ne_nil _ _
  · exact List.cons_ne_nil _ _

theorem flatMap_byteCode_injective {set : Char → Bool} {bytes bytes' : List UInt8}
    (h : percent ∉ bytes) (h' : percent ∉ bytes')
    (heq : bytes.flatMap (byteCode set) = bytes'.flatMap (byteCode set)) : bytes = bytes' := by
  induction bytes generalizing bytes' with
  | nil =>
    cases bytes' with
    | nil => rfl
    | cons b' bytes' =>
      rw [List.flatMap_cons, List.flatMap_nil] at heq
      exact absurd (List.append_eq_nil_iff.mp heq.symm).1 (byteCode_ne_nil set b')
  | cons b bytes ih =>
    cases bytes' with
    | nil =>
      rw [List.flatMap_cons, List.flatMap_nil] at heq
      exact absurd (List.append_eq_nil_iff.mp heq).1 (byteCode_ne_nil set b)
    | cons b' bytes' =>
      rw [List.flatMap_cons, List.flatMap_cons] at heq
      obtain ⟨rfl, hrest⟩ := byteCode_append_inj (Ne.symm (List.ne_of_not_mem_cons h))
        (Ne.symm (List.ne_of_not_mem_cons h')) heq
      rw [ih (List.not_mem_of_not_mem_cons h) (List.not_mem_of_not_mem_cons h') hrest]

/-- Different texts without percent signs are escaped differently. -/
theorem escapeWith_injective {set : Char → Bool} {cs cs' : List Char} (h : '%' ∉ cs)
    (hother : '%' ∉ cs') (heq : escapeWith set cs = escapeWith set cs') : cs = cs' := by
  rw [escapeWith_eq, escapeWith_eq] at heq
  have hbytes := flatMap_byteCode_injective (not_mem_encode h) (not_mem_encode hother) heq
  exact String.ofList_injective (Text.Utf8.encode_injective hbytes)

/-! ## Dots -/

/-- The two ways to write a dot in a path. -/
def dotForms : List (List Char) := [".".toList, "%2e".toList]

/-- A byte that is no dot is written otherwise from the start. -/
theorem byteCode_dotForms {b : UInt8} (hb : b ≠ percent) : b = 0x2E ∨ ∀ form ∈ dotForms,
    ¬ form <+: (byteCode pathSet b).map Char.toLower ∧
      ¬ (byteCode pathSet b).map Char.toLower <+: form := by
  have hall : ∀ n < 256, UInt8.ofNat n ≠ percent → UInt8.ofNat n = 0x2E ∨ ∀ form ∈ dotForms,
      ¬ form <+: (byteCode pathSet (UInt8.ofNat n)).map Char.toLower ∧
        ¬ (byteCode pathSet (UInt8.ofNat n)).map Char.toLower <+: form := by
    decide +kernel
  have hself : UInt8.ofNat b.toNat = b := UInt8.ofNat_toNat
  have hbyte := hall b.toNat b.toNat_lt
  rw [hself] at hbyte
  exact hbyte hb

/-- What is written as a dot at its start has a dot there. -/
theorem dot_of_dotForm {bytes : List UInt8} (hfree : percent ∉ bytes) {form rest : List Char}
    (hform : form ∈ dotForms)
    (h : (bytes.flatMap (byteCode pathSet)).map Char.toLower = form ++ rest) :
    ∃ later, bytes = 0x2E :: later ∧
      (later.flatMap (byteCode pathSet)).map Char.toLower = rest := by
  have hforms : form = ".".toList ∨ form = "%2e".toList := by simpa [dotForms] using hform
  cases bytes with
  | nil => rcases hforms with rfl | rfl <;> cases h
  | cons b later =>
    rw [List.flatMap_cons, List.map_append] at h
    rcases byteCode_dotForms (Ne.symm (List.ne_of_not_mem_cons hfree)) with rfl | hnot
    · rcases hforms with rfl | rfl
      · exact ⟨later, rfl, (List.cons.inj h).2⟩
      · cases (List.cons.inj h).1
    · have hprefix := List.prefix_or_prefix_of_prefix (h ▸ List.prefix_append form rest)
        (List.prefix_append _ ((later.flatMap (byteCode pathSet)).map Char.toLower))
      exact absurd hprefix (not_or.mpr (hnot form hform))

theorem eq_nil_of_flatMap {bytes : List UInt8}
    (h : (bytes.flatMap (byteCode pathSet)).map Char.toLower = []) : bytes = [] := by
  cases bytes with
  | nil => rfl
  | cons b later =>
    rw [List.map_eq_nil_iff, List.flatMap_cons] at h
    exact absurd (List.append_eq_nil_iff.mp h).1 (byteCode_ne_nil pathSet b)

/-- A part of a path as it is written. -/
def written (part : String) : String := String.ofList (escapeWith pathSet part.toList)

theorem lower_written (part : String) : (written part).toLower.toList =
    ((Text.Utf8.encode part).flatMap (byteCode pathSet)).map Char.toLower := by
  have hlower : (written part).toLower = (written part).map Char.toLower := rfl
  rw [hlower, String.toList_map, written, escapeWith_eq, String.toList_ofList,
    String.ofList_toList]

section

variable {part : String} (hfree : '%' ∉ part.toList)
include hfree

theorem percent_not_mem_encode : percent ∉ Text.Utf8.encode part := by
  rw [← String.ofList_toList (s := part)]
  exact not_mem_encode hfree

/-- Without a percent sign only a dot means the place itself. -/
theorem isHere_written (hpart : part ≠ ".") : Url.isHere (written part) = false := by
  refine decide_eq_false fun hhere => hpart ?_
  have hform : (written part).toLower.toList ∈ dotForms := by
    simp only [List.mem_cons, List.not_mem_nil, or_false] at hhere
    rcases hhere with hhere | hhere
    · rw [hhere]; decide
    · rw [hhere]; decide
  obtain ⟨later, hlater, hrest⟩ := dot_of_dotForm (percent_not_mem_encode hfree) hform
    ((lower_written part).symm.trans (List.append_nil _).symm)
  rw [eq_nil_of_flatMap hrest] at hlater
  exact Text.Utf8.encode_injective (hlater.trans (by decide +kernel))

/-- Without a percent sign only two dots mean the place above. -/
theorem isAbove_written (hpart : part ≠ "..") : Url.isAbove (written part) = false := by
  refine decide_eq_false fun habove => hpart ?_
  have hforms : ∃ first ∈ dotForms, ∃ last ∈ dotForms,
      (written part).toLower.toList = first ++ last := by
    simp only [List.mem_cons, List.not_mem_nil, or_false] at habove
    rcases habove with habove | habove | habove | habove
    · rw [habove]
      exact ⟨".".toList, by decide, ".".toList, by decide, by decide⟩
    · rw [habove]
      exact ⟨".".toList, by decide, "%2e".toList, by decide, by decide⟩
    · rw [habove]
      exact ⟨"%2e".toList, by decide, ".".toList, by decide, by decide⟩
    · rw [habove]
      exact ⟨"%2e".toList, by decide, "%2e".toList, by decide, by decide⟩
  obtain ⟨first, hfirst, last, hlast, hlower⟩ := hforms
  have hbytes := percent_not_mem_encode hfree
  obtain ⟨later, hlater, hrest⟩ := dot_of_dotForm hbytes hfirst
    ((lower_written part).symm.trans hlower)
  rw [hlater] at hbytes
  obtain ⟨none, hnone, hend⟩ := dot_of_dotForm (List.not_mem_of_not_mem_cons hbytes) hlast
    (hrest.trans (List.append_nil _).symm)
  rw [hnone, eq_nil_of_flatMap hend] at hlater
  exact Text.Utf8.encode_injective (hlater.trans (by decide +kernel))

end

/-- Different parts without percent signs are written differently. -/
theorem written_injective {part part' : String} (h : '%' ∉ part.toList)
    (hother : '%' ∉ part'.toList) (heq : written part = written part') : part = part' :=
  String.toList_injective (escapeWith_injective h hother (String.ofList_injective heq))

theorem map_written_injective {parts parts' : List String} (h : ∀ part ∈ parts, '%' ∉ part.toList)
    (hother : ∀ part ∈ parts', '%' ∉ part.toList)
    (heq : parts.map written = parts'.map written) : parts = parts' := by
  induction parts generalizing parts' with
  | nil => exact (List.map_eq_nil_iff.mp heq.symm).symm
  | cons part parts ih =>
    cases parts' with
    | nil => cases heq
    | cons part' parts' =>
      obtain ⟨hpart, hparts⟩ := List.forall_mem_cons.mp h
      obtain ⟨hpart', hparts'⟩ := List.forall_mem_cons.mp hother
      obtain ⟨hfirst, hrest⟩ := List.cons.inj heq
      rw [written_injective hpart hpart' hfirst, ih hparts hparts' hrest]

end Web

end PoolScaler
