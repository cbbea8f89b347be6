import PoolScaler.Text.Pieces
set_option autoImplicit false

/-!
# Cutting a text

Where a character stands a text is cut, and nowhere else.
-/

namespace PoolScaler.Text

variable {c : Char} {cs a b : List Char}

theorem not_mem_of_mem_pieces {piece : List Char} (h : piece ∈ pieces c cs) : c ∉ piece := by
  induction cs generalizing piece with
  | nil =>
    rw [List.mem_singleton.mp h]
    exact List.not_mem_nil
  | cons d rest ih =>
    unfold pieces at h
    split at h
    · rcases List.mem_cons.mp h with rfl | h
      · exact List.not_mem_nil
      · exact ih h
    · rename_i hd
      obtain ⟨first, more, hpieces⟩ := List.exists_cons_of_ne_nil (pieces_ne_nil c rest)
      rw [hpieces] at h ih
      rcases List.mem_cons.mp h with rfl | h
      · exact List.not_mem_cons_of_ne_of_not_mem (Ne.symm hd) (ih List.mem_cons_self)
      · exact ih (List.mem_cons_of_mem _ h)

theorem pieces_append (c : Char) (a b : List Char) :
    pieces c (a ++ c :: b) = pieces c a ++ pieces c b := by
  induction a with
  | nil => simp [pieces]
  | cons d a ih =>
    obtain ⟨first, more, hpieces⟩ := List.exists_cons_of_ne_nil (pieces_ne_nil c a)
    rw [hpieces] at ih
    by_cases hd : d = c
    · simp [pieces, hd, ih, hpieces]
    · simp [pieces, hd, ih, hpieces]

theorem pieces_of_not_mem (h : c ∉ cs) : pieces c cs = [cs] := by
  induction cs with
  | nil => rfl
  | cons d rest ih =>
    have hd : d ≠ c := Ne.symm (List.ne_of_not_mem_cons h)
    simp [pieces, hd, ih (List.not_mem_of_not_mem_cons h)]

/-- Two pieces are what stands before and after the one cut. -/
theorem pieces_eq_pair_iff : pieces c cs = [a, b] ↔ cs = a ++ c :: b ∧ c ∉ a ∧ c ∉ b := by
  constructor
  · intro h
    refine ⟨?_, not_mem_of_mem_pieces (h ▸ List.mem_cons_self),
      not_mem_of_mem_pieces (h ▸ List.mem_cons_of_mem _ List.mem_cons_self)⟩
    rw [← intercalate_pieces c cs, h]
    simp [List.intercalate]
  · rintro ⟨rfl, ha, hb⟩
    rw [pieces_append, pieces_of_not_mem ha, pieces_of_not_mem hb]
    rfl

/-- Parts without the character are found again where it was put between them. -/
theorem pieces_intercalate {parts : List (List Char)} (hne : parts ≠ [])
    (hfree : ∀ part ∈ parts, c ∉ part) : pieces c (List.intercalate [c] parts) = parts := by
  induction parts with
  | nil => exact absurd rfl hne
  | cons part rest ih =>
    obtain ⟨hpart, hrest⟩ := List.forall_mem_cons.mp hfree
    cases rest with
    | nil => simpa using pieces_of_not_mem hpart
    | cons next more =>
      rw [List.intercalate_cons_cons, List.append_assoc, List.singleton_append, pieces_append,
        pieces_of_not_mem hpart, ih (List.cons_ne_nil _ _) hrest]
      rfl

theorem mem_of_mem_intercalate {parts : List (List Char)} {d : Char}
    (h : d ∈ List.intercalate [c] parts) : d = c ∨ ∃ part ∈ parts, d ∈ part := by
  induction parts with
  | nil => cases h
  | cons part rest ih =>
    cases rest with
    | nil => exact .inr ⟨part, List.mem_cons_self, by simpa using h⟩
    | cons next more =>
      rw [List.intercalate_cons_cons, List.append_assoc, List.mem_append, List.mem_append,
        List.mem_singleton] at h
      rcases h with h | rfl | h
      · exact .inr ⟨part, List.mem_cons_self, h⟩
      · exact .inl rfl
      · exact (ih h).imp_right fun ⟨found, hfound, hd⟩ =>
          ⟨found, List.mem_cons_of_mem _ hfound, hd⟩

end PoolScaler.Text
