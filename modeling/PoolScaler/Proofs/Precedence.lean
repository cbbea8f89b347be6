import PoolScaler.Pool.Record
set_option autoImplicit false

/-!
# By time, then by name

Reservations are listed by the time they lapse, pods by the time they were
created, and both by name where the times are equal.
-/

namespace PoolScaler

/-- A time and a name come before others, or are the same. -/
def Precedes (a b : Instant × String) : Prop := a.1 < b.1 ∨ a.1 = b.1 ∧ a.2 ≤ b.2

namespace Precedes

variable {a b c : Instant × String}

theorem trans (hab : Precedes a b) (hbc : Precedes b c) : Precedes a c := by
  rcases hab with hab | ⟨hab, hname⟩
  · rcases hbc with hbc | ⟨hbc, -⟩
    · exact .inl (UInt64.lt_trans hab hbc)
    · exact .inl (hbc ▸ hab)
  · rcases hbc with hbc | ⟨hbc, hname'⟩
    · exact .inl (hab ▸ hbc)
    · exact .inr ⟨hab.trans hbc, String.le_trans hname hname'⟩

theorem total (a b : Instant × String) : Precedes a b ∨ Precedes b a := by
  by_cases heq : a.1 = b.1
  · exact (String.le_total a.2 b.2).imp (fun h => .inr ⟨heq, h⟩) fun h => .inr ⟨heq.symm, h⟩
  · exact (UInt64.lt_or_lt_of_ne heq).imp .inl .inl

theorem antisymm (hab : Precedes a b) (hba : Precedes b a) : a = b := by
  have htime : a.1 = b.1 := by
    rcases hab with hab | ⟨hab, -⟩
    · rcases hba with hba | ⟨hba, -⟩
      · exact absurd hba (UInt64.lt_asymm hab)
      · exact hba.symm
    · exact hab
  refine Prod.ext htime ?_
  rcases hab with hab | ⟨-, hab⟩
  · exact absurd (htime ▸ hab) (UInt64.lt_irrefl _)
  · rcases hba with hba | ⟨-, hba⟩
    · exact absurd (htime ▸ hba) (UInt64.lt_irrefl _)
    · exact String.le_antisymm hab hba

end Precedes

end PoolScaler
