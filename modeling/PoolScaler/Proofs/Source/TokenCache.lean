import Mathlib.Data.List.Nodup
import PoolScaler.Source.TokenCache
set_option autoImplicit false

/-!
# What a cache remembers

A cache has one entry for each key at most.  Writing under one key leaves what can be read
under the others, for what it forgets had lapsed.
-/

namespace PoolScaler.TtlCache

variable {α : Type} {c : TtlCache α} {key k : String} {value a : α} {expiration now t : Instant}

/-- No key has two entries. -/
def Distinct (c : TtlCache α) : Prop := (c.entries.map (·.key)).Nodup

theorem distinct_empty : (empty : TtlCache α).Distinct := List.nodup_nil

theorem mem_insert_iff {e : CacheEntry α} :
    e ∈ (c.insert key value expiration now).entries ↔
      e = ⟨key, value, expiration⟩ ∨
        e ∈ c.entries ∧ now < e.expirationTime ∧ e.key ≠ key := by
  simp only [insert, CacheEntry.isExpired, List.mem_cons, List.mem_filter, Bool.and_eq_true,
    Bool.not_eq_true', decide_eq_false_iff_not, UInt64.not_le, bne_iff_ne]

theorem Distinct.insert (h : c.Distinct) : (c.insert key value expiration now).Distinct := by
  refine List.nodup_cons.mpr ⟨fun hmem => ?_, ?_⟩
  · obtain ⟨e, he, hkey⟩ := List.mem_map.mp hmem
    obtain ⟨-, hother⟩ := Bool.and_eq_true_iff.mp (List.mem_filter.mp he).2
    exact bne_iff_ne.mp hother hkey
  · exact h.sublist (List.filter_sublist.map _)

theorem entry?_mem {e : CacheEntry α} (h : c.entry? key = some e) :
    e ∈ c.entries ∧ e.key = key := by
  unfold entry? at h
  have hkey := List.find?_some h
  exact ⟨List.mem_of_find?_eq_some h, beq_iff_eq.mp hkey⟩

theorem Distinct.entry?_eq_some_iff (h : c.Distinct) {e : CacheEntry α} :
    c.entry? key = some e ↔ e ∈ c.entries ∧ e.key = key := by
  refine ⟨entry?_mem, ?_⟩
  rintro ⟨hmem, rfl⟩
  cases hfind : c.entry? e.key with
  | none => exact absurd (beq_iff_eq.mpr rfl) (List.find?_eq_none.mp hfind e hmem)
  | some e' =>
    obtain ⟨hmem', hkey⟩ := entry?_mem hfind
    rw [List.inj_on_of_nodup_map h hmem' hmem hkey]

/-- What can be read is what an entry holds that has not lapsed. -/
theorem Distinct.get?_eq_some_iff (h : c.Distinct) : c.get? key t = some a ↔
    ∃ e ∈ c.entries, e.key = key ∧ t < e.expirationTime ∧ e.value = a := by
  have hget : c.get? key t = some a ↔
      ∃ e, c.entry? key = some e ∧ t < e.expirationTime ∧ e.value = a := by
    unfold get? CacheEntry.isExpired
    cases c.entry? key with
    | none => exact ⟨nofun, nofun⟩
    | some e => simp
  simp only [hget, h.entry?_eq_some_iff, and_assoc]

/-- After a write the key that was written has its value, until that lapses, and every
other key has what it had. -/
theorem Distinct.get?_insert (h : c.Distinct) (hnow : now ≤ t) :
    (c.insert key value expiration now).get? k t = some a ↔
      (k = key ∧ t < expiration ∧ value = a) ∨ (k ≠ key ∧ c.get? k t = some a) := by
  rw [h.insert.get?_eq_some_iff, h.get?_eq_some_iff]
  simp only [mem_insert_iff]
  constructor
  · rintro ⟨e, rfl | ⟨hmem, -, hother⟩, rfl, ht, rfl⟩
    · exact .inl ⟨rfl, ht, rfl⟩
    · exact .inr ⟨hother, e, hmem, rfl, ht, rfl⟩
  · rintro (⟨rfl, ht, rfl⟩ | ⟨hother, e, hmem, rfl, ht, rfl⟩)
    · exact ⟨_, .inl rfl, rfl, ht, rfl⟩
    · exact ⟨e, .inr ⟨hmem, UInt64.lt_of_le_of_lt hnow ht, hother⟩, rfl, ht, rfl⟩

end PoolScaler.TtlCache
