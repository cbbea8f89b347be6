import Mathlib.Data.Finset.Card
import Mathlib.Data.List.Induction
import PoolScaler.Proofs.Source.TokenCache
set_option autoImplicit false

/-!
# Forgetting goes unnoticed

A cache forgets lapsed entries whenever something is put into it.  It is compared with one
that forgets nothing: as long as time does not go back, whoever looks a key up sees the same
in both.  The cache holds fewer entries, and how many is known after each write.
-/

namespace PoolScaler.TtlCache

variable {α : Type}

/-- A call on a cache. -/
inductive Call (α : Type) where
  | insert (key : String) (value : α) (expiration now : Instant)
  | get (key : String) (now : Instant)
  | remove (key : String)
  deriving DecidableEq, Repr

namespace Call

/-- The time of a call, if it has one. -/
def time? : Call α → Option Instant
  | .insert _ _ _ now | .get _ now => some now
  | .remove _ => none

/-- The key whose value a call sets or takes out. -/
def changes? : Call α → Option String
  | .insert key _ _ _ | .remove key => some key
  | .get _ _ => none

/-- The call puts a value into the cache. -/
def Writes : Call α → Prop
  | .insert _ _ _ _ => True
  | .get _ _ | .remove _ => False

end Call

/-! ## Histories -/

/-- The times of the calls do not decrease. -/
def InOrder (history : List (Call α)) : Prop :=
  (history.filterMap Call.time?).Pairwise (· ≤ ·)

instance (history : List (Call α)) : Decidable (InOrder history) :=
  inferInstanceAs (Decidable (List.Pairwise _ _))

/-- The cache after a call. -/
def perform (c : TtlCache α) : Call α → TtlCache α
  | .insert key value expiration now => c.insert key value expiration now
  | .get _ _ => c
  | .remove key => (c.remove key).2

/-- An empty cache after a list of calls. -/
def after (history : List (Call α)) : TtlCache α := history.foldl perform empty

/-- Put a value under a key and forget nothing else. -/
def put (c : TtlCache α) (key : String) (value : α) (expiration : Instant) : TtlCache α :=
  ⟨⟨key, value, expiration⟩ :: c.entries.filter (·.key != key)⟩

/-- A cache that forgets nothing, after a call. -/
def performKeeping (c : TtlCache α) : Call α → TtlCache α
  | .insert key value expiration _ => c.put key value expiration
  | .get _ _ => c
  | .remove key => (c.remove key).2

/-- An empty cache that forgets nothing, after a list of calls. -/
def keptAfter (history : List (Call α)) : TtlCache α := history.foldl performKeeping empty

/-- An entry is what the last insertion under its key made, and no removal of the key came
later. -/
def Stands (history : List (Call α)) (e : CacheEntry α) : Prop :=
  ∃ earlier now later, history = earlier ++ .insert e.key e.value e.expirationTime now :: later ∧
    ∀ call ∈ later, call.changes? ≠ some e.key

variable {c kept : TtlCache α} {history earlier later : List (Call α)} {call : Call α}
  {key : String} {value : α} {expiration now now' : Instant} {e : CacheEntry α}

theorem after_concat : after (history ++ [call]) = (after history).perform call := by
  rw [after, List.foldl_append]
  rfl

theorem keptAfter_concat :
    keptAfter (history ++ [call]) = (keptAfter history).performKeeping call := by
  rw [keptAfter, List.foldl_append]
  rfl

/-- What stands after one more call is what that inserts, or stood and is not changed. -/
theorem stands_concat : Stands (history ++ [call]) e ↔
    (∃ now, call = .insert e.key e.value e.expirationTime now) ∨
      Stands history e ∧ call.changes? ≠ some e.key := by
  constructor
  · rintro ⟨earlier, now, later, hsplit, hlater⟩
    rcases List.eq_nil_or_concat' later with rfl | ⟨later, last, rfl⟩
    · obtain ⟨-, hcall⟩ := List.append_inj' hsplit rfl
      exact .inl ⟨now, List.singleton_inj.mp hcall⟩
    · rw [← List.cons_append, ← List.append_assoc] at hsplit
      obtain ⟨rfl, hcall⟩ := List.append_inj' hsplit rfl
      obtain rfl := List.singleton_inj.mp hcall
      refine .inr ⟨⟨earlier, now, later, rfl, fun call hcall => ?_⟩, ?_⟩
      · exact hlater call (List.mem_append_left _ hcall)
      · exact hlater _ (List.mem_append_right _ List.mem_cons_self)
  · rintro (⟨now, rfl⟩ | ⟨⟨earlier, now, later, rfl, hlater⟩, hcall⟩)
    · exact ⟨history, now, [], rfl, List.forall_mem_nil _⟩
    · refine ⟨earlier, now, later ++ [call], by rw [List.append_assoc, List.cons_append], ?_⟩
      intro call' hmem
      rcases List.mem_append.mp hmem with hmem | hmem
      · exact hlater call' hmem
      · rwa [List.mem_singleton.mp hmem]

/-! ## What is kept by a cache that forgets nothing -/

theorem mem_put_iff : e ∈ (c.put key value expiration).entries ↔
    e = ⟨key, value, expiration⟩ ∨ e ∈ c.entries ∧ e.key ≠ key := by
  simp only [put, List.mem_cons, List.mem_filter, bne_iff_ne]

theorem mem_remove_iff : e ∈ (c.remove key).2.entries ↔ e ∈ c.entries ∧ e.key ≠ key := by
  simp only [remove, List.mem_filter, bne_iff_ne]

theorem Distinct.put (h : c.Distinct) : (c.put key value expiration).Distinct := by
  refine List.nodup_cons.mpr ⟨fun hmem => ?_, h.sublist (List.filter_sublist.map _)⟩
  obtain ⟨e, he, hkey⟩ := List.mem_map.mp hmem
  exact bne_iff_ne.mp (List.mem_filter.mp he).2 hkey

theorem Distinct.remove (h : c.Distinct) : (c.remove key).2.Distinct :=
  h.sublist (List.filter_sublist.map _)

/-- A cache that forgets nothing holds what stands. -/
theorem mem_keptAfter_iff : e ∈ (keptAfter history).entries ↔ Stands history e := by
  induction history using List.reverseRecOn with
  | nil =>
    constructor
    · rintro ⟨⟩
    · rintro ⟨earlier, now, later, hsplit, -⟩
      exact absurd hsplit.symm (List.append_ne_nil_of_right_ne_nil _ (List.cons_ne_nil _ _))
  | append_singleton history call ih =>
    rw [keptAfter_concat, stands_concat, ← ih]
    cases call with
    | insert key value expiration now =>
      rw [performKeeping, mem_put_iff]
      refine or_congr ⟨?_, ?_⟩ (and_congr_right fun _ => ?_)
      · rintro rfl
        exact ⟨now, rfl⟩
      · rintro ⟨_, hcall⟩
        obtain ⟨rfl, rfl, rfl, -⟩ := Call.insert.inj hcall
        rfl
      · rw [Call.changes?, ne_comm]
        exact (Option.some_inj.not).symm
    | get key now => simp [performKeeping, Call.changes?]
    | remove key => simp [performKeeping, mem_remove_iff, Call.changes?, eq_comm]

/-! ## Two caches -/

/-- A cache holds, of what another one holds, at least what has not lapsed at a time. -/
structure Prunes (c kept : TtlCache α) (now : Instant) : Prop where
  distinct : kept.Distinct
  sublist : c.entries.Sublist kept.entries
  unlapsed : ∀ e ∈ kept.entries, now < e.expirationTime → e ∈ c.entries

namespace Prunes

theorem mono (h : Prunes c kept now) (hle : now ≤ now') : Prunes c kept now' :=
  ⟨h.distinct, h.sublist, fun e he hlate => h.unlapsed e he (UInt64.lt_of_le_of_lt hle hlate)⟩

theorem insert (h : Prunes c kept now) :
    Prunes (c.insert key value expiration now) (kept.put key value expiration) now := by
  refine ⟨h.distinct.put, List.Sublist.cons_cons _ ?_, fun e he hlate => ?_⟩
  · rw [← List.filter_filter]
    exact List.filter_sublist.trans (h.sublist.filter _)
  · rcases mem_put_iff.mp he with rfl | ⟨hmem, hother⟩
    · exact mem_insert_iff.mpr (.inl rfl)
    · exact mem_insert_iff.mpr (.inr ⟨h.unlapsed e hmem hlate, hlate, hother⟩)

theorem remove (h : Prunes c kept now) : Prunes (c.remove key).2 (kept.remove key).2 now := by
  refine ⟨h.distinct.remove, h.sublist.filter _, fun e he hlate => ?_⟩
  obtain ⟨hmem, hother⟩ := mem_remove_iff.mp he
  exact mem_remove_iff.mpr ⟨h.unlapsed e hmem hlate, hother⟩

/-- Both caches show the same from the time on. -/
theorem get?_eq (h : Prunes c kept now) (key : String) : c.get? key now = kept.get? key now := by
  have hdistinct : c.Distinct := h.distinct.sublist (h.sublist.map _)
  refine Option.ext fun value => ?_
  rw [hdistinct.get?_eq_some_iff, h.distinct.get?_eq_some_iff]
  constructor
  · rintro ⟨e, he, hfound⟩
    exact ⟨e, h.sublist.subset he, hfound⟩
  · rintro ⟨e, he, hkey, hlate, hvalue⟩
    exact ⟨e, h.unlapsed e he hlate, hkey, hlate, hvalue⟩

end Prunes

theorem InOrder.of_append (h : InOrder (earlier ++ later)) : InOrder earlier := by
  unfold InOrder at h
  rw [List.filterMap_append] at h
  exact (List.pairwise_append.mp h).1

theorem InOrder.le_of_mem (h : InOrder (earlier ++ call :: later)) (hcall : call.time? = some now) :
    ∀ t ∈ earlier.filterMap Call.time?, t ≤ now := by
  intro t ht
  unfold InOrder at h
  rw [List.filterMap_append] at h
  refine (List.pairwise_append.mp h).2.2 t ht now ?_
  rw [List.filterMap_cons_some hcall]
  exact List.mem_cons_self

/-- From the last time of a history on, the cache shows what one shows that forgets
nothing. -/
theorem prunes_after (h : InOrder history)
    (hnow : ∀ t ∈ history.filterMap Call.time?, t ≤ now) :
    Prunes (after history) (keptAfter history) now := by
  induction history using List.reverseRecOn generalizing now with
  | nil => exact ⟨distinct_empty, List.Sublist.refl _, nofun⟩
  | append_singleton history call ih =>
    rw [List.filterMap_append, List.forall_mem_append] at hnow
    rw [after_concat, keptAfter_concat]
    cases call with
    | insert key value expiration t =>
      have hprunes : Prunes (after history) (keptAfter history) t :=
        ih h.of_append (h.le_of_mem rfl)
      exact hprunes.insert.mono (hnow.2 t List.mem_cons_self)
    | get key t => exact ih h.of_append hnow.1
    | remove key => exact (ih h.of_append hnow.1).remove

/-! ## How many entries are held -/

/-- The keys other than one whose entries have not lapsed. -/
def otherKeys (c : TtlCache α) (key : String) (now : Instant) : List String :=
  (c.entries.filter fun e => !e.isExpired now && e.key != key).map (·.key)

theorem size_insert :
    (c.insert key value expiration now).size = 1 + (c.otherKeys key now).length := by
  rw [size, insert, otherKeys, List.length_cons, List.length_map, Nat.add_comm]

theorem Distinct.otherKeys (h : c.Distinct) : (c.otherKeys key now).Nodup :=
  h.sublist (List.filter_sublist.map _)

theorem Prunes.mem_otherKeys_iff (h : Prunes c kept now) {k : String} :
    k ∈ c.otherKeys key now ↔ k ≠ key ∧ ∃ e ∈ kept.entries, e.key = k ∧ now < e.expirationTime := by
  simp only [otherKeys, CacheEntry.isExpired, List.mem_map, List.mem_filter, Bool.and_eq_true,
    Bool.not_eq_true', decide_eq_false_iff_not, UInt64.not_le, bne_iff_ne]
  constructor
  · rintro ⟨e, ⟨hmem, hlate, hother⟩, rfl⟩
    exact ⟨hother, e, h.sublist.subset hmem, rfl, hlate⟩
  · rintro ⟨hother, e, hmem, rfl, hlate⟩
    exact ⟨e, ⟨h.unlapsed e hmem hlate, hlate, hother⟩, rfl⟩

/-- Once a value was put, the cache holds nothing else that had lapsed by then. -/
theorem unlapsed_since (hlater : ∀ call ∈ later, ¬ call.Writes)
    (he : e ∈ (after (earlier ++ .insert key value expiration now :: later)).entries) :
    now < e.expirationTime ∨ e = ⟨key, value, expiration⟩ := by
  induction later using List.reverseRecOn generalizing e with
  | nil =>
    rw [after_concat] at he
    rcases mem_insert_iff.mp he with rfl | ⟨-, hlate, -⟩
    · exact .inr rfl
    · exact .inl hlate
  | append_singleton later call ih =>
    obtain ⟨hquiet, hcall⟩ := List.forall_mem_append.mp hlater
    rw [← List.cons_append, ← List.append_assoc, after_concat] at he
    cases call with
    | insert => exact absurd trivial (hcall _ List.mem_cons_self)
    | get => exact ih hquiet he
    | remove => exact ih hquiet (mem_remove_iff.mp he).1

/-- To whoever looks keys up it makes no difference that the cache forgets. -/
structure Unnoticed (history : List (Call α)) : Prop where
  /-- A look at a key finds what a cache finds that forgets nothing: the value of the last
  insertion under the key, if no removal followed and it has not lapsed. -/
  reads : ∀ earlier key now later, history = earlier ++ .get key now :: later →
    (after earlier).get? key now = (keptAfter earlier).get? key now ∧
      ∀ value, (after earlier).get? key now = some value ↔
        ∃ expiration, Stands earlier ⟨key, value, expiration⟩ ∧ now < expiration
  /-- After an insertion the cache holds its entry and, of what stands under other keys, what
  has not lapsed. -/
  size : ∀ earlier key value expiration now later,
    history = earlier ++ .insert key value expiration now :: later →
      ∃ others : Finset String,
        (∀ k, k ∈ others ↔ k ≠ key ∧ ∃ value' expiration',
          Stands (earlier ++ [.insert key value expiration now]) ⟨k, value', expiration'⟩ ∧
            now < expiration') ∧
        (after (earlier ++ [.insert key value expiration now])).size = 1 + others.card
  /-- What is held had not lapsed at the last insertion, or was put by it. -/
  held : ∀ earlier key value expiration now later,
    history = earlier ++ .insert key value expiration now :: later →
      (∀ call ∈ later, ¬ call.Writes) →
      ∀ e ∈ (after history).entries, now < e.expirationTime ∨ e = ⟨key, value, expiration⟩

/-- What stands under the other keys before an insertion stands after it, and nothing else. -/
theorem stands_insert {k : String} (hother : k ≠ key) {value' : α} {expiration' : Instant} :
    Stands (earlier ++ [.insert key value expiration now]) ⟨k, value', expiration'⟩ ↔
      Stands earlier ⟨k, value', expiration'⟩ := by
  rw [stands_concat]
  constructor
  · rintro (⟨_, hsame⟩ | ⟨hstands, -⟩)
    · exact absurd (Call.insert.inj hsame).1 (Ne.symm hother)
    · exact hstands
  · exact fun hstands => .inr ⟨hstands, fun hsame => hother (Option.some.inj hsame).symm⟩

theorem pruning_goes_unnoticed (h : InOrder history) : Unnoticed history := by
  refine ⟨?reads, ?size, ?held⟩
  case reads =>
    rintro earlier key now later rfl
    have hprunes : Prunes (after earlier) (keptAfter earlier) now :=
      prunes_after h.of_append (h.le_of_mem rfl)
    refine ⟨hprunes.get?_eq key, fun value => ?_⟩
    rw [hprunes.get?_eq key, hprunes.distinct.get?_eq_some_iff]
    constructor
    · rintro ⟨e, he, rfl, hlate, rfl⟩
      exact ⟨e.expirationTime, mem_keptAfter_iff.mp he, hlate⟩
    · rintro ⟨expiration, hstands, hlate⟩
      exact ⟨_, mem_keptAfter_iff.mpr hstands, rfl, hlate, rfl⟩
  case size =>
    rintro earlier key value expiration now later rfl
    have hprunes : Prunes (after earlier) (keptAfter earlier) now :=
      prunes_after h.of_append (h.le_of_mem rfl)
    have hnodup : ((after earlier).otherKeys key now).Nodup :=
      Distinct.otherKeys (hprunes.distinct.sublist (hprunes.sublist.map _))
    refine ⟨((after earlier).otherKeys key now).toFinset, fun k => ?_, ?_⟩
    · rw [List.mem_toFinset, hprunes.mem_otherKeys_iff]
      refine and_congr_right fun hother => ?_
      constructor
      · rintro ⟨e, he, rfl, hlate⟩
        exact ⟨e.value, e.expirationTime,
          (stands_insert hother).mpr (mem_keptAfter_iff.mp he), hlate⟩
      · rintro ⟨value', expiration', hstands, hlate⟩
        exact ⟨_, mem_keptAfter_iff.mpr ((stands_insert hother).mp hstands), rfl, hlate⟩
    · rw [after_concat, perform, size_insert, List.toFinset_card_of_nodup hnodup]
  case held =>
    rintro earlier key value expiration now later rfl hlater e he
    exact unlapsed_since hlater he

/-- A value is put again with an earlier expiration, another lapses at the very time of the
next insertion, and that one has lapsed when it is put. -/
def lapsingHistory : List (Call Nat) :=
  [.insert "a" 1 100 0, .insert "b" 2 50 10, .insert "a" 3 40 20, .get "a" 39, .get "a" 40,
    .insert "c" 4 50 50, .get "b" 50, .remove "b"]

theorem pruning_goes_unnoticed_lapsing : InOrder lapsingHistory ∧ Unnoticed lapsingHistory ∧
    (after lapsingHistory).entries = [⟨"c", 4, 50⟩] ∧
    (keptAfter lapsingHistory).entries = [⟨"c", 4, 50⟩, ⟨"a", 3, 40⟩] := by
  have horder : InOrder lapsingHistory := by decide
  exact ⟨horder, pruning_goes_unnoticed horder, by decide, by decide⟩

end PoolScaler.TtlCache
