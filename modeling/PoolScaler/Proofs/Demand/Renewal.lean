import PoolScaler.Proofs.Demand.Canonical
import PoolScaler.Proofs.Demand.Signal
set_option autoImplicit false

/-!
# What reserving again does

A request that is assigned or completed is passed over by a reservation.  One that holds a
reservation is not: it holds it from then on until the new batch expires, however little
was left of the old one, so a request that is announced again and again can be kept
reserved for as long as one likes.
-/

namespace PoolScaler.Demand.Tracker

/-- A request is known at `now`: it holds a reservation that has not lapsed, or it is
assigned or completed. -/
def Known (t : Tracker) (now : Instant) (id : RequestId) : Prop :=
  (∃ e ∈ t.reserved, e.1 = id ∧ now < e.2) ∨ id ∈ t.assigned ∨ id ∈ t.completed

instance (t : Tracker) (now : Instant) : DecidablePred (t.Known now) := fun id =>
  inferInstanceAs (Decidable ((∃ e ∈ t.reserved, e.1 = id ∧ now < e.2) ∨
    id ∈ t.assigned ∨ id ∈ t.completed))

theorem open_of_not_known {t : Tracker} {now : Instant} {id : RequestId} (h : ¬ t.Known now id) :
    id ∉ t.assigned ∧ id ∉ t.completed := not_or.mp (not_or.mp h).2

/-- What is known after a batch of which the requests that were known before are left
out. -/
def reserveUnknown (t : Tracker) (ids : List RequestId) (now : Instant) : Tracker :=
  (t.reserve (ids.filter fun id => ¬ t.Known now id) now).2

variable {t : Tracker} {ids : List RequestId} {now : Instant}

theorem reserve_snd (t : Tracker) (ids : List RequestId) (now : Instant) :
    (t.reserve ids now).2.reserved = (t.reserveAll (now + t.ttl) ids).2.reserved ∧
      (t.reserve ids now).2.assigned = t.assigned ∧
      (t.reserve ids now).2.completed = t.completed := by
  change _ ∧ (t.reserveAll (now + t.ttl) ids).2.assigned = _ ∧
    (t.reserveAll (now + t.ttl) ids).2.completed = _
  rw [reserveAll_snd]
  exact ⟨rfl, rfl, rfl⟩

theorem assigned_reserveUnknown (t : Tracker) (ids : List RequestId) (now : Instant) :
    (t.reserveUnknown ids now).assigned = (t.reserve ids now).2.assigned :=
  (reserve_snd t _ now).2.1.trans (reserve_snd t ids now).2.1.symm

namespace Consistent

/-- A reservation of the batch whose request is neither assigned nor completed expires as
the batch does; those of all other requests are as they were. -/
theorem mem_reserve (h : t.Consistent) (ids : List RequestId) (now : Instant)
    (e : RequestId × Instant) :
    e ∈ (t.reserve ids now).2.reserved ↔
      (e.1 ∈ ids ∧ e.1 ∉ t.assigned ∧ e.1 ∉ t.completed ∧ e.2 = now + t.ttl) ∨
        (e ∈ t.reserved ∧ e.1 ∉ ids) := by
  rw [(reserve_snd t ids now).1]
  exact h.mem_reserveAll _ ids e

/-- With the known requests left out, their reservations are as they were. -/
theorem mem_reserveUnknown (h : t.Consistent) (ids : List RequestId) (now : Instant)
    (e : RequestId × Instant) :
    e ∈ (t.reserveUnknown ids now).reserved ↔
      (e.1 ∈ ids ∧ ¬ t.Known now e.1 ∧ e.2 = now + t.ttl) ∨
        (e ∈ t.reserved ∧ (e.1 ∈ ids → t.Known now e.1)) := by
  rw [Tracker.reserveUnknown, h.mem_reserve, List.mem_filter, decide_eq_true_eq]
  by_cases hknown : t.Known now e.1
  · simp [hknown]
  · obtain ⟨ha, hc⟩ := open_of_not_known hknown
    simp [hknown, ha, hc]

theorem reserve (h : t.Consistent) (ids : List RequestId) (now : Instant) :
    (t.reserve ids now).2.Consistent := h.perform (.reserve ids now)

theorem reserveUnknown (h : t.Consistent) (ids : List RequestId) (now : Instant) :
    (t.reserveUnknown ids now).Consistent := h.reserve _ now

theorem eq_of_fst_eq (h : t.Consistent) {e e' : RequestId × Instant} (he : e ∈ t.reserved)
    (he' : e' ∈ t.reserved) (hid : e.1 = e'.1) : e = e' :=
  List.inj_on_of_nodup_map h.reserved_nodup he he' hid

end Consistent

/-! ## Snapshots by the reservations that stand -/

theorem mem_holders {u : Instant} {id : RequestId} :
    id ∈ t.holders u ↔ ∃ e ∈ t.reserved, e.1 = id ∧ u < e.2 := by
  simp only [holders, purge, List.mem_map, List.mem_filter, decide_eq_true_eq]
  constructor
  · rintro ⟨e, ⟨he, hu⟩, hid⟩
    exact ⟨e, he, hid, hu⟩
  · rintro ⟨e, he, hid, hu⟩
    exact ⟨e, ⟨he, hu⟩, hid⟩

/-- Trackers with the same requests assigned and the same reservations standing at `u`
report the same then. -/
theorem snapshot_congr {t' : Tracker} (h : t.Consistent) (h' : t'.Consistent) {u : Instant}
    (hassigned : t.assigned = t'.assigned)
    (hstand : ∀ e, u < e.2 → (e ∈ t.reserved ↔ e ∈ t'.reserved)) :
    (t.snapshot u).1 = (t'.snapshot u).1 := by
  have hstanding : t.standing u = t'.standing u := by
    ext e
    rw [mem_standing, mem_standing]
    exact and_congr_left (hstand e)
  exact congrArg₂ Snapshot.mk ((h.distinct.reservations_eq_iff h'.distinct).mpr hstanding)
    (congrArg List.length hassigned)

/-- Of two trackers with as many requests assigned, the one demands less for which fewer
requests hold a reservation. -/
theorem demand_lt {t' : Tracker} (h : t.Consistent) {u : Instant}
    (hassigned : t.assigned = t'.assigned) (hsub : ∀ id ∈ t.holders u, id ∈ t'.holders u)
    (id : RequestId) (hid : id ∈ t'.holders u) (hnot : id ∉ t.holders u) :
    (t.snapshot u).1.demand < (t'.snapshot u).1.demand := by
  have hcons : (id :: t.holders u).Subperm (t'.holders u) := by
    refine List.subperm_of_subset (List.nodup_cons.mpr ⟨hnot, (h.purge u).reserved_nodup⟩) ?_
    exact List.cons_subset.mpr ⟨hid, hsub⟩
  have hlength := hcons.length_le
  rw [List.length_cons] at hlength
  rw [demand_snapshot, demand_snapshot, hassigned]
  omega

/-! ## When it makes a difference -/

section

variable (h : t.Consistent)
include h

/-- Where no reservation that stands is moved, leaving its request out of the batch makes
no difference. -/
theorem snapshot_reserve_eq
    (hsame : ∀ e ∈ t.reserved, e.1 ∈ ids → now < e.2 → e.2 = now + t.ttl) {u : Instant}
    (hu : now ≤ u) :
    ((t.reserve ids now).2.snapshot u).1 = ((t.reserveUnknown ids now).snapshot u).1 := by
  refine snapshot_congr (h.reserve ids now) (h.reserveUnknown ids now)
    (assigned_reserveUnknown t ids now).symm fun e hstand => ?_
  have hlater : now < e.2 := UInt64.lt_of_le_of_lt hu hstand
  rw [h.mem_reserve, h.mem_reserveUnknown]
  constructor
  · rintro (⟨hids, ha, hc, hx⟩ | ⟨he, hids⟩)
    · by_cases hknown : t.Known now e.1
      · obtain ⟨e', he', hid, hlasts⟩ := hknown.resolve_right (not_or.mpr ⟨ha, hc⟩)
        have heq : e' = e := Prod.ext hid ((hsame e' he' (hid ▸ hids) hlasts).trans hx.symm)
        exact .inr ⟨heq ▸ he', fun _ => hknown⟩
      · exact .inl ⟨hids, hknown, hx⟩
    · exact .inr ⟨he, fun hmem => absurd hmem hids⟩
  · rintro (⟨hids, hknown, hx⟩ | ⟨he, -⟩)
    · obtain ⟨ha, hc⟩ := open_of_not_known hknown
      exact .inl ⟨hids, ha, hc, hx⟩
    · by_cases hmem : e.1 ∈ ids
      · exact .inl ⟨hmem, h.not_assigned e he, h.reserved_open e he, hsame e he hmem hlater⟩
      · exact .inr ⟨he, hmem⟩

/-- A reservation that is moved to a later time stands longer than it would have. -/
theorem demand_lt_reserve {e : RequestId × Instant} (he : e ∈ t.reserved) (hids : e.1 ∈ ids)
    (hlasts : now < e.2) (hlater : e.2 < now + t.ttl) :
    ((t.reserveUnknown ids now).snapshot e.2).1.demand <
      ((t.reserve ids now).2.snapshot e.2).1.demand := by
  have hrenewed : ∀ a ∈ t.reserved, a.1 ∈ ids →
      (a.1, now + t.ttl) ∈ (t.reserve ids now).2.reserved := fun a ha hmem =>
    (h.mem_reserve ids now _).mpr
      (.inl ⟨hmem, h.not_assigned a ha, h.reserved_open a ha, rfl⟩)
  refine demand_lt (h.reserveUnknown ids now) (assigned_reserveUnknown t ids now) ?_ e.1 ?_ ?_
  · intro id hid
    obtain ⟨a, ha, rfl, hstands⟩ := mem_holders.mp hid
    rw [mem_holders]
    rcases (h.mem_reserveUnknown ids now a).mp ha with ⟨hmem, hknown, hx⟩ | ⟨ha, -⟩
    · obtain ⟨hna, hnc⟩ := open_of_not_known hknown
      exact ⟨a, (h.mem_reserve ids now a).mpr (.inl ⟨hmem, hna, hnc, hx⟩), rfl, hstands⟩
    · by_cases hmem : a.1 ∈ ids
      · exact ⟨_, hrenewed a ha hmem, rfl, hlater⟩
      · exact ⟨a, (h.mem_reserve ids now a).mpr (.inr ⟨ha, hmem⟩), rfl, hstands⟩
  · exact mem_holders.mpr ⟨_, hrenewed e he hids, rfl, hlater⟩
  · rw [mem_holders]
    rintro ⟨a, ha, hid, hstands⟩
    rcases (h.mem_reserveUnknown ids now a).mp ha with ⟨-, hknown, -⟩ | ⟨ha, -⟩
    · exact hknown (.inl ⟨e, he, hid.symm, hlasts⟩)
    · rw [h.eq_of_fst_eq ha he hid] at hstands
      exact UInt64.lt_irrefl _ hstands

/-- One that is moved to an earlier time stands shorter. -/
theorem reserve_demand_lt {e : RequestId × Instant} (he : e ∈ t.reserved) (hids : e.1 ∈ ids)
    (hlasts : now < e.2) {u : Instant} (hlapsed : now + t.ttl ≤ u) (hstands : u < e.2) :
    ((t.reserve ids now).2.snapshot u).1.demand <
      ((t.reserveUnknown ids now).snapshot u).1.demand := by
  have hleft : ∀ a ∈ (t.reserve ids now).2.reserved, u < a.2 → a ∈ t.reserved ∧ a.1 ∉ ids := by
    intro a ha hlasts
    refine ((h.mem_reserve ids now a).mp ha).resolve_left ?_
    rintro ⟨-, -, -, hx⟩
    exact UInt64.not_le.mpr (hx ▸ hlasts) hlapsed
  refine demand_lt (h.reserve ids now) (assigned_reserveUnknown t ids now).symm ?_ e.1 ?_ ?_
  · intro id hid
    obtain ⟨a, ha, rfl, hstands⟩ := mem_holders.mp hid
    obtain ⟨ha, hmem⟩ := hleft a ha hstands
    exact mem_holders.mpr ⟨a, (h.mem_reserveUnknown ids now a).mpr
      (.inr ⟨ha, fun hids => absurd hids hmem⟩), rfl, hstands⟩
  · exact mem_holders.mpr ⟨e, (h.mem_reserveUnknown ids now e).mpr
      (.inr ⟨he, fun _ => .inl ⟨e, he, rfl, hlasts⟩⟩), rfl, hstands⟩
  · rw [mem_holders]
    rintro ⟨a, ha, hid, hstands⟩
    exact (hleft a ha hstands).2 (hid ▸ hids)

/-- Where one is moved at all, demand differs at some later time. -/
theorem exists_demand_ne {e : RequestId × Instant} (he : e ∈ t.reserved) (hids : e.1 ∈ ids)
    (hlasts : now < e.2) (hmoved : e.2 ≠ now + t.ttl) : ∃ u, now ≤ u ∧
      ((t.reserve ids now).2.snapshot u).1.demand ≠
        ((t.reserveUnknown ids now).snapshot u).1.demand := by
  rcases UInt64.lt_or_lt_of_ne hmoved with hlater | hearlier
  · exact ⟨e.2, UInt64.le_of_lt hlasts, (demand_lt_reserve h he hids hlasts hlater).ne'⟩
  · rcases UInt64.le_total now (now + t.ttl) with hle | hle
    · exact ⟨_, hle, (reserve_demand_lt h he hids hlasts (UInt64.le_refl _) hearlier).ne⟩
    · exact ⟨now, UInt64.le_refl _, (reserve_demand_lt h he hids hlasts hle hlasts).ne⟩

end

/-- What reserving for a batch does to requests that are known.  Those that are assigned
or completed are passed over: the batch without them has the same effect.  All others
hold a reservation from then on until the batch expires, and are reported until then,
whatever was left of the reservation they held; no request outside the batch is touched.
So the batch without the requests that are known would have led to the same snapshots at
all later times exactly if the reservations that they hold expire when the batch does;
and if one does not, it would have led to another demand at some later time. -/
theorem reserving_again_iff (ttl : Span) (h : List Operation) (ids : List RequestId)
    (now : Instant) :
    let t := after ttl h
    let t' := (t.reserve ids now).2
    let expiration := now + UInt64.ofNat ttl.seconds
    let Moved (e : RequestId × Instant) := e.1 ∈ ids ∧ now < e.2 ∧ e.2 ≠ expiration
    t.reserve ids now = t.reserve (ids.filter fun id => id ∉ t.assigned ∧ id ∉ t.completed) now ∧
    (∀ e, e ∈ t'.reserved ↔
      (e.1 ∈ ids ∧ e.1 ∉ t.assigned ∧ e.1 ∉ t.completed ∧ e.2 = expiration) ∨
        (e ∈ t.reserved ∧ e.1 ∉ ids)) ∧
    (∀ id ∈ ids, id ∉ t.assigned → id ∉ t.completed → ∀ u < expiration,
      ⟨"job-" ++ toString id.toInt, 1, expiration⟩ ∈ (t'.snapshot u).1.reservations) ∧
    ((∀ u, now ≤ u → (t'.snapshot u).1 = ((t.reserveUnknown ids now).snapshot u).1) ↔
      ∀ e ∈ t.reserved, ¬ Moved e) ∧
    ((∃ e ∈ t.reserved, Moved e) → ∃ u, now ≤ u ∧
      (t'.snapshot u).1.demand ≠ ((t.reserveUnknown ids now).snapshot u).1.demand) := by
  intro t t' expiration Moved
  have hconsistent : t.Consistent := consistent_after ttl h
  have hexpires : now + t.ttl = expiration := congrArg (now + ·) (ttl_after ttl h)
  have hmem : ∀ e, e ∈ t'.reserved ↔
      (e.1 ∈ ids ∧ e.1 ∉ t.assigned ∧ e.1 ∉ t.completed ∧ e.2 = expiration) ∨
        (e ∈ t.reserved ∧ e.1 ∉ ids) := by
    rw [← hexpires]
    exact hconsistent.mem_reserve ids now
  have hdiffers : (∃ e ∈ t.reserved, Moved e) → ∃ u, now ≤ u ∧
      (t'.snapshot u).1.demand ≠ ((t.reserveUnknown ids now).snapshot u).1.demand := by
    rintro ⟨e, he, hids, hlasts, hmoved⟩
    exact exists_demand_ne hconsistent he hids hlasts (hexpires ▸ hmoved)
  refine ⟨(reserve_filter ids now fun id hid => ?_).symm, hmem, ?_, ?_, hdiffers⟩
  · rw [decide_eq_false_iff_not] at hid
    tauto
  · intro id hid ha hc u hu
    refine (List.mergeSort_perm _ _).mem_iff.mpr (List.mem_map.mpr ⟨(id, expiration), ?_, rfl⟩)
    exact List.mem_filter.mpr ⟨(hmem _).mpr (.inl ⟨hid, ha, hc, rfl⟩), decide_eq_true hu⟩
  · constructor
    · intro hsame e he hmoved
      obtain ⟨u, hu, hne⟩ := hdiffers ⟨e, he, hmoved⟩
      exact hne (congrArg Snapshot.demand (hsame u hu))
    · intro hnone u hu
      refine snapshot_reserve_eq hconsistent (fun e he hids hlasts => ?_) hu
      rw [hexpires]
      by_contra hne
      exact hnone e he ⟨hids, hlasts, hne⟩

/-- It is not so that a batch leaves the reservations alone that its requests hold: one
that lapses at 600 is made again at 100, and stands until 700. -/
theorem not_left_alone_reserved :
    ¬ ∀ (ttl : Span) (h : List Operation) (ids : List RequestId) (now : Instant),
      let t := after ttl h
      (∀ e ∈ t.reserved, e.1 ∈ ids → now < e.2 → e ∈ (t.reserve ids now).2.reserved) ∧
      ∀ u, now ≤ u → ((t.reserve ids now).2.snapshot u).1.demand =
        ((t.reserveUnknown ids now).snapshot u).1.demand := by
  intro hall
  have hsame := (hall ⟨600000⟩ [.reserve [1] 0] [1] 100).2 600 (by decide)
  rw [demand_snapshot, demand_snapshot] at hsame
  revert hsame
  decide

end PoolScaler.Demand.Tracker
