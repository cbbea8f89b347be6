import PoolScaler.Proofs.Demand.Consistency
import PoolScaler.Proofs.Text.Numeral
set_option autoImplicit false

/-!
# One snapshot for each state

A tracker keeps its reservations in a map, which may list them in any order.  A snapshot
does not show that order: no two requests have reservations of one name, so that the order
by time and name has no ties, and there is one way only to list what stands.
-/

namespace PoolScaler

/-- A reservation lapses before another one, or at the same time and comes before it by
name. -/
def Reservation.Before (a b : Reservation) : Prop :=
  a.expirationTime < b.expirationTime ∨ a.expirationTime = b.expirationTime ∧ a.name < b.name

namespace Demand.Tracker

/-! ## What a tracker holds -/

/-- No request holds two reservations or is assigned twice, as in a map and a set. -/
structure Distinct (t : Tracker) : Prop where
  reserved : (t.reserved.map (·.1)).Nodup
  assigned : t.assigned.Nodup

theorem Consistent.distinct {t : Tracker} (h : t.Consistent) : t.Distinct :=
  ⟨h.reserved_nodup, h.assigned_nodup⟩

/-- Two trackers hold the same reservations and the same assigned requests. -/
structure Agree (t t' : Tracker) : Prop where
  reservation : ∀ id, t.reservation? id = t'.reservation? id
  assigned : ∀ id, id ∈ t.assigned ↔ id ∈ t'.assigned

/-- The reservations that have not lapsed at a time. -/
def standing (t : Tracker) (now : Instant) : Finset (RequestId × Instant) :=
  (t.purge now).reserved.toFinset

theorem mem_standing {t : Tracker} {now : Instant} {e : RequestId × Instant} :
    e ∈ t.standing now ↔ e ∈ t.reserved ∧ now < e.2 := by
  simp [standing, purge]

theorem Distinct.mem_reserved_iff {t : Tracker} (h : t.Distinct) {e : RequestId × Instant} :
    e ∈ t.reserved ↔ t.reservation? e.1 = some e.2 := by
  unfold reservation?
  rw [List.lookup_eq_some_iff]
  constructor
  · intro he
    obtain ⟨before, after, hsplit⟩ := List.append_of_mem he
    have hnodup := h.reserved
    rw [hsplit, List.map_append, List.map_cons, List.nodup_append] at hnodup
    refine ⟨before, after, hsplit, fun other hother => bne_iff_ne.mpr fun hsame => ?_⟩
    exact hnodup.2.2 _ (List.mem_map_of_mem hother) _ List.mem_cons_self hsame.symm
  · rintro ⟨before, after, hsplit, -⟩
    rw [hsplit]
    exact List.mem_append_right _ List.mem_cons_self

theorem Agree.standing_eq {t t' : Tracker} (hagree : t.Agree t') (h : t.Distinct)
    (h' : t'.Distinct) (now : Instant) : t.standing now = t'.standing now := by
  ext e
  rw [mem_standing, mem_standing, h.mem_reserved_iff, h'.mem_reserved_iff, hagree.reservation]

/-! ## Names of reservations -/

/-- Requests are told apart by the names of their reservations. -/
theorem reservationName_injective {a b : RequestId} (h : reservationName a = reservationName b) :
    a = b := by
  have hchars := congrArg String.toList h
  simp only [reservationName, String.toList_append, List.append_cancel_left_eq] at hchars
  exact Int64.toInt_inj.mp (Text.toString_int_injective (String.toList_injective hchars))

theorem toReservation_injective {e e' : RequestId × Instant}
    (h : toReservation e = toReservation e') : e = e' := by
  obtain ⟨hname, -, htime⟩ := Reservation.mk.inj h
  exact Prod.ext (reservationName_injective hname) htime

/-! ## Snapshots -/

section

variable {t t' : Tracker} {now now' : Instant}

theorem reservations_perm (t : Tracker) (now : Instant) :
    (t.snapshot now).1.reservations.Perm ((t.purge now).reserved.map toReservation) :=
  List.mergeSort_perm _ _

/-- Every reservation that stands is listed, and no other. -/
theorem mem_reservations_iff {r : Reservation} :
    r ∈ (t.snapshot now).1.reservations ↔ ∃ e ∈ t.standing now, toReservation e = r := by
  rw [(reservations_perm t now).mem_iff, List.mem_map]
  simp only [standing, List.mem_toFinset]

theorem Distinct.purge (h : t.Distinct) (now : Instant) : (t.purge now).Distinct :=
  ⟨nodup_map_fst_filter h.reserved _, h.assigned⟩

/-- No two reservations that are listed have the same name. -/
theorem Distinct.nodup_names (h : t.Distinct) (now : Instant) :
    ((t.snapshot now).1.reservations.map (·.name)).Nodup := by
  have hnames : ((t.purge now).reserved.map toReservation).map (·.name) =
      ((t.purge now).reserved.map (·.1)).map reservationName := by
    simp only [List.map_map]
    rfl
  rw [((reservations_perm t now).map _).nodup_iff, hnames]
  exact (h.purge now).reserved.map fun _ _ => reservationName_injective

/-- Reservations are listed by time, then by name, without ties. -/
theorem Distinct.pairwise_before (h : t.Distinct) (now : Instant) :
    (t.snapshot now).1.reservations.Pairwise Reservation.Before := by
  have hnames := List.pairwise_map.mp (h.nodup_names now)
  refine ((t.pairwise_snapshot now).and hnames).imp ?_
  rintro a b ⟨hle, hne⟩
  rcases (lapsesBefore_iff a b).mp hle with htime | ⟨htime, hname⟩
  · exact .inl htime
  · exact .inr ⟨htime, String.not_le.mp fun hback => hne (String.le_antisymm hname hback)⟩

/-- Snapshots list the same reservations exactly if the same ones stand. -/
theorem Distinct.reservations_eq_iff (h : t.Distinct) (h' : t'.Distinct) :
    (t.snapshot now).1.reservations = (t'.snapshot now').1.reservations ↔
      t.standing now = t'.standing now' := by
  constructor
  · intro heq
    have hsub : ∀ {t t' : Tracker} {now now' : Instant}, (t.snapshot now).1.reservations =
        (t'.snapshot now').1.reservations → t.standing now ⊆ t'.standing now' := by
      intro t t' now now' heq e he
      have hlisted := mem_reservations_iff.mpr ⟨e, he, rfl⟩
      rw [heq] at hlisted
      obtain ⟨e', he', hsame⟩ := mem_reservations_iff.mp hlisted
      exact toReservation_injective hsame ▸ he'
    exact (hsub heq).antisymm (hsub heq.symm)
  · intro heq
    have hperm : (t.purge now).reserved.Perm (t'.purge now').reserved :=
      List.perm_of_nodup_nodup_toFinset_eq (.of_map _ (h.purge now).reserved)
        (.of_map _ (h'.purge now').reserved) heq
    have hlists := ((reservations_perm t now).trans (hperm.map toReservation)).trans
      (reservations_perm t' now').symm
    refine hlists.eq_of_pairwise ?_ (t.pairwise_snapshot now) (t'.pairwise_snapshot now')
    intro a b ha hb hab hba
    refine lapsesBefore_antisymm ?_ hab hba
    rw [replicas_of_mem_snapshot ha, replicas_of_mem_snapshot hb]

/-- Trackers that hold the same report the same. -/
theorem Agree.snapshot_eq (hagree : t.Agree t') (h : t.Distinct) (h' : t'.Distinct)
    (now : Instant) : (t.snapshot now).1 = (t'.snapshot now).1 := by
  have hassigned : t.assigned.Perm t'.assigned :=
    (List.perm_ext_iff_of_nodup h.assigned h'.assigned).mpr hagree.assigned
  exact congrArg₂ Snapshot.mk ((h.reservations_eq_iff h').mpr (hagree.standing_eq h h' now))
    hassigned.length_eq

end

end Demand.Tracker

end PoolScaler
