import PoolScaler.Proofs.Demand.Consistency
set_option autoImplicit false

/-!
# Which changes of demand are news

An assignment or a completion that changes demand leaves a signal, and so does a
reservation for a request that was not known.  A reservation that is made again once it
has lapsed brings its demand back without one, as long as nobody has looked at the demand
in between: the tracker goes by what it still lists, and the demand by what has lapsed.
-/

namespace PoolScaler.Demand.Tracker

/-- A tracker lists a request: reserving for it is not news. -/
def Lists (t : Tracker) (id : RequestId) : Prop :=
  id ∈ t.reserved.map (·.1) ∨ id ∈ t.assigned ∨ id ∈ t.completed

/-! ## Reserving for requests that are listed -/

/-- A reservation as it is after reserving for some requests until `x`. -/
def renewed (x : Instant) (ids : List RequestId) (e : RequestId × Instant) : RequestId × Instant :=
  if e.1 ∈ ids then (e.1, x) else e

theorem renewed_fst (x : Instant) (ids : List RequestId) (e : RequestId × Instant) :
    (renewed x ids e).1 = e.1 := by
  unfold renewed
  split <;> rfl

theorem renewed_cons (x : Instant) (id : RequestId) (ids : List RequestId)
    (e : RequestId × Instant) : renewed x ids (renewed x [id] e) = renewed x (id :: ids) e := by
  by_cases hid : e.1 = id <;> by_cases hids : e.1 ∈ ids <;> simp [renewed, hid, hids]

theorem setExpiration_eq_map {id : RequestId} (x : Instant) {l : List (RequestId × Instant)}
    (hnodup : (l.map (·.1)).Nodup) (hmem : id ∈ l.map (·.1)) :
    setExpiration id x l = l.map (renewed x [id]) := by
  induction l with
  | nil => simp at hmem
  | cons e rest ih =>
    simp only [List.map_cons, List.nodup_cons] at hnodup
    obtain ⟨hfresh, hrest⟩ := hnodup
    rw [setExpiration, List.map_cons]
    split
    · rename_i hid
      have hother : rest.map (renewed x [id]) = rest.map fun e => e := by
        apply List.map_congr_left
        intro a ha
        have hne : a.1 ≠ id := by
          rintro rfl
          exact hfresh (hid ▸ List.mem_map_of_mem ha)
        simp [renewed, hne]
      rw [hother, List.map_id']
      simp [renewed, hid]
    · rename_i hid
      have hmem : id ∈ rest.map (·.1) := by
        simp only [List.map_cons, List.mem_cons] at hmem
        exact hmem.resolve_left fun h => hid h.symm
      rw [ih hrest hmem]
      simp [renewed, hid]

theorem isSome_reservation? (t : Tracker) (id : RequestId) :
    (t.reservation? id).isSome ↔ id ∈ t.reserved.map (·.1) := by
  rw [reservation?, List.lookup_isSome_iff, List.mem_map]
  constructor
  · rintro ⟨e, he, hid⟩
    exact ⟨e, he, (eq_of_beq hid).symm⟩
  · rintro ⟨e, he, rfl⟩
    exact ⟨e, he, beq_self_eq_true _⟩

/-- Reserving for one request is no news exactly if it is listed. -/
theorem reserveOne_fst (t : Tracker) (x : Instant) (id : RequestId) :
    (t.reserveOne x id).1 = false ↔ t.Lists id := by
  unfold reserveOne Lists
  rw [← isSome_reservation?]
  by_cases hskip : id ∈ t.assigned ∨ id ∈ t.completed
  · simp [hskip]
  · have hskip' : ¬ (t.assigned.contains id || t.completed.contains id) := by simpa using hskip
    rw [if_neg hskip', or_iff_left hskip]
    cases t.reservation? id <;> simp

/-- A request that is listed has its reservation renewed, if it holds one. -/
theorem reserveOne_listed {t : Tracker} (h : t.Consistent) (x : Instant) {id : RequestId}
    (hlists : t.Lists id) :
    (t.reserveOne x id).2 = { t with reserved := t.reserved.map (renewed x [id]) } := by
  by_cases hskip : id ∈ t.assigned ∨ id ∈ t.completed
  · have hkept : t.reserved.map (renewed x [id]) = t.reserved.map fun e => e := by
      apply List.map_congr_left
      intro e he
      have hne : e.1 ≠ id := by
        rintro rfl
        exact hskip.elim (h.not_assigned e he) (h.reserved_open e he)
      simp [renewed, hne]
    rw [hkept, List.map_id']
    simp [reserveOne, hskip]
  · obtain ⟨hna, hnc⟩ := not_or.mp hskip
    rw [← setExpiration_eq_map x h.reserved_nodup (hlists.resolve_right hskip)]
    simp [reserveOne, hna, hnc]

theorem lists_renewed (t : Tracker) (x : Instant) (ids : List RequestId) (a : RequestId) :
    { t with reserved := t.reserved.map (renewed x ids) }.Lists a ↔ t.Lists a := by
  simp [Lists, Function.comp_def, renewed_fst]

/-- Reserving is no news exactly if all requests are listed; then the reservations they
hold are renewed. -/
theorem reserveAll_listed {t : Tracker} (h : t.Consistent) (x : Instant) (ids : List RequestId) :
    ((t.reserveAll x ids).1 = 0 ↔ ∀ id ∈ ids, t.Lists id) ∧
      ((∀ id ∈ ids, t.Lists id) →
        (t.reserveAll x ids).2 = { t with reserved := t.reserved.map (renewed x ids) }) := by
  induction ids generalizing t with
  | nil =>
    have hkept : t.reserved.map (renewed x []) = t.reserved := by
      rw [show renewed x [] = fun e => e from funext fun e => by simp [renewed], List.map_id']
    rw [hkept]
    simp [reserveAll]
  | cons id ids ih =>
    have hnext := ih (h.reserveOne x id)
    simp only [reserveAll, List.forall_mem_cons, Nat.add_eq_zero_iff, Bool.toNat_eq_zero,
      reserveOne_fst]
    by_cases hlists : t.Lists id
    · rw [reserveOne_listed h x hlists] at hnext ⊢
      simp only [lists_renewed, List.map_map] at hnext
      refine ⟨by rw [hnext.1]; tauto, fun hall => ?_⟩
      rw [hnext.2 hall.2]
      congr 2
      funext e
      exact renewed_cons x id ids e
    · exact ⟨⟨fun hzero => absurd hzero.2 hlists, fun hall => absurd hall.1 hlists⟩,
        fun hall => absurd hall.1 hlists⟩

/-! ## Where expiration times come from -/

theorem ttl_perform (t : Tracker) (op : Operation) : (t.perform op).ttl = t.ttl := by
  cases op with
  | reserve ids now =>
    change (t.reserveAll (now + t.ttl) ids).2.ttl = t.ttl
    rw [reserveAll_snd]
  | assign id =>
    change (t.assign id).2.ttl = t.ttl
    unfold assign
    split <;> rfl
  | complete id =>
    change (t.complete id).2.ttl = t.ttl
    unfold complete
    split <;> rfl
  | snapshot now => rfl

theorem ttl_after (ttl : Span) (h : List Operation) :
    (after ttl h).ttl = UInt64.ofNat ttl.seconds := by
  induction h using List.reverseRecOn with
  | nil => rfl
  | append_singleton h op ih => rw [after_concat, ttl_perform, ih]

/-- A reservation expires as long after some call as reservations last. -/
theorem expiration_after (ttl : Span) (h : List Operation) {e : RequestId × Instant}
    (he : e ∈ (after ttl h).reserved) :
    ∃ u ∈ History.times h, e.2 = u + UInt64.ofNat ttl.seconds := by
  induction h using List.reverseRecOn generalizing e with
  | nil => cases he
  | append_singleton h op ih =>
    rw [History.times_concat]
    have hearlier : e ∈ (after ttl h).reserved →
        ∃ u ∈ History.times h ++ op.time?.toList, e.2 = u + UInt64.ofNat ttl.seconds := by
      intro he
      obtain ⟨u, hu, heq⟩ := ih he
      exact ⟨u, List.mem_append_left _ hu, heq⟩
    rw [after_concat] at he
    cases op with
    | reserve ids now =>
      obtain ⟨-, -, -, heq⟩ | ⟨he, -⟩ := ((consistent_after ttl h).mem_reserveAll _ ids e).mp he
      · rw [ttl_after] at heq
        exact ⟨now, by simp [Operation.time?], heq⟩
      · exact hearlier he
    | assign id =>
      change e ∈ ((after ttl h).assign id).2.reserved at he
      unfold assign at he
      split at he
      · exact hearlier he
      · exact hearlier (List.mem_of_mem_filter he)
    | complete id =>
      change e ∈ ((after ttl h).complete id).2.reserved at he
      unfold complete at he
      split at he
      · exact hearlier he
      · exact hearlier (List.mem_of_mem_filter he)
    | snapshot now => exact hearlier (List.mem_of_mem_filter he)

/-! ## Demand before and after a call -/

theorem length_holders (t : Tracker) (now : Instant) :
    (t.holders now).length = t.reserved.countP fun e => decide (now < e.2) := by
  simp [holders, purge, List.countP_eq_length_filter]

/-- An assignment that leaves no signal changes nothing. -/
theorem assign_quiet {t : Tracker} (h : t.Consistent) {id : RequestId}
    (hquiet : (t.assign id).2.signal = false) : (t.assign id).2 = t := by
  by_cases hdone : id ∈ t.completed
  · simp [assign, hdone]
  · by_cases hknown : id ∈ t.assigned
    · have hkept : dropReservation id t.reserved = t.reserved := by
        rw [dropReservation, List.filter_eq_self]
        intro e he
        have hne : e.1 ≠ id := by
          rintro rfl
          exact h.not_assigned e he hknown
        simpa using hne
      simp [assign, hdone, hknown, hkept]
    · simp [assign, hdone, hknown] at hquiet

/-- Nor does such a completion. -/
theorem complete_quiet {t : Tracker} {id : RequestId}
    (hquiet : (t.complete id).2.signal = false) : (t.complete id).2 = t := by
  by_cases hdone : id ∈ t.completed
  · simp [complete, hdone]
  · simp [complete, hdone] at hquiet

/-- A reservation leaves no signal if none waits and all its requests are listed. -/
theorem reserve_quiet_iff {t : Tracker} (h : t.Consistent) (ids : List RequestId)
    (now : Instant) :
    (t.reserve ids now).2.signal = false ↔ t.signal = false ∧ ∀ id ∈ ids, t.Lists id := by
  rw [← (reserveAll_listed h (now + t.ttl) ids).1]
  have hsignal : (t.reserveAll (now + t.ttl) ids).2.signal = t.signal := by rw [reserveAll_snd]
  simp [reserve, hsignal]

/-- Renewing reservations brings those back that have lapsed. -/
theorem countP_renewed {now x : Instant} (hlater : now < x) (ids : List RequestId)
    (l : List (RequestId × Instant)) :
    (l.map (renewed x ids)).countP (fun e => decide (now < e.2)) =
      l.countP (fun e => decide (now < e.2)) +
        l.countP fun e => decide (e.1 ∈ ids ∧ e.2 ≤ now) := by
  induction l with
  | nil => rfl
  | cons e l ih =>
    rw [List.map_cons, List.countP_cons, List.countP_cons, List.countP_cons, ih]
    by_cases hids : e.1 ∈ ids
    · by_cases hlapsed : e.2 ≤ now
      · have hnot : ¬ now < e.2 := UInt64.not_lt.mpr hlapsed
        simp only [renewed, hids, hlapsed, hnot, hlater, if_true, and_self, decide_true,
          decide_false, Bool.false_eq_true, if_false]
        omega
      · have hlasts : now < e.2 := UInt64.not_le.mp hlapsed
        simp only [renewed, hids, hlapsed, hlasts, hlater, if_true, and_false, decide_true,
          decide_false, Bool.false_eq_true, if_false]
        omega
    · simp only [renewed, hids, if_false, false_and, decide_false, Bool.false_eq_true]
      omega

/-- Demand after a reservation all of whose requests are listed. -/
theorem demand_reserve {t : Tracker} (h : t.Consistent) {ids : List RequestId} {now : Instant}
    (hlists : ∀ id ∈ ids, t.Lists id) :
    ((t.reserve ids now).2.snapshot now).1.demand =
      (t.reserved.map (renewed (now + t.ttl) ids)).countP (fun e => decide (now < e.2)) +
        t.assigned.length := by
  rw [demand_snapshot, length_holders]
  have hall := (reserveAll_listed h (now + t.ttl) ids).2 hlists
  simp [reserve, hall]

/-- A call that is no reservation and leaves no signal leaves demand as it was. -/
theorem demand_quiet {t : Tracker} (h : t.Consistent) {op : Operation} {now : Instant}
    (htime : ∀ u, op.time? = some u → u = now) (hop : op.reserves = [])
    (hquiet : (t.perform op).signal = false) :
    ((t.perform op).snapshot now).1.demand = (t.snapshot now).1.demand := by
  cases op with
  | reserve ids u =>
    obtain rfl : ids = [] := hop
    rw [demand_snapshot, demand_snapshot]
    rfl
  | assign id =>
    have hsame : t.perform (.assign id) = t := assign_quiet h hquiet
    rw [hsame]
  | complete id =>
    have hsame : t.perform (.complete id) = t := complete_quiet hquiet
    rw [hsame]
  | snapshot u =>
    obtain rfl := htime u rfl
    have hsame : ((t.purge u).purge u) = t.purge u := by simp [purge, List.filter_filter]
    rw [demand_snapshot, demand_snapshot, holders]
    change ((((t.purge u).purge u).reserved).map (·.1)).length + t.assigned.length = _
    rw [hsame]
    rfl

/-- Reservations that last no time have all lapsed. -/
theorem lapsed_of_momentary {ttl : Span} (hzero : ttl.seconds = 0) {h : List Operation}
    {now : Instant} (hlate : ∀ u ∈ History.times h, u ≤ now) {e : RequestId × Instant}
    (he : e ∈ (after ttl h).reserved) : e.2 ≤ now := by
  obtain ⟨u, hu, heq⟩ := expiration_after ttl h he
  have hsame : e.2 = u := by simpa [hzero] using heq
  rw [hsame]
  exact hlate u hu

/-- Renewing reservations that last no time brings none back. -/
theorem countP_momentary {now : Instant} {ids : List RequestId} {l : List (RequestId × Instant)}
    (hlapsed : ∀ e ∈ l, e.2 ≤ now) :
    (l.map (renewed now ids)).countP (fun e => decide (now < e.2)) = 0 ∧
      l.countP (fun e => decide (now < e.2)) = 0 := by
  rw [List.countP_eq_zero, List.countP_eq_zero]
  constructor
  · intro a ha
    obtain ⟨e, he, rfl⟩ := List.mem_map.mp ha
    unfold renewed
    split
    · simp
    · simpa using hlapsed e he
  · intro e he
    simpa using hlapsed e he

/-- Reservations that are made again bring back the demand that had lapsed. -/
theorem demand_renew {t : Tracker} (h : t.Consistent) {ids : List RequestId} {now : Instant}
    (hlists : ∀ id ∈ ids, t.Lists id) (hlater : now < now + t.ttl) :
    ((t.reserve ids now).2.snapshot now).1.demand = (t.snapshot now).1.demand +
      t.reserved.countP fun e => decide (e.1 ∈ ids ∧ e.2 ≤ now) := by
  rw [demand_reserve h hlists, countP_renewed hlater, demand_snapshot, length_holders]
  omega

/-- Unless reservations last no time. -/
theorem demand_renew_momentary {t : Tracker} (h : t.Consistent) {ids : List RequestId}
    {now : Instant} (hlists : ∀ id ∈ ids, t.Lists id) (hmoment : now + t.ttl = now)
    (hlapsed : ∀ e ∈ t.reserved, e.2 ≤ now) :
    ((t.reserve ids now).2.snapshot now).1.demand = (t.snapshot now).1.demand := by
  obtain ⟨hnone', hnone⟩ := @countP_momentary now ids t.reserved hlapsed
  rw [demand_reserve h hlists, hmoment, demand_snapshot, length_holders, hnone', hnone]

/-- A reservation all of whose requests are listed changes demand exactly if one of them
holds a reservation that has lapsed, and there is more of it then. -/
theorem demand_reserve_ne_iff {ttl : Span} {h : List Operation} {ids : List RequestId}
    {now : Instant} (hlate : ∀ u ∈ History.times h, u ≤ now)
    (hfits : now.toNat + ttl.seconds < UInt64.size) {t : Tracker}
    (ht : t = (after ttl h).takeSignal.2) (hlists : ∀ id ∈ ids, t.Lists id) :
    (((t.reserve ids now).2.snapshot now).1.demand ≠ (t.snapshot now).1.demand ↔
      0 < ttl.seconds ∧ ∃ e ∈ t.reserved, e.1 ∈ ids ∧ e.2 ≤ now) ∧
    (t.snapshot now).1.demand ≤ ((t.reserve ids now).2.snapshot now).1.demand := by
  have hconsistent : t.Consistent := ht ▸ (consistent_after ttl h).withSignal false
  have httl : t.ttl = UInt64.ofNat ttl.seconds := ht ▸ ttl_after ttl h
  by_cases hlasts : 0 < ttl.seconds
  · have hlater : now < now + t.ttl := by
      unfold UInt64.size at hfits
      rw [UInt64.lt_iff_toNat_lt, UInt64.toNat_add, httl, UInt64.toNat_ofNat']
      omega
    have hback : 0 < (t.reserved.countP fun e => decide (e.1 ∈ ids ∧ e.2 ≤ now)) ↔
        ∃ e ∈ t.reserved, e.1 ∈ ids ∧ e.2 ≤ now := by
      simp [List.countP_pos_iff]
    rw [demand_renew hconsistent hlists hlater, ← hback]
    omega
  · have hzero : ttl.seconds = 0 := by omega
    have hmoment : now + t.ttl = now := by simp [httl, hzero]
    have hlapsed : ∀ e ∈ t.reserved, e.2 ≤ now := by
      rw [ht]
      exact fun e he => lapsed_of_momentary hzero hlate he
    rw [demand_renew_momentary hconsistent hlists hmoment hlapsed]
    simp [hlasts]

/-- Demand at `now` before and after a call at `now` that finds no signal waiting.  It
changes without leaving a signal exactly if the call is a reservation, all of its requests
are listed, and one of them holds a reservation that has lapsed and was not yet forgotten;
then demand has grown. -/
theorem unsignalled_change_iff (ttl : Span) (h : List Operation) (op : Operation) (now : Instant)
    (hlate : ∀ u ∈ History.times h, u ≤ now) (htime : ∀ u, op.time? = some u → u = now)
    (hfits : now.toNat + ttl.seconds < UInt64.size) :
    let t := (after ttl h).takeSignal.2
    let t' := t.perform op
    let demand := (t.snapshot now).1.demand
    let demand' := (t'.snapshot now).1.demand
    (demand' ≠ demand ∧ t'.takeSignal.1 = false ↔
      0 < ttl.seconds ∧ ∃ ids, op = .reserve ids now ∧ (∀ id ∈ ids, t.Lists id) ∧
        ∃ e ∈ t.reserved, e.1 ∈ ids ∧ e.2 ≤ now) ∧
    (t'.takeSignal.1 = false → demand ≤ demand') := by
  intro t t' demand demand'
  have hconsistent : t.Consistent := (consistent_after ttl h).withSignal false
  -- Only a reservation can be quiet and change demand.
  by_cases hop : ∃ ids, op = .reserve ids now
  · obtain ⟨ids, rfl⟩ := hop
    have hquiet : t'.takeSignal.1 = false ↔ ∀ id ∈ ids, t.Lists id :=
      (reserve_quiet_iff hconsistent ids now).trans (and_iff_right rfl)
    have hids : ∀ ids', Operation.reserve ids now = .reserve ids' now ↔ ids' = ids := by
      simp [eq_comm]
    simp only [hquiet, hids, exists_eq_left]
    by_cases hlists : ∀ id ∈ ids, t.Lists id
    · obtain ⟨hchange, hgrows⟩ := demand_reserve_ne_iff hlate hfits rfl hlists
      rw [and_iff_left hlists, and_iff_right hlists]
      exact ⟨hchange, fun _ => hgrows⟩
    · simp [hlists]
  · have hnone : op.reserves = [] := by
      cases op with
      | reserve ids u =>
        obtain rfl := htime u rfl
        exact absurd ⟨ids, rfl⟩ hop
      | assign id => rfl
      | complete id => rfl
      | snapshot u => rfl
    have hsame : t'.takeSignal.1 = false → demand' = demand :=
      demand_quiet hconsistent htime hnone
    constructor
    · constructor
      · rintro ⟨hne, hquiet⟩
        exact absurd (hsame hquiet) hne
      · rintro ⟨-, ids, rfl, -⟩
        exact absurd ⟨ids, rfl⟩ hop
    · intro hquiet
      exact (hsame hquiet).ge

/-- A request is reserved for again after its reservation has lapsed, beside one that is
assigned: two workers are wanted where one was, and nobody is told. -/
theorem unsignalled_change_lapsed :
    let h : List Operation := [.reserve [1, 2] 0, .assign 2]
    let t := (after ⟨600000⟩ h).takeSignal.2
    (∀ u ∈ History.times h, u ≤ 1000) ∧
    (∀ u, (Operation.reserve [1, 2] 1000).time? = some u → u = 1000) ∧
    (1000 : Instant).toNat + (⟨600000⟩ : Span).seconds < UInt64.size ∧
    ((t.perform (.reserve [1, 2] 1000)).snapshot 1000).1.demand ≠ (t.snapshot 1000).1.demand ∧
    (t.perform (.reserve [1, 2] 1000)).takeSignal.1 = false := by
  intro h t
  have hlate : ∀ u ∈ History.times h, u ≤ 1000 := by
    simp [h, History.times, Operation.time?]
  have htime : ∀ u, (Operation.reserve [1, 2] 1000).time? = some u → u = 1000 := by
    intro u hu
    exact (Option.some.inj hu).symm
  have hlists : ∀ id ∈ ([1, 2] : List RequestId), t.Lists id := by
    intro id hid
    unfold Lists
    simp only [List.mem_cons, List.not_mem_nil, or_false] at hid
    obtain rfl | rfl := hid <;> decide
  have hlapsed : ∃ e ∈ t.reserved, e.1 ∈ ([1, 2] : List RequestId) ∧ e.2 ≤ 1000 :=
    ⟨(1, 600), by decide, by decide, by decide⟩
  obtain ⟨hchange, -⟩ := unsignalled_change_iff ⟨600000⟩ h (.reserve [1, 2] 1000) 1000 hlate htime
    (by decide)
  exact ⟨hlate, htime, by decide, hchange.mpr ⟨by decide, [1, 2], rfl, hlists, hlapsed⟩⟩

/-- It is not so that every call that changes demand leaves a signal: a reservation that
lapsed at 600 is made again at 1000, and demand goes from 0 to 1. -/
theorem not_every_change_signalled :
    ¬ ∀ (ttl : Span) (h : List Operation) (op : Operation) (now : Instant),
      (∀ u ∈ History.times h, u ≤ now) → (∀ u, op.time? = some u → u = now) →
      let t := (after ttl h).takeSignal.2
      let t' := t.perform op
      (t'.snapshot now).1.demand ≠ (t.snapshot now).1.demand → t'.takeSignal.1 = true := by
  intro hall
  have hsignal := hall ⟨600000⟩ [.reserve [1] 0] (.reserve [1] 1000) 1000 (by
    simp [History.times, Operation.time?]) (by
    intro u hu
    exact (Option.some.inj hu).symm) (by
    rw [demand_snapshot, demand_snapshot]
    decide)
  revert hsignal
  decide

end PoolScaler.Demand.Tracker
