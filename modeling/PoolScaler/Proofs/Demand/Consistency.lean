import PoolScaler.Proofs.Demand.History
set_option autoImplicit false

/-!
# A tracker counts each request once

The requests that hold a reservation, those assigned and those remembered as completed
have no request in common, whatever calls led to a tracker and at whatever times they
were made.  What is remembered as completed is at hand in two containers, a set in which
requests are looked up and a queue that tells the oldest; the two forget together, and the
queue is the list that the tracker keeps.
-/

namespace PoolScaler.Demand

/-! ## The memory of completed requests -/

/-- Completed requests: a set to look them up in, and a queue with the oldest first. -/
structure Memory where
  known : Finset RequestId
  order : List RequestId

namespace Memory

/-- Take the oldest requests out of both containers while the queue is too long. -/
def trim (known : Finset RequestId) : List RequestId → Memory
  | [] => ⟨known, []⟩
  | oldest :: rest =>
    if memorySize < (oldest :: rest).length then trim (known.erase oldest) rest
    else ⟨known, oldest :: rest⟩

/-- Remember one more request, unless it is known. -/
def remember (m : Memory) (id : RequestId) : Memory :=
  if id ∈ m.known then m else trim (insert id m.known) (m.order ++ [id])

/-- What is remembered after a list of calls. -/
def after (h : List Operation) : Memory :=
  (h.flatMap Operation.completes).foldl remember ⟨∅, []⟩

/-- The queue lists exactly the set, without repetition, and is not too long. -/
structure Sound (m : Memory) : Prop where
  order_nodup : m.order.Nodup
  toFinset_order : m.order.toFinset = m.known
  length_le : m.order.length ≤ memorySize

theorem Sound.mem_known {m : Memory} (h : m.Sound) (id : RequestId) :
    id ∈ m.known ↔ id ∈ m.order := by
  rw [← h.toFinset_order, List.mem_toFinset]

/-- Trimming takes the same requests out of the set as out of the queue. -/
theorem sound_trim {order : List RequestId} (hnodup : order.Nodup) :
    (trim order.toFinset order).Sound := by
  induction order with
  | nil => exact ⟨List.nodup_nil, rfl, Nat.zero_le _⟩
  | cons oldest rest ih =>
    obtain ⟨hfresh, hrest⟩ := List.nodup_cons.mp hnodup
    rw [trim]
    split
    · have herase : (oldest :: rest).toFinset.erase oldest = rest.toFinset := by
        rw [List.toFinset_cons, Finset.erase_insert]
        simpa using hfresh
      rw [herase]
      exact ih hrest
    · rename_i hfits
      exact ⟨hnodup, rfl, Nat.le_of_not_lt hfits⟩

/-- What trimming leaves of the queue is its newest part. -/
theorem order_trim (known : Finset RequestId) (order : List RequestId) :
    (trim known order).order = order.drop (order.length - memorySize) := by
  induction order generalizing known with
  | nil => rfl
  | cons oldest rest ih =>
    rw [trim]
    split
    · rename_i hlong
      have hdrop : (oldest :: rest).length - memorySize = (rest.length - memorySize) + 1 := by
        simp only [List.length_cons] at hlong ⊢
        omega
      rw [hdrop, List.drop_succ_cons, ih]
    · rename_i hfits
      have hdrop : (oldest :: rest).length - memorySize = 0 := by omega
      rw [hdrop, List.drop_zero]

theorem Sound.remember {m : Memory} (h : m.Sound) (id : RequestId) : (m.remember id).Sound := by
  unfold Memory.remember
  split
  · exact h
  · rename_i hnew
    have hnodup : (m.order ++ [id]).Nodup := by
      rw [h.mem_known] at hnew
      exact h.order_nodup.append (List.nodup_singleton id) (List.disjoint_singleton.mpr hnew)
    have hinsert : insert id m.known = (m.order ++ [id]).toFinset := by
      rw [← h.toFinset_order]
      ext a
      simp
    rw [hinsert]
    exact sound_trim hnodup

theorem sound_after (h : List Operation) : (after h).Sound := by
  unfold after
  generalize h.flatMap Operation.completes = ids
  induction ids using List.reverseRecOn with
  | nil => exact ⟨List.nodup_nil, rfl, Nat.zero_le _⟩
  | append_singleton ids id ih =>
    rw [List.foldl_append]
    exact ih.remember id

theorem after_concat (h : List Operation) (op : Operation) :
    after (h ++ [op]) = op.completes.foldl remember (after h) := by
  simp [after, List.flatMap_append, List.foldl_append]

end Memory

/-! ## The three sets of a tracker -/

namespace Tracker

/-- No request holds two reservations or is listed twice, and none is in two of the three
sets of a tracker. -/
structure Consistent (t : Tracker) : Prop where
  reserved_nodup : (t.reserved.map (·.1)).Nodup
  assigned_nodup : t.assigned.Nodup
  not_assigned : ∀ e ∈ t.reserved, e.1 ∉ t.assigned
  reserved_open : ∀ e ∈ t.reserved, e.1 ∉ t.completed
  assigned_open : ∀ id ∈ t.assigned, id ∉ t.completed

theorem reserveOne_snd (t : Tracker) (x : Instant) (id : RequestId) :
    (t.reserveOne x id).2 = { t with reserved := (t.reserveOne x id).2.reserved } := by
  unfold reserveOne
  split <;> rfl

/-- Reserving changes the reservations only. -/
theorem reserveAll_snd (t : Tracker) (x : Instant) (ids : List RequestId) :
    (t.reserveAll x ids).2 = { t with reserved := (t.reserveAll x ids).2.reserved } := by
  induction ids generalizing t with
  | nil => rfl
  | cons id rest ih =>
    simp only [reserveAll]
    rw [ih, reserveOne_snd]

/-- Requests that are assigned or completed may as well be left out of a batch. -/
theorem reserveAll_filter {t : Tracker} (x : Instant) (ids : List RequestId)
    {keep : RequestId → Bool}
    (hskip : ∀ id, keep id = false → id ∈ t.assigned ∨ id ∈ t.completed) :
    t.reserveAll x (ids.filter keep) = t.reserveAll x ids := by
  induction ids generalizing t with
  | nil => rfl
  | cons id ids ih =>
    cases hkeep : keep id with
    | false =>
      have hsame : t.reserveOne x id = (false, t) := by
        simp [reserveOne, hskip id hkeep]
      rw [List.filter_cons_of_neg (by simp [hkeep]), ih hskip, reserveAll, hsame]
      rfl
    | true =>
      have hnext : ∀ a, keep a = false →
          a ∈ (t.reserveOne x id).2.assigned ∨ a ∈ (t.reserveOne x id).2.completed := by
        rw [reserveOne_snd]
        exact hskip
      rw [List.filter_cons_of_pos hkeep]
      simp only [reserveAll]
      rw [ih hnext]

theorem reserve_filter {t : Tracker} (ids : List RequestId) (now : Instant)
    {keep : RequestId → Bool}
    (hskip : ∀ id, keep id = false → id ∈ t.assigned ∨ id ∈ t.completed) :
    t.reserve (ids.filter keep) now = t.reserve ids now := by
  unfold reserve
  rw [reserveAll_filter _ ids hskip]

theorem mem_remember {completed : List RequestId} {id a : RequestId}
    (h : a ∈ remember completed id) : a ∈ completed ∨ a = id := by
  simpa using List.mem_of_mem_drop h

namespace Consistent

variable {t : Tracker}

theorem new (ttl : Span) : (Tracker.new ttl).Consistent := by
  constructor <;> simp [Tracker.new]

theorem withSignal (h : t.Consistent) (signal : Bool) :
    { t with signal := signal }.Consistent :=
  ⟨h.reserved_nodup, h.assigned_nodup, h.not_assigned, h.reserved_open, h.assigned_open⟩

theorem purge (h : t.Consistent) (now : Instant) : (t.purge now).Consistent := by
  refine ⟨nodup_map_fst_filter h.reserved_nodup _, h.assigned_nodup, ?_, ?_, h.assigned_open⟩
  · intro e he
    exact h.not_assigned e (List.mem_of_mem_filter he)
  · intro e he
    exact h.reserved_open e (List.mem_of_mem_filter he)

theorem reserveOne (h : t.Consistent) (x : Instant) (id : RequestId) :
    (t.reserveOne x id).2.Consistent := by
  by_cases hskip : id ∈ t.assigned ∨ id ∈ t.completed
  · have hsame : (t.reserveOne x id).2 = t := by simp [Tracker.reserveOne, hskip]
    rw [hsame]
    exact h
  · obtain ⟨hna, hnc⟩ := not_or.mp hskip
    have hset : (t.reserveOne x id).2 = { t with reserved := setExpiration id x t.reserved } := by
      simp [Tracker.reserveOne, hna, hnc]
    rw [hset]
    refine ⟨nodup_setExpiration h.reserved_nodup, h.assigned_nodup, ?_, ?_, h.assigned_open⟩
    · intro e he
      obtain rfl | ⟨he, -⟩ := (mem_setExpiration h.reserved_nodup e).mp he
      · exact hna
      · exact h.not_assigned e he
    · intro e he
      obtain rfl | ⟨he, -⟩ := (mem_setExpiration h.reserved_nodup e).mp he
      · exact hnc
      · exact h.reserved_open e he

theorem reserveAll (h : t.Consistent) (x : Instant) (ids : List RequestId) :
    (t.reserveAll x ids).2.Consistent := by
  induction ids generalizing t with
  | nil => exact h
  | cons id rest ih => exact ih (h.reserveOne x id)

/-- The reservations after a batch: those of its requests, unless they are assigned or
completed, all expire at `x`, and those of all others are as they were. -/
theorem mem_reserveAll (h : t.Consistent) (x : Instant) (ids : List RequestId)
    (e : RequestId × Instant) :
    e ∈ (t.reserveAll x ids).2.reserved ↔
      (e.1 ∈ ids ∧ e.1 ∉ t.assigned ∧ e.1 ∉ t.completed ∧ e.2 = x) ∨
        (e ∈ t.reserved ∧ e.1 ∉ ids) := by
  induction ids generalizing t with
  | nil => simp [Tracker.reserveAll]
  | cons id ids ih =>
    change e ∈ ((t.reserveOne x id).2.reserveAll x ids).2.reserved ↔ _
    rw [ih (h.reserveOne x id)]
    by_cases hskip : id ∈ t.assigned ∨ id ∈ t.completed
    · have hsame : (t.reserveOne x id).2 = t := by simp [Tracker.reserveOne, hskip]
      rw [hsame, List.mem_cons, not_or]
      by_cases hid : e.1 = id
      · rw [← hid] at hskip
        have hout : e ∉ t.reserved := fun he =>
          hskip.elim (h.not_assigned e he) (h.reserved_open e he)
        simp only [hout, false_and, or_false]
        tauto
      · simp only [hid, false_or, not_false_eq_true, true_and]
    · obtain ⟨hna, hnc⟩ := not_or.mp hskip
      have hset : (t.reserveOne x id).2 = { t with reserved := setExpiration id x t.reserved } := by
        simp [Tracker.reserveOne, hna, hnc]
      rw [hset]
      simp only [mem_setExpiration h.reserved_nodup, List.mem_cons, Prod.ext_iff]
      by_cases hid : e.1 = id
      · simp only [hid, hna, hnc, true_and, true_or, not_true_eq_false, and_false, or_false,
          not_false_eq_true]
        tauto
      · simp only [hid, false_and, false_or, ne_eq, not_false_eq_true, and_true]

theorem assign (h : t.Consistent) (id : RequestId) : (t.assign id).2.Consistent := by
  unfold Tracker.assign
  split
  · exact h
  · rename_i hopen
    have hnc : id ∉ t.completed := by simpa using hopen
    have hmem : ∀ a, a ∈ (if !t.assigned.contains id then t.assigned ++ [id] else t.assigned) →
        a ∈ t.assigned ∨ a = id := by
      intro a ha
      split at ha
      · simpa using ha
      · exact Or.inl ha
    refine ⟨nodup_map_fst_filter h.reserved_nodup _, ?_, ?_, ?_, ?_⟩
    · dsimp only
      split
      · rename_i hnew
        have hna : id ∉ t.assigned := by simpa using hnew
        exact h.assigned_nodup.append (List.nodup_singleton id) (List.disjoint_singleton.mpr hna)
      · exact h.assigned_nodup
    · intro e he ha
      obtain ⟨he, hne⟩ := (mem_dropReservation e).mp he
      obtain ha | ha := hmem e.1 ha
      · exact h.not_assigned e he ha
      · exact hne ha
    · intro e he
      exact h.reserved_open e ((mem_dropReservation e).mp he).1
    · intro a ha
      obtain ha | rfl := hmem a ha
      · exact h.assigned_open a ha
      · exact hnc

theorem complete (h : t.Consistent) (id : RequestId) : (t.complete id).2.Consistent := by
  unfold Tracker.complete
  split
  · exact h
  · refine ⟨nodup_map_fst_filter h.reserved_nodup _, h.assigned_nodup.filter _, ?_, ?_, ?_⟩
    · intro e he ha
      exact h.not_assigned e ((mem_dropReservation e).mp he).1 (List.mem_of_mem_filter ha)
    · intro e he hc
      obtain ⟨he, hne⟩ := (mem_dropReservation e).mp he
      dsimp only at hc
      obtain hc | hc := mem_remember hc
      · exact h.reserved_open e he hc
      · exact hne hc
    · intro a ha hc
      obtain ⟨ha, hne⟩ := List.mem_filter.mp ha
      dsimp only at hc
      obtain hc | rfl := mem_remember hc
      · exact h.assigned_open a ha hc
      · simp at hne

/-- A call keeps the three sets apart. -/
theorem perform (h : t.Consistent) (op : Operation) : (t.perform op).Consistent := by
  cases op with
  | reserve ids now => exact (h.reserveAll _ ids).withSignal _
  | assign id => exact h.assign id
  | complete id => exact h.complete id
  | snapshot now => exact h.purge now

end Consistent

theorem after_concat (ttl : Span) (h : List Operation) (op : Operation) :
    after ttl (h ++ [op]) = (after ttl h).perform op := by
  simp [after]

/-- So do all calls. -/
theorem consistent_after (ttl : Span) (h : List Operation) : (after ttl h).Consistent := by
  induction h using List.reverseRecOn with
  | nil => exact .new ttl
  | append_singleton h op ih =>
    rw [after_concat]
    exact ih.perform op

/-- The completed requests of a tracker after a call. -/
theorem completed_perform (t : Tracker) (op : Operation) :
    (t.perform op).completed =
      op.completes.foldl (fun c id => if id ∈ c then c else remember c id) t.completed := by
  cases op with
  | reserve ids now =>
    change (t.reserveAll (now + t.ttl) ids).2.completed = t.completed
    rw [reserveAll_snd]
  | assign id =>
    change (t.assign id).2.completed = t.completed
    unfold assign
    split <;> rfl
  | complete id =>
    change (t.complete id).2.completed = if id ∈ t.completed then t.completed else _
    by_cases hdone : id ∈ t.completed <;> simp [complete, hdone]
  | snapshot now => rfl

end Tracker

/-- A tracker's list of completed requests is the queue of the memory. -/
theorem order_after (ttl : Span) (h : List Operation) :
    (Memory.after h).order = (Tracker.after ttl h).completed := by
  induction h using List.reverseRecOn with
  | nil => rfl
  | append_singleton h op ih =>
    rw [Tracker.after_concat, Tracker.completed_perform, Memory.after_concat, ← ih]
    cases op with
    | complete id =>
      change ((Memory.after h).remember id).order = if id ∈ (Memory.after h).order then _ else _
      have hknown := (Memory.sound_after h).mem_known id
      by_cases hdone : id ∈ (Memory.after h).order
      · rw [Memory.remember, if_pos (hknown.mpr hdone), if_pos hdone]
      · rw [Memory.remember, if_neg (mt hknown.mp hdone), if_neg hdone]
        exact Memory.order_trim _ _
    | reserve ids now => rfl
    | assign id => rfl
    | snapshot now => rfl

/-! ## What a snapshot counts -/

namespace Tracker

/-- The requests that hold a reservation at `now`. -/
def holders (t : Tracker) (now : Instant) : List RequestId := (t.purge now).reserved.map (·.1)

theorem reserved_snapshot (t : Tracker) (now : Instant) :
    (t.snapshot now).1.reserved = (t.holders now).length := by
  rw [Snapshot.reserved_eq_length fun r hr => replicas_of_mem_snapshot hr]
  simp [snapshot, view, holders]

/-- Demand is the number of requests that hold a reservation and of those assigned. -/
theorem demand_snapshot (t : Tracker) (now : Instant) :
    (t.snapshot now).1.demand = (t.holders now).length + t.assigned.length := by
  rw [Snapshot.demand, reserved_snapshot]
  rfl

end Tracker

/-- The requests listed in pairs are outside a set if each of them is. -/
theorem disjoint_map_fst {l : List (RequestId × Instant)} {s : Finset RequestId}
    (h : ∀ e ∈ l, e.1 ∉ s) : Disjoint (l.map (·.1)).toFinset s := by
  rw [Finset.disjoint_left]
  intro id hid
  obtain ⟨e, he, rfl⟩ := List.mem_map.mp (List.mem_toFinset.mp hid)
  exact h e he

namespace Tracker.Consistent

variable {t : Tracker}

theorem disjoint_assigned (h : t.Consistent) :
    Disjoint (t.reserved.map (·.1)).toFinset t.assigned.toFinset :=
  disjoint_map_fst fun e he ha => h.not_assigned e he (List.mem_toFinset.mp ha)

/-- Those who hold a reservation and those assigned, each counted once. -/
theorem demand_eq_card (h : t.Consistent) (now : Instant) :
    (t.snapshot now).1.demand = ((t.holders now).toFinset ∪ t.assigned.toFinset).card := by
  have hpurged := h.purge now
  have hapart : Disjoint (t.holders now).toFinset t.assigned.toFinset := hpurged.disjoint_assigned
  have hholders : (t.holders now).Nodup := hpurged.reserved_nodup
  rw [demand_snapshot, Finset.card_union_of_disjoint hapart, List.toFinset_card_of_nodup hholders,
    List.toFinset_card_of_nodup h.assigned_nodup]

end Tracker.Consistent

/-- Whatever calls were made, in whatever order and at whatever times, the requests that
hold a reservation, those assigned and those remembered as completed are disjoint; the
queue of completed requests lists exactly the set of them, without repetition and at most
4096, and it is the list that the tracker keeps.  So demand is the number of requests that
hold an unexpired reservation or are assigned, each counted once, and no request counted
as assigned is remembered as completed. -/
theorem requests_count_once (ttl : Span) (h : List Operation) (now : Instant) :
    let t := Tracker.after ttl h
    let m := Memory.after h
    let s := (t.snapshot now).1
    Disjoint (t.reserved.map (·.1)).toFinset t.assigned.toFinset ∧
    Disjoint (t.reserved.map (·.1)).toFinset m.known ∧
    Disjoint t.assigned.toFinset m.known ∧
    (m.order.Nodup ∧ m.order.toFinset = m.known ∧ m.order.length ≤ 4096 ∧
      m.order = t.completed) ∧
    s.demand = ((t.holders now).toFinset ∪ t.assigned.toFinset).card ∧
    s.assigned = (t.assigned.toFinset \ m.known).card := by
  intro t m s
  have hconsistent := Tracker.consistent_after ttl h
  have hsound := Memory.sound_after h
  have horder : m.order = t.completed := order_after ttl h
  have hknown : ∀ id, id ∈ m.known ↔ id ∈ t.completed := by
    intro id
    rw [hsound.mem_known, ← horder]
  have hopen : Disjoint t.assigned.toFinset m.known := by
    rw [Finset.disjoint_left]
    intro id ha hc
    rw [hknown] at hc
    exact hconsistent.assigned_open id (List.mem_toFinset.mp ha) hc
  have hreserved : Disjoint (t.reserved.map (·.1)).toFinset m.known :=
    disjoint_map_fst fun e he hc => hconsistent.reserved_open e he ((hknown e.1).mp hc)
  refine ⟨hconsistent.disjoint_assigned, hreserved, hopen,
    ⟨hsound.order_nodup, hsound.toFinset_order, hsound.length_le, horder⟩,
    hconsistent.demand_eq_card now, ?_⟩
  rw [Finset.sdiff_eq_self_of_disjoint hopen, List.toFinset_card_of_nodup
    hconsistent.assigned_nodup]
  rfl

end PoolScaler.Demand
