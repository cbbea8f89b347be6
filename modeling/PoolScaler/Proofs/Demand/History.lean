import Mathlib.Data.Finset.Card
import Mathlib.Data.Finset.SDiff
import PoolScaler.Demand.Tracker
import PoolScaler.Proofs.Precedence
set_option autoImplicit false

/-!
# What a history leaves of a tracker

A tracker is fed calls in whatever order the queue delivers them.  What it
reports depends on three sets only, the requests ever reserved for, assigned and
completed, and on the time each request was last reserved for: repetitions, late
news and the snapshots taken in between leave no trace.
-/

namespace PoolScaler.Demand

/-- A call to a tracker. -/
inductive Operation where
  /-- Reserve for these requests. -/
  | reserve (ids : List RequestId) (now : Instant)
  /-- This request's job was assigned. -/
  | assign (id : RequestId)
  /-- This request's job was completed. -/
  | complete (id : RequestId)
  /-- Look at the demand. -/
  | snapshot (now : Instant)
  deriving DecidableEq, Repr, Inhabited

namespace Operation

/-- The requests a call reserves for. -/
def reserves : Operation → List RequestId
  | .reserve ids _ => ids
  | _ => []

/-- The request a call assigns. -/
def assigns : Operation → List RequestId
  | .assign id => [id]
  | _ => []

/-- The request a call completes. -/
def completes : Operation → List RequestId
  | .complete id => [id]
  | _ => []

/-- The time of a call, if it has one. -/
def time? : Operation → Option Instant
  | .reserve _ now | .snapshot now => some now
  | .assign _ | .complete _ => none

end Operation

/-- What a tracker knows after a call. -/
def Tracker.perform (t : Tracker) : Operation → Tracker
  | .reserve ids now => (t.reserve ids now).2
  | .assign id => (t.assign id).2
  | .complete id => (t.complete id).2
  | .snapshot now => (t.snapshot now).2

/-- What a new tracker knows after a list of calls. -/
def Tracker.after (ttl : Span) (h : List Operation) : Tracker := h.foldl Tracker.perform (.new ttl)

/-! ## What a history tells -/

namespace History

/-- The requests ever reserved for. -/
def reserved (h : List Operation) : Finset RequestId := (h.flatMap Operation.reserves).toFinset

/-- The requests ever assigned. -/
def assigned (h : List Operation) : Finset RequestId := (h.flatMap Operation.assigns).toFinset

/-- The requests ever completed. -/
def completed (h : List Operation) : Finset RequestId := (h.flatMap Operation.completes).toFinset

/-- The times of the calls. -/
def times (h : List Operation) : List Instant := h.filterMap Operation.time?

/-- The time after one more call at which a request was last reserved for. -/
def latest (id : RequestId) (last : Option Instant) : Operation → Option Instant
  | .reserve ids now => if id ∈ ids then some now else last
  | _ => last

/-- The time a request was last reserved for. -/
def lastReserve? (h : List Operation) (id : RequestId) : Option Instant :=
  h.foldl (latest id) none

/-- The requests that hold a reservation at `t`: reserved for, neither assigned
nor completed, and not lapsed since they were last reserved for. -/
def held (ttl : Span) (h : List Operation) (t : Instant) : Finset RequestId :=
  (reserved h \ (assigned h ∪ completed h)).filter fun id =>
    (lastReserve? h id).any fun last => t.toNat < last.toNat + ttl.seconds

/-- The reservation of a request: one worker, until the request's last
reservation lapses. -/
def entry (ttl : Span) (h : List Operation) (id : RequestId) : Reservation :=
  { name := "job-" ++ toString id.toInt
    replicas := 1
    expirationTime := UInt64.ofNat (((lastReserve? h id).elim 0 UInt64.toNat) + ttl.seconds) }

theorem lastReserve?_concat (h : List Operation) (op : Operation) (id : RequestId) :
    lastReserve? (h ++ [op]) id = latest id (lastReserve? h id) op := by
  simp [lastReserve?]

theorem times_concat (h : List Operation) (op : Operation) :
    times (h ++ [op]) = times h ++ op.time?.toList := by
  simp only [times, List.filterMap_append]
  cases hop : op.time? <;> simp [hop]

theorem mem_reserved_iff (h : List Operation) (id : RequestId) :
    id ∈ reserved h ↔ (lastReserve? h id).isSome = true := by
  induction h using List.reverseRecOn with
  | nil => simp [reserved, lastReserve?]
  | append_singleton h op ih =>
    rw [lastReserve?_concat]
    have hsplit : id ∈ reserved (h ++ [op]) ↔ id ∈ reserved h ∨ id ∈ op.reserves := by
      simp [reserved]
    rw [hsplit, ih]
    cases op with
    | reserve ids now =>
      by_cases hid : id ∈ ids <;> simp [latest, Operation.reserves, hid]
    | assign _ => simp [latest, Operation.reserves]
    | complete _ => simp [latest, Operation.reserves]
    | snapshot _ => simp [latest, Operation.reserves]

theorem mem_assigned_concat (h : List Operation) (op : Operation) (id : RequestId) :
    id ∈ assigned (h ++ [op]) ↔ id ∈ assigned h ∨ id ∈ op.assigns := by
  simp [assigned]

theorem mem_completed_concat (h : List Operation) (op : Operation) (id : RequestId) :
    id ∈ completed (h ++ [op]) ↔ id ∈ completed h ∨ id ∈ op.completes := by
  simp [completed]

/-- Histories with the same jobs assigned, the same jobs completed and the same
last reservations of all others call for the same reservations. -/
theorem map_entry_held_congr {ttl : Span} {h h' : List Operation} {now : Instant}
    (hassigned : assigned h' = assigned h) (hcompleted : completed h' = completed h)
    (hlast : ∀ id, id ∉ assigned h → id ∉ completed h → lastReserve? h' id = lastReserve? h id) :
    (held ttl h' now).val.map (entry ttl h') = (held ttl h now).val.map (entry ttl h) := by
  have hheld : held ttl h' now = held ttl h now := by
    ext id
    simp only [held, Finset.mem_filter, Finset.mem_sdiff, Finset.mem_union, not_or,
      mem_reserved_iff, hassigned, hcompleted]
    by_cases ha : id ∈ assigned h
    · simp [ha]
    · by_cases hc : id ∈ completed h
      · simp [hc]
      · rw [hlast id ha hc]
  rw [hheld]
  refine Multiset.map_congr rfl ?_
  intro id hid
  simp only [held, Finset.mem_val, Finset.mem_filter, Finset.mem_sdiff, Finset.mem_union,
    not_or] at hid
  simp only [entry, hlast id hid.1.2.1 hid.1.2.2]

end History

/-! ## Reservations as a table -/

namespace Tracker

theorem mem_setExpiration {id : RequestId} {x : Instant} {l : List (RequestId × Instant)}
    (hnodup : (l.map (·.1)).Nodup) (e : RequestId × Instant) :
    e ∈ setExpiration id x l ↔ e = (id, x) ∨ (e ∈ l ∧ e.1 ≠ id) := by
  induction l with
  | nil => simp [setExpiration]
  | cons head rest ih =>
    simp only [List.map_cons, List.nodup_cons] at hnodup
    obtain ⟨hhead, hrest⟩ := hnodup
    simp only [setExpiration]
    split
    · rename_i heq
      have hne : ∀ e ∈ rest, e.1 ≠ id := by
        intro e he hid
        exact hhead (heq ▸ hid ▸ List.mem_map_of_mem he)
      simp only [List.mem_cons]
      constructor
      · rintro (rfl | he)
        · exact Or.inl rfl
        · exact Or.inr ⟨Or.inr he, hne e he⟩
      · rintro (rfl | ⟨rfl | he, hid⟩)
        · exact Or.inl rfl
        · exact absurd heq hid
        · exact Or.inr he
    · rename_i hne
      simp only [List.mem_cons, ih hrest]
      constructor
      · rintro (rfl | rfl | ⟨he, hid⟩)
        · exact Or.inr ⟨Or.inl rfl, hne⟩
        · exact Or.inl rfl
        · exact Or.inr ⟨Or.inr he, hid⟩
      · rintro (rfl | ⟨rfl | he, hid⟩)
        · exact Or.inr (Or.inl rfl)
        · exact Or.inl rfl
        · exact Or.inr (Or.inr ⟨he, hid⟩)

theorem map_fst_setExpiration (id : RequestId) (x : Instant) (l : List (RequestId × Instant)) :
    (setExpiration id x l).map (·.1) =
      if id ∈ l.map (·.1) then l.map (·.1) else l.map (·.1) ++ [id] := by
  induction l with
  | nil => simp [setExpiration]
  | cons head rest ih =>
    simp only [setExpiration]
    split
    · rename_i heq
      simp [heq]
    · rename_i hne
      have hne' : ¬ id = head.1 := fun h => hne h.symm
      simp only [List.map_cons, ih, List.mem_cons, hne', false_or]
      split <;> rfl

theorem nodup_setExpiration {id : RequestId} {x : Instant} {l : List (RequestId × Instant)}
    (hnodup : (l.map (·.1)).Nodup) : ((setExpiration id x l).map (·.1)).Nodup := by
  rw [map_fst_setExpiration]
  split
  · exact hnodup
  · rename_i hid
    rw [List.nodup_append]
    refine ⟨hnodup, by simp, ?_⟩
    intro a ha b hb hab
    rw [List.mem_singleton] at hb
    exact hid (hb ▸ hab ▸ ha)

theorem mem_dropReservation {id : RequestId} {l : List (RequestId × Instant)}
    (e : RequestId × Instant) : e ∈ dropReservation id l ↔ e ∈ l ∧ e.1 ≠ id := by
  simp [dropReservation]

theorem nodup_map_fst_filter {l : List (RequestId × Instant)} (hnodup : (l.map (·.1)).Nodup)
    (keep : RequestId × Instant → Bool) : ((l.filter keep).map (·.1)).Nodup :=
  hnodup.sublist (List.filter_sublist.map _)

/-- A completion is remembered beside all others as long as there is room. -/
theorem remember_of_length_lt {completed : List RequestId} (id : RequestId)
    (hroom : completed.length < memorySize) : remember completed id = completed ++ [id] := by
  have hdrop : (completed ++ [id]).length - memorySize = 0 := by
    simp only [List.length_append, List.length_singleton]
    omega
  simp only [remember, hdrop, List.drop_zero]

end Tracker

/-! ## What a tracker keeps of its history -/

/-- A tracker knows of a history: the jobs assigned and not completed, the jobs
completed, and every reservation but those that lapsed before some call. -/
structure Follows (ttl : Span) (h : List Operation) (t : Tracker) : Prop where
  ttl_eq : t.ttl = UInt64.ofNat ttl.seconds
  mem_assigned : ∀ id, id ∈ t.assigned ↔ id ∈ History.assigned h ∧ id ∉ History.completed h
  assigned_nodup : t.assigned.Nodup
  mem_completed : ∀ id, id ∈ t.completed ↔ id ∈ History.completed h
  completed_nodup : t.completed.Nodup
  reserved_nodup : (t.reserved.map (·.1)).Nodup
  sound : ∀ e ∈ t.reserved, e.1 ∉ History.assigned h ∧ e.1 ∉ History.completed h ∧
    ∃ last, History.lastReserve? h e.1 = some last ∧ e.2.toNat = last.toNat + ttl.seconds
  complete : ∀ id last, id ∉ History.assigned h → id ∉ History.completed h →
    History.lastReserve? h id = some last →
    (∃ e ∈ t.reserved, e.1 = id) ∨ ∃ u ∈ History.times h, last.toNat + ttl.seconds ≤ u.toNat

namespace Follows

variable {ttl : Span} {h : List Operation} {t : Tracker}

theorem new (ttl : Span) : Follows ttl [] (.new ttl) where
  ttl_eq := rfl
  mem_assigned := by simp [Tracker.new, History.assigned]
  assigned_nodup := List.nodup_nil
  mem_completed := by simp [Tracker.new, History.completed]
  completed_nodup := List.nodup_nil
  reserved_nodup := List.nodup_nil
  sound := by simp [Tracker.new]
  complete := by simp [History.lastReserve?]

/-- News that waits is no part of what a tracker knows. -/
theorem withSignal (hf : Follows ttl h t) (signal : Bool) :
    Follows ttl h { t with signal := signal } :=
  ⟨hf.ttl_eq, hf.mem_assigned, hf.assigned_nodup, hf.mem_completed, hf.completed_nodup,
    hf.reserved_nodup, hf.sound, hf.complete⟩

theorem toNat_expiration (hf : Follows ttl h t) {now : Instant}
    (hfits : now.toNat + ttl.seconds < UInt64.size) :
    (now + t.ttl).toNat = now.toNat + ttl.seconds := by
  unfold UInt64.size at hfits
  rw [hf.ttl_eq, UInt64.toNat_add, UInt64.toNat_ofNat']
  omega

/-- What a tracker knows is the same of every history with the same jobs under
way, the same jobs completed and the same last reservations of all others. -/
theorem congr {h' : List Operation} (hf : Follows ttl h t)
    (hcompleted : ∀ a, a ∈ History.completed h' ↔ a ∈ History.completed h)
    (hassigned : ∀ a, a ∉ History.completed h →
      (a ∈ History.assigned h' ↔ a ∈ History.assigned h))
    (hlast : ∀ a, a ∉ History.assigned h → a ∉ History.completed h →
      History.lastReserve? h' a = History.lastReserve? h a)
    (htimes : ∀ u ∈ History.times h, u ∈ History.times h') : Follows ttl h' t where
  ttl_eq := hf.ttl_eq
  mem_assigned := by
    intro a
    rw [hf.mem_assigned, hcompleted]
    exact and_congr_left fun hna => (hassigned a hna).symm
  assigned_nodup := hf.assigned_nodup
  mem_completed := by intro a; rw [hf.mem_completed, hcompleted]
  completed_nodup := hf.completed_nodup
  reserved_nodup := hf.reserved_nodup
  sound := by
    intro e he
    obtain ⟨ha, hc, hl⟩ := hf.sound e he
    rw [hassigned e.1 hc, hcompleted, hlast e.1 ha hc]
    exact ⟨ha, hc, hl⟩
  complete := by
    intro a last ha hc hl
    rw [hcompleted] at hc
    rw [hassigned a hc] at ha
    rw [hlast a ha hc] at hl
    refine (hf.complete a last ha hc hl).imp_right ?_
    rintro ⟨u, hu, hle⟩
    exact ⟨u, htimes u hu, hle⟩

theorem reserveNone (hf : Follows ttl h t) (now : Instant) :
    Follows ttl (h ++ [.reserve [] now]) t := by
  refine hf.congr ?_ ?_ ?_ ?_
  · simp [History.mem_completed_concat, Operation.completes]
  · simp [History.mem_assigned_concat, Operation.assigns]
  · simp [History.lastReserve?_concat, History.latest]
  · simp +contextual [History.times_concat]

/-- One more request of a batch: the batch so far counts as one call. -/
theorem reserveOne {done : List RequestId} {now : Instant} {id : RequestId}
    (hf : Follows ttl (h ++ [.reserve done now]) t)
    (hfits : now.toNat + ttl.seconds < UInt64.size) :
    Follows ttl (h ++ [.reserve (done ++ [id]) now]) (t.reserveOne (now + t.ttl) id).2 := by
  have hassigned : ∀ a, a ∈ History.assigned (h ++ [.reserve (done ++ [id]) now]) ↔
      a ∈ History.assigned (h ++ [.reserve done now]) := by
    simp [History.mem_assigned_concat, Operation.assigns]
  have hcompleted : ∀ a, a ∈ History.completed (h ++ [.reserve (done ++ [id]) now]) ↔
      a ∈ History.completed (h ++ [.reserve done now]) := by
    simp [History.mem_completed_concat, Operation.completes]
  have htimes : History.times (h ++ [.reserve (done ++ [id]) now]) =
      History.times (h ++ [.reserve done now]) := by
    simp [History.times_concat, Operation.time?]
  have hother : ∀ a, a ≠ id → History.lastReserve? (h ++ [.reserve (done ++ [id]) now]) a =
      History.lastReserve? (h ++ [.reserve done now]) a := by
    intro a ha
    simp [History.lastReserve?_concat, History.latest, ha]
  have hself : History.lastReserve? (h ++ [.reserve (done ++ [id]) now]) id = some now := by
    simp [History.lastReserve?_concat, History.latest]
  by_cases hskip : id ∈ t.assigned ∨ id ∈ t.completed
  · -- The request is passed over; it is outside all that is said of reservations.
    have hgone : id ∈ History.assigned (h ++ [.reserve done now]) ∨
        id ∈ History.completed (h ++ [.reserve done now]) :=
      hskip.imp (fun ha => ((hf.mem_assigned id).1 ha).1) (hf.mem_completed id).1
    have hsame : (t.reserveOne (now + t.ttl) id).2 = t := by
      simp [Tracker.reserveOne, hskip]
    have hne : ∀ a, a ∉ History.assigned (h ++ [.reserve done now]) →
        a ∉ History.completed (h ++ [.reserve done now]) → a ≠ id := by
      rintro a ha hc rfl
      exact hgone.elim ha hc
    rw [hsame]
    exact hf.congr hcompleted (fun a _ => hassigned a)
      (fun a ha hc => hother a (hne a ha hc)) (fun u hu => htimes ▸ hu)
  · obtain ⟨hna, hnc⟩ := not_or.1 hskip
    have hset : (t.reserveOne (now + t.ttl) id).2 =
        { t with reserved := Tracker.setExpiration id (now + t.ttl) t.reserved } := by
      simp [Tracker.reserveOne, hna, hnc]
    have hnc' : id ∉ History.completed (h ++ [.reserve done now]) := fun hc =>
      hnc ((hf.mem_completed id).2 hc)
    have hna' : id ∉ History.assigned (h ++ [.reserve done now]) := fun ha =>
      hna ((hf.mem_assigned id).2 ⟨ha, hnc'⟩)
    rw [hset]
    refine ⟨hf.ttl_eq, ?_, hf.assigned_nodup, ?_, hf.completed_nodup,
      Tracker.nodup_setExpiration hf.reserved_nodup, ?_, ?_⟩
    · intro a; rw [hf.mem_assigned, hassigned, hcompleted]
    · intro a; rw [hf.mem_completed, hcompleted]
    · intro e he
      rw [hassigned, hcompleted]
      rcases (Tracker.mem_setExpiration hf.reserved_nodup e).1 he with rfl | ⟨he, hne⟩
      · exact ⟨hna', hnc', now, hself, hf.toNat_expiration hfits⟩
      · rw [hother e.1 hne]
        exact hf.sound e he
    · intro a last ha hc hl
      by_cases haid : a = id
      · exact Or.inl ⟨(id, now + t.ttl),
          (Tracker.mem_setExpiration hf.reserved_nodup _).2 (Or.inl rfl), haid.symm⟩
      · rw [hassigned] at ha
        rw [hcompleted] at hc
        rw [hother a haid] at hl
        rw [htimes]
        refine (hf.complete a last ha hc hl).imp_left ?_
        rintro ⟨e, he, rfl⟩
        exact ⟨e, (Tracker.mem_setExpiration hf.reserved_nodup e).2 (Or.inr ⟨he, haid⟩), rfl⟩

theorem ttl_reserveOne (t : Tracker) (x : Instant) (id : RequestId) :
    (t.reserveOne x id).2.ttl = t.ttl := by
  unfold Tracker.reserveOne
  split <;> rfl

theorem reserveAll {now : Instant} (hfits : now.toNat + ttl.seconds < UInt64.size)
    (ids done : List RequestId) (t : Tracker) (hf : Follows ttl (h ++ [.reserve done now]) t) :
    Follows ttl (h ++ [.reserve (done ++ ids) now]) (t.reserveAll (now + t.ttl) ids).2 := by
  induction ids generalizing done t with
  | nil => simpa [Tracker.reserveAll] using hf
  | cons id rest ih =>
    have hnext := ih (done ++ [id]) (t.reserveOne (now + t.ttl) id).2 (hf.reserveOne hfits)
    rw [ttl_reserveOne] at hnext
    simpa [Tracker.reserveAll] using hnext

theorem reserve (hf : Follows ttl h t) {now : Instant} (ids : List RequestId)
    (hfits : now.toNat + ttl.seconds < UInt64.size) :
    Follows ttl (h ++ [.reserve ids now]) (t.reserve ids now).2 := by
  have hall := reserveAll hfits ids [] t (hf.reserveNone now)
  exact hall.withSignal _

theorem assign (hf : Follows ttl h t) (id : RequestId) :
    Follows ttl (h ++ [.assign id]) (t.assign id).2 := by
  have hassigned : ∀ a, a ∈ History.assigned (h ++ [.assign id]) ↔
      a ∈ History.assigned h ∨ a = id := by
    simp [History.mem_assigned_concat, Operation.assigns]
  have hcompleted : ∀ a, a ∈ History.completed (h ++ [.assign id]) ↔
      a ∈ History.completed h := by
    simp [History.mem_completed_concat, Operation.completes]
  have hlast : ∀ a, History.lastReserve? (h ++ [.assign id]) a = History.lastReserve? h a := by
    simp [History.lastReserve?_concat, History.latest]
  have htimes : History.times (h ++ [.assign id]) = History.times h := by
    simp [History.times_concat, Operation.time?]
  by_cases hdone : id ∈ t.completed
  · -- The job is over: no reservation of it is left, and it stays unassigned.
    have hc : id ∈ History.completed h := (hf.mem_completed id).1 hdone
    have hsame : (t.assign id).2 = t := by simp [Tracker.assign, hdone]
    rw [hsame]
    refine hf.congr hcompleted ?_ (fun a _ _ => hlast a) (fun u hu => htimes ▸ hu)
    intro a hna
    rw [hassigned]
    exact or_iff_left fun h => hna (h ▸ hc)
  · have hnc : id ∉ History.completed h := fun hc => hdone ((hf.mem_completed id).2 hc)
    have hset : (t.assign id).2 = { t with
        reserved := Tracker.dropReservation id t.reserved
        assigned := if id ∈ t.assigned then t.assigned else t.assigned ++ [id]
        signal := t.signal || !t.assigned.contains id } := by
      simp only [Tracker.assign, List.contains_iff_mem, hdone, if_false]
      by_cases ha : id ∈ t.assigned <;> simp [ha]
    rw [hset]
    refine ⟨hf.ttl_eq, ?_, ?_, ?_, hf.completed_nodup,
      Tracker.nodup_map_fst_filter hf.reserved_nodup _, ?_, ?_⟩
    · intro a
      have hmem : a ∈ (if id ∈ t.assigned then t.assigned else t.assigned ++ [id]) ↔
          a ∈ t.assigned ∨ a = id := by
        split
        · rename_i hid
          exact ⟨Or.inl, fun h => h.elim (fun x => x) fun h => h ▸ hid⟩
        · simp
      rw [hmem, hf.mem_assigned, hassigned, hcompleted]
      constructor
      · rintro (⟨ha, hna⟩ | rfl)
        · exact ⟨Or.inl ha, hna⟩
        · exact ⟨Or.inr rfl, hnc⟩
      · rintro ⟨ha | ha, hna⟩
        · exact Or.inl ⟨ha, hna⟩
        · exact Or.inr ha
    · show (if id ∈ t.assigned then t.assigned else t.assigned ++ [id]).Nodup
      split
      · exact hf.assigned_nodup
      · rename_i hid
        exact List.Nodup.append hf.assigned_nodup (List.nodup_singleton id)
          (List.disjoint_singleton.2 hid)
    · intro a; rw [hf.mem_completed, hcompleted]
    · intro e he
      obtain ⟨he, hne⟩ := (Tracker.mem_dropReservation e).1 he
      obtain ⟨ha, hna, hl⟩ := hf.sound e he
      rw [hassigned, hcompleted, hlast]
      exact ⟨fun h => h.elim ha hne, hna, hl⟩
    · intro a last ha hna hl
      rw [hassigned, not_or] at ha
      rw [hcompleted] at hna
      rw [hlast] at hl
      rw [htimes]
      refine (hf.complete a last ha.1 hna hl).imp_left ?_
      rintro ⟨e, he, rfl⟩
      exact ⟨e, (Tracker.mem_dropReservation e).2 ⟨he, ha.2⟩, rfl⟩

theorem complete_call (hf : Follows ttl h t) (id : RequestId)
    (hfew : (History.completed (h ++ [.complete id])).card ≤ memorySize) :
    Follows ttl (h ++ [.complete id]) (t.complete id).2 := by
  have hassigned : ∀ a, a ∈ History.assigned (h ++ [.complete id]) ↔
      a ∈ History.assigned h := by
    simp [History.mem_assigned_concat, Operation.assigns]
  have hcompleted : ∀ a, a ∈ History.completed (h ++ [.complete id]) ↔
      a ∈ History.completed h ∨ a = id := by
    simp [History.mem_completed_concat, Operation.completes]
  have hlast : ∀ a, History.lastReserve? (h ++ [.complete id]) a = History.lastReserve? h a := by
    simp [History.lastReserve?_concat, History.latest]
  have htimes : History.times (h ++ [.complete id]) = History.times h := by
    simp [History.times_concat, Operation.time?]
  by_cases hdone : id ∈ t.completed
  · have hc : id ∈ History.completed h := (hf.mem_completed id).1 hdone
    have hsame : (t.complete id).2 = t := by simp [Tracker.complete, hdone]
    rw [hsame]
    refine hf.congr ?_ (fun a _ => hassigned a) (fun a _ _ => hlast a) (fun u hu => htimes ▸ hu)
    intro a
    rw [hcompleted]
    exact or_iff_left_of_imp fun h => h ▸ hc
  · have hroom : t.completed.length < memorySize := by
      have hsub : (t.completed ++ [id]).toFinset ⊆ History.completed (h ++ [.complete id]) := by
        intro a ha
        rw [hcompleted, ← hf.mem_completed]
        simpa [or_comm] using ha
      have hnodup : (t.completed ++ [id]).Nodup :=
        List.Nodup.append hf.completed_nodup (List.nodup_singleton id)
          (List.disjoint_singleton.2 hdone)
      have hcard := Finset.card_le_card hsub
      rw [List.toFinset_card_of_nodup hnodup, List.length_append, List.length_singleton] at hcard
      omega
    have hset : (t.complete id).2 = { t with
        reserved := Tracker.dropReservation id t.reserved
        assigned := t.assigned.filter (· != id)
        completed := t.completed ++ [id]
        signal := true } := by
      simp [Tracker.complete, hdone, Tracker.remember_of_length_lt id hroom]
    rw [hset]
    refine ⟨hf.ttl_eq, ?_, hf.assigned_nodup.filter _, ?_, ?_,
      Tracker.nodup_map_fst_filter hf.reserved_nodup _, ?_, ?_⟩
    · intro a
      simp only [List.mem_filter, bne_iff_ne, ne_eq, hf.mem_assigned, hassigned, hcompleted,
        not_or, and_assoc]
    · intro a
      simp only [List.mem_append, List.mem_singleton, hf.mem_completed, hcompleted]
    · exact List.Nodup.append hf.completed_nodup (List.nodup_singleton id)
        (List.disjoint_singleton.2 hdone)
    · intro e he
      obtain ⟨he, hne⟩ := (Tracker.mem_dropReservation e).1 he
      obtain ⟨ha, hna, hl⟩ := hf.sound e he
      rw [hassigned, hcompleted, hlast]
      exact ⟨ha, fun h => h.elim hna hne, hl⟩
    · intro a last ha hna hl
      rw [hassigned] at ha
      rw [hcompleted, not_or] at hna
      rw [hlast] at hl
      rw [htimes]
      refine (hf.complete a last ha hna.1 hl).imp_left ?_
      rintro ⟨e, he, rfl⟩
      exact ⟨e, (Tracker.mem_dropReservation e).2 ⟨he, hna.2⟩, rfl⟩

theorem snapshot_call (hf : Follows ttl h t) (now : Instant) :
    Follows ttl (h ++ [.snapshot now]) (t.snapshot now).2 := by
  have hnext : Follows ttl (h ++ [.snapshot now]) t := by
    refine hf.congr ?_ ?_ ?_ ?_
    · simp [History.mem_completed_concat, Operation.completes]
    · simp [History.mem_assigned_concat, Operation.assigns]
    · simp [History.lastReserve?_concat, History.latest]
    · simp +contextual [History.times_concat]
  refine ⟨hnext.ttl_eq, hnext.mem_assigned, hnext.assigned_nodup, hnext.mem_completed,
    hnext.completed_nodup, Tracker.nodup_map_fst_filter hnext.reserved_nodup _, ?_, ?_⟩
  · intro e he
    exact hnext.sound e (List.mem_filter.1 he).1
  · intro a last ha hc hl
    rcases hnext.complete a last ha hc hl with ⟨e, he, rfl⟩ | hlapsed
    · by_cases hkeep : now < e.2
      · exact Or.inl ⟨e, List.mem_filter.2 ⟨he, by simpa using hkeep⟩, rfl⟩
      · -- A reservation that is forgotten now has lapsed now.
        obtain ⟨_, _, last', hl', hsum⟩ := hnext.sound e he
        rw [hl] at hl'
        cases hl'
        refine Or.inr ⟨now, by simp [History.times_concat, Operation.time?], ?_⟩
        rw [← hsum]
        exact UInt64.le_iff_toNat_le.1 (UInt64.not_lt.1 hkeep)
    · exact Or.inr hlapsed

end Follows

/-- A tracker follows its history as long as it forgets no completed job and no
reservation outlasts the clock. -/
theorem follows_after (ttl : Span) (h : List Operation)
    (hfew : (History.completed h).card ≤ memorySize)
    (hfits : ∀ ids now, Operation.reserve ids now ∈ h → now.toNat + ttl.seconds < UInt64.size) :
    Follows ttl h (Tracker.after ttl h) := by
  induction h using List.reverseRecOn with
  | nil => exact Follows.new ttl
  | append_singleton h op ih =>
    have hsub : History.completed h ⊆ History.completed (h ++ [op]) := by
      intro a ha
      exact (History.mem_completed_concat h op a).2 (Or.inl ha)
    have hprev : Follows ttl h (Tracker.after ttl h) :=
      ih ((Finset.card_le_card hsub).trans hfew)
        (fun ids now hmem => hfits ids now (List.mem_append_left _ hmem))
    have hstep : Tracker.after ttl (h ++ [op]) = (Tracker.after ttl h).perform op := by
      simp [Tracker.after]
    rw [hstep]
    cases op with
    | reserve ids now => exact hprev.reserve ids (hfits ids now (by simp))
    | assign id => exact hprev.assign id
    | complete id => exact hprev.complete_call id hfew
    | snapshot now => exact hprev.snapshot_call now

/-! ## What a snapshot reports -/

namespace Follows

variable {ttl : Span} {h : List Operation} {t : Tracker}

theorem length_assigned (hf : Follows ttl h t) :
    t.assigned.length = (History.assigned h \ History.completed h).card := by
  have hset : t.assigned.toFinset = History.assigned h \ History.completed h := by
    ext a
    simp [hf.mem_assigned]
  rw [← hset, List.toFinset_card_of_nodup hf.assigned_nodup]

/-- The reservations left at `now` are those of the requests held then. -/
theorem toFinset_purge (hf : Follows ttl h t) {now : Instant}
    (hlate : ∀ u ∈ History.times h, u ≤ now) :
    ((t.purge now).reserved.map (·.1)).toFinset = History.held ttl h now := by
  ext a
  simp only [List.mem_toFinset, List.mem_map, Tracker.purge, List.mem_filter, decide_eq_true_eq,
    History.held, Finset.mem_filter, Finset.mem_sdiff, Finset.mem_union, not_or,
    History.mem_reserved_iff, Option.any_eq_true]
  constructor
  · rintro ⟨e, ⟨he, hlt⟩, rfl⟩
    obtain ⟨ha, hc, last, hl, hsum⟩ := hf.sound e he
    refine ⟨⟨by simp [hl], ha, hc⟩, last, hl, ?_⟩
    rw [← hsum]
    exact UInt64.lt_iff_toNat_lt.1 hlt
  · rintro ⟨⟨-, ha, hc⟩, last, hl, hlt⟩
    rcases hf.complete a last ha hc hl with ⟨e, he, rfl⟩ | ⟨u, hu, hle⟩
    · obtain ⟨_, _, last', hl', hsum⟩ := hf.sound e he
      rw [hl] at hl'
      cases hl'
      refine ⟨e, ⟨he, ?_⟩, rfl⟩
      rw [UInt64.lt_iff_toNat_lt, hsum]
      exact hlt
    · have hu' := UInt64.le_iff_toNat_le.1 (hlate u hu)
      omega

theorem toReservation_eq_entry (hf : Follows ttl h t) {e : RequestId × Instant}
    (he : e ∈ t.reserved) : Tracker.toReservation e = History.entry ttl h e.1 := by
  obtain ⟨_, _, last, hl, hsum⟩ := hf.sound e he
  simp [Tracker.toReservation, Tracker.reservationName, History.entry, hl, ← hsum]

theorem coe_reservations (hf : Follows ttl h t) {now : Instant}
    (hlate : ∀ u ∈ History.times h, u ≤ now) :
    ((t.snapshot now).1.reservations : Multiset Reservation) =
      (History.held ttl h now).val.map (History.entry ttl h) := by
  have hnodup : ((t.purge now).reserved.map (·.1)).Nodup :=
    Tracker.nodup_map_fst_filter hf.reserved_nodup _
  have hentries : (t.purge now).reserved.map Tracker.toReservation =
      ((t.purge now).reserved.map (·.1)).map (History.entry ttl h) := by
    rw [List.map_map]
    exact List.map_congr_left fun e he =>
      hf.toReservation_eq_entry (List.mem_filter.1 he).1
  calc ((t.snapshot now).1.reservations : Multiset Reservation)
      = ((t.purge now).reserved.map Tracker.toReservation : List Reservation) :=
        Multiset.coe_eq_coe.2 (List.mergeSort_perm _ _)
    _ = (History.held ttl h now).val.map (History.entry ttl h) := by
        rw [hentries, ← hf.toFinset_purge hlate, List.toFinset_val, hnodup.dedup,
          Multiset.map_coe]

end Follows

/-! ## The order of a snapshot -/

namespace Tracker

theorem lapsesBefore_iff (a b : Reservation) :
    lapsesBefore a b = true ↔ Precedes (a.expirationTime, a.name) (b.expirationTime, b.name) := by
  simp [lapsesBefore, Precedes]

theorem lapsesBefore_trans (a b c : Reservation) (hab : lapsesBefore a b = true)
    (hbc : lapsesBefore b c = true) : lapsesBefore a c = true := by
  rw [lapsesBefore_iff] at *
  exact hab.trans hbc

theorem lapsesBefore_total (a b : Reservation) :
    (lapsesBefore a b || lapsesBefore b a) = true := by
  rw [Bool.or_eq_true, lapsesBefore_iff, lapsesBefore_iff]
  exact Precedes.total _ _

theorem lapsesBefore_antisymm {a b : Reservation} (hreplicas : a.replicas = b.replicas)
    (hab : lapsesBefore a b = true) (hba : lapsesBefore b a = true) : a = b := by
  rw [lapsesBefore_iff] at hab hba
  obtain ⟨htime, hname⟩ := Prod.mk.inj (hab.antisymm hba)
  cases a
  cases b
  simp_all

/-- The reservations of a snapshot are in order. -/
theorem pairwise_snapshot (t : Tracker) (now : Instant) :
    ((t.snapshot now).1.reservations).Pairwise fun a b => lapsesBefore a b = true :=
  List.pairwise_mergeSort lapsesBefore_trans lapsesBefore_total _

end Tracker

/-- Reservations for one worker each count as many as there are. -/
theorem Snapshot.reserved_eq_length {s : Snapshot} (hone : ∀ r ∈ s.reservations, r.replicas = 1) :
    s.reserved = s.reservations.length := by
  obtain ⟨rs, assigned⟩ := s
  simp only [Snapshot.reserved] at *
  induction rs with
  | nil => rfl
  | cons r rest ih =>
    rw [List.foldr_cons, ih fun r' hr' => hone r' (List.mem_cons_of_mem _ hr'),
      hone r List.mem_cons_self, List.length_cons, Nat.add_comm]
    rfl

theorem replicas_of_mem_snapshot {t : Tracker} {now : Instant} {r : Reservation}
    (hr : r ∈ (t.snapshot now).1.reservations) : r.replicas = 1 := by
  have hmem : r ∈ (t.purge now).reserved.map Tracker.toReservation :=
    (List.mergeSort_perm _ _).mem_iff.1 hr
  obtain ⟨e, -, rfl⟩ := List.mem_map.1 hmem
  rfl

/-- A snapshot is determined by the number assigned and by which reservations
there are, in whatever order. -/
theorem snapshot_eq_of_coe_eq {t t' : Tracker} {now : Instant}
    (hassigned : t.assigned.length = t'.assigned.length)
    (hreserved : ((t.snapshot now).1.reservations : Multiset Reservation) =
      (t'.snapshot now).1.reservations) : (t.snapshot now).1 = (t'.snapshot now).1 := by
  have hlist : (t.snapshot now).1.reservations = (t'.snapshot now).1.reservations := by
    refine (Multiset.coe_eq_coe.1 hreserved).eq_of_pairwise ?_ (t.pairwise_snapshot now)
      (t'.pairwise_snapshot now)
    intro a b ha hb hab hba
    refine Tracker.lapsesBefore_antisymm ?_ hab hba
    rw [replicas_of_mem_snapshot ha, replicas_of_mem_snapshot hb]
  exact congrArg₂ Snapshot.mk hlist hassigned

/-! ## Demand regardless of order and repetition -/

/-- A snapshot not before any call of a history reports the jobs assigned and not
completed and one reservation for each request held, whatever the order and the
repetitions of the calls; histories that agree on the jobs assigned, the jobs
completed and the last reservations of all others cannot be told apart. -/
theorem snapshot_of_history (ttl : Span) (h : List Operation) (now : Instant)
    (hfew : (History.completed h).card ≤ memorySize)
    (hfits : ∀ ids now, Operation.reserve ids now ∈ h → now.toNat + ttl.seconds < UInt64.size)
    (hlate : ∀ u ∈ History.times h, u ≤ now) :
    let s := ((Tracker.after ttl h).snapshot now).1
    s.assigned = (History.assigned h \ History.completed h).card ∧
    (s.reservations : Multiset Reservation) =
      (History.held ttl h now).val.map (History.entry ttl h) ∧
    s.demand = (History.held ttl h now).card + (History.assigned h \ History.completed h).card ∧
    ∀ h' : List Operation,
      (∀ ids now, Operation.reserve ids now ∈ h' → now.toNat + ttl.seconds < UInt64.size) →
      (∀ u ∈ History.times h', u ≤ now) →
      History.assigned h' = History.assigned h → History.completed h' = History.completed h →
      (∀ id, id ∉ History.assigned h → id ∉ History.completed h →
        History.lastReserve? h' id = History.lastReserve? h id) →
      ((Tracker.after ttl h').snapshot now).1 = s := by
  have hf := follows_after ttl h hfew hfits
  have hreserved := hf.coe_reservations hlate
  have hlength : ((Tracker.after ttl h).snapshot now).1.reservations.length =
      (History.held ttl h now).card := by
    rw [← Multiset.coe_card, hreserved, Multiset.card_map]
    rfl
  refine ⟨hf.length_assigned, hreserved, ?_, ?_⟩
  · rw [Snapshot.demand, Snapshot.reserved_eq_length fun _ => replicas_of_mem_snapshot, hlength]
    exact congrArg _ hf.length_assigned
  · intro h' hfits' hlate' hassigned hcompleted hlast
    have hf' := follows_after ttl h' (hcompleted ▸ hfew) hfits'
    refine snapshot_eq_of_coe_eq ?_ ?_
    · rw [hf'.length_assigned, hf.length_assigned, hassigned, hcompleted]
    · rw [hf'.coe_reservations hlate', hreserved,
        History.map_entry_held_congr hassigned hcompleted hlast]

/-- A completion before its assignment, a late reservation of an assigned job, a
renewed reservation and a look in between: two workers are wanted, as after the
three calls that count. -/
theorem snapshot_of_history_late_news :
    let h : List Operation := [.complete 3, .reserve [1, 2] 1000, .assign 2, .assign 3,
      .reserve [2] 1001, .snapshot 1300, .reserve [1] 1400, .assign 2]
    (History.completed h).card ≤ memorySize ∧
    (∀ ids now, Operation.reserve ids now ∈ h → now.toNat + 600 < UInt64.size) ∧
    (∀ u ∈ History.times h, u ≤ 1999) ∧
    ((Tracker.after ⟨600500⟩ h).snapshot 1999).1.assigned = 1 ∧
    ((Tracker.after ⟨600500⟩ h).snapshot 1999).1.demand = 2 ∧
    ((Tracker.after ⟨600500⟩ [.reserve [1] 1400, .complete 3, .assign 2, .assign 3]).snapshot
      1999).1 = ((Tracker.after ⟨600500⟩ h).snapshot 1999).1 := by
  intro h
  have hfew : (History.completed h).card ≤ memorySize := by decide
  have hfits : ∀ ids now, Operation.reserve ids now ∈ h → now.toNat + 600 < UInt64.size := by
    intro ids now hmem
    simp only [h, List.mem_cons, Operation.reserve.injEq, reduceCtorEq, List.not_mem_nil,
      false_or, or_false] at hmem
    rcases hmem with ⟨-, rfl⟩ | ⟨-, rfl⟩ | ⟨-, rfl⟩ <;> decide
  have hall : ∀ h : List Operation, (History.times h).all (· ≤ 1999) = true →
      ∀ u ∈ History.times h, u ≤ 1999 :=
    fun _ hall u hu => of_decide_eq_true (List.all_eq_true.mp hall u hu)
  have hlate : ∀ u ∈ History.times h, u ≤ 1999 := hall h (by decide)
  obtain ⟨hassigned, -, hdemand, hsame⟩ := snapshot_of_history ⟨600500⟩ h 1999 hfew hfits hlate
  refine ⟨hfew, hfits, hlate, hassigned.trans (by decide), hdemand.trans (by decide),
    hsame _ ?_ (hall _ (by decide)) (by decide) (by decide) ?_⟩
  · intro ids now hmem
    simp only [List.mem_cons, Operation.reserve.injEq, reduceCtorEq, List.not_mem_nil,
      or_false] at hmem
    obtain ⟨-, rfl⟩ := hmem
    decide
  · intro id ha hc
    by_cases hid : id = 1
    · subst hid
      decide
    · have hid2 : id ≠ 2 := by
        rintro rfl
        exact ha (by decide)
      simp [h, History.lastReserve?, History.latest, hid, hid2]

end PoolScaler.Demand
