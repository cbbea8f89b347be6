import Mathlib.Data.List.DropRight
import PoolScaler.Proofs.Demand.Signal
set_option autoImplicit false

/-!
# The memory of completions is a sliding window

A tracker remembers the completions that it accepted last, 4096 at most, and accepts a
completion exactly if it does not remember it.  While a request is remembered all news of
it is refused; the 4096th completion after its own drives it out, and it may come again.
-/

namespace PoolScaler.Demand

/-- The last part of a list is the last part of what it leaves of the part before. -/
theorem rtake_append_rtake {α : Type} (l l' : List α) (n : ℕ) :
    (l.rtake n ++ l').rtake n = (l ++ l').rtake n := by
  have hle : l.length - n ≤ l.length := Nat.sub_le _ _
  unfold List.rtake
  rw [← List.drop_append_of_le_length hle, List.drop_drop, List.length_drop, List.length_append]
  congr 1
  omega

theorem rtake_append_length {α : Type} (l l' : List α) : (l ++ l').rtake l'.length = l' := by
  rw [List.rtake, List.length_append, Nat.add_sub_cancel, List.drop_left]

theorem mem_rtake_append {α : Type} {l l' : List α} {n : ℕ} {a : α} (ha : a ∈ l')
    (hfits : l'.length ≤ n) : a ∈ (l ++ l').rtake n := by
  have hle : (l ++ l').length - n ≤ l.length := by
    rw [List.length_append]
    omega
  rw [List.rtake, List.drop_append_of_le_length hle]
  exact List.mem_append_right _ ha

namespace Tracker

/-- The request whose completion a call tells, if it is accepted. -/
def accepts (t : Tracker) : Operation → List RequestId
  | .complete id => if (t.complete id).1 then [id] else []
  | .reserve _ _ | .assign _ | .snapshot _ => []

/-- The requests whose completions a list of calls tells and which are accepted, in order. -/
def accepted (t : Tracker) : List Operation → List RequestId
  | [] => []
  | op :: h => t.accepts op ++ (t.perform op).accepted h

variable {t : Tracker}

theorem accepted_append (t : Tracker) (h h' : List Operation) :
    t.accepted (h ++ h') = t.accepted h ++ (h.foldl perform t).accepted h' := by
  induction h generalizing t with
  | nil => rfl
  | cons op h ih =>
    rw [List.cons_append, accepted, ih, accepted, List.append_assoc, List.foldl_cons]

theorem complete_fst (t : Tracker) (id : RequestId) :
    (t.complete id).1 = true ↔ id ∉ t.completed := by
  by_cases hdone : id ∈ t.completed <;> simp [complete, hdone]

theorem accepts_complete (t : Tracker) (id : RequestId) :
    t.accepts (.complete id) = if id ∈ t.completed then [] else [id] := by
  by_cases hdone : id ∈ t.completed <;> simp [accepts, complete, hdone]

/-! ## What is remembered -/

/-- A call leaves the last of what was remembered and of what it adds. -/
theorem completed_perform_eq (hfits : t.completed.length ≤ memorySize) (op : Operation) :
    (t.perform op).completed = (t.completed ++ t.accepts op).rtake memorySize := by
  have hsame : (t.completed ++ []).rtake memorySize = t.completed := by
    rw [List.append_nil, List.rtake, Nat.sub_eq_zero_of_le hfits, List.drop_zero]
  rw [completed_perform]
  cases op with
  | complete id =>
    rw [accepts_complete]
    change (if id ∈ t.completed then t.completed else remember t.completed id) = _
    split
    · exact hsame.symm
    · rfl
  | reserve ids now => exact hsame.symm
  | assign id => exact hsame.symm
  | snapshot now => exact hsame.symm

/-- What is remembered are the completions accepted last. -/
theorem completed_after (ttl : Span) (h : List Operation) :
    (after ttl h).completed = ((new ttl).accepted h).rtake memorySize := by
  induction h using List.reverseRecOn with
  | nil => exact (List.rtake_nil memorySize).symm
  | append_singleton h op ih =>
    have hfits : (after ttl h).completed.length ≤ memorySize := by
      rw [← order_after]
      exact (Memory.sound_after h).length_le
    rw [after_concat, completed_perform_eq hfits, ih, rtake_append_rtake, accepted_append]
    simp only [accepted, List.append_nil]
    rfl

/-- No completion is accepted again as long as it is remembered, at any time of a run. -/
theorem nodup_rtake_succ (ttl : Span) (h : List Operation) {l : List RequestId}
    (hl : l <+: (new ttl).accepted h) : (l.rtake (memorySize + 1)).Nodup := by
  induction h using List.reverseRecOn generalizing l with
  | nil =>
    obtain rfl := List.prefix_nil.mp hl
    exact List.nodup_nil
  | append_singleton h op ih =>
    rw [accepted_append] at hl
    change l <+: _ ++ ((after ttl h).accepts op ++ []) at hl
    rw [List.append_nil] at hl
    cases op with
    | complete id =>
      rw [accepts_complete] at hl
      split at hl
      · rw [List.append_nil] at hl
        exact ih hl
      · rename_i hnew
        rcases List.prefix_concat_iff.mp hl with rfl | hl
        · rw [List.rtake_concat_succ, ← completed_after]
          have hnodup : (after ttl h).completed.Nodup := by
            rw [← order_after]
            exact (Memory.sound_after h).order_nodup
          exact hnodup.append (List.nodup_singleton id) (List.disjoint_singleton.mpr hnew)
        · exact ih hl
    | reserve ids now => exact ih (by simpa [accepts] using hl)
    | assign id => exact ih (by simpa [accepts] using hl)
    | snapshot now => exact ih (by simpa [accepts] using hl)

/-- So any 4097 completions that were accepted one after the other are of different
requests. -/
theorem nodup_of_prefix {ttl : Span} {h : List Operation} {l l' : List RequestId}
    (hstart : l ++ l' <+: (new ttl).accepted h) (hlength : l'.length = memorySize + 1) :
    l'.Nodup := by
  have hwindow := nodup_rtake_succ ttl h hstart
  rwa [← hlength, rtake_append_length] at hwindow

/-! ## How long a completion is remembered -/

section

variable {ttl : Span} {before rest : List Operation} {id : RequestId}
  (hnew : ((after ttl before).complete id).1 = true)
include hnew

theorem accepted_after_complete (rest : List Operation) :
    (new ttl).accepted (before ++ .complete id :: rest) =
      (new ttl).accepted before ++ id :: (after ttl (before ++ [.complete id])).accepted rest := by
  rw [accepted_append, after_concat]
  change _ ++ ((after ttl before).accepts (.complete id) ++ _) = _
  rw [accepts, if_pos hnew]
  rfl

/-- Fewer than 4096 others leave it remembered. -/
theorem remembered_of_few
    (hfew : ((after ttl (before ++ [.complete id])).accepted rest).toFinset.card < memorySize) :
    id ∈ (after ttl (before ++ .complete id :: rest)).completed := by
  have hsplit := accepted_after_complete hnew rest
  rw [completed_after, hsplit]
  refine mem_rtake_append List.mem_cons_self ?_
  generalize (after ttl (before ++ [.complete id])).accepted rest = later at hfew hsplit
  by_contra hmany
  rw [List.length_cons] at hmany
  have hlength : (later.take memorySize).length = memorySize := List.length_take_of_le (by omega)
  have hstart : (new ttl).accepted before ++ id :: later.take memorySize <+:
      (new ttl).accepted (before ++ .complete id :: rest) := by
    rw [hsplit, List.prefix_append_right_inj, List.cons_prefix_cons]
    exact ⟨rfl, List.take_prefix _ _⟩
  -- The first 4096 of them are different already.
  have hnodup := nodup_of_prefix hstart (congrArg (· + 1) hlength)
  have hcard : (later.take memorySize).toFinset.card ≤ later.toFinset.card :=
    Finset.card_le_card fun a ha =>
      List.mem_toFinset.mpr (List.mem_of_mem_take (List.mem_toFinset.mp ha))
  rw [List.toFinset_card_of_nodup (List.nodup_cons.mp hnodup).2, hlength] at hcard
  omega

/-- With 4096 others it is forgotten, and they are different ones. -/
theorem forgotten_of_enough
    (hall : ((after ttl (before ++ [.complete id])).accepted rest).length = memorySize) :
    (id :: (after ttl (before ++ [.complete id])).accepted rest).Nodup ∧
      id ∉ (after ttl (before ++ .complete id :: rest)).completed := by
  have hsplit := accepted_after_complete hnew rest
  have hstart : (new ttl).accepted before ++
      id :: (after ttl (before ++ [.complete id])).accepted rest <+:
        (new ttl).accepted (before ++ .complete id :: rest) := by
    rw [hsplit]
  have hnodup := nodup_of_prefix hstart (congrArg (· + 1) hall)
  refine ⟨hnodup, ?_⟩
  rw [completed_after, hsplit, List.append_cons, ← hall, rtake_append_length]
  exact (List.nodup_cons.mp hnodup).1

end

/-- A request that is remembered neither holds a reservation nor is assigned. -/
theorem Consistent.not_lists (h : t.Consistent) {id : RequestId} (hdone : id ∈ t.completed) :
    id ∉ t.reserved.map (·.1) ∧ id ∉ t.assigned := by
  refine ⟨fun hid => ?_, fun ha => h.assigned_open id ha hdone⟩
  obtain ⟨e, he, rfl⟩ := List.mem_map.mp hid
  exact h.reserved_open e he hdone

/-- The call that drives a request out of the memory leaves nothing of it. -/
theorem not_lists_of_driven_out (h : t.Consistent) {id : RequestId} (hdone : id ∈ t.completed)
    {op : Operation} (hgone : id ∉ (t.perform op).completed) : ¬ (t.perform op).Lists id := by
  cases op with
  | complete last =>
    obtain ⟨hreserved, hassigned⟩ := h.not_lists hdone
    have hleft : (t.complete last).2.reserved ⊆ t.reserved ∧
        (t.complete last).2.assigned ⊆ t.assigned := by
      unfold complete
      split
      · exact ⟨List.Subset.refl _, List.Subset.refl _⟩
      · exact ⟨List.filter_subset_self _, List.filter_subset_self _⟩
    rintro (hid | hid | hid)
    · exact hreserved (List.map_subset _ hleft.1 hid)
    · exact hassigned (hleft.2 hid)
    · exact hgone hid
  | reserve ids now => exact absurd (by rwa [completed_perform]) hgone
  | assign _ => exact absurd (by rwa [completed_perform]) hgone
  | snapshot now => exact absurd hdone hgone

/-- News of a request of which nothing is known is accepted. -/
theorem accepted_of_not_lists {id : RequestId} (h : ¬ t.Lists id) :
    (t.complete id).1 = true ∧ (t.assign id).1 = true ∧ ∀ now, (t.reserve [id] now).1 = 1 := by
  obtain ⟨-, hopen⟩ := not_or.mp h
  obtain ⟨hna, hnc⟩ := not_or.mp hopen
  refine ⟨(complete_fst t id).mpr hnc, by simp [assign, hna, hnc], fun now => ?_⟩
  have hisNew : (t.reserveOne (now + t.ttl) id).1 = true :=
    Bool.eq_true_of_not_eq_false (mt (reserveOne_fst t _ id).mp h)
  simp [reserve, reserveAll, hisNew]

/-- Completions of different requests of which none is remembered are all accepted. -/
theorem accepted_completions {ids : List RequestId} (hnodup : ids.Nodup)
    (hnew : ∀ id ∈ ids, id ∉ t.completed) : t.accepted (ids.map .complete) = ids := by
  induction ids generalizing t with
  | nil => rfl
  | cons id ids ih =>
    obtain ⟨hid, hids⟩ := List.nodup_cons.mp hnodup
    obtain ⟨hopen, hothers⟩ := List.forall_mem_cons.mp hnew
    have hnext : ∀ a ∈ ids, a ∉ (t.complete id).2.completed := by
      intro a ha hdone
      have hset : (t.complete id).2.completed = remember t.completed id := by
        simp [complete, hopen]
      rw [hset] at hdone
      rcases mem_remember hdone with hdone | rfl
      · exact hothers a ha hdone
      · exact hid ha
    rw [List.map_cons, accepted, accepts_complete, if_neg hopen]
    exact congrArg (id :: ·) (ih hids hnext)

end Tracker

open Tracker

/-- The memory of completions is an exact sliding window, whatever calls are made.  It
consists of the last 4096 completions that were accepted, all of different requests, or of
all if there are fewer.  A completion is accepted exactly if its request is not among
them.  All news of a request that is among them is refused: its completion and its
assignment change nothing, a batch has the effect that it has without it, and it neither
holds a reservation nor is assigned.

After a completion that was accepted its request is among them until others of 4096
different requests have been accepted.  With the 4096th it is not, and at once its
completion, its assignment and a reservation for it would be accepted again. -/
theorem completions_slide (ttl : Span) (h : List Operation) :
    let t := after ttl h
    let accepted := (Tracker.new ttl).accepted h
    let window := accepted.rtake 4096
    ((Memory.after h).known = window.toFinset ∧ (Memory.after h).order = window ∧
      t.completed = window ∧ window.Nodup ∧ window.length = min accepted.length 4096) ∧
    (∀ id, (t.complete id).1 = true ↔ id ∉ window) ∧
    (∀ id ∈ window, t.complete id = (false, t) ∧ t.assign id = (false, t) ∧
      id ∉ t.reserved.map (·.1) ∧ id ∉ t.assigned) ∧
    (∀ ids now, t.reserve ids now = t.reserve (ids.filter (· ∉ window)) now) ∧
    ∀ before id rest, h = before ++ .complete id :: rest →
      ((after ttl before).complete id).1 = true →
      let later := (after ttl (before ++ [.complete id])).accepted
      ((later rest).toFinset.card < 4096 → id ∈ window) ∧
      ((later rest).length = 4096 → (id :: later rest).Nodup ∧ id ∉ window) ∧
      ∀ rest' op, rest = rest' ++ [op] → (later rest').length < 4096 →
        (later rest).length = 4096 →
        (t.complete id).1 = true ∧ (t.assign id).1 = true ∧ ∀ now, (t.reserve [id] now).1 = 1 := by
  intro t accepted window
  have hconsistent : t.Consistent := consistent_after ttl h
  have hsound := Memory.sound_after h
  have hwindow : t.completed = window := completed_after ttl h
  have horder : (Memory.after h).order = window := (order_after ttl h).trans hwindow
  rw [← hwindow] at horder ⊢
  refine ⟨⟨?_, horder, rfl, horder ▸ hsound.order_nodup, ?_⟩, complete_fst t, ?_, ?_, ?_⟩
  · rw [← hsound.toFinset_order, horder]
  · rw [hwindow]
    simp only [window, List.rtake, List.length_drop]
    omega
  · intro id hdone
    obtain ⟨hreserved, hassigned⟩ := hconsistent.not_lists hdone
    exact ⟨by simp [complete, hdone], by simp [assign, hdone], hreserved, hassigned⟩
  · intro ids now
    refine (reserve_filter ids now fun id hid => .inr ?_).symm
    rw [decide_eq_false_iff_not] at hid
    exact not_not.mp hid
  · rintro before id rest rfl hnew later
    refine ⟨remembered_of_few hnew, forgotten_of_enough hnew, ?_⟩
    rintro rest' op rfl hfew hall
    have hdone : id ∈ (after ttl (before ++ .complete id :: rest')).completed :=
      remembered_of_few hnew ((List.toFinset_card_le _).trans_lt hfew)
    have hstep : t = (after ttl (before ++ .complete id :: rest')).perform op := by
      rw [← after_concat, List.append_assoc, List.cons_append]
    have hgone := (forgotten_of_enough hnew hall).2
    change id ∉ t.completed at hgone
    rw [hstep] at hgone ⊢
    exact accepted_of_not_lists (not_lists_of_driven_out (consistent_after ttl _) hdone hgone)

/-- The first requests after request 0. -/
def requestsFromOne (count : ℕ) : List RequestId := (List.range' 1 count).map Int64.ofNat

theorem nodup_requestsFromOne {count : ℕ} (hcount : count ≤ 4096) :
    (0 :: requestsFromOne count).Nodup := by
  have hall : (0 :: requestsFromOne count) = (List.range' 0 (count + 1)).map Int64.ofNat := rfl
  rw [hall]
  refine List.Nodup.map_on (fun a ha b hb heq => ?_) List.nodup_range'
  rw [List.mem_range'_1] at ha hb
  have hints := congrArg Int64.toInt heq
  rw [Int64.toInt_ofNat_of_lt (by omega), Int64.toInt_ofNat_of_lt (by omega)] at hints
  omega

/-- Request 0 is completed, and then 4096 others are: its completion, which would have been
refused before the last of them, is accepted again. -/
theorem completions_slide_full :
    let h : List Operation := (0 :: requestsFromOne 4096).map .complete
    let t := after ⟨600000⟩ h
    ((after ⟨600000⟩ []).complete 0).1 = true ∧
    ((after ⟨600000⟩ [.complete 0]).accepted ((requestsFromOne 4096).map .complete)).length =
      4096 ∧
    (Memory.after h).order = requestsFromOne 4096 ∧
    (t.complete 0).1 = true ∧ (t.assign 0).1 = true ∧ (t.reserve [0] 5).1 = 1 ∧
    (t.complete 1).1 = false := by
  intro h t
  have haccepted : ∀ count ≤ 4096,
      (after ⟨600000⟩ [.complete 0]).accepted ((requestsFromOne count).map .complete) =
        requestsFromOne count := by
    intro count hcount
    obtain ⟨hzero, hnodup⟩ := List.nodup_cons.mp (nodup_requestsFromOne hcount)
    refine accepted_completions hnodup fun id hid hdone => ?_
    obtain rfl := List.mem_singleton.mp hdone
    exact hzero hid
  have hlength : ∀ count, (requestsFromOne count).length = count := by
    intro count
    rw [requestsFromOne, List.length_map, List.length_range']
  have hlast : (requestsFromOne 4096).map Operation.complete =
      (requestsFromOne 4095).map .complete ++ [.complete 4096] := by
    rw [requestsFromOne, List.range'_concat]
    simp [requestsFromOne]
  obtain ⟨⟨-, horder, -⟩, hcomplete, -, -, hslides⟩ := completions_slide ⟨600000⟩ h
  have hall : (Tracker.new ⟨600000⟩).accepted h = [0] ++ requestsFromOne 4096 :=
    accepted_completions (nodup_requestsFromOne (Nat.le_refl _)) nofun
  have hwindow : ((Tracker.new ⟨600000⟩).accepted h).rtake 4096 = requestsFromOne 4096 := by
    rw [hall]
    nth_rewrite 2 [← hlength 4096]
    exact rtake_append_length _ _
  have hnew : ((after ⟨600000⟩ []).complete 0).1 = true := rfl
  obtain ⟨-, -, hagain⟩ := hslides [] 0 ((requestsFromOne 4096).map .complete) rfl hnew
  obtain ⟨hcompletes, hassigns, hreserves⟩ := hagain _ _ hlast
    (by rw [List.nil_append, haccepted 4095 (by omega), hlength]; omega)
    (by rw [List.nil_append, haccepted 4096 (by omega), hlength])
  refine ⟨hnew, by rw [haccepted 4096 (by omega), hlength], horder.trans hwindow, hcompletes,
    hassigns, hreserves 5, ?_⟩
  refine Bool.eq_false_of_not_eq_true fun htrue => (hcomplete 1).mp htrue ?_
  rw [hwindow]
  exact List.mem_map.mpr ⟨1, by simp, rfl⟩

end PoolScaler.Demand
