import Mathlib.Data.List.Induction
import Mathlib.Data.List.TakeWhile
import PoolScaler.Daemon
import PoolScaler.Proofs.Json.Faithful
import PoolScaler.Proofs.Store.Filed
set_option autoImplicit false

/-!
# Registering a pool again and again

Each start of the daemon registers its pool, and in between the pool's status is written.
Three parts of one record have three owners: the time of creation belongs to the first
start, the rest of the spec to the latest one, the status to whoever wrote it last.
-/

namespace PoolScaler

/-- To put what is there changes nothing. -/
theorem Keyed.insert_of_find? {α : Type} {m : Keyed α} {key : String} {value : α}
    (h : m.find? key = some value) : m.insert key value = m := by
  refine eq_of_find?_eq fun k => ?_
  rw [find?_insert]
  split
  · rename_i hkey
    rw [hkey, h]
  · rfl

namespace Daemon

open Store (writePool readPool)

/-- What happens to the record of a pool. -/
inductive Event where
  /-- A daemon starts and registers the pool of its settings. -/
  | start (settings : Settings) (now : Instant)
  /-- The status of the pool is written. -/
  | report (status : PoolStatus)
  deriving DecidableEq, Repr

namespace Event

/-- The event is about the pool of this name. -/
def Concerns (name : String) : Event → Prop
  | .start settings _ => settings.pool.name = name
  | .report _ => True

/-- The settings of a start. -/
def settings? : Event → Option Settings
  | .start settings _ => some settings
  | .report _ => none

/-- The time of a start. -/
def time? : Event → Option Instant
  | .start _ now => some now
  | .report _ => none

/-- The status that is written. -/
def status? : Event → Option PoolStatus
  | .start _ _ => none
  | .report status => some status

/-- What an event makes of a store. -/
def serve (name : String) (store : Store) : Event → Except StoreFault Store
  | .start settings now => register settings now store
  | .report status => store.updatePoolStatus name status

/-- What an event leaves of a store; one that fails changes nothing. -/
def leave (name : String) (store : Store) (event : Event) : Store :=
  match event.serve name store with
  | .ok store' => store'
  | .error _ => store

end Event

/-- What events leave of a store. -/
def after (name : String) (first : Store) (events : List Event) : Store :=
  events.foldl (Event.leave name) first

/-- The time of the first start. -/
def created? (events : List Event) : Option Instant := events.findSome? Event.time?

/-- The settings of the latest start. -/
def latest? (events : List Event) : Option Settings := (events.filterMap Event.settings?).getLast?

/-- The status that was written last, once there was a start. -/
def lastStatus (events : List Event) : PoolStatus :=
  ((events.dropWhile (·.time?.isNone)).filterMap Event.status?).getLast?.getD .initial

variable {name : String} {first store : Store} {events : List Event} {event : Event}
  {settings : Settings} {now created : Instant} {status : PoolStatus} {record : PoolRecord}

/-! ## Histories -/

theorem after_concat : after name first (events ++ [event]) =
    event.leave name (after name first events) := by
  rw [after, List.foldl_append]
  rfl

theorem after_append (later : List Event) :
    after name first (events ++ later) = after name (after name first events) later :=
  List.foldl_append

theorem created?_start :
    created? (events ++ [.start settings now]) = (created? events).or (some now) :=
  List.findSome?_append

theorem created?_report : created? (events ++ [.report status]) = created? events :=
  List.findSome?_append.trans Option.or_none

theorem latest?_start : latest? (events ++ [.start settings now]) = some settings := by
  rw [latest?, List.filterMap_append]
  exact List.getLast?_concat

theorem latest?_report : latest? (events ++ [.report status]) = latest? events := by
  rw [latest?, List.filterMap_append]
  exact congrArg List.getLast? (List.append_nil _)

theorem dropWhile_of_created?_eq_none (h : created? events = none) :
    events.dropWhile (·.time?.isNone) = [] := by
  refine List.dropWhile_eq_nil_iff.mpr fun event hevent => ?_
  rw [List.findSome?_eq_none_iff.mp h event hevent]
  rfl

theorem dropWhile_of_created?_eq_some (h : created? events = some created) (event : Event) :
    (events ++ [event]).dropWhile (·.time?.isNone) =
      events.dropWhile (·.time?.isNone) ++ [event] := by
  have hne : events.dropWhile (·.time?.isNone) ≠ [] := by
    intro hnil
    obtain ⟨start, hmem, htime⟩ := List.exists_of_findSome?_eq_some h
    have hnone := List.dropWhile_eq_nil_iff.mp hnil start hmem
    rw [htime] at hnone
    cases hnone
  rw [List.dropWhile_append, if_neg (by rwa [List.isEmpty_iff])]

theorem lastStatus_first_start (h : created? events = none) :
    lastStatus (events ++ [.start settings now]) = .initial := by
  rw [lastStatus, List.dropWhile_append, dropWhile_of_created?_eq_none h]
  rfl

theorem lastStatus_start (h : created? events = some created) :
    lastStatus (events ++ [.start settings now]) = lastStatus events := by
  have hrest : [Event.start settings now].filterMap Event.status? = [] := rfl
  rw [lastStatus, dropWhile_of_created?_eq_some h, List.filterMap_append, hrest, List.append_nil,
    lastStatus]

theorem lastStatus_report (h : created? events = some created) :
    lastStatus (events ++ [.report status]) = status := by
  have hrest : [Event.report status].filterMap Event.status? = [status] := rfl
  rw [lastStatus, dropWhile_of_created?_eq_some h, List.filterMap_append, hrest,
    List.getLast?_concat, Option.getD_some]

/-! ## One event -/

theorem getPool_of_find? (h : store.pools.find? name = some (writePool record)) :
    store.getPool name = .ok (some record) := by
  rw [Store.getPool, h]
  dsimp only
  rw [Store.readPool_writePool]
  rfl

theorem register_new (h : store.getPool settings.pool.name = .ok none) :
    register settings now store = .ok (store.putPool (.new (settings.poolSpec now))) := by
  rw [register, h]

theorem register_again (h : store.pools.find? settings.pool.name = some (writePool record)) :
    register settings now store =
      .ok (store.putPool ⟨settings.poolSpec record.spec.createdAt, record.status⟩) := by
  rw [register, getPool_of_find? h]

/-- No status can be written where there is no pool. -/
theorem report_unregistered (h : store.getPool name = .ok none) :
    (Event.report status).leave name store = store := by
  have hnone : store.pools.find? name = none := by
    rw [Store.getPool] at h
    cases hfind : store.pools.find? name with
    | none => rfl
    | some text =>
      rw [hfind] at h
      dsimp only at h
      cases hread : readPool text with
      | error fault =>
        rw [hread] at h
        cases h
      | ok record =>
        rw [hread] at h
        cases h
  rw [Event.leave, Event.serve, Store.updatePoolStatus, hnone]

theorem report_registered (h : store.pools.find? name = some (writePool record)) :
    (Event.report status).leave name store =
      { store with
        pools := store.pools.insert name (writePool { record with status := status }) } := by
  rw [Event.leave, Event.serve, Store.updatePoolStatus, h]
  dsimp only
  rw [Store.readPool_writePool]

theorem start_eq_ok {store' : Store} (h : register settings now store = .ok store') :
    (Event.start settings now).leave name store = store' := by
  rw [Event.leave, Event.serve, h]

/-! ## What is kept -/

/-- What a store is after events that began with a store without the pool. -/
structure Kept (name : String) (first : Store) (events : List Event) (store : Store) : Prop where
  unregistered : created? events = none → store = first
  registered : ∀ created, created? events = some created → ∃ settings,
    latest? events = some settings ∧ settings.pool.name = name ∧
      store.pools.find? name = some (writePool ⟨settings.poolSpec created, lastStatus events⟩)
  pools : ∀ other, other ≠ name → store.pools.find? other = first.pools.find? other
  pods : store.pods = first.pods

/-- To put a record of the pool leaves the other pools and the pods as they were. -/
theorem Kept.insert (h : Kept name first events store) (events' : List Event)
    {settings : Settings} {created : Instant} (hcreated : created? events' = some created)
    (hlatest : latest? events' = some settings) (hname : settings.pool.name = name) :
    Kept name first events'
      { store with
        pools := store.pools.insert name
          (writePool ⟨settings.poolSpec created, lastStatus events'⟩) } := by
  refine ⟨fun hnone => ?_, fun created' hcreated' => ?_, fun other hother => ?_, h.pods⟩
  · cases hcreated.symm.trans hnone
  · obtain rfl := Option.some.inj (hcreated.symm.trans hcreated')
    exact ⟨settings, hlatest, hname, by rw [Keyed.find?_insert, if_pos rfl]⟩
  · rw [Keyed.find?_insert, if_neg hother]
    exact h.pools other hother

/-- A start registers the pool: anew, or in the place of its record. -/
theorem Kept.start (h : Kept name first events store) (hfirst : first.getPool name = .ok none)
    (hname : settings.pool.name = name) (now : Instant) :
    ∃ store', register settings now store = .ok store' ∧
      Kept name first (events ++ [.start settings now]) store' := by
  subst hname
  cases hcreated : created? events with
  | none =>
    obtain rfl := h.unregistered hcreated
    refine ⟨_, register_new hfirst, ?_⟩
    have hcreated' : created? (events ++ [.start settings now]) = some now := by
      rw [created?_start, hcreated, Option.none_or]
    have hkept := h.insert (events ++ [.start settings now]) hcreated' latest?_start rfl
    rwa [lastStatus_first_start hcreated] at hkept
  | some created =>
    obtain ⟨latest, -, -, hfound⟩ := h.registered created hcreated
    refine ⟨_, register_again hfound, ?_⟩
    have hcreated' : created? (events ++ [.start settings now]) = some created := by
      rw [created?_start, hcreated, Option.some_or]
    have hkept := h.insert (events ++ [.start settings now]) hcreated' latest?_start rfl
    rwa [lastStatus_start hcreated] at hkept

theorem Kept.report (h : Kept name first events store) (hfirst : first.getPool name = .ok none)
    (status : PoolStatus) :
    Kept name first (events ++ [.report status]) ((Event.report status).leave name store) := by
  cases hcreated : created? events with
  | none =>
    obtain rfl := h.unregistered hcreated
    rw [report_unregistered hfirst]
    refine ⟨fun _ => rfl, fun created hsome => ?_, h.pools, h.pods⟩
    rw [created?_report, hcreated] at hsome
    cases hsome
  | some created =>
    obtain ⟨latest, hlatest, hname, hfound⟩ := h.registered created hcreated
    rw [report_registered hfound]
    have hkept := h.insert (events ++ [.report status]) (created?_report.trans hcreated)
      (latest?_report.trans hlatest) hname
    rwa [lastStatus_report hcreated] at hkept

theorem kept_after (hfirst : first.getPool name = .ok none)
    (hevents : ∀ event ∈ events, event.Concerns name) :
    Kept name first events (after name first events) := by
  induction events using List.reverseRecOn with
  | nil => exact ⟨fun _ => rfl, nofun, fun _ _ => rfl, rfl⟩
  | append_singleton events event ih =>
    obtain ⟨hevents, hevent⟩ := List.forall_mem_append.mp hevents
    have hkept := ih hevents
    rw [after_concat]
    cases event with
    | start settings now =>
      obtain ⟨store', hregister, hkept'⟩ := hkept.start hfirst (hevent _ List.mem_cons_self) now
      rwa [start_eq_ok hregister]
    | report status => exact hkept.report hfirst status

/-- The settings that were registered last can be registered again without effect. -/
theorem Kept.again (h : Kept name first events store) (hcreated : created? events = some created)
    (hlatest : latest? events = some settings) (now : Instant) :
    register settings now store = .ok store := by
  obtain ⟨settings', hlatest', rfl, hfound⟩ := h.registered created hcreated
  obtain rfl := Option.some.inj (hlatest.symm.trans hlatest')
  have hsame : store.putPool ⟨settings.poolSpec created, lastStatus events⟩ = store := by
    rw [Store.putPool]
    exact congrArg (fun pools => { store with pools := pools }) (Keyed.insert_of_find? hfound)
  rw [register_again hfound]
  exact congrArg Except.ok hsame

theorem latest?_reports (statuses : List PoolStatus) :
    latest? (events ++ statuses.map .report) = latest? events := by
  have hnone : (statuses.map Event.report).filterMap Event.settings? = [] := by
    simp [List.filterMap_eq_nil_iff, Event.settings?]
  rw [latest?, List.filterMap_append, hnone, List.append_nil, latest?]

theorem created?_append_of_some (h : created? events = some created) (later : List Event) :
    created? (events ++ later) = some created := by
  rw [created?, List.findSome?_append]
  exact congrArg (Option.or · _) h

/-- What a start with some settings makes of a store in which events have taken place that
began with a store without the pool. -/
structure Registers (name : String) (first : Store) (earlier : List Event) (settings : Settings)
    (now : Instant) (store : Store) : Prop where
  /-- The start goes well. -/
  done : register settings now (after name first earlier) = .ok store
  /-- The spec is that of the settings, with the time of the first start, and the status is
  what was last written. -/
  record : ∃ created, created? (earlier ++ [.start settings now]) = some created ∧
    store.getPool name = .ok (some ⟨settings.poolSpec created, lastStatus earlier⟩)
  /-- Nothing else has changed since the events began. -/
  pools : ∀ other, other ≠ name → store.pools.find? other = first.pools.find? other
  pods : store.pods = first.pods
  /-- Another start with the settings changes nothing, whatever status was written since. -/
  again : ∀ (statuses : List PoolStatus) (now' : Instant),
    let later := after name store (statuses.map .report)
    register settings now' later = .ok later

theorem registrations_keep (hfirst : first.getPool name = .ok none) {earlier : List Event}
    (hearlier : ∀ event ∈ earlier, event.Concerns name) (hname : settings.pool.name = name)
    (now : Instant) :
    Registers name first earlier settings now
      (after name first (earlier ++ [.start settings now])) := by
  obtain ⟨store, hregister, hkept⟩ := (kept_after hfirst hearlier).start hfirst hname now
  obtain ⟨created, hcreated⟩ : ∃ created,
      created? (earlier ++ [.start settings now]) = some created := by
    rw [created?_start]
    cases created? earlier with
    | none => exact ⟨now, rfl⟩
    | some created => exact ⟨created, rfl⟩
  have hstatus : lastStatus (earlier ++ [.start settings now]) = lastStatus earlier := by
    cases hearly : created? earlier with
    | none =>
      rw [lastStatus_first_start hearly, lastStatus, dropWhile_of_created?_eq_none hearly]
      rfl
    | some created => exact lastStatus_start hearly
  have hstore : after name first (earlier ++ [.start settings now]) = store := by
    rw [after_concat, start_eq_ok hregister]
  rw [hstore]
  refine ⟨hregister, ⟨created, hcreated, ?record⟩, hkept.pools, hkept.pods, ?again⟩
  case record =>
    obtain ⟨latest, hlatest, -, hfound⟩ := hkept.registered created hcreated
    obtain rfl := Option.some.inj (latest?_start.symm.trans hlatest)
    rw [hstatus] at hfound
    exact getPool_of_find? hfound
  case again =>
    intro statuses now'
    have hconcerns : ∀ event ∈ earlier ++ [.start settings now] ++ statuses.map .report,
        event.Concerns name := by
      simp only [List.forall_mem_append, List.forall_mem_map, List.forall_mem_singleton]
      exact ⟨⟨hearlier, hname⟩, fun _ _ => trivial⟩
    have hlater := kept_after hfirst hconcerns
    rw [after_append, hstore] at hlater
    exact hlater.again (created?_append_of_some hcreated _)
      ((latest?_reports statuses).trans latest?_start) now'

/-- The settings of a pool that is to have some pods at least. -/
def wanting (least : UInt32) : Settings :=
  ⟨⟨"https://github.com", none, some "secret", none, none⟩,
    ⟨"ci", "", "acme", "", least, none, "runner", .ofList [("os", "linux")], .empty⟩, .usual,
    .usual, .usual⟩

/-- A status under which some pods are wanted. -/
def statusOf (desired : UInt32) : PoolStatus := ⟨desired, 0, 0, [], some 90, 95⟩

/-- A store with a pool and a pod that no one can read. -/
def strangeStore : Store := ⟨.ofList [("cx", "?")], .ofList [("ci:a", "?")]⟩

/-- Starts with other settings each time, the clock going back, and reports of which the
first comes too early. -/
def restarts : List Event :=
  [.report (statusOf 1), .start (wanting 1) 100, .report (statusOf 2), .start (wanting 2) 50,
    .report (statusOf 3)]

theorem registrations_keep_restarts :
    let store := after "ci" strangeStore (restarts ++ [.start (wanting 3) 70])
    strangeStore.getPool "ci" = .ok none ∧ (∀ event ∈ restarts, event.Concerns "ci") ∧
      (wanting 3).pool.name = "ci" ∧
      Registers "ci" strangeStore restarts (wanting 3) 70 store ∧
      store.getPool "ci" = .ok (some ⟨(wanting 3).poolSpec 100, statusOf 3⟩) ∧
      store.pools.find? "cx" = some "?" ∧ store.pods.find? "ci:a" = some "?" := by
  intro store
  have hfirst : strangeStore.getPool "ci" = .ok none := rfl
  have hconcerns : ∀ event ∈ restarts, event.Concerns "ci" := by
    simp [restarts, Event.Concerns, wanting]
  have hregisters : Registers "ci" strangeStore restarts (wanting 3) 70 store :=
    registrations_keep hfirst hconcerns rfl 70
  obtain ⟨created, hcreated, hrecord⟩ := hregisters.record
  obtain rfl : 100 = created := Option.some.inj hcreated
  refine ⟨hfirst, hconcerns, rfl, hregisters, hrecord, ?_, ?_⟩
  · exact hregisters.pools "cx" (by decide)
  · rw [hregisters.pods]
    rfl

end Daemon

end PoolScaler
