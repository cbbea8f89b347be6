import Mathlib.Data.List.Sort
import PoolScaler.Proofs.Json.Reordered
import PoolScaler.Proofs.Text.Utf8
import PoolScaler.Source.TokenCache
import PoolScaler.Source.Wire
set_option autoImplicit false

/-!
# Records survive

A record that is stored or sent is read back as it was, from its text and from the bytes
of its text, in whatever order the members of its objects are written.
-/

namespace PoolScaler.Json

variable {α : Type} {dec : Decoder α} {write : α → Json}

/-- What is written is read back as it was, and the order of members does not matter. -/
structure Faithful (dec : Decoder α) (write : α → Json) : Prop where
  plain : ∀ a, (write a).Plain
  read : ∀ a, dec (write a) = .ok a
  orderless : Orderless dec

/-- Each form of what is written is read back from its text and from its bytes. -/
def Survives (dec : Decoder α) (write : α → Json) : Prop :=
  ∀ a j, Reordered (write a) j → decodeText dec j.render = .ok a ∧
    decodeBytes dec (Text.Utf8.encode j.render) = .ok a

theorem decodeBytes_encode (dec : Decoder α) (text : String) :
    decodeBytes dec (Text.Utf8.encode text) = decodeText dec text := by
  rw [decodeBytes, Text.Utf8.read_encode, decodeText]

namespace Faithful

theorem decodeText_render (h : Faithful dec write) {a : α} {j : Json} (hj : Reordered (write a) j) :
    decodeText dec j.render = .ok a := by
  rw [Json.decodeText_render dec (hj.plain (h.plain a))]
  exact h.orderless hj (h.read a)

theorem survives (h : Faithful dec write) : Survives dec write := by
  intro a j hj
  rw [decodeBytes_encode]
  exact ⟨h.decodeText_render hj, h.decodeText_render hj⟩

theorem text : Faithful asText .str := ⟨.str, fun _ => rfl, .text⟩

theorem uint32 : Faithful asUInt32 .ofUInt32 := ⟨plain_ofUInt32, asUInt32_ofUInt32, .uint32⟩

theorem uint64 : Faithful asUInt64 .ofUInt64 := ⟨plain_ofUInt64, asUInt64_ofUInt64, .uint64⟩

end Faithful

theorem asInt64_ofInt64 (n : Int64) : asInt64 (.ofInt64 n) = .ok n := by
  have hread : asIntIn (-9223372036854775808) 9223372036854775808 (.int n.toInt) = .ok n.toInt :=
    asIntIn_int n.le_toInt n.toInt_lt
  unfold asInt64 ofInt64
  rw [hread, Except.map, Int64.ofInt_toInt]

theorem plain_ofInt64 (n : Int64) : (Json.ofInt64 n).Plain := by
  have hlow := n.le_toInt
  have hhigh := n.toInt_lt
  have hsize : (UInt64.size : Int) = 18446744073709551616 := rfl
  exact .int (by omega) (by omega)

end PoolScaler.Json

namespace PoolScaler

open Json (Faithful Orderless Reordered)
open Json.Fields (stores_required stores_defaulted)
open Json.Fields.Orderless (required defaulted optional)

/-! ## Maps and words -/

theorem Keyed.find?_ofList {α : Type} {entries : List (String × α)}
    (hnodup : (entries.map (·.1)).Nodup) (key : String) :
    (ofList entries).find? key = entries.lookup key := by
  rw [ofList, find?_foldl_insert hnodup, find?_empty, Option.or_none]

/-- A map is known by what it has under each key. -/
theorem Keyed.eq_of_find?_eq {α : Type} {m n : Keyed α} (h : ∀ key, m.find? key = n.find? key) :
    m = n := by
  have : Std.Irrefl fun a b : String × α => a.1 < b.1 := ⟨fun _ => String.lt_irrefl _⟩
  have : Std.Antisymm fun a b : String × α => a.1 < b.1 :=
    ⟨fun _ _ hlt hlt' => absurd hlt' (String.lt_asymm hlt)⟩
  refine eq_of_entries_eq (m.sorted.eq_of_mem_iff n.sorted fun e => ⟨fun he => ?_, fun he => ?_⟩)
  · exact mem_of_find? ((h e.1).symm.trans (find?_of_mem he))
  · exact mem_of_find? ((h e.1).trans (find?_of_mem he))

theorem Json.Reordered.of_str {s : String} {j : Json} (h : Reordered (.str s) j) : j = .str s := by
  cases h
  rfl

theorem Json.Reordered.eq_of_texts {text? : Option String} {j? : Option Json}
    (h : Option.Rel Reordered (text?.map .str) j?) : j? = text?.map .str := by
  cases text? with
  | none =>
    cases h
    rfl
  | some text =>
    cases h with
    | some hj => rw [hj.of_str, Option.map_some]

theorem lookup_map_str (entries : List (String × String)) (name : String) :
    (entries.map fun e => (e.1, Json.str e.2)).lookup name = (entries.lookup name).map .str := by
  induction entries with
  | nil => rfl
  | cons e entries ih =>
    rw [List.map_cons, Keyed.lookup_cons, Keyed.lookup_cons, ih]
    split <;> rfl

theorem exists_texts {members : List (String × Json)} (h : ∀ m ∈ members, ∃ s, m.2 = .str s) :
    ∃ entries : List (String × String), members = entries.map fun e => (e.1, .str e.2) := by
  induction members with
  | nil => exact ⟨[], rfl⟩
  | cons m members ih =>
    obtain ⟨⟨s, hs⟩, h⟩ := List.forall_mem_cons.mp h
    obtain ⟨entries, rfl⟩ := ih h
    exact ⟨(m.1, s) :: entries, by rw [List.map_cons, ← hs]⟩

/-- A map is read from its entries in any order. -/
theorem Pairs.orderless : Orderless Pairs.decoder := by
  refine .intro (fun _ hdec => nomatch hdec) fun {members members' m} hnodup hnames hvalues hdec => ?_
  have hdecoder : ∀ members : List (String × Json), Pairs.decoder (.object members) =
      (Json.readEntries Json.asText (members.map fun m => (.ok m.1, m.2)) none).map Keyed.ofList :=
    fun _ => rfl
  rw [hdecoder] at hdec ⊢
  cases hread : Json.readEntries Json.asText (members.map fun m => (.ok m.1, m.2)) none with
  | error fault =>
    rw [hread] at hdec
    cases hdec
  | ok entries =>
    rw [hread] at hdec
    obtain rfl := readEntries_eq_ok_iff.mp hread
    have hlookup : ∀ name, members'.lookup name = (entries.lookup name).map .str := by
      intro name
      have hname := hvalues name
      rw [lookup_map_str] at hname
      exact Json.Reordered.eq_of_texts hname
    have hnodup' : (members'.map (·.1)).Nodup := hnames.nodup_iff.mpr hnodup
    obtain ⟨entries', rfl⟩ : ∃ entries' : List (String × String),
        members' = entries'.map fun e => (e.1, .str e.2) := by
      refine exists_texts fun m hm => ?_
      have hm' := Json.lookup_of_mem hnodup' hm
      rw [hlookup] at hm'
      obtain ⟨s, -, hs⟩ := Option.map_eq_some_iff.mp hm'
      exact ⟨s, hs.symm⟩
    rw [readEntries_eq_ok_iff.mpr rfl, ← hdec]
    refine congrArg Except.ok (Keyed.eq_of_find?_eq fun key => ?_)
    rw [List.map_map] at hnodup hnodup'
    have hsame := hlookup key
    rw [lookup_map_str] at hsame
    rw [Keyed.find?_ofList hnodup, Keyed.find?_ofList hnodup']
    exact Option.map_injective (fun _ _ => Json.str.inj) hsame

/-- An object that stands for a word has the word as its only name, with null. -/
theorem asWord_object {α : Type} {words : List (String × α)} {members : List (String × Json)} {a : α}
    (h : Json.asWord words (.object members) = .ok a) : ∃ name, members = [(name, .null)] := by
  rcases members with _ | ⟨⟨name, j⟩, rest⟩
  · cases h
  · rw [Json.object, List.map_cons, Json.asWord] at h
    dsimp only [bind, Except.bind] at h
    cases hword : Json.asWord.pick words name with
    | error fault =>
      rw [hword] at h
      cases h
    | ok b =>
      rw [hword] at h
      cases j with
      | null =>
        cases rest with
        | nil => exact ⟨name, rfl⟩
        | cons m rest => cases h
      | bool | int | real | str | arr | obj | spoiled => cases h

theorem Phase.orderless : Orderless Phase.decoder := by
  refine .intro (fun _ hdec => nomatch hdec) fun {members members' p} hnodup hnames hvalues hdec => ?_
  obtain ⟨name, rfl⟩ := asWord_object hdec
  have hlength := hnames.length_eq
  rw [List.length_map] at hlength
  obtain ⟨⟨name', j⟩, rfl⟩ := List.length_eq_one_iff.mp hlength
  obtain rfl : name' = name := by
    simpa only [List.map_cons, List.map_nil, List.perm_singleton, List.cons.injEq, and_true]
      using hnames
  have hvalue := hvalues name'
  simp only [Keyed.lookup_cons, if_true] at hvalue
  cases hvalue with
  | some hj =>
    cases hj
    exact hdec

/-! ## Stored records -/

theorem Identity.orderless : Identity.fields.Orderless :=
  ((((defaulted "enterprise" "" .text).map Identity.mk).ap
    (defaulted "organization" "" .text)).ap
    (defaulted "repository" "" .text)).ap
    (required "pool_name" .text)

theorem PodTemplate.orderless : PodTemplate.fields.Orderless :=
  (((required "image" .text).map PodTemplate.mk).ap
    (defaulted "labels" Keyed.empty Pairs.orderless)).ap
    (defaulted "env" Keyed.empty Pairs.orderless)

theorem PoolSpec.orderless : PoolSpec.fields.Orderless :=
  ((((((required "name" .text).map PoolSpec.mk).ap
    (required "identity" Identity.orderless.read)).ap
    (required "min_replicas" .uint32)).ap
    (optional "max_replicas" .uint32)).ap
    (required "template" PodTemplate.orderless.read)).ap
    (required "created_at" .uint64)

theorem Reservation.orderless : Reservation.fields.Orderless :=
  (((required "name" .text).map Reservation.mk).ap
    (required "replicas" .uint32)).ap
    (required "expiration_time" .uint64)

theorem PoolStatus.orderless : PoolStatus.fields.Orderless :=
  ((((((required "desired_replicas" .uint32).map PoolStatus.mk).ap
    (required "available_replicas" .uint32)).ap
    (required "ready_replicas" .uint32)).ap
    (defaulted "capacity_reservations" [] Reservation.orderless.read.list)).ap
    (defaulted "last_scale_up_at" none Orderless.uint64.option)).ap
    (required "updated_at" .uint64)

theorem PoolRecord.orderless : PoolRecord.fields.Orderless :=
  ((required "spec" PoolSpec.orderless.read).map PoolRecord.mk).ap
    (defaulted "status" PoolStatus.initial PoolStatus.orderless.read)

theorem Pod.orderless : Pod.fields.Orderless :=
  (((((((required "name" .text).map Pod.mk).ap
    (required "owner" .text)).ap
    (required "phase" Phase.orderless)).ap
    (required "image" .text)).ap
    (required "labels" Pairs.orderless)).ap
    (required "env" Pairs.orderless)).ap
    (required "created_at" .uint64)

theorem PoolRecord.faithful : Faithful PoolRecord.fields.read PoolRecord.toJson :=
  ⟨PoolRecord.plain_toJson, PoolRecord.read_toJson, PoolRecord.orderless.read⟩

theorem Pod.faithful : Faithful Pod.fields.read Pod.toJson :=
  ⟨Pod.plain_toJson, Pod.read_toJson, Pod.orderless.read⟩

namespace CacheEntry

variable {α : Type} {dec : Json.Decoder α} {write : α → Json}

/-- An entry of a cache is as faithful as its values. -/
theorem faithful (h : Faithful dec write) : Faithful (fields dec).read (toJson write) := by
  refine ⟨fun e => .object ?_, fun e => ?_, ?_⟩
  · simp only [List.forall_mem_cons]
    exact ⟨.str _, h.plain _, Json.plain_ofUInt64 _, nofun⟩
  · exact (((stores_required "key" (asText_str e.key)).map CacheEntry.mk).ap
      (stores_required "value" (h.read e.value))).ap
      (stores_required "expiration_time" (Json.asUInt64_ofUInt64 e.expirationTime))
      |>.read (show ["key", "value", "expiration_time"].Nodup by decide)
  · exact ((((required "key" .text).map CacheEntry.mk).ap
      (required "value" h.orderless)).ap
      (required "expiration_time" .uint64)).read

end CacheEntry

/-! ## Records of the wire -/

theorem AdminConnection.faithful : Faithful AdminConnection.fields.read AdminConnection.toJson := by
  refine ⟨fun c => .object ?_, fun c => ?_, ?_⟩
  · simp only [List.forall_mem_cons]
    exact ⟨.str _, .str _, nofun⟩
  · exact ((stores_required "url" (asText_str c.url)).map AdminConnection.mk).ap
      (stores_required "token" (asText_str c.token)) |>.read (by decide)
  · exact (((required "url" .text).map AdminConnection.mk).ap (required "token" .text)).read

theorem Label.faithful : Faithful Label.fields.read Label.toJson := by
  refine ⟨fun l => .object ?_, fun l => ?_, ?_⟩
  · simp only [List.forall_mem_cons]
    exact ⟨.str _, .str _, nofun⟩
  · exact ((stores_required "name" (asText_str l.name)).map Label.mk).ap
      (stores_required "type" (asText_str l.kind)) |>.read (by decide)
  · exact (((required "name" .text).map Label.mk).ap (required "type" .text)).read

theorem RunnerSetting.faithful : Faithful RunnerSetting.fields.read RunnerSetting.toJson := by
  refine ⟨fun s => .object ?_, fun s => ?_, ?_⟩
  · simp only [List.forall_mem_cons]
    exact ⟨.bool _, .bool _, nofun⟩
  · exact ((stores_defaulted "ephemeral" false rfl).map RunnerSetting.mk).ap
      (stores_defaulted "disableUpdate" false rfl) |>.read (by decide)
  · exact (((defaulted "ephemeral" false .bool).map RunnerSetting.mk).ap
      (defaulted "disableUpdate" false .bool)).read

theorem RunnerPool.faithful : Faithful RunnerPool.fields.read RunnerPool.toJson := by
  refine ⟨fun p => .object ?_, fun p => ?_, ?_⟩
  · simp only [List.forall_mem_cons]
    exact ⟨Json.plain_ofInt64 _, .str _, Json.plain_ofInt64 _,
      Json.plain_list_map Label.faithful.plain _, RunnerSetting.faithful.plain _, nofun⟩
  · exact (((((stores_defaulted "id" 0 (Json.asInt64_ofInt64 p.id)).map RunnerPool.mk).ap
      (stores_required "name" (asText_str p.name))).ap
      (stores_defaulted "runnerGroupId" 0 (Json.asInt64_ofInt64 p.groupId))).ap
      (stores_defaulted "labels" [] (Json.asList_map Label.faithful.read p.labels))).ap
      (stores_defaulted "runnerSetting" RunnerSetting.plain
        (RunnerSetting.faithful.read p.setting)) |>.read (by decide)
  · exact (((((defaulted "id" 0 .int64).map RunnerPool.mk).ap
      (required "name" .text)).ap
      (defaulted "runnerGroupId" 0 .int64)).ap
      (defaulted "labels" [] Label.faithful.orderless.list)).ap
      (defaulted "runnerSetting" RunnerSetting.plain RunnerSetting.faithful.orderless) |>.read

theorem SessionLease.faithful : Faithful SessionLease.fields.read SessionLease.toJson := by
  refine ⟨fun l => .object ?_, fun l => ?_, ?_⟩
  · simp only [List.forall_mem_cons]
    exact ⟨.str _, .str _, RunnerPool.faithful.plain _, .str _, .str _, nofun⟩
  · exact (((((stores_required "sessionId" (asText_str l.sessionId)).map SessionLease.mk).ap
      (stores_defaulted "ownerName" "" (asText_str l.ownerName))).ap
      (stores_required "runnerScaleSet" (RunnerPool.faithful.read l.pool))).ap
      (stores_required "messageQueueUrl" (asText_str l.queueUrl))).ap
      (stores_required "messageQueueAccessToken" (asText_str l.queueToken)) |>.read (by decide)
  · exact (((((required "sessionId" .text).map SessionLease.mk).ap
      (defaulted "ownerName" "" .text)).ap
      (required "runnerScaleSet" RunnerPool.faithful.orderless)).ap
      (required "messageQueueUrl" .text)).ap
      (required "messageQueueAccessToken" .text) |>.read

theorem QueueMessage.faithful : Faithful QueueMessage.fields.read QueueMessage.toJson := by
  refine ⟨fun m => .object ?_, fun m => ?_, ?_⟩
  · simp only [List.forall_mem_cons]
    exact ⟨Json.plain_ofInt64 _, .str _, .str _, nofun⟩
  · exact (((stores_required "messageId" (Json.asInt64_ofInt64 m.id)).map QueueMessage.mk).ap
      (stores_required "messageType" (asText_str m.kind))).ap
      (stores_defaulted "body" "" (asText_str m.body)) |>.read (by decide)
  · exact ((((required "messageId" .int64).map QueueMessage.mk).ap
      (required "messageType" .text)).ap
      (defaulted "body" "" .text)).read

end PoolScaler
