import PoolScaler.Proofs.Json.Changes
import PoolScaler.Source.Wire
set_option autoImplicit false

/-!
# Records of other programs

Stored records outlive the program that wrote them, and the job source says more than is
asked of it.  So records are read whatever the order of their members, with members nobody
knows, and without those for which a default stands or null; without any other they are
refused.  This holds at each record inside them.
-/

namespace PoolScaler

open Json (AtItem Same Slot Tolerant Without)
open Json.Fields.Follows (required defaulted optional)

/-! ## Stored records -/

/-- What an identity is read from. -/
def Identity.slots : List Slot := [
  .defaulted "enterprise" Json.asText "" .fixed,
  .defaulted "organization" Json.asText "" .fixed,
  .defaulted "repository" Json.asText "" .fixed,
  .required "pool_name" .fixed]

theorem Identity.follows : Identity.fields.Follows Identity.slots :=
  ((((defaulted "enterprise" "" .fixed).map Identity.mk).ap
    (defaulted "organization" "" .fixed)).ap
    (defaulted "repository" "" .fixed)).ap
    (required "pool_name" .fixed)

/-- What a template is read from; its maps are taken as they are. -/
def PodTemplate.slots : List Slot := [
  .required "image" .fixed,
  .defaulted "labels" Pairs.decoder .empty .fixed,
  .defaulted "env" Pairs.decoder .empty .fixed]

theorem PodTemplate.follows : PodTemplate.fields.Follows PodTemplate.slots :=
  (((required "image" .fixed).map PodTemplate.mk).ap
    (defaulted "labels" Keyed.empty .fixed)).ap
    (defaulted "env" Keyed.empty .fixed)

/-- What a spec is read from. -/
def PoolSpec.slots : List Slot := [
  .required "name" .fixed,
  .required "identity" (.record Identity.slots),
  .required "min_replicas" .fixed,
  .optional "max_replicas" .fixed,
  .required "template" (.record PodTemplate.slots),
  .required "created_at" .fixed]

theorem PoolSpec.follows : PoolSpec.fields.Follows PoolSpec.slots :=
  ((((((required "name" .fixed).map PoolSpec.mk).ap
    (required "identity" (Identity.follows.obeys (by decide)))).ap
    (required "min_replicas" .fixed)).ap
    (optional "max_replicas" .fixed)).ap
    (required "template" (PodTemplate.follows.obeys (by decide)))).ap
    (required "created_at" .fixed)

/-- What a reservation is read from. -/
def Reservation.slots : List Slot := [
  .required "name" .fixed,
  .required "replicas" .fixed,
  .required "expiration_time" .fixed]

theorem Reservation.follows : Reservation.fields.Follows Reservation.slots :=
  (((required "name" .fixed).map Reservation.mk).ap
    (required "replicas" .fixed)).ap
    (required "expiration_time" .fixed)

/-- What a status is read from. -/
def PoolStatus.slots : List Slot := [
  .required "desired_replicas" .fixed,
  .required "available_replicas" .fixed,
  .required "ready_replicas" .fixed,
  .defaulted "capacity_reservations" (Json.asList Reservation.fields.read) []
    (.items (.record Reservation.slots)),
  .defaulted "last_scale_up_at" (Json.asOption Json.asUInt64) none .fixed,
  .required "updated_at" .fixed]

theorem PoolStatus.follows : PoolStatus.fields.Follows PoolStatus.slots :=
  ((((((required "desired_replicas" .fixed).map PoolStatus.mk).ap
    (required "available_replicas" .fixed)).ap
    (required "ready_replicas" .fixed)).ap
    (defaulted "capacity_reservations" [] (Reservation.follows.obeys (by decide)).items)).ap
    (defaulted "last_scale_up_at" none .fixed)).ap
    (required "updated_at" .fixed)

/-- What a pool is read from. -/
def PoolRecord.slots : List Slot := [
  .required "spec" (.record PoolSpec.slots),
  .defaulted "status" PoolStatus.fields.read .initial (.record PoolStatus.slots)]

theorem PoolRecord.follows : PoolRecord.fields.Follows PoolRecord.slots :=
  ((required "spec" (PoolSpec.follows.obeys (by decide))).map PoolRecord.mk).ap
    (defaulted "status" PoolStatus.initial (PoolStatus.follows.obeys (by decide)))

/-- What a pod is read from; all of it must be there. -/
def Pod.slots : List Slot := [
  .required "name" .fixed,
  .required "owner" .fixed,
  .required "phase" .fixed,
  .required "image" .fixed,
  .required "labels" .fixed,
  .required "env" .fixed,
  .required "created_at" .fixed]

theorem Pod.follows : Pod.fields.Follows Pod.slots :=
  (((((((required "name" .fixed).map Pod.mk).ap
    (required "owner" .fixed)).ap
    (required "phase" .fixed)).ap
    (required "image" .fixed)).ap
    (required "labels" .fixed)).ap
    (required "env" .fixed)).ap
    (required "created_at" .fixed)

/-! ## Records of the wire -/

/-- What a label is read from. -/
def Label.slots : List Slot := [.required "name" .fixed, .required "type" .fixed]

theorem Label.follows : Label.fields.Follows Label.slots :=
  ((required "name" .fixed).map Label.mk).ap (required "type" .fixed)

/-- What a setting is read from. -/
def RunnerSetting.slots : List Slot := [
  .defaulted "ephemeral" Json.asBool false .fixed,
  .defaulted "disableUpdate" Json.asBool false .fixed]

theorem RunnerSetting.follows : RunnerSetting.fields.Follows RunnerSetting.slots :=
  ((defaulted "ephemeral" false .fixed).map RunnerSetting.mk).ap
    (defaulted "disableUpdate" false .fixed)

/-- What a pool of runners is read from. -/
def RunnerPool.slots : List Slot := [
  .defaulted "id" Json.asInt64 0 .fixed,
  .required "name" .fixed,
  .defaulted "runnerGroupId" Json.asInt64 0 .fixed,
  .defaulted "labels" (Json.asList Label.fields.read) [] (.items (.record Label.slots)),
  .defaulted "runnerSetting" RunnerSetting.fields.read .plain (.record RunnerSetting.slots)]

theorem RunnerPool.follows : RunnerPool.fields.Follows RunnerPool.slots :=
  (((((defaulted "id" 0 .fixed).map RunnerPool.mk).ap
    (required "name" .fixed)).ap
    (defaulted "runnerGroupId" 0 .fixed)).ap
    (defaulted "labels" [] (Label.follows.obeys (by decide)).items)).ap
    (defaulted "runnerSetting" RunnerSetting.plain (RunnerSetting.follows.obeys (by decide)))

/-- What a lease is read from. -/
def SessionLease.slots : List Slot := [
  .required "sessionId" .fixed,
  .defaulted "ownerName" Json.asText "" .fixed,
  .required "runnerScaleSet" (.record RunnerPool.slots),
  .required "messageQueueUrl" .fixed,
  .required "messageQueueAccessToken" .fixed]

theorem SessionLease.follows : SessionLease.fields.Follows SessionLease.slots :=
  (((((required "sessionId" .fixed).map SessionLease.mk).ap
    (defaulted "ownerName" "" .fixed)).ap
    (required "runnerScaleSet" (RunnerPool.follows.obeys (by decide)))).ap
    (required "messageQueueUrl" .fixed)).ap
    (required "messageQueueAccessToken" .fixed)

/-- What a message is read from. -/
def QueueMessage.slots : List Slot := [
  .required "messageId" .fixed,
  .required "messageType" .fixed,
  .defaulted "body" Json.asText "" .fixed]

theorem QueueMessage.follows : QueueMessage.fields.Follows QueueMessage.slots :=
  (((required "messageId" .fixed).map QueueMessage.mk).ap
    (required "messageType" .fixed)).ap
    (defaulted "body" "" .fixed)

/-! ## All of them -/

/-- Stored pools and pods, and the pools, leases and messages of the job source, are read the
same from any text that says the same, are refused when a needed field is left out at any
record inside them, and are taken when any other is, as if its default or null stood there. -/
theorem decoding_tolerates_changes :
    Tolerant PoolRecord.fields.read (.record PoolRecord.slots) ∧
      Tolerant Pod.fields.read (.record Pod.slots) ∧
      Tolerant RunnerPool.fields.read (.record RunnerPool.slots) ∧
      Tolerant SessionLease.fields.read (.record SessionLease.slots) ∧
      Tolerant QueueMessage.fields.read (.record QueueMessage.slots) :=
  ⟨(PoolRecord.follows.obeys (by decide)).tolerant, (Pod.follows.obeys (by decide)).tolerant,
    (RunnerPool.follows.obeys (by decide)).tolerant,
    (SessionLease.follows.obeys (by decide)).tolerant,
    (QueueMessage.follows.obeys (by decide)).tolerant⟩

/-- The members of a pool of runners with one label. -/
def singlePool (label : List (String × Json)) : List (String × Json) :=
  [("name", .str "ci"), ("labels", .list [.object label])]

/-- A pool of runners is read in another order and with a member in its label that nobody asks
for; it is refused when the label lacks its type. -/
theorem decoding_tolerates_changes_label :
    (Json.Document.mk (.object (singlePool [("color", .null), ("name", .str "ci"),
        ("type", .str "User")]).reverse) false).decode RunnerPool.fields.read =
      .ok ⟨0, "ci", 0, [⟨"ci", "User"⟩], .plain⟩ ∧
    ∃ fault, (Json.Document.mk (.object (singlePool [("name", .str "ci")])) false).decode
      RunnerPool.fields.read = .error fault := by
  have hread : (Json.Document.mk (.object (singlePool [("name", .str "ci"),
      ("type", .str "User")])) false).decode RunnerPool.fields.read =
      .ok ⟨0, "ci", 0, [⟨"ci", "User"⟩], .plain⟩ := rfl
  have hlabels : .defaulted "labels" (Json.asList Label.fields.read) []
      (.items (.record Label.slots)) ∈ RunnerPool.slots :=
    .tail _ (.tail _ (.tail _ (.head _)))
  have hadded : Same RunnerPool.slots
      (.object (singlePool [("name", .str "ci"), ("type", .str "User")]))
      (.object (singlePool [("color", .null), ("name", .str "ci"), ("type", .str "User")])) :=
    @Same.within _ [("name", .str "ci")] [] _ _ _ hlabels
      (@AtItem.intro _ [] [] _ _ (@Same.add _ [] _ _ _ (by decide) .null))
  have hmoved : Same RunnerPool.slots
      (.object (singlePool [("color", .null), ("name", .str "ci"), ("type", .str "User")]))
      (.object
        (singlePool [("color", .null), ("name", .str "ci"), ("type", .str "User")]).reverse) :=
    .reorder (List.reverse_perm _).symm
  have hlost : Without RunnerPool.slots true
      (.object (singlePool [("name", .str "ci"), ("type", .str "User")]))
      (.object (singlePool [("name", .str "ci")])) :=
    @Without.within _ _ [("name", .str "ci")] [] _ _ _ hlabels (@AtItem.intro _ [] [] _ _
      (@Without.here _ _ [("name", .str "ci")] [] (.required "type" .fixed) _
        (.tail _ (.head _)) rfl))
  exact ⟨decoding_tolerates_changes.2.2.1.same hread (hadded.trans hmoved) rfl,
    decoding_tolerates_changes.2.2.1.needed hread hlost⟩

/-- It is not so that no field may be left out but one whose value means its absence: a message
is taken without the body that it had. -/
theorem field_with_default_left_out :
    ¬ ∀ (slot : Slot) (before after : List (String × Json)) (j : Json) (message : QueueMessage),
      slot ∈ QueueMessage.slots → ¬ (slot.needed = false ∧ slot.idle j) →
      QueueMessage.fields.read (.object (before ++ (slot.name, j) :: after)) = .ok message →
      ∃ fault, QueueMessage.fields.read (.object (before ++ after)) = .error fault := by
  intro hrefused
  have hidle : ¬ Json.asText (.str "done") = .ok "" := by decide
  obtain ⟨fault, hread⟩ := hrefused (.defaulted "body" Json.asText "" .fixed)
    [("messageId", .int 1), ("messageType", .str "Done")] [] (.str "done") ⟨1, "Done", "done"⟩
    (.tail _ (.tail _ (.head _))) (fun h => hidle h.2) rfl
  cases hread

end PoolScaler
