import Mathlib.Data.List.Forall2
import Mathlib.Data.List.Nodup
import PoolScaler.Proofs.Precedence
import PoolScaler.Proofs.Store.Filed
set_option autoImplicit false

/-!
# The pods of one pool

Where all pods listed for a pool belong to it, each is there under its name
once, in the order of creation and then of the names.  Deleting a pod takes it
from the list and leaves the others in their order.
-/

namespace PoolScaler

theorem Pod.key_injective {pool a b : String} (h : Pod.key pool a = Pod.key pool b) : a = b := by
  unfold Pod.key at h
  have hlist := congrArg String.toList h
  simp only [String.toList_append] at hlist
  exact String.toList_injective (List.append_cancel_left hlist)

namespace Store

theorem startsWith_key (pool name : String) :
    startsWith (Pod.key pool name) (podKeyStart pool) := by
  unfold startsWith podKeyStart Pod.key
  rw [List.isPrefixOf_iff_prefix]
  simp only [String.toList_append]
  exact List.prefix_append _ _

theorem mapM_eq_ok_iff {ε α β : Type} {f : α → Except ε β} {as : List α} {bs : List β} :
    as.mapM f = .ok bs ↔ List.Forall₂ (fun a b => f a = .ok b) as bs := by
  induction as generalizing bs with
  | nil =>
    rw [List.mapM_nil, List.forall₂_nil_left_iff]
    exact ⟨fun h => (Except.ok.inj h).symm, fun h => h ▸ rfl⟩
  | cons a as ih =>
    rw [List.mapM_cons]
    constructor
    · intro h
      cases ha : f a with
      | error e => rw [ha] at h; cases h
      | ok b =>
        cases has : as.mapM f with
        | error e => rw [ha, has] at h; cases h
        | ok bs' =>
          rw [ha, has] at h
          obtain rfl := Except.ok.inj h
          exact .cons ha (ih.mp has)
    · intro h
      cases h with
      | cons ha has =>
        rw [ha, ih.mpr has]
        rfl

theorem exists_of_mem_right {α β : Type} {R : α → β → Prop} {as : List α} {bs : List β}
    (h : List.Forall₂ R as bs) {b : β} (hb : b ∈ bs) : ∃ a ∈ as, R a b := by
  induction h with
  | nil => cases hb
  | @cons a b' as bs hab _ ih =>
    rcases List.mem_cons.mp hb with rfl | hb
    · exact ⟨a, List.mem_cons_self, hab⟩
    · obtain ⟨a', ha', hab'⟩ := ih hb
      exact ⟨a', List.mem_cons_of_mem a ha', hab'⟩

/-! ## The order of a list of pods -/

theorem listedBefore_iff (a b : Pod) :
    listedBefore a b = true ↔ Precedes (a.createdAt, a.name) (b.createdAt, b.name) := by
  simp [listedBefore, Precedes]

theorem listedBefore_trans (a b c : Pod) (hab : listedBefore a b = true)
    (hbc : listedBefore b c = true) : listedBefore a c = true := by
  rw [listedBefore_iff] at *
  exact hab.trans hbc

theorem listedBefore_total (a b : Pod) : (listedBefore a b || listedBefore b a) = true := by
  rw [Bool.or_eq_true, listedBefore_iff, listedBefore_iff]
  exact Precedes.total _ _

/-- Pods of different names have one order only. -/
theorem mergeSort_listedBefore {found pods : List Pod} (hperm : found.Perm pods)
    (hnames : (pods.map (·.name)).Nodup)
    (hsorted : pods.Pairwise fun a b => listedBefore a b = true) :
    found.mergeSort listedBefore = pods := by
  refine List.Perm.eq_of_pairwise (fun a b ha hb hab hba => ?_)
    (List.pairwise_mergeSort listedBefore_trans listedBefore_total found) hsorted
    ((List.mergeSort_perm found _).trans hperm)
  have ha := hperm.mem_iff.mp (List.mem_mergeSort.mp ha)
  rw [listedBefore_iff] at hab hba
  exact List.inj_on_of_nodup_map hnames ha hb (Prod.mk.inj (hab.antisymm hba)).2

/-! ## Lists of pods -/

/-- The texts of the pods listed for a pool, in the order of their keys. -/
def texts (s : Store) (pool : String) : List (String × String) :=
  s.pods.entries.filter fun e => startsWith e.1 (podKeyStart pool)

theorem listPods_of_texts {s : Store} {pool : String} {found : List Pod}
    (hread : (texts s pool).mapM (fun e => readPod e.2) = .ok found) :
    s.listPods pool = .ok (found.mergeSort listedBefore) := by
  unfold texts at hread
  unfold listPods
  simp only [hread]

theorem listPods_of_pods_eq {s s' : Store} (hpods : s'.pods = s.pods) (pool : String) :
    s'.listPods pool = s.listPods pool := by
  unfold listPods
  rw [hpods]

/-- The pods listed for a pool, all of which belong to it. -/
structure Roster (s : Store) (pool : String) (pods : List Pod) : Prop where
  filed : s.Filed
  listed : s.listPods pool = .ok pods
  owned : ∀ p ∈ pods, p.owner = pool

namespace Roster

variable {s : Store} {pool : String} {pods : List Pod}

/-- The pods that were found, in the order of their keys. -/
theorem exists_found (h : Roster s pool pods) :
    ∃ found, pods = found.mergeSort listedBefore ∧
      List.Forall₂ (fun e p => readPod e.2 = .ok p ∧ e.1 = Pod.key pool p.name) (texts s pool)
        found := by
  have hlisted := h.listed
  unfold listPods at hlisted
  dsimp only at hlisted
  split at hlisted
  · cases hlisted
  · rename_i found hfound
    obtain rfl := Except.ok.inj hlisted
    have hread := mapM_eq_ok_iff.mp hfound
    rw [List.forall₂_iff_zip] at hread
    refine ⟨found, rfl, List.forall₂_iff_zip.mpr ⟨hread.1, fun {e p} hmem => ?_⟩⟩
    have hp := hread.2 hmem
    obtain ⟨he, hfoundp⟩ := List.of_mem_zip hmem
    obtain ⟨p', hp', hkey⟩ := h.filed.pods e.1 e.2 (Keyed.find?_of_mem (List.mem_of_mem_filter he))
    obtain rfl := Except.ok.inj (hp.symm.trans hp')
    have howner := h.owned p (List.mem_mergeSort.mpr hfoundp)
    exact ⟨hp, by rw [← hkey, Pod.tableKey, howner]⟩

theorem mem_texts {name text : String} (hfind : s.pods.find? (Pod.key pool name) = some text) :
    (Pod.key pool name, text) ∈ texts s pool :=
  List.mem_filter.mpr ⟨Keyed.mem_of_find? hfind, startsWith_key pool name⟩

/-- A pod is listed if it stands under its name. -/
theorem mem_iff (h : Roster s pool pods) {p : Pod} :
    p ∈ pods ↔ ∃ text, s.pods.find? (Pod.key pool p.name) = some text ∧ readPod text = .ok p := by
  obtain ⟨found, rfl, hfound⟩ := h.exists_found
  rw [List.mem_mergeSort]
  constructor
  · intro hp
    obtain ⟨e, he, hread, hkey⟩ := exists_of_mem_right hfound hp
    rw [← hkey]
    exact ⟨e.2, Keyed.find?_of_mem (List.mem_of_mem_filter he), hread⟩
  · rintro ⟨text, hfind, hread⟩
    obtain ⟨p', hp', hread', -⟩ := exists_of_mem_right hfound.flip (mem_texts hfind)
    obtain rfl := Except.ok.inj (hread'.symm.trans hread)
    exact hp'

/-- No two pods of a pool have the same name. -/
theorem nodup_names (h : Roster s pool pods) : (pods.map (·.name)).Nodup := by
  obtain ⟨found, rfl, hfound⟩ := h.exists_found
  have hkeys : (texts s pool).map (·.1) = (found.map (·.name)).map (Pod.key pool) := by
    clear h
    generalize texts s pool = entries at hfound
    induction hfound with
    | nil => rfl
    | cons hep _ ih =>
      rw [List.map_cons, List.map_cons, List.map_cons, hep.2, ih]
  have hsorted : ((texts s pool).map (·.1)).Nodup := by
    refine List.pairwise_map.mpr ((s.pods.sorted.filter _).imp fun hlt heq => ?_)
    exact String.lt_irrefl _ (heq ▸ hlt)
  rw [hkeys] at hsorted
  exact ((List.mergeSort_perm found _).map _).nodup_iff.mpr (List.Nodup.of_map _ hsorted)

theorem nodup (h : Roster s pool pods) : pods.Nodup := List.Nodup.of_map _ h.nodup_names

theorem eq_of_name_eq (h : Roster s pool pods) {p q : Pod} (hp : p ∈ pods) (hq : q ∈ pods)
    (hname : p.name = q.name) : p = q :=
  List.inj_on_of_nodup_map h.nodup_names hp hq hname

/-- Pods are listed in the order of creation, then of the names. -/
theorem pairwise (h : Roster s pool pods) : pods.Pairwise fun a b => listedBefore a b = true := by
  obtain ⟨found, rfl, -⟩ := h.exists_found
  exact List.pairwise_mergeSort listedBefore_trans listedBefore_total found

/-- Deleting a pod takes it from the list. -/
theorem deletePod (h : Roster s pool pods) (name : String) :
    Roster (s.deletePod pool name).2 pool (pods.filter (·.name != name)) := by
  refine ⟨h.filed.deletePod pool name, ?_, fun p hp => h.owned p (List.mem_of_mem_filter hp)⟩
  obtain ⟨found, hpods, hfound⟩ := h.exists_found
  have htexts : texts (s.deletePod pool name).2 pool =
      (texts s pool).filter (·.1 != Pod.key pool name) :=
    List.filter_comm _ _ _
  have hkept : List.Forall₂ (fun e p => readPod e.2 = .ok p ∧ e.1 = Pod.key pool p.name)
      ((texts s pool).filter (·.1 != Pod.key pool name)) (found.filter (·.name != name)) := by
    refine List.rel_filter (fun e p hep => ?_) hfound
    change (e.1 != _) = true ↔ (p.name != name) = true
    rw [hep.2, bne_iff_ne, bne_iff_ne]
    exact not_congr ⟨Pod.key_injective, fun hname => by rw [hname]⟩
  have hread : (texts (s.deletePod pool name).2 pool).mapM (fun e => readPod e.2) =
      .ok (found.filter (·.name != name)) := by
    rw [htexts]
    exact mapM_eq_ok_iff.mpr (hkept.imp fun _ _ hep => hep.1)
  have hsort : (found.filter (·.name != name)).mergeSort listedBefore =
      pods.filter (·.name != name) := by
    refine mergeSort_listedBefore ?_ (h.nodup_names.sublist (List.filter_sublist.map _))
      (h.pairwise.filter _)
    rw [hpods]
    exact (List.mergeSort_perm found _).symm.filter _
  rw [← hsort]
  exact listPods_of_texts hread

/-- What is listed is there whenever it can be looked up, pods of another pool
never being among it. -/
theorem of_pods_eq (h : Roster s pool pods) {s' : Store} (hfiled : s'.Filed)
    (hpods : s'.pods = s.pods) : Roster s' pool pods := by
  exact ⟨hfiled, (listPods_of_pods_eq hpods pool).trans h.listed, h.owned⟩

end Roster

/-! ## Stores whose pods can be listed -/

/-- Whatever stands among the pods of a pool belongs to it. -/
def Owned (s : Store) (pool : String) : Prop :=
  ∀ key text p, s.pods.find? key = some text → startsWith key (podKeyStart pool) = true →
    readPod text = .ok p → p.owner = pool

theorem Roster.store_owned {s : Store} {pool : String} {pods : List Pod}
    (h : Roster s pool pods) : s.Owned pool := by
  intro key text p hfind hstart hread
  obtain ⟨found, rfl, hfound⟩ := h.exists_found
  have hmem : (key, text) ∈ texts s pool :=
    List.mem_filter.mpr ⟨Keyed.mem_of_find? hfind, hstart⟩
  obtain ⟨p', hp', hread', -⟩ := exists_of_mem_right hfound.flip hmem
  obtain rfl := Except.ok.inj (hread'.symm.trans hread)
  exact h.owned p' (List.mem_mergeSort.mpr hp')

theorem exists_mapM_eq_ok {ε α β : Type} {f : α → Except ε β} {as : List α}
    (h : ∀ a ∈ as, ∃ b, f a = .ok b) : ∃ bs, as.mapM f = .ok bs := by
  induction as with
  | nil => exact ⟨[], rfl⟩
  | cons a as ih =>
    obtain ⟨b, hb⟩ := h a List.mem_cons_self
    obtain ⟨bs, hbs⟩ := ih fun a' ha' => h a' (List.mem_cons_of_mem a ha')
    exact ⟨b :: bs, mapM_eq_ok_iff.mpr (.cons hb (mapM_eq_ok_iff.mp hbs))⟩

/-- The pods of a pool can be listed, and each of them stands among its pods. -/
theorem Filed.listPods_ok {s : Store} (h : s.Filed) (pool : String) :
    ∃ pods, s.listPods pool = .ok pods ∧ ∀ p ∈ pods, ∃ key text,
      s.pods.find? key = some text ∧ startsWith key (podKeyStart pool) = true ∧
        readPod text = .ok p := by
  have hread : ∀ e ∈ texts s pool, ∃ p, readPod e.2 = .ok p := by
    intro e he
    obtain ⟨p, hp, -⟩ := h.pods e.1 e.2 (Keyed.find?_of_mem (List.mem_of_mem_filter he))
    exact ⟨p, hp⟩
  obtain ⟨found, hfound⟩ := exists_mapM_eq_ok hread
  refine ⟨found.mergeSort listedBefore, listPods_of_texts hfound, fun p hp => ?_⟩
  obtain ⟨e, he, hp⟩ := exists_of_mem_right (mapM_eq_ok_iff.mp hfound) (List.mem_mergeSort.mp hp)
  exact ⟨e.1, e.2, Keyed.find?_of_mem (List.mem_of_mem_filter he), (List.mem_filter.mp he).2, hp⟩

theorem Filed.exists_roster {s : Store} (h : s.Filed) {pool : String} (howned : s.Owned pool) :
    ∃ pods, Roster s pool pods := by
  obtain ⟨pods, hlisted, hpods⟩ := h.listPods_ok pool
  refine ⟨pods, h, hlisted, fun p hp => ?_⟩
  obtain ⟨key, text, hfind, hstart, hread⟩ := hpods p hp
  exact howned key text p hfind hstart hread

/-- What is among the pods of a pool belongs to it if what is listed does. -/
theorem Filed.owned {s : Store} (h : s.Filed) {pool : String}
    (howned : ∀ pods, s.listPods pool = .ok pods → ∀ p ∈ pods, p.owner = pool) : s.Owned pool := by
  obtain ⟨pods, hlisted, -⟩ := h.listPods_ok pool
  exact Roster.store_owned ⟨h, hlisted, howned pods hlisted⟩

theorem Owned.of_pods_eq {s s' : Store} {pool : String} (h : s.Owned pool)
    (hpods : s'.pods = s.pods) : s'.Owned pool := by
  unfold Owned
  rw [hpods]
  exact h

theorem Owned.insert_pod {s : Store} {pool : String} (h : s.Owned pool) (p : Pod)
    (hp : startsWith p.tableKey (podKeyStart pool) = true → p.owner = pool) :
    ({ s with pods := s.pods.insert p.tableKey (writePod p) } : Store).Owned pool := by
  intro key text q hfind hstart hread
  rw [Keyed.find?_insert] at hfind
  split at hfind
  · rename_i hkey
    rw [← Option.some.inj hfind, readPod_writePod] at hread
    obtain rfl := Except.ok.inj hread
    exact hp (hkey ▸ hstart)
  · exact h key text q hfind hstart hread

/-- A change of phase leaves every pod to its owner. -/
theorem Owned.setPodPhase {s s' : Store} {pool : String} (h : s.Owned pool) (hfiled : s.Filed)
    {owner name : String} {phase : Phase} {found : Bool}
    (hset : s.setPodPhase owner name phase = .ok (found, s')) : s'.Owned pool := by
  rcases hfiled.setPodPhase_eq_ok hset with rfl | ⟨p, text, hfind, hread, rfl⟩
  · exact h
  · exact h.insert_pod { p with phase := phase } fun hstart => h _ text p hfind hstart hread

/-- Creating a pod adds one that was not listed. -/
theorem Roster.createPod {s s' : Store} {pool : String} {pods : List Pod} (h : Roster s pool pods)
    {spec : PoolSpec} (hspec : spec.name = pool) {extra : Pairs} {now : Instant}
    {draws draws' : List String} {p : Pod}
    (hcreate : s.createPod spec extra now draws = .ok (p, draws', s')) :
    p ∉ pods ∧ ∃ pods', Roster s' pool pods' ∧ pods'.Perm (p :: pods) := by
  have hfiled := h.filed.createPod hcreate
  obtain ⟨howner, -, hfree, rfl⟩ := createPod_eq_ok hcreate
  rw [hspec] at howner
  obtain ⟨pods', hroster⟩ := hfiled.exists_roster (h.store_owned.insert_pod p fun _ => howner)
  have hkey : p.tableKey = Pod.key pool p.name := by rw [Pod.tableKey, howner]
  have hnew : ∀ q ∈ pods, q.name ≠ p.name := by
    intro q hq hname
    obtain ⟨text, hfind, -⟩ := h.mem_iff.mp hq
    rw [hname, ← hkey, hfree] at hfind
    cases hfind
  have hfresh : p ∉ pods := fun hp => hnew p hp rfl
  refine ⟨hfresh, pods', hroster, ?_⟩
  refine (List.perm_ext_iff_of_nodup hroster.nodup (List.nodup_cons.mpr ⟨hfresh, h.nodup⟩)).mpr
    fun q => ?_
  rw [List.mem_cons, hroster.mem_iff]
  dsimp only
  rw [Keyed.find?_insert]
  by_cases hname : q.name = p.name
  · rw [hname, ← hkey, if_pos rfl]
    constructor
    · rintro ⟨text, hfind, hread⟩
      rw [← Option.some.inj hfind, readPod_writePod] at hread
      exact .inl (Except.ok.inj hread).symm
    · rintro (rfl | hq)
      · exact ⟨_, rfl, readPod_writePod q⟩
      · exact absurd hname (hnew q hq)
  · rw [if_neg (fun h => hname (Pod.key_injective (h.trans hkey))), ← h.mem_iff]
    constructor
    · exact .inr
    · rintro (rfl | hq)
      · exact absurd rfl hname
      · exact hq

end Store

end PoolScaler
