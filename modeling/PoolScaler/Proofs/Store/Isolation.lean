import PoolScaler.Proofs.Store.Roster
set_option autoImplicit false

/-!
# What stands among the pods of a pool

A pod stands under the name of its pool, a colon and its own name, and nothing
keeps colons out of names.  So the pods of one pool can stand among those of
another, but only if the name of one goes on with a colon where the other ends.
Each call about the pods of a pool touches what stands among them and nothing else.
-/

namespace PoolScaler

/-! ## Names that are keys of others -/

/-- A name goes on with a colon where another one ends. -/
def Extends (name start : String) : Prop :=
  Store.startsWith name (Store.podKeyStart start) = true

instance (name start : String) : Decidable (Extends name start) :=
  inferInstanceAs (Decidable (_ = true))

theorem startsWith_iff {key start : String} :
    Store.startsWith key start = true ↔ start.toList <+: key.toList :=
  List.isPrefixOf_iff_prefix

theorem extends_iff {name start : String} :
    Extends name start ↔ ∃ rest, name = Pod.key start rest := by
  unfold Extends
  rw [startsWith_iff]
  constructor
  · rintro ⟨rest, hrest⟩
    refine ⟨String.ofList rest, String.toList_injective ?_⟩
    rw [← hrest]
    unfold Pod.key Store.podKeyStart
    simp only [String.toList_append, String.toList_ofList]
  · rintro ⟨rest, rfl⟩
    exact startsWith_iff.mp (Store.startsWith_key start rest)

/-- Two names are different, and neither goes on with a colon where the other ends. -/
structure Apart (p q : String) : Prop where
  ne : p ≠ q
  left : ¬ Extends p q
  right : ¬ Extends q p

/-- A name without colons. -/
def ColonFree (name : String) : Prop := ':' ∉ name.toList

instance (name : String) : Decidable (ColonFree name) := inferInstanceAs (Decidable (¬ _))

theorem ColonFree.not_extends {name : String} (h : ColonFree name) (start : String) :
    ¬ Extends name start := by
  rw [extends_iff]
  rintro ⟨rest, rfl⟩
  refine h ?_
  unfold Pod.key
  simp only [String.toList_append]
  exact List.mem_append_left _ (List.mem_append_right _ (by decide))

theorem ColonFree.apart {p q : String} (hp : ColonFree p) (hq : ColonFree q) (hne : p ≠ q) :
    Apart p q :=
  ⟨hne, hp.not_extends q, hq.not_extends p⟩

theorem toList_podKeyStart (pool : String) :
    (Store.podKeyStart pool).toList = pool.toList ++ [':'] :=
  String.toList_append

theorem eq_or_extends {p q : String}
    (h : (Store.podKeyStart p).toList <+: (Store.podKeyStart q).toList) : p = q ∨ Extends q p := by
  rw [toList_podKeyStart q, List.prefix_concat_iff, toList_podKeyStart] at h
  refine h.imp (fun heq => String.toList_injective (List.append_cancel_right heq)) fun hstart => ?_
  exact startsWith_iff.mpr (toList_podKeyStart p ▸ hstart)

/-- Among the pods of a pool stand none of another one whose name is apart. -/
theorem Apart.startsWith_key {p q : String} (h : Apart p q) (name : String) :
    Store.startsWith (Pod.key q name) (Store.podKeyStart p) = false := by
  rw [Bool.eq_false_iff]
  intro hstart
  have hp := startsWith_iff.mp hstart
  have hq := startsWith_iff.mp (Store.startsWith_key q name)
  rcases List.prefix_or_prefix_of_prefix hp hq with hpq | hqp
  · exact (eq_or_extends hpq).elim h.ne h.right
  · exact (eq_or_extends hqp).elim h.ne.symm h.left

/-- Otherwise a pod can be named so that it does. -/
theorem exists_startsWith_key {p q : String} (h : ¬ Apart p q) :
    ∃ name, Store.startsWith (Pod.key q name) (Store.podKeyStart p) = true := by
  by_cases heq : p = q
  · exact ⟨"", heq ▸ Store.startsWith_key p ""⟩
  by_cases hpq : Extends p q
  · -- the rest of the longer name starts the pod's
    obtain ⟨rest, rfl⟩ := extends_iff.mp hpq
    have hkey : Pod.key q (rest ++ ":") = Store.podKeyStart (Pod.key q rest) :=
      String.append_assoc.symm
    exact ⟨rest ++ ":", startsWith_iff.mpr (hkey ▸ List.prefix_rfl)⟩
  · have hqp : Extends q p := by
      by_contra hqp
      exact h ⟨heq, hpq, hqp⟩
    refine ⟨"", startsWith_iff.mpr ((startsWith_iff.mp hqp).trans ?_)⟩
    unfold Pod.key
    simp only [String.toList_append, List.append_assoc]
    exact List.prefix_append _ _

namespace Store

/-! ## What a call touches -/

/-- A pod is in the store. -/
def Holds (s : Store) (x : Pod) : Prop :=
  ∃ text, s.pods.find? x.tableKey = some text ∧ readPod text = .ok x

/-- The pods of a pool are the same in two stores. -/
def SamePods (pool : String) (s s' : Store) : Prop :=
  ∀ x : Pod, x.owner = pool → (s'.Holds x ↔ s.Holds x)

/-- Two stores are the same but for what stands among the pods of a pool. -/
def SameOutside (pool : String) (s s' : Store) : Prop :=
  ∀ key, startsWith key (podKeyStart pool) = false → s'.pods.find? key = s.pods.find? key

namespace SameOutside

variable {pool : String} {s s' s'' : Store}

theorem refl (pool : String) (s : Store) : SameOutside pool s s := fun _ _ => rfl

theorem trans (h : SameOutside pool s s') (h' : SameOutside pool s' s'') :
    SameOutside pool s s'' := fun key hkey => (h' key hkey).trans (h key hkey)

theorem of_pods_eq (h : SameOutside pool s s') (hpods : s''.pods = s'.pods) :
    SameOutside pool s s'' := by
  intro key hkey
  rw [hpods]
  exact h key hkey

/-- What is touched among the pods of one pool leaves those of another one alone whose
name is apart. -/
theorem samePods (h : SameOutside pool s s') {q : String} (hq : Apart pool q) :
    SamePods q s s' := by
  rintro x rfl
  unfold Holds
  rw [h x.tableKey (hq.startsWith_key x.name)]

theorem insert (pool name text : String) (s : Store) :
    SameOutside pool s { s with pods := s.pods.insert (Pod.key pool name) text } := by
  intro key hkey
  refine (Keyed.find?_insert s.pods _ key text).trans (if_neg ?_)
  rintro rfl
  exact Bool.false_ne_true (hkey.symm.trans (startsWith_key pool name))

theorem deletePod (pool name : String) (s : Store) :
    SameOutside pool s (s.deletePod pool name).2 := by
  intro key hkey
  refine (Keyed.find?_erase s.pods _ key).trans (if_neg ?_)
  rintro rfl
  exact Bool.false_ne_true (hkey.symm.trans (startsWith_key pool name))

theorem deletePool (pool : String) (s : Store) : SameOutside pool s (s.deletePool pool).2 := by
  intro key hkey
  refine (Keyed.find?_filter s.pods (fun k => !startsWith k (podKeyStart pool)) key).trans ?_
  rw [hkey]
  rfl

theorem setPodPhase {name : String} {phase : Phase} {found : Bool}
    (hset : s.setPodPhase pool name phase = .ok (found, s')) : SameOutside pool s s' := by
  unfold Store.setPodPhase at hset
  dsimp only at hset
  split at hset
  · rw [← (Prod.mk.inj (Except.ok.inj hset)).2]
    exact refl pool s
  · split at hset
    · cases hset
    · rw [← (Prod.mk.inj (Except.ok.inj hset)).2]
      exact insert pool name _ s

theorem putPod {x : Pod} (hx : x.owner = pool) (s : Store) :
    SameOutside pool s (s.putPod x) := by
  unfold Store.putPod
  rw [Pod.tableKey, hx]
  exact insert pool x.name _ s

theorem createPod {spec : PoolSpec} (hspec : spec.name = pool) {extra : Pairs} {now : Instant}
    {draws draws' : List String} {x : Pod}
    (hcreate : s.createPod spec extra now draws = .ok (x, draws', s')) :
    SameOutside pool s s' := by
  obtain ⟨howner, -, -, rfl⟩ := createPod_eq_ok hcreate
  exact putPod (howner.trans hspec) s

end SameOutside

/-! ## What is listed -/

/-- No pod of another pool is listed whose name is apart. -/
theorem Filed.listPods_apart {s : Store} (h : s.Filed) {p q : String} (hq : Apart p q) :
    ∃ pods, s.listPods p = .ok pods ∧ ∀ x ∈ pods, x.owner ≠ q := by
  obtain ⟨pods, hlisted, hpods⟩ := h.listPods_ok p
  refine ⟨pods, hlisted, ?_⟩
  rintro x hx rfl
  obtain ⟨key, text, hfind, hstart, hread⟩ := hpods x hx
  obtain ⟨x', hread', rfl⟩ := h.pods key text hfind
  obtain rfl := Except.ok.inj (hread.symm.trans hread')
  exact Bool.false_ne_true ((hq.startsWith_key x.name).symm.trans hstart)

/-- A single pod is listed for every pool among whose pods it stands. -/
theorem listPods_single {x : Pod} {pool : String}
    (hstart : startsWith x.tableKey (podKeyStart pool) = true) :
    (empty.putPod x).listPods pool = .ok [x] := by
  have htexts : texts (empty.putPod x) pool = [(x.tableKey, writePod x)] :=
    List.filter_eq_self.mpr (List.forall_mem_singleton.mpr hstart)
  have hread : (texts (empty.putPod x) pool).mapM (fun e => readPod e.2) = .ok [x] := by
    rw [htexts]
    exact mapM_eq_ok_iff.mpr (.cons (readPod_writePod x) .nil)
  rw [listPods_of_texts hread, List.mergeSort_singleton]

end Store

end PoolScaler
