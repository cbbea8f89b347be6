import PoolScaler.Proofs.Json.Records
import PoolScaler.Store.Basic
set_option autoImplicit false

/-!
# Records stay under their keys

In a store that has only been used as a store every text is a record, and every
record stands under its key.  Each operation keeps that.
-/

namespace PoolScaler

namespace Store

/-! ## Records -/

theorem readRecord_render {α : Type} {fields : Json.Fields α} {j : Json} {a : α} (hj : j.Plain)
    (hread : fields.read j = .ok a) : readRecord fields j.render = .ok a := by
  rw [readRecord, Json.decodeText_render _ hj, hread]

/-- A pool is read back as it was written. -/
theorem readPool_writePool (r : PoolRecord) : readPool (writePool r) = .ok r :=
  readRecord_render r.plain_toJson r.read_toJson

/-- A pod is read back as it was written. -/
theorem readPod_writePod (p : Pod) : readPod (writePod p) = .ok p :=
  readRecord_render p.plain_toJson p.read_toJson

/-! ## New pods -/

theorem freeName?_free {pods : Keyed String} {pool name : String} {draws draws' : List String}
    (h : freeName? pods pool draws = some (name, draws')) :
    pods.find? (Pod.key pool name) = none := by
  induction draws with
  | nil => cases h
  | cons suffix draws ih =>
    unfold freeName? at h
    dsimp only at h
    split at h
    · exact ih h
    · rename_i hfree
      obtain ⟨rfl, -⟩ := Prod.mk.inj (Option.some.inj h)
      exact Option.not_isSome_iff_eq_none.mp hfree

/-- A pod is created pending, for the pool of its spec and under a key that was free. -/
theorem createPod_eq_ok {s s' : Store} {spec : PoolSpec} {extra : Pairs} {now : Instant}
    {draws draws' : List String} {p : Pod}
    (hcreate : s.createPod spec extra now draws = .ok (p, draws', s')) :
    p.owner = spec.name ∧ p.phase = .pending ∧ s.pods.find? p.tableKey = none ∧
      s' = { s with pods := s.pods.insert p.tableKey (writePod p) } := by
  unfold Store.createPod at hcreate
  split at hcreate
  · cases hcreate
  · rename_i name rest hname
    obtain ⟨rfl, hrest⟩ := Prod.mk.inj (Except.ok.inj hcreate)
    exact ⟨rfl, rfl, freeName?_free hname, (Prod.mk.inj hrest).2.symm⟩

/-! ## Filing -/

/-- Every text is a record that stands under its key. -/
structure Filed (s : Store) : Prop where
  pools : ∀ key text, s.pools.find? key = some text → ∃ r, readPool text = .ok r ∧ r.tableKey = key
  pods : ∀ key text, s.pods.find? key = some text → ∃ p, readPod text = .ok p ∧ p.tableKey = key

theorem filed_empty : empty.Filed := ⟨nofun, nofun⟩

theorem Filed.insert_pool {s : Store} (h : s.Filed) (r : PoolRecord) :
    ({ s with pools := s.pools.insert r.tableKey (writePool r) } : Store).Filed := by
  refine ⟨fun key text hfind => ?_, h.pods⟩
  rw [Keyed.find?_insert] at hfind
  split at hfind
  · rename_i hkey
    rw [← Option.some.inj hfind]
    exact ⟨r, readPool_writePool r, hkey.symm⟩
  · exact h.pools key text hfind

theorem Filed.insert_pod {s : Store} (h : s.Filed) (p : Pod) :
    ({ s with pods := s.pods.insert p.tableKey (writePod p) } : Store).Filed := by
  refine ⟨h.pools, fun key text hfind => ?_⟩
  rw [Keyed.find?_insert] at hfind
  split at hfind
  · rename_i hkey
    rw [← Option.some.inj hfind]
    exact ⟨p, readPod_writePod p, hkey.symm⟩
  · exact h.pods key text hfind

theorem Filed.updatePoolStatus {s s' : Store} (h : s.Filed) {name : String} {status : PoolStatus}
    (hupdate : s.updatePoolStatus name status = .ok s') : s'.Filed := by
  unfold Store.updatePoolStatus at hupdate
  split at hupdate
  · cases hupdate
  · rename_i text hfind
    obtain ⟨r, hread, hkey⟩ := h.pools name text hfind
    rw [hread] at hupdate
    rw [← Except.ok.inj hupdate, ← hkey]
    exact h.insert_pool { r with status := status }

theorem updatePoolStatus_pods {s s' : Store} {name : String} {status : PoolStatus}
    (hupdate : s.updatePoolStatus name status = .ok s') : s'.pods = s.pods := by
  unfold Store.updatePoolStatus at hupdate
  split at hupdate
  · cases hupdate
  · split at hupdate
    · cases hupdate
    · rw [← Except.ok.inj hupdate]

theorem Filed.deletePool {s : Store} (h : s.Filed) (name : String) : (s.deletePool name).2.Filed :=
  ⟨fun key text hfind => h.pools key text (Keyed.find?_of_find?_filter hfind),
    fun key text hfind => h.pods key text (Keyed.find?_of_find?_filter hfind)⟩

theorem Filed.createPod {s s' : Store} (h : s.Filed) {spec : PoolSpec} {extra : Pairs}
    {now : Instant} {draws draws' : List String} {p : Pod}
    (hcreate : s.createPod spec extra now draws = .ok (p, draws', s')) : s'.Filed := by
  obtain ⟨-, -, -, rfl⟩ := createPod_eq_ok hcreate
  exact h.insert_pod p

theorem Filed.deletePod {s : Store} (h : s.Filed) (pool name : String) :
    (s.deletePod pool name).2.Filed :=
  ⟨h.pools, fun key text hfind => h.pods key text (Keyed.find?_of_find?_filter hfind)⟩

/-- A change of phase that finds its pod writes it with the new phase. -/
theorem Filed.setPodPhase_eq_ok {s s' : Store} (h : s.Filed) {pool name : String} {phase : Phase}
    {found : Bool} (hset : s.setPodPhase pool name phase = .ok (found, s')) :
    s' = s ∨ ∃ p text, s.pods.find? p.tableKey = some text ∧ readPod text = .ok p ∧
      s' = { s with pods := s.pods.insert p.tableKey (writePod { p with phase := phase }) } := by
  unfold Store.setPodPhase at hset
  dsimp only at hset
  split at hset
  · exact .inl (Prod.mk.inj (Except.ok.inj hset)).2.symm
  · rename_i text hfind
    obtain ⟨p, hread, hkey⟩ := h.pods _ text hfind
    rw [hread] at hset
    rw [← hkey] at hfind hset
    exact .inr ⟨p, text, hfind, hread, (Prod.mk.inj (Except.ok.inj hset)).2.symm⟩

theorem Filed.setPodPhase {s s' : Store} (h : s.Filed) {pool name : String} {phase : Phase}
    {found : Bool} (hset : s.setPodPhase pool name phase = .ok (found, s')) : s'.Filed := by
  rcases h.setPodPhase_eq_ok hset with rfl | ⟨p, text, -, -, rfl⟩
  · exact h
  · exact h.insert_pod { p with phase := phase }

/-- Looking a pool up does not fail. -/
theorem Filed.getPool_ok {s : Store} (h : s.Filed) (name : String) :
    s.getPool name = .ok none ∨ ∃ r, s.getPool name = .ok (some r) := by
  unfold Store.getPool
  split
  · exact .inl rfl
  · rename_i text hfind
    obtain ⟨r, hread, -⟩ := h.pools name text hfind
    rw [hread]
    exact .inr ⟨r, rfl⟩

/-- The stores that come of using an empty one. -/
inductive Reachable : Store → Prop where
  | empty : Reachable empty
  | putPool {s : Store} (h : Reachable s) (r : PoolRecord) : Reachable (s.putPool r)
  | updatePoolStatus {s s' : Store} (h : Reachable s) {name : String} {status : PoolStatus}
    (hupdate : s.updatePoolStatus name status = .ok s') : Reachable s'
  | deletePool {s : Store} (h : Reachable s) (name : String) : Reachable (s.deletePool name).2
  | putPod {s : Store} (h : Reachable s) (p : Pod) : Reachable (s.putPod p)
  | createPod {s s' : Store} (h : Reachable s) {spec : PoolSpec} {extra : Pairs} {now : Instant}
    {draws draws' : List String} {p : Pod}
    (hcreate : s.createPod spec extra now draws = .ok (p, draws', s')) : Reachable s'
  | deletePod {s : Store} (h : Reachable s) (pool name : String) :
    Reachable (s.deletePod pool name).2
  | setPodPhase {s s' : Store} (h : Reachable s) {pool name : String} {phase : Phase} {found : Bool}
    (hset : s.setPodPhase pool name phase = .ok (found, s')) : Reachable s'

/-- However a store is used, every text in it is a record under its key. -/
theorem Reachable.filed {s : Store} (h : s.Reachable) : s.Filed := by
  induction h with
  | empty => exact filed_empty
  | putPool _ r ih => exact ih.insert_pool r
  | updatePoolStatus _ hupdate ih => exact ih.updatePoolStatus hupdate
  | deletePool _ name ih => exact ih.deletePool name
  | putPod _ p ih => exact ih.insert_pod p
  | createPod _ hcreate ih => exact ih.createPod hcreate
  | deletePod _ pool name ih => exact ih.deletePod pool name
  | setPodPhase _ hset ih => exact ih.setPodPhase hset

end Store

end PoolScaler
