import Mathlib.Data.List.Sort
import Mathlib.Logic.Function.Basic
import PoolScaler.Proofs.Store.Isolation
set_option autoImplicit false

/-!
# The store as two maps

As long as no pool's name has a colon, a store is two plain maps: pools by their
names, and pods by their pools' names and their own.  `Registry` is that pair of
maps with what each call does to it and answers, and the answers of a store are the
answers of the maps, after any calls whatever.
-/

namespace PoolScaler

namespace Store

/-! ## Calls -/

/-- What can be asked of a store. -/
inductive Call where
  | putPool (r : PoolRecord)
  | getPool (name : String)
  | listPools
  | updatePoolStatus (name : String) (status : PoolStatus)
  | deletePool (name : String)
  | putPod (p : Pod)
  | createPod (spec : PoolSpec) (extra : Pairs) (now : Instant) (draws : List String)
  | listPods (pool : String)
  | deletePod (pool name : String)
  | setPodPhase (pool name : String) (phase : Phase)

/-- What a call returns. -/
inductive Answer where
  | done
  | pool (r : Option PoolRecord)
  | pools (rs : List PoolRecord)
  | existed (was : Bool)
  | created (p : Pod) (draws : List String)
  | pods (ps : List Pod)
  | fault (fault : StoreFault)

/-- What a call that can fail returns and leaves: the store as it was, if it fails. -/
def settle {α : Type} (s : Store) (served : α → Answer × Store) :
    Except StoreFault α → Answer × Store
  | .ok a => served a
  | .error fault => (.fault fault, s)

/-- What a call returns and leaves. -/
def serve (s : Store) : Call → Answer × Store
  | .putPool r => (.done, s.putPool r)
  | .getPool name => s.settle (fun r => (.pool r, s)) (s.getPool name)
  | .listPools => s.settle (fun rs => (.pools rs, s)) s.listPools
  | .updatePoolStatus name status =>
    s.settle (fun s' => (.done, s')) (s.updatePoolStatus name status)
  | .deletePool name => (.existed (s.deletePool name).1, (s.deletePool name).2)
  | .putPod p => (.done, s.putPod p)
  | .createPod spec extra now draws =>
    s.settle (fun (p, rest, s') => (.created p rest, s')) (s.createPod spec extra now draws)
  | .listPods pool => s.settle (fun ps => (.pods ps, s)) (s.listPods pool)
  | .deletePod pool name => (.existed (s.deletePod pool name).1, (s.deletePod pool name).2)
  | .setPodPhase pool name phase =>
    s.settle (fun (found, s') => (.existed found, s')) (s.setPodPhase pool name phase)

/-- What calls leave of an empty store. -/
def after (calls : List Call) : Store := calls.foldl (fun s c => (s.serve c).2) empty

/-- The name of a pool in a call has no colon. -/
def Call.ColonFree : Call → Prop
  | .putPool r => PoolScaler.ColonFree r.spec.name
  | .listPools => True
  | .putPod p => PoolScaler.ColonFree p.owner
  | .createPod spec _ _ _ => PoolScaler.ColonFree spec.name
  | .getPool pool | .updatePoolStatus pool _ | .deletePool pool | .listPods pool
  | .deletePod pool _ | .setPodPhase pool _ _ => PoolScaler.ColonFree pool

instance : (call : Call) → Decidable call.ColonFree
  | .putPool r => inferInstanceAs (Decidable (PoolScaler.ColonFree r.spec.name))
  | .listPools => inferInstanceAs (Decidable True)
  | .putPod p => inferInstanceAs (Decidable (PoolScaler.ColonFree p.owner))
  | .createPod spec _ _ _ => inferInstanceAs (Decidable (PoolScaler.ColonFree spec.name))
  | .getPool pool | .updatePoolStatus pool _ | .deletePool pool | .listPods pool
  | .deletePod pool _ | .setPodPhase pool _ _ =>
    inferInstanceAs (Decidable (PoolScaler.ColonFree pool))

end Store

open Store (Call Answer)

/-! ## The two maps -/

/-- A pool comes before another one by name. -/
def PoolRecord.Before (r r' : PoolRecord) : Prop := r.spec.name < r'.spec.name

/-- A pod was created before another one, or at the same time and comes before it by
name. -/
def Pod.Before (p q : Pod) : Prop :=
  p.createdAt < q.createdAt ∨ p.createdAt = q.createdAt ∧ p.name < q.name

/-- Pools by their names, and pods by their pools' names and their own. -/
structure Registry where
  pools : String → Option PoolRecord
  pods : String × String → Option Pod

namespace Registry

/-- Two maps without entries. -/
def empty : Registry := ⟨fun _ => none, fun _ => none⟩

/-- The pod that is created for a pool: the first drawn suffix counts that gives a name
which is not taken. -/
def newPod? (m : Registry) (spec : PoolSpec) (extra : Pairs) (now : Instant)
    (draws : List String) : Option (Pod × List String) :=
  match draws.dropWhile fun suffix => (m.pods (spec.name, spec.name ++ "-" ++ suffix)).isSome with
  | [] => none
  | suffix :: rest =>
    some (⟨spec.name ++ "-" ++ suffix, spec.name, .pending, spec.template.image,
      spec.template.labels, spec.template.env.overlay extra, now⟩, rest)

theorem owner_of_newPod? {m : Registry} {spec : PoolSpec} {extra : Pairs} {now : Instant}
    {draws rest : List String} {p : Pod} (h : m.newPod? spec extra now draws = some (p, rest)) :
    p.owner = spec.name := by
  unfold newPod? at h
  split at h
  · cases h
  · rw [← (Prod.mk.inj (Option.some.inj h)).1]

/-- What a call leaves. -/
def next (m : Registry) : Call → Registry
  | .putPool r => { m with pools := Function.update m.pools r.spec.name (some r) }
  | .updatePoolStatus name status =>
    { m with
      pools := Function.update m.pools name
        ((m.pools name).map fun r => { r with status := status }) }
  | .deletePool name =>
    { pools := Function.update m.pools name none
      pods := fun place => if place.1 = name then none else m.pods place }
  | .putPod p => { m with pods := Function.update m.pods (p.owner, p.name) (some p) }
  | .createPod spec extra now draws =>
    match m.newPod? spec extra now draws with
    | none => m
    | some (p, _) => { m with pods := Function.update m.pods (p.owner, p.name) (some p) }
  | .deletePod pool name => { m with pods := Function.update m.pods (pool, name) none }
  | .setPodPhase pool name phase =>
    { m with
      pods := Function.update m.pods (pool, name)
        ((m.pods (pool, name)).map fun p => { p with phase := phase }) }
  | .getPool _ | .listPools | .listPods _ => m

/-- What calls leave of two maps without entries. -/
def after (calls : List Call) : Registry := calls.foldl next empty

/-- What a call returns.  A list holds the entries of a map, or of one pool, each once
and in order. -/
def Reports (m : Registry) : Call → Answer → Prop
  | .putPool _, a | .putPod _, a => a = .done
  | .getPool name, a => a = .pool (m.pools name)
  | .listPools, a => ∃ rs : List PoolRecord, a = .pools rs ∧
    rs.Pairwise PoolRecord.Before ∧ ∀ r, r ∈ rs ↔ ∃ name, m.pools name = some r
  | .updatePoolStatus name _, a =>
    a = if (m.pools name).isSome then .done else .fault (.poolNotFound name)
  | .deletePool name, a => a = .existed (m.pools name).isSome
  | .createPod spec extra now draws, a =>
    a = match m.newPod? spec extra now draws with
      | none => .fault .noFreeName
      | some (p, rest) => .created p rest
  | .listPods pool, a => ∃ ps : List Pod, a = .pods ps ∧ ps.Pairwise Pod.Before ∧
    ∀ p, p ∈ ps ↔ ∃ name, m.pods (pool, name) = some p
  | .deletePod pool name, a | .setPodPhase pool name _, a =>
    a = .existed (m.pods (pool, name)).isSome

end Registry

/-! ## A call has one answer -/

instance : Std.Irrefl PoolRecord.Before := ⟨fun _ => String.lt_irrefl _⟩

instance : Std.Antisymm PoolRecord.Before := ⟨fun _ _ h h' => absurd h' (String.lt_asymm h)⟩

theorem Pod.Before.irrefl (p : Pod) : ¬ p.Before p := by
  rintro (h | ⟨-, h⟩)
  · exact UInt64.lt_irrefl _ h
  · exact String.lt_irrefl _ h

theorem Pod.Before.asymm {p q : Pod} (h : p.Before q) : ¬ q.Before p := by
  rintro (h' | ⟨hsame, h'⟩)
  · rcases h with h | ⟨hsame, -⟩
    · exact UInt64.lt_asymm h h'
    · exact UInt64.lt_irrefl _ (hsame ▸ h')
  · rcases h with h | ⟨-, h⟩
    · exact UInt64.lt_irrefl _ (hsame ▸ h)
    · exact String.lt_asymm h h'

instance : Std.Irrefl Pod.Before := ⟨Pod.Before.irrefl⟩

instance : Std.Antisymm Pod.Before := ⟨fun _ _ h h' => absurd h' h.asymm⟩

theorem Registry.Reports.unique {m : Registry} {call : Call} {a b : Answer} (ha : m.Reports call a)
    (hb : m.Reports call b) : a = b := by
  cases call with
  | listPools =>
    obtain ⟨rs, rfl, hrs, hmem⟩ := ha
    obtain ⟨rs', rfl, hrs', hmem'⟩ := hb
    rw [hrs.eq_of_mem_iff hrs' fun r => (hmem r).trans (hmem' r).symm]
  | listPods pool =>
    obtain ⟨ps, rfl, hps, hmem⟩ := ha
    obtain ⟨ps', rfl, hps', hmem'⟩ := hb
    rw [hps.eq_of_mem_iff hps' fun p => (hmem p).trans (hmem' p).symm]
  | putPool | getPool | updatePoolStatus | deletePool | putPod | createPod | deletePod
  | setPodPhase => exact Eq.trans ha (Eq.symm hb)

/-! ## Keys without colons before the first -/

namespace ColonFree

variable {a b : String}

theorem startsWith_key_iff (ha : ColonFree a) (hb : ColonFree b) (name : String) :
    Store.startsWith (Pod.key a name) (Store.podKeyStart b) = true ↔ a = b := by
  constructor
  · intro hstart
    by_contra hne
    have hapart := (hb.apart ha (Ne.symm hne)).startsWith_key name
    exact Bool.false_ne_true (hapart.symm.trans hstart)
  · rintro rfl
    exact Store.startsWith_key a name

theorem key_eq_iff (ha : ColonFree a) (hb : ColonFree b) {name name' : String} :
    Pod.key a name = Pod.key b name' ↔ (a, name) = (b, name') := by
  constructor
  · intro hkey
    have hstart := Store.startsWith_key b name'
    rw [← hkey] at hstart
    obtain rfl := (ha.startsWith_key_iff hb name).mp hstart
    rw [Pod.key_injective hkey]
  · intro hpair
    obtain ⟨rfl, rfl⟩ := Prod.mk.inj hpair
    rfl

end ColonFree

namespace Store

theorem forall₂_imp_of_mem {α β : Type} {R S : α → β → Prop} {as : List α} {bs : List β}
    (h : List.Forall₂ R as bs) (himp : ∀ a ∈ as, ∀ b, R a b → S a b) : List.Forall₂ S as bs := by
  induction h with
  | nil => exact .nil
  | cons hab _ ih =>
    obtain ⟨ha, has⟩ := List.forall_mem_cons.mp himp
    exact .cons (ha _ hab) (ih has)

/-! ## What a store represents -/

/-- A store holds what two maps hold, each record as it is written and under its key. -/
structure Represents (s : Store) (m : Registry) : Prop where
  pools : ∀ name, s.pools.find? name = (m.pools name).map writePool
  pods : ∀ owner name, ColonFree owner →
    s.pods.find? (Pod.key owner name) = (m.pods (owner, name)).map writePod
  keys : ∀ key text, s.pods.find? key = some text →
    ∃ owner name, ColonFree owner ∧ key = Pod.key owner name
  named : ∀ name r, m.pools name = some r → r.spec.name = name
  owned : ∀ owner name p, m.pods (owner, name) = some p → p.owner = owner ∧ p.name = name

namespace Represents

variable {s : Store} {m : Registry}

theorem empty : Store.empty.Represents .empty :=
  ⟨fun _ => rfl, fun _ _ _ => rfl, nofun, nofun, nofun⟩

theorem exists_pod (h : s.Represents m) {key text : String} (hfind : s.pods.find? key = some text) :
    ∃ owner name p, ColonFree owner ∧ key = Pod.key owner name ∧ m.pods (owner, name) = some p ∧
      text = writePod p ∧ p.owner = owner ∧ p.name = name := by
  obtain ⟨owner, name, hfree, rfl⟩ := h.keys key text hfind
  rw [h.pods owner name hfree] at hfind
  obtain ⟨p, hp, rfl⟩ := Option.map_eq_some_iff.mp hfind
  exact ⟨owner, name, p, hfree, rfl, hp, rfl, h.owned owner name p hp⟩

theorem filed (h : s.Represents m) : s.Filed := by
  refine ⟨fun name text hfind => ?_, fun key text hfind => ?_⟩
  · rw [h.pools name] at hfind
    obtain ⟨r, hr, rfl⟩ := Option.map_eq_some_iff.mp hfind
    exact ⟨r, readPool_writePool r, h.named name r hr⟩
  · obtain ⟨owner, name, p, -, rfl, -, rfl, rfl, rfl⟩ := h.exists_pod hfind
    exact ⟨p, readPod_writePod p, rfl⟩

/-! ### What a call leaves -/

/-- A pool is put in its place or taken from it. -/
theorem place_pool (h : s.Represents m) {pools' : Keyed String} {name : String}
    {r? : Option PoolRecord}
    (hfind : ∀ key, pools'.find? key =
      if key = name then r?.map writePool else s.pools.find? key)
    (hname : ∀ r, r? = some r → r.spec.name = name) :
    Represents { s with pools := pools' } { m with pools := Function.update m.pools name r? } := by
  refine ⟨fun key => ?_, h.pods, h.keys, fun key r hr => ?_, h.owned⟩
  · dsimp only
    rw [hfind, Function.update_apply, h.pools key]
    split <;> rfl
  · dsimp only at hr
    rw [Function.update_apply] at hr
    split at hr
    · rename_i hkey
      rw [hkey, hname r hr]
    · exact h.named key r hr

/-- A pod is put in its place or taken from it. -/
theorem place_pod (h : s.Represents m) {pods' : Keyed String} {pool name : String}
    {p? : Option Pod} (hpool : ColonFree pool)
    (hfind : ∀ key, pods'.find? key =
      if key = Pod.key pool name then p?.map writePod else s.pods.find? key)
    (hname : ∀ p, p? = some p → p.owner = pool ∧ p.name = name) :
    Represents { s with pods := pods' }
      { m with pods := Function.update m.pods (pool, name) p? } := by
  refine ⟨h.pools, fun owner name' hfree => ?_, fun key text hkey => ?_, h.named,
    fun owner name' p hp => ?_⟩
  · dsimp only
    simp only [hfind, hfree.key_eq_iff hpool]
    rw [Function.update_apply, h.pods owner name' hfree]
    split <;> rfl
  · dsimp only at hkey
    rw [hfind] at hkey
    split at hkey
    · rename_i hplace
      exact ⟨pool, name, hpool, hplace⟩
    · exact h.keys key text hkey
  · dsimp only at hp
    rw [Function.update_apply] at hp
    split at hp
    · rename_i hplace
      obtain ⟨rfl, rfl⟩ := Prod.mk.inj hplace
      exact hname p hp
    · exact h.owned owner name' p hp

/-- The pods of a pool are taken away. -/
theorem drop_pods (h : s.Represents m) {pool : String} (hpool : ColonFree pool) :
    Represents { s with pods := s.pods.filter fun e => !startsWith e.1 (podKeyStart pool) }
      { m with pods := fun place => if place.1 = pool then none else m.pods place } := by
  have hfind : ∀ key, (s.pods.filter fun e => !startsWith e.1 (podKeyStart pool)).find? key =
      if startsWith key (podKeyStart pool) = true then none else s.pods.find? key := by
    intro key
    refine (Keyed.find?_filter s.pods (fun k => !startsWith k (podKeyStart pool)) key).trans ?_
    cases startsWith key (podKeyStart pool) <;> rfl
  refine ⟨h.pools, fun owner name hfree => ?_, fun key text hkey => ?_, h.named,
    fun owner name p hp => ?_⟩
  · dsimp only
    simp only [hfind, hfree.startsWith_key_iff hpool]
    rw [h.pods owner name hfree]
    split <;> rfl
  · exact h.keys key text (Keyed.find?_of_find?_filter hkey)
  · dsimp only at hp
    split at hp
    · cases hp
    · exact h.owned owner name p hp

/-! ### What a call returns -/

theorem getPool_eq (h : s.Represents m) (name : String) :
    s.getPool name = .ok (m.pools name) := by
  unfold getPool
  rw [h.pools name]
  cases m.pools name with
  | none => rfl
  | some r =>
    dsimp only [Option.map_some]
    rw [readPool_writePool]
    rfl

/-- The pools are listed, each once and in the order of the names. -/
theorem listPools_ok (h : s.Represents m) : ∃ rs, s.listPools = .ok rs ∧
    rs.Pairwise PoolRecord.Before ∧ ∀ r, r ∈ rs ↔ ∃ name, m.pools name = some r := by
  have hentry : ∀ e ∈ s.pools.entries, ∃ r, readPool e.2 = .ok r ∧ m.pools e.1 = some r := by
    intro e he
    have hfind := Keyed.find?_of_mem he
    rw [h.pools e.1] at hfind
    obtain ⟨r, hr, htext⟩ := Option.map_eq_some_iff.mp hfind
    exact ⟨r, htext ▸ readPool_writePool r, hr⟩
  obtain ⟨rs, hrs⟩ := exists_mapM_eq_ok fun e he => (hentry e he).imp fun _ hr => hr.1
  have hfound : List.Forall₂ (fun e r => m.pools e.1 = some r) s.pools.entries rs := by
    refine forall₂_imp_of_mem (mapM_eq_ok_iff.mp hrs) fun e he r hread => ?_
    obtain ⟨r', hread', hr'⟩ := hentry e he
    rwa [← Except.ok.inj (hread'.symm.trans hread)]
  refine ⟨rs, hrs, ?_, fun r => ⟨fun hr => ?_, ?_⟩⟩
  · have hnames : s.pools.entries.map (·.1) = rs.map (·.spec.name) := by
      rw [← List.forall₂_eq_eq_eq, List.forall₂_map_left_iff, List.forall₂_map_right_iff]
      exact hfound.imp fun e r hr => (h.named e.1 r hr).symm
    have hsorted := List.pairwise_map.mpr s.pools.sorted
    rw [hnames, List.pairwise_map] at hsorted
    exact hsorted
  · obtain ⟨e, -, hr⟩ := exists_of_mem_right hfound hr
    exact ⟨e.1, hr⟩
  · rintro ⟨name, hr⟩
    have hfind := h.pools name
    rw [hr] at hfind
    obtain ⟨r', hr', hsame⟩ := exists_of_mem_right hfound.flip (Keyed.mem_of_find? hfind)
    obtain rfl := Option.some.inj (hr.symm.trans hsame)
    exact hr'

/-- The pods of a pool are listed, each once, the oldest first and then in the order of
the names. -/
theorem listPods_ok (h : s.Represents m) {pool : String} (hpool : ColonFree pool) :
    ∃ ps, s.listPods pool = .ok ps ∧ ps.Pairwise Pod.Before ∧
      ∀ p, p ∈ ps ↔ ∃ name, m.pods (pool, name) = some p := by
  have howned : s.Owned pool := by
    intro key text p hfind hstart hread
    obtain ⟨owner, name, q, hfree, rfl, -, rfl, rfl, -⟩ := h.exists_pod hfind
    rw [readPod_writePod] at hread
    rw [← Except.ok.inj hread]
    exact (hfree.startsWith_key_iff hpool name).mp hstart
  obtain ⟨ps, hroster⟩ := h.filed.exists_roster howned
  refine ⟨ps, hroster.listed, ?_, fun p => ?_⟩
  · have hnames := List.pairwise_map.mp hroster.nodup_names
    refine (hroster.pairwise.and hnames).imp ?_
    rintro p q ⟨hbefore, hne⟩
    rcases (listedBefore_iff p q).mp hbefore with hlt | ⟨heq, hle⟩
    · exact .inl hlt
    · exact .inr ⟨heq, Keyed.lt_of_not_lt_of_ne (String.not_lt.mpr hle) (Ne.symm hne)⟩
  · rw [hroster.mem_iff, h.pods pool p.name hpool]
    constructor
    · rintro ⟨text, hfind, hread⟩
      obtain ⟨q, hq, rfl⟩ := Option.map_eq_some_iff.mp hfind
      rw [readPod_writePod] at hread
      exact ⟨p.name, Except.ok.inj hread ▸ hq⟩
    · rintro ⟨name, hp⟩
      obtain ⟨-, rfl⟩ := h.owned pool name p hp
      exact ⟨writePod p, by rw [hp]; rfl, readPod_writePod p⟩

theorem contains_pool (h : s.Represents m) (name : String) :
    s.pools.contains name = (m.pools name).isSome := by
  unfold Keyed.contains
  rw [h.pools name, Option.isSome_map]

theorem contains_pod (h : s.Represents m) {pool : String} (hpool : ColonFree pool) (name : String) :
    s.pods.contains (Pod.key pool name) = (m.pods (pool, name)).isSome := by
  unfold Keyed.contains
  rw [h.pods pool name hpool, Option.isSome_map]

/-- The first free name of a new pod is the one that its suffixes up to there leave. -/
theorem freeName?_eq (h : s.Represents m) {pool : String} (hpool : ColonFree pool)
    (draws : List String) : freeName? s.pods pool draws =
      match draws.dropWhile fun suffix => (m.pods (pool, pool ++ "-" ++ suffix)).isSome with
      | [] => none
      | suffix :: rest => some (pool ++ "-" ++ suffix, rest) := by
  induction draws with
  | nil => rfl
  | cons suffix draws ih =>
    unfold freeName?
    dsimp only
    rw [h.contains_pod hpool, List.dropWhile_cons]
    split
    · exact ih
    · rfl

theorem createPod_eq (h : s.Represents m) {spec : PoolSpec} (hspec : ColonFree spec.name)
    (extra : Pairs) (now : Instant) (draws : List String) :
    s.createPod spec extra now draws =
      match m.newPod? spec extra now draws with
      | none => .error .noFreeName
      | some (p, rest) =>
        .ok (p, rest, { s with pods := s.pods.insert p.tableKey (writePod p) }) := by
  unfold createPod Registry.newPod?
  rw [h.freeName?_eq hspec]
  generalize draws.dropWhile _ = free
  cases free with
  | nil => rfl
  | cons suffix rest => rfl

theorem updatePoolStatus_eq (h : s.Represents m) (name : String) (status : PoolStatus) :
    s.updatePoolStatus name status =
      match m.pools name with
      | none => .error (.poolNotFound name)
      | some r =>
        .ok { s with pools := s.pools.insert name (writePool { r with status := status }) } := by
  unfold updatePoolStatus
  rw [h.pools name]
  cases m.pools name with
  | none => rfl
  | some r =>
    dsimp only [Option.map_some]
    rw [readPool_writePool]

theorem setPodPhase_eq (h : s.Represents m) {pool : String} (hpool : ColonFree pool)
    (name : String) (phase : Phase) :
    s.setPodPhase pool name phase =
      match m.pods (pool, name) with
      | none => .ok (false, s)
      | some p =>
        .ok (true,
          { s with
            pods := s.pods.insert (Pod.key pool name) (writePod { p with phase := phase }) }) := by
  unfold setPodPhase
  dsimp only
  rw [h.pods pool name hpool]
  cases m.pods (pool, name) with
  | none => rfl
  | some p =>
    dsimp only [Option.map_some]
    rw [readPod_writePod]

/-- A call returns what it returns on the maps, and leaves a store that represents what
it leaves of them. -/
theorem serve (h : s.Represents m) {call : Call} (hcall : call.ColonFree) :
    m.Reports call (s.serve call).1 ∧ (s.serve call).2.Represents (m.next call) := by
  cases call with
  | putPool r =>
    refine ⟨rfl, h.place_pool (Keyed.find?_insert s.pools r.spec.name · (writePool r)) ?_⟩
    rintro _ ⟨⟩
    rfl
  | getPool name =>
    rw [Store.serve]
    rw [h.getPool_eq name]
    exact ⟨rfl, h⟩
  | listPools =>
    obtain ⟨rs, hlisted, hsorted, hmem⟩ := h.listPools_ok
    rw [Store.serve]
    rw [hlisted]
    exact ⟨⟨rs, rfl, hsorted, hmem⟩, h⟩
  | updatePoolStatus name status =>
    rw [Store.serve, Registry.Reports, Registry.next]
    rw [h.updatePoolStatus_eq name status]
    cases hfound : m.pools name with
    | none =>
      refine ⟨rfl, ?_⟩
      have hsame : Function.update m.pools name none = m.pools :=
        Function.update_eq_self_iff.mpr hfound.symm
      rw [Option.map_none, hsame]
      exact h
    | some r =>
      refine ⟨rfl, h.place_pool (Keyed.find?_insert s.pools name · _) ?_⟩
      rintro _ ⟨⟩
      exact h.named name r hfound
  | deletePool name =>
    have herased : Represents { s with pools := s.pools.erase name }
        { m with pools := Function.update m.pools name none } :=
      h.place_pool (Keyed.find?_erase s.pools name) nofun
    exact ⟨congrArg Answer.existed (h.contains_pool name), herased.drop_pods hcall⟩
  | putPod p =>
    refine ⟨rfl, h.place_pod hcall (Keyed.find?_insert s.pods _ · (writePod p)) ?_⟩
    rintro _ ⟨⟩
    exact ⟨rfl, rfl⟩
  | createPod spec extra now draws =>
    rw [Store.serve, Registry.Reports, Registry.next]
    rw [h.createPod_eq hcall extra now draws]
    cases hnew : m.newPod? spec extra now draws with
    | none => exact ⟨rfl, h⟩
    | some new =>
      obtain ⟨p, rest⟩ := new
      have hp : p.owner = spec.name := Registry.owner_of_newPod? hnew
      have hplace : ∀ q, some p = some q → q.owner = p.owner ∧ q.name = p.name := by
        rintro _ ⟨⟩
        exact ⟨rfl, rfl⟩
      exact ⟨rfl, h.place_pod (hp ▸ hcall) (Keyed.find?_insert s.pods _ · (writePod p)) hplace⟩
  | listPods pool =>
    obtain ⟨ps, hlisted, hsorted, hmem⟩ := h.listPods_ok hcall
    rw [Store.serve]
    rw [hlisted]
    exact ⟨⟨ps, rfl, hsorted, hmem⟩, h⟩
  | deletePod pool name =>
    refine ⟨congrArg Answer.existed (h.contains_pod hcall name), ?_⟩
    exact h.place_pod hcall (Keyed.find?_erase s.pods _) nofun
  | setPodPhase pool name phase =>
    rw [Store.serve, Registry.Reports, Registry.next]
    rw [h.setPodPhase_eq hcall name phase]
    cases hfound : m.pods (pool, name) with
    | none =>
      refine ⟨rfl, ?_⟩
      have hsame : Function.update m.pods (pool, name) none = m.pods :=
        Function.update_eq_self_iff.mpr hfound.symm
      rw [Option.map_none, hsame]
      exact h
    | some p =>
      refine ⟨rfl, h.place_pod hcall (Keyed.find?_insert s.pods _ · _) ?_⟩
      rintro _ ⟨⟩
      exact h.owned pool name p hfound

end Represents

theorem Represents.foldl {s : Store} {m : Registry} (h : s.Represents m) {calls : List Call}
    (hcalls : ∀ c ∈ calls, c.ColonFree) :
    (calls.foldl (fun s c => (s.serve c).2) s).Represents (calls.foldl Registry.next m) := by
  induction calls generalizing s m with
  | nil => exact h
  | cons c calls ih =>
    obtain ⟨hc, hcalls⟩ := List.forall_mem_cons.mp hcalls
    exact ih (h.serve hc).2 hcalls

/-- After any calls a store represents what they leave of the maps. -/
theorem represents_after {calls : List Call} (hcalls : ∀ c ∈ calls, c.ColonFree) :
    (after calls).Represents (.after calls) :=
  Represents.empty.foldl hcalls

/-- A store is two plain maps: after any calls, each further call returns just what it
returns on the maps.  No name of a pool may have a colon; names of pods may. -/
theorem reports_iff {calls : List Call} (hcalls : ∀ c ∈ calls, c.ColonFree) {call : Call}
    (hcall : call.ColonFree) (a : Answer) :
    (Registry.after calls).Reports call a ↔ a = ((after calls).serve call).1 := by
  obtain ⟨hreports, -⟩ := (represents_after hcalls).serve hcall
  constructor
  · exact fun ha => ha.unique hreports
  · rintro rfl
    exact hreports

/-- A pod whose pool is not there and whose name has a colon. -/
def stray (phase : Phase) : Pod := ⟨"a:b", "ghost", phase, "runner", .empty, .empty, 7⟩

/-- A pool that is put and deleted again, and pods. -/
def strayCalls : List Call := [
  .putPool (.new ⟨"ci", ⟨"", "acme", "", "ci"⟩, 2, none, ⟨"runner", .empty, .empty⟩, 0⟩),
  .putPod ⟨"ci-a", "ci", .running, "runner", .empty, .empty, 5⟩,
  .putPod (stray .pending),
  .setPodPhase "ghost" "a:b" .failed,
  .deletePool "ci"]

theorem reports_iff_stray :
    (∀ c ∈ strayCalls, c.ColonFree) ∧ (Call.listPods "ghost").ColonFree ∧
      ((after strayCalls).serve (.listPods "ghost")).1 = .pods [stray .failed] := by
  have hcalls : ∀ c ∈ strayCalls, c.ColonFree := by decide
  have hcall : (Call.listPods "ghost").ColonFree := by decide
  have hpods : ∀ name, (Registry.after strayCalls).pods ("ghost", name) =
      if name = "a:b" then some (stray .failed) else none := by
    intro name
    by_cases hname : name = "a:b"
    · subst hname
      decide
    · simp [Registry.after, strayCalls, Registry.next, Registry.empty, Function.update_apply, stray,
        hname]
  refine ⟨hcalls, hcall, ((reports_iff hcalls hcall _).mp ?_).symm⟩
  refine ⟨_, rfl, List.pairwise_singleton _ _, fun p => ?_⟩
  rw [List.mem_singleton]
  constructor
  · rintro rfl
    exact ⟨"a:b", hpods "a:b"⟩
  · rintro ⟨name, hp⟩
    rw [hpods name] at hp
    split at hp
    · exact (Option.some.inj hp).symm
    · cases hp

end Store

end PoolScaler
