import PoolScaler.Proofs.Json.Faithful
import PoolScaler.Proofs.Store.Refinement
set_option autoImplicit false

/-!
# What was last written

A store gives back, under each key, the record that was last written there, whatever the
names are and in whatever order the members of its texts stand.  A `Ledger` is the records
that the calls of a store have written, with no text in it.
-/

namespace PoolScaler

open Json (Faithful Reordered Survives)
open Store (Call Answer)

/-! ## Texts of records -/

namespace Json

/-- A text is that of a value, with the members of its objects in some order. -/
def Written {α : Type} (write : α → Json) (a : α) (text : String) : Prop :=
  ∃ j, Reordered (write a) j ∧ text = j.render

/-- A text is that of another one's value, with the members of its objects in another
order. -/
def Reworded (text text' : String) : Prop :=
  ∃ j j', j.Plain ∧ Reordered j j' ∧ text = j.render ∧ text' = j'.render

theorem render_injective {j j' : Json} (hj : j.Plain) (hj' : j'.Plain)
    (h : j.render = j'.render) : j = j' := by
  have hread := decodeText_render (α := Json) .ok hj
  rw [h, decodeText_render (α := Json) .ok hj'] at hread
  exact (Except.ok.inj hread).symm

variable {α : Type} {dec : Decoder α} {write : α → Json} {a : α} {text text' : String}

theorem Written.render (write : α → Json) (a : α) : Written write a (write a).render :=
  ⟨write a, .refl _, rfl⟩

theorem Written.decodeText (h : Faithful dec write) (htext : Written write a text) :
    decodeText dec text = .ok a := by
  obtain ⟨j, hj, rfl⟩ := htext
  exact h.decodeText_render hj

theorem Written.reworded (h : Faithful dec write) (htext : Written write a text)
    (hreworded : Reworded text text') : Written write a text' := by
  obtain ⟨j, hj, rfl⟩ := htext
  obtain ⟨i, i', hi, hreordered, hsame, rfl⟩ := hreworded
  obtain rfl := render_injective (hj.plain (h.plain a)) hi hsame
  exact ⟨i', hj.trans hreordered, rfl⟩

end Json

open Json (Written Reworded)

/-! ## The records -/

/-- Pools by their names and pods by their keys, as they were last written. -/
structure Ledger where
  pools : String → Option PoolRecord
  pods : String → Option Pod

namespace Ledger

/-- Nothing has been written. -/
def empty : Ledger := ⟨fun _ => none, fun _ => none⟩

/-- What a call writes, or takes away; the pod that is created is the one returned. -/
def enter (l : Ledger) : Call → Answer → Ledger
  | .putPool r, _ => { l with pools := Function.update l.pools r.tableKey (some r) }
  | .updatePoolStatus name status, _ =>
    { l with
      pools := Function.update l.pools name
        ((l.pools name).map fun r => { r with status := status }) }
  | .deletePool name, _ =>
    { pools := Function.update l.pools name none
      pods := fun key => if !Store.startsWith key (Store.podKeyStart name) then l.pods key
        else none }
  | .putPod p, _ => { l with pods := Function.update l.pods p.tableKey (some p) }
  | .createPod _ _ _ _, .created p _ =>
    { l with pods := Function.update l.pods p.tableKey (some p) }
  | .deletePod pool name, _ =>
    { l with pods := Function.update l.pods (Pod.key pool name) none }
  | .setPodPhase pool name phase, _ =>
    { l with
      pods := Function.update l.pods (Pod.key pool name)
        ((l.pods (Pod.key pool name)).map fun p => { p with phase := phase }) }
  | _, _ => l

/-- What calls have written, each with what it returned. -/
def ofLog (log : List (Call × Answer)) : Ledger := log.foldl (fun l e => l.enter e.1 e.2) empty

theorem ofLog_append (log : List (Call × Answer)) (call : Call) (a : Answer) :
    ofLog (log ++ [(call, a)]) = (ofLog log).enter call a := by
  rw [ofLog, List.foldl_append]
  rfl

end Ledger

namespace Store

/-! ## Stores in use -/

/-- A store with other texts of the same records under the same keys. -/
structure Rewritten (s t : Store) : Prop where
  pools : ∀ key, Option.Rel Reworded (s.pools.find? key) (t.pools.find? key)
  pods : ∀ key, Option.Rel Reworded (s.pods.find? key) (t.pods.find? key)

/-- The stores that come of calls, each with what it returned, from an empty store on.  The
members of the texts may be put into another order at any time. -/
inductive Course : List (Call × Answer) → Store → Prop where
  | start : Course [] empty
  | serve {log : List (Call × Answer)} {s : Store} (h : Course log s) (call : Call) :
    Course (log ++ [(call, (s.serve call).1)]) (s.serve call).2
  | rewrite {log : List (Call × Answer)} {s t : Store} (h : Course log s) (h' : Rewritten s t) :
    Course log t

/-! ## What is held -/

theorem rel_cases {α β : Type} {R : α → β → Prop} {a? : Option α} {b? : Option β}
    (h : Option.Rel R a? b?) :
    a? = none ∧ b? = none ∨ ∃ a b, a? = some a ∧ b? = some b ∧ R a b := by
  cases h with
  | none => exact .inl ⟨rfl, rfl⟩
  | some hab => exact .inr ⟨_, _, rfl, rfl, hab⟩

/-- A table holds what a map has, each record under its key. -/
structure Tabled {α : Type} (key : α → String) (write : α → Json) (f : String → Option α)
    (t : Keyed String) : Prop where
  texts : ∀ k, Option.Rel (Written write) (f k) (t.find? k)
  located : ∀ k a, f k = some a → key a = k

namespace Tabled

variable {α : Type} {key : α → String} {write : α → Json} {f : String → Option α}
  {t t' : Keyed String}

theorem empty : Tabled key write (fun _ => none) .empty := ⟨fun _ => .none, nofun⟩

theorem reworded {dec : Json.Decoder α} (h : Tabled key write f t) (hwrite : Faithful dec write)
    (ht : ∀ k, Option.Rel Reworded (t.find? k) (t'.find? k)) : Tabled key write f t' := by
  refine ⟨fun k => ?_, h.located⟩
  have hk := ht k
  rcases rel_cases (h.texts k) with ⟨hnone, hfind⟩ | ⟨a, text, hsome, hfind, hwritten⟩
  · rw [hfind] at hk
    rcases rel_cases hk with ⟨-, hfind'⟩ | ⟨_, _, habsurd, -⟩
    · rw [hnone, hfind']
      exact .none
    · cases habsurd
  · rw [hfind] at hk
    rcases rel_cases hk with ⟨habsurd, -⟩ | ⟨_, text', htext, hfind', hreworded⟩
    · cases habsurd
    · obtain rfl := Option.some.inj htext
      rw [hsome, hfind']
      exact .some (hwritten.reworded hwrite hreworded)

theorem insert (h : Tabled key write f t) (a : α) :
    Tabled key write (Function.update f (key a) (some a)) (t.insert (key a) (write a).render) := by
  refine ⟨fun k => ?_, fun k b hb => ?_⟩
  · rw [Function.update_apply, Keyed.find?_insert]
    split
    · exact .some (.render write a)
    · exact h.texts k
  · rw [Function.update_apply] at hb
    split at hb
    · rename_i hk
      rw [hk, Option.some.inj hb]
    · exact h.located k b hb

theorem filter (h : Tabled key write f t) (keep : String → Bool) :
    Tabled key write (fun k => if keep k then f k else none) (t.filter fun e => keep e.1) := by
  refine ⟨fun k => ?_, fun k a ha => ?_⟩
  · rw [Keyed.find?_filter]
    split
    · exact h.texts k
    · exact .none
  · split at ha
    · exact h.located k a ha
    · cases ha

theorem erase (h : Tabled key write f t) (k : String) :
    Tabled key write (Function.update f k none) (t.erase k) := by
  have hsame : Function.update f k none = fun k' => if (k' != k) = true then f k' else none := by
    funext k'
    rw [Function.update_apply]
    by_cases hk : k' = k <;> simp [hk]
  rw [hsame]
  exact h.filter (· != k)

theorem find?_none (h : Tabled key write f t) {k : String} (hk : f k = none) :
    t.find? k = none := by
  rcases rel_cases (h.texts k) with ⟨-, hfind⟩ | ⟨a, _, hsome, -⟩
  · exact hfind
  · cases hk.symm.trans hsome

theorem find?_some (h : Tabled key write f t) {k : String} {a : α} (hk : f k = some a) :
    ∃ text, t.find? k = some text ∧ Written write a text := by
  rcases rel_cases (h.texts k) with ⟨hnone, -⟩ | ⟨a', text, hsome, hfind, hwritten⟩
  · cases hk.symm.trans hnone
  · obtain rfl := Option.some.inj (hk.symm.trans hsome)
    exact ⟨text, hfind, hwritten⟩

theorem exists_of_mem (h : Tabled key write f t) {e : String × String} (he : e ∈ t.entries) :
    ∃ a, f e.1 = some a ∧ Written write a e.2 := by
  have hfind := Keyed.find?_of_mem he
  rcases rel_cases (h.texts e.1) with ⟨-, hnone⟩ | ⟨a, text, hsome, hfind', hwritten⟩
  · cases hfind.symm.trans hnone
  · obtain rfl := Option.some.inj (hfind.symm.trans hfind')
    exact ⟨a, hsome, hwritten⟩

end Tabled

/-- A store holds the records of a ledger. -/
structure Keeps (s : Store) (l : Ledger) : Prop where
  pools : Tabled PoolRecord.tableKey PoolRecord.toJson l.pools s.pools
  pods : Tabled Pod.tableKey Pod.toJson l.pods s.pods

/-- A pod is not created only if every name that was drawn for it is taken. -/
theorem createPod_eq_error {s : Store} {spec : PoolSpec} {extra : Pairs} {now : Instant}
    {draws : List String} {fault : StoreFault}
    (hcreate : s.createPod spec extra now draws = .error fault) : fault = .noFreeName := by
  unfold createPod at hcreate
  split at hcreate
  · exact (Except.error.inj hcreate).symm
  · cases hcreate

theorem readPool_written {r : PoolRecord} {text : String} (h : Written PoolRecord.toJson r text) :
    readPool text = .ok r := by
  rw [readPool, readRecord, h.decodeText PoolRecord.faithful]

theorem readPod_written {p : Pod} {text : String} (h : Written Pod.toJson p text) :
    readPod text = .ok p := by
  rw [readPod, readRecord, h.decodeText Pod.faithful]

namespace Keeps

variable {s t : Store} {l : Ledger}

theorem empty : Store.empty.Keeps .empty := ⟨.empty, .empty⟩

theorem rewritten (h : s.Keeps l) (hst : s.Rewritten t) : t.Keeps l :=
  ⟨h.pools.reworded PoolRecord.faithful hst.pools, h.pods.reworded Pod.faithful hst.pods⟩

/-! ### What calls return -/

/-- A pool is looked up as it was last written. -/
theorem getPool_eq (h : s.Keeps l) (name : String) : s.getPool name = .ok (l.pools name) := by
  unfold getPool
  cases hpool : l.pools name with
  | none => rw [h.pools.find?_none hpool]
  | some r =>
    obtain ⟨text, hfind, hwritten⟩ := h.pools.find?_some hpool
    rw [hfind]
    dsimp only
    rw [readPool_written hwritten]
    rfl

theorem listPools_ok (h : s.Keeps l) : ∃ rs, s.listPools = .ok rs := by
  refine exists_mapM_eq_ok fun e he => ?_
  obtain ⟨r, -, hwritten⟩ := h.pools.exists_of_mem he
  exact ⟨r, readPool_written hwritten⟩

/-- The pods are listed that were last written under keys which start with the name of a
pool, each once, the oldest first and then in the order of the names. -/
theorem listPods_ok (h : s.Keeps l) (pool : String) :
    ∃ ps, s.listPods pool = .ok ps ∧ ps.Nodup ∧
      ps.Pairwise (fun p q => listedBefore p q = true) ∧
      ∀ p, p ∈ ps ↔ startsWith p.tableKey (podKeyStart pool) = true ∧
        l.pods p.tableKey = some p := by
  have hentry : ∀ e ∈ texts s pool, ∃ p, readPod e.2 = .ok p ∧ l.pods e.1 = some p := by
    intro e he
    obtain ⟨p, hp, hwritten⟩ := h.pods.exists_of_mem (List.mem_of_mem_filter he)
    exact ⟨p, readPod_written hwritten, hp⟩
  obtain ⟨found, hread⟩ := exists_mapM_eq_ok fun e he => (hentry e he).imp fun _ hp => hp.1
  have hfound : List.Forall₂ (fun e p => l.pods e.1 = some p) (texts s pool) found := by
    refine forall₂_imp_of_mem (mapM_eq_ok_iff.mp hread) fun e he p hp => ?_
    obtain ⟨p', hp', hpod⟩ := hentry e he
    rwa [← Except.ok.inj (hp'.symm.trans hp)]
  have hkeys : (texts s pool).map (·.1) = found.map Pod.tableKey := by
    rw [← List.forall₂_eq_eq_eq, List.forall₂_map_left_iff, List.forall₂_map_right_iff]
    exact hfound.imp fun e p hp => (h.pods.located e.1 p hp).symm
  have hnodup : found.Nodup := by
    refine List.Nodup.of_map Pod.tableKey (hkeys ▸ ?_)
    refine List.pairwise_map.mpr ((s.pods.sorted.filter _).imp fun hlt heq => ?_)
    exact String.lt_irrefl _ (heq ▸ hlt)
  refine ⟨found.mergeSort listedBefore, listPods_of_texts hread,
    (List.mergeSort_perm found _).nodup_iff.mpr hnodup,
    List.pairwise_mergeSort listedBefore_trans listedBefore_total found, fun p => ?_⟩
  rw [List.mem_mergeSort]
  constructor
  · intro hp
    obtain ⟨e, he, hpod⟩ := exists_of_mem_right hfound hp
    rw [h.pods.located e.1 p hpod]
    exact ⟨(List.mem_filter.mp he).2, hpod⟩
  · rintro ⟨hstart, hpod⟩
    obtain ⟨text, hfind, -⟩ := h.pods.find?_some hpod
    have he : (p.tableKey, text) ∈ texts s pool :=
      List.mem_filter.mpr ⟨Keyed.mem_of_find? hfind, hstart⟩
    obtain ⟨p', hp', hpod'⟩ := exists_of_mem_right hfound.flip he
    obtain rfl := Option.some.inj (hpod.symm.trans hpod')
    exact hp'

theorem updatePoolStatus_eq (h : s.Keeps l) (name : String) (status : PoolStatus) :
    s.updatePoolStatus name status =
      match l.pools name with
      | none => .error (.poolNotFound name)
      | some r =>
        .ok { s with pools := s.pools.insert name (writePool { r with status := status }) } := by
  unfold updatePoolStatus
  cases hpool : l.pools name with
  | none => rw [h.pools.find?_none hpool]
  | some r =>
    obtain ⟨text, hfind, hwritten⟩ := h.pools.find?_some hpool
    rw [hfind]
    dsimp only
    rw [readPool_written hwritten]

theorem setPodPhase_eq (h : s.Keeps l) (pool name : String) (phase : Phase) :
    s.setPodPhase pool name phase =
      match l.pods (Pod.key pool name) with
      | none => .ok (false, s)
      | some p =>
        .ok (true,
          { s with
            pods := s.pods.insert (Pod.key pool name) (writePod { p with phase := phase }) }) := by
  unfold setPodPhase
  dsimp only
  cases hpod : l.pods (Pod.key pool name) with
  | none => rw [h.pods.find?_none hpod]
  | some p =>
    obtain ⟨text, hfind, hwritten⟩ := h.pods.find?_some hpod
    rw [hfind]
    dsimp only
    rw [readPod_written hwritten]

/-- A call finds every text readable that it needs, and leaves what it has written. -/
theorem serve (h : s.Keeps l) (call : Call) :
    (s.serve call).1 ≠ .fault .unreadable ∧ (s.serve call).2.Keeps (l.enter call (s.serve call).1) := by
  cases call with
  | putPool r => exact ⟨by rintro ⟨⟩, h.pools.insert r, h.pods⟩
  | getPool name =>
    rw [Store.serve, h.getPool_eq name]
    exact ⟨by rintro ⟨⟩, h⟩
  | listPools =>
    obtain ⟨rs, hrs⟩ := h.listPools_ok
    rw [Store.serve, hrs]
    exact ⟨by rintro ⟨⟩, h⟩
  | updatePoolStatus name status =>
    rw [Store.serve, h.updatePoolStatus_eq name status, Ledger.enter]
    cases hpool : l.pools name with
    | none =>
      have hsame : Function.update l.pools name none = l.pools :=
        Function.update_eq_self_iff.mpr hpool.symm
      rw [Option.map_none, hsame]
      exact ⟨by rintro ⟨⟩, h⟩
    | some r =>
      obtain rfl := h.pools.located name r hpool
      exact ⟨by rintro ⟨⟩, h.pools.insert { r with status := status }, h.pods⟩
  | deletePool name =>
    exact ⟨by rintro ⟨⟩, h.pools.erase name, h.pods.filter fun key => !startsWith key (podKeyStart name)⟩
  | putPod p => exact ⟨by rintro ⟨⟩, h.pools, h.pods.insert p⟩
  | createPod spec extra now draws =>
    rw [Store.serve]
    cases hcreate : s.createPod spec extra now draws with
    | error fault =>
      obtain rfl := createPod_eq_error hcreate
      exact ⟨by rintro ⟨⟩, h⟩
    | ok created =>
      obtain ⟨-, -, -, hleft⟩ := createPod_eq_ok hcreate
      refine ⟨by rintro ⟨⟩, ?_⟩
      rw [settle, hleft]
      exact ⟨h.pools, h.pods.insert created.1⟩
  | listPods pool =>
    obtain ⟨ps, hps, -⟩ := h.listPods_ok pool
    rw [Store.serve, hps]
    exact ⟨by rintro ⟨⟩, h⟩
  | deletePod pool name => exact ⟨by rintro ⟨⟩, h.pools, h.pods.erase (Pod.key pool name)⟩
  | setPodPhase pool name phase =>
    rw [Store.serve, h.setPodPhase_eq pool name phase, Ledger.enter]
    cases hpod : l.pods (Pod.key pool name) with
    | none =>
      have hsame : Function.update l.pods (Pod.key pool name) none = l.pods :=
        Function.update_eq_self_iff.mpr hpod.symm
      rw [Option.map_none, hsame]
      exact ⟨by rintro ⟨⟩, h⟩
    | some p =>
      rw [← h.pods.located _ p hpod]
      exact ⟨by rintro ⟨⟩, h.pools, h.pods.insert { p with phase := phase }⟩

end Keeps

/-- However a store is used, it holds what was last written, and nothing that was asked of
it failed over a text. -/
theorem Course.keeps {log : List (Call × Answer)} {s : Store} (h : Course log s) :
    s.Keeps (.ofLog log) ∧ ∀ e ∈ log, e.2 ≠ .fault .unreadable := by
  induction h with
  | start => exact ⟨.empty, List.forall_mem_nil _⟩
  | serve _ call ih =>
    obtain ⟨hkeeps, hlog⟩ := ih
    obtain ⟨hanswer, hleft⟩ := hkeeps.serve call
    rw [Ledger.ofLog_append]
    exact ⟨hleft, List.forall_mem_append.mpr ⟨hlog, List.forall_mem_singleton.mpr hanswer⟩⟩
  | rewrite _ hst ih => exact ⟨ih.1.rewritten hst, ih.2⟩

/-- Every record that is stored or sent is read back as it was, from its text and from the
bytes of its text, whatever the order of members in it.  So no use of a store ever meets a
text that it cannot read, and a store gives back what was last written. -/
theorem records_survive :
    Survives PoolRecord.fields.read PoolRecord.toJson ∧
    Survives Pod.fields.read Pod.toJson ∧
    (∀ {α : Type} {dec : Json.Decoder α} {write : α → Json}, Faithful dec write →
      Survives (CacheEntry.fields dec).read (CacheEntry.toJson write)) ∧
    Survives AdminConnection.fields.read AdminConnection.toJson ∧
    Survives RunnerPool.fields.read RunnerPool.toJson ∧
    Survives SessionLease.fields.read SessionLease.toJson ∧
    Survives QueueMessage.fields.read QueueMessage.toJson ∧
    ∀ {log : List (Call × Answer)} {s : Store}, Course log s →
      (∀ e ∈ log, e.2 ≠ .fault .unreadable) ∧
      (∀ call, (s.serve call).1 ≠ .fault .unreadable) ∧
      (∀ name, s.getPool name = .ok ((Ledger.ofLog log).pools name)) ∧
      ∀ pool, ∃ ps, s.listPods pool = .ok ps ∧ ps.Nodup ∧
        ps.Pairwise (fun p q => listedBefore p q = true) ∧
        ∀ p, p ∈ ps ↔ startsWith p.tableKey (podKeyStart pool) = true ∧
          (Ledger.ofLog log).pods p.tableKey = some p := by
  refine ⟨PoolRecord.faithful.survives, Pod.faithful.survives,
    fun h => (CacheEntry.faithful h).survives, AdminConnection.faithful.survives,
    RunnerPool.faithful.survives, SessionLease.faithful.survives, QueueMessage.faithful.survives,
    fun hcourse => ?_⟩
  obtain ⟨hkeeps, hlog⟩ := hcourse.keeps
  exact ⟨hlog, fun call => (hkeeps.serve call).1, hkeeps.getPool_eq, hkeeps.listPods_ok⟩

/-- A pod as it is stored, but with its labels the other way round. -/
def turned (p : Pod) : Json :=
  .object [
    ("name", .str p.name),
    ("owner", .str p.owner),
    ("phase", p.phase.toJson),
    ("image", .str p.image),
    ("labels", .object (p.labels.entries.map fun e => (e.1, .str e.2)).reverse),
    ("env", p.env.toJson),
    ("created_at", .ofUInt64 p.createdAt)]

theorem reordered_turned (p : Pod) : Reordered p.toJson (turned p) := by
  have hnodup : ["name", "owner", "phase", "image", "labels", "env", "created_at"].Nodup := by decide
  refine .object hnodup (.of_eq rfl) fun name j j' hj hj' => ?_
  by_cases hname : name = "labels"
  · subst hname
    obtain rfl := Option.some.inj hj
    obtain rfl := Option.some.inj hj'
    refine .of_perm (List.reverse_perm _) ?_
    rw [List.map_map]
    exact List.pairwise_map.mpr (p.labels.sorted.imp String.ne_of_lt)
  · simp only [Keyed.lookup_cons, hname, if_false] at hj hj'
    rw [Option.some.inj (hj.symm.trans hj')]
    exact .refl j'

/-- A pod with two labels. -/
def tagged : Pod :=
  ⟨"ci-a", "ci", .pending, "runner", .ofList [("arch", "arm"), ("team", "\"ci\"\n")], .empty, 5⟩

/-- A store with the pod, its labels turned. -/
def taggedStore : Store := ⟨.empty, Keyed.empty.insert tagged.tableKey (turned tagged).render⟩

theorem course_tagged : Course [(.putPod tagged, .done)] taggedStore := by
  refine .rewrite (.serve .start (.putPod tagged)) ⟨fun _ => .none, fun key => ?_⟩
  have hfind : ∀ text : String, (Keyed.empty.insert tagged.tableKey text).find? key =
      if key = tagged.tableKey then some text else none :=
    fun text => Keyed.find?_insert .empty tagged.tableKey key text
  change Option.Rel Reworded ((Keyed.empty.insert tagged.tableKey (writePod tagged)).find? key)
    ((Keyed.empty.insert tagged.tableKey (turned tagged).render).find? key)
  rw [hfind, hfind]
  split
  · exact .some ⟨_, _, tagged.plain_toJson, reordered_turned tagged, rfl, rfl⟩
  · exact .none

theorem records_survive_tagged :
    Survives (CacheEntry.fields Json.asText).read (CacheEntry.toJson .str) ∧
    Course [(.putPod tagged, .done)] taggedStore ∧ taggedStore.listPods "ci" = .ok [tagged] := by
  obtain ⟨-, -, hentry, -, -, -, -, hstore⟩ := records_survive
  obtain ⟨-, -, -, hlist⟩ := hstore course_tagged
  obtain ⟨ps, hlisted, hnodup, -, hmem⟩ := hlist "ci"
  refine ⟨hentry .text, course_tagged, hlisted.trans (congrArg Except.ok ?_)⟩
  refine List.perm_singleton.mp ((List.perm_ext_iff_of_nodup hnodup (List.nodup_singleton _)).mpr
    fun p => (hmem p).trans ?_)
  have hpods : (Ledger.ofLog [(.putPod tagged, .done)]).pods =
      Function.update (fun _ => none) tagged.tableKey (some tagged) := rfl
  rw [hpods, Function.update_apply, List.mem_singleton]
  constructor
  · rintro ⟨-, hp⟩
    split at hp
    · exact (Option.some.inj hp).symm
    · cases hp
  · rintro rfl
    have hkey : tagged.tableKey = Pod.key "ci" "ci-a" := rfl
    rw [if_pos rfl, hkey]
    exact ⟨startsWith_key "ci" "ci-a", rfl⟩

end Store

end PoolScaler
