import PoolScaler.Proofs.Store.Roster
set_option autoImplicit false

/-!
# New pods take free places

The name of a new pod is made of the first drawn suffix whose place in the table is free.
So a pod is added and none is written over, however many suffixes collide, and pods that are
created one after another from one supply of suffixes all have different names.
-/

namespace PoolScaler

namespace Keyed

variable {α : Type} {m : Keyed α} {key : String} {value : α}

theorem insertEntry_perm {entries : List (String × α)} (h : entries.lookup key = none) :
    (insertEntry key value entries).Perm ((key, value) :: entries) := by
  induction entries with
  | nil => exact .refl _
  | cons e entries ih =>
    rw [lookup_cons] at h
    rw [insertEntry]
    split
    · exact .refl _
    · split
      · rename_i heq
        rw [if_pos heq] at h
        cases h
      · rename_i hne
        rw [if_neg hne] at h
        exact ((ih h).cons e).trans (.swap ..)

/-- To put a value under a key without one adds one entry. -/
theorem insert_perm (h : m.find? key = none) :
    (m.insert key value).entries.Perm ((key, value) :: m.entries) :=
  insertEntry_perm h

theorem nodup_keys (m : Keyed α) : (m.entries.map (·.1)).Nodup := by
  refine List.pairwise_map.mpr (m.sorted.imp ?_)
  intro e e' hlt hsame
  exact String.lt_irrefl _ (hsame ▸ hlt)

/-- Under each key the upper map's value counts, if it has one. -/
theorem find?_overlay (lower upper : Keyed α) (key : String) :
    (lower.overlay upper).find? key = (upper.find? key).or (lower.find? key) :=
  find?_foldl_insert upper.nodup_keys

end Keyed

namespace Store

/-- There is no pod yet under the name that a suffix gives. -/
def frees (s : Store) (pool suffix : String) : Bool :=
  !s.pods.contains (Pod.key pool (pool ++ "-" ++ suffix))

/-- The suffixes of a supply that are free, each where it comes first. -/
def freeSuffixes (s : Store) (pool : String) (draws : List String) : List String :=
  (draws.filter (s.frees pool)).eraseDups

/-- The pod that is made for a spec under a suffix. -/
def podFor (spec : PoolSpec) (extra : Pairs) (now : Instant) (suffix : String) : Pod :=
  { name := spec.name ++ "-" ++ suffix
    owner := spec.name
    phase := .pending
    image := spec.template.image
    labels := spec.template.labels
    env := spec.template.env.overlay extra
    createdAt := now }

/-- What a pod is created from. -/
structure Request where
  spec : PoolSpec
  extra : Pairs
  now : Instant
  deriving DecidableEq, Repr

/-- The pods that are made for requests under suffixes, one for each. -/
def podsFor (requests : List Request) (suffixes : List String) : List Pod :=
  List.zipWith (fun r suffix => podFor r.spec r.extra r.now suffix) requests suffixes

/-- Create pods one after another, the suffixes coming from one supply. -/
def createEach (s : Store) : List Request → List String →
    Except StoreFault (List Pod × List String × Store)
  | [], draws => .ok ([], draws, s)
  | r :: requests, draws =>
    match s.createPod r.spec r.extra r.now draws with
    | .error fault => .error fault
    | .ok (p, draws, s) =>
      match createEach s requests draws with
      | .error fault => .error fault
      | .ok (pods, draws, s) => .ok (p :: pods, draws, s)

variable {s s' : Store} {spec : PoolSpec} {extra : Pairs} {now : Instant} {pool suffix : String}
  {draws taken rest : List String}

/-! ## One pod -/

theorem find?_of_frees (h : s.frees pool suffix = true) :
    s.pods.find? (Pod.key pool (pool ++ "-" ++ suffix)) = none := by
  rw [frees, Bool.not_eq_true'] at h
  exact Option.not_isSome_iff_eq_none.mp (Bool.not_eq_true _ ▸ h)

theorem freeName?_first (htaken : ∀ x ∈ taken, s.frees pool x = false)
    (hfree : s.frees pool suffix = true) :
    freeName? s.pods pool (taken ++ suffix :: rest) = some (pool ++ "-" ++ suffix, rest) := by
  induction taken with
  | nil =>
    rw [frees, Bool.not_eq_true'] at hfree
    rw [List.nil_append, freeName?, hfree]
    rfl
  | cons x taken ih =>
    obtain ⟨hx, htaken⟩ := List.forall_mem_cons.mp htaken
    rw [frees, Bool.not_eq_false'] at hx
    rw [List.cons_append, freeName?, if_pos hx]
    exact ih htaken

/-- The first free suffix counts. -/
theorem createPod_first (htaken : ∀ x ∈ taken, s.frees spec.name x = false)
    (hfree : s.frees spec.name suffix = true) :
    s.createPod spec extra now (taken ++ suffix :: rest) =
      .ok (podFor spec extra now suffix, rest, s.putPod (podFor spec extra now suffix)) := by
  rw [createPod, freeName?_first htaken hfree]
  rfl

/-- A supply with a free suffix begins with those that are taken. -/
theorem exists_first_free (h : ∃ suffix ∈ draws, s.frees pool suffix = true) :
    ∃ taken suffix rest, draws = taken ++ suffix :: rest ∧
      (∀ x ∈ taken, s.frees pool x = false) ∧ s.frees pool suffix = true ∧
      draws.find? (s.frees pool) = some suffix := by
  obtain ⟨suffix, hfind⟩ := Option.isSome_iff_exists.mp (List.find?_isSome.mpr h)
  obtain ⟨hfree, taken, rest, hsplit, htaken⟩ := List.find?_eq_some_iff_append.mp hfind
  exact ⟨taken, suffix, rest, hsplit, fun x hx => by simpa using htaken x hx, hfree, hfind⟩

/-- What the creation of a pod does to a store. -/
structure Creates (s : Store) (spec : PoolSpec) (extra : Pairs) (now : Instant)
    (draws : List String) (p : Pod) (s' : Store) : Prop where
  /-- The first free suffix gives the name. -/
  name : ∃ suffix, draws.find? (s.frees spec.name) = some suffix ∧
    p.name = spec.name ++ "-" ++ suffix
  owner : p.owner = spec.name
  phase : p.phase = .pending
  createdAt : p.createdAt = now
  image : p.image = spec.template.image
  labels : p.labels = spec.template.labels
  /-- A variable has the extra value, if there is one, and otherwise that of the template. -/
  env : ∀ key, p.env.find? key = (extra.find? key).or (spec.template.env.find? key)
  /-- The place of the pod was free, and its record is all that is added. -/
  free : s.pods.find? p.tableKey = none
  added : s'.pods.entries.Perm ((p.tableKey, writePod p) :: s.pods.entries)
  found : (s'.pods.find? p.tableKey).map readPod = some (.ok p)
  others : ∀ key, key ≠ p.tableKey → s'.pods.find? key = s.pods.find? key
  pools : s'.pools = s.pools

theorem creates_first (hfind : draws.find? (s.frees spec.name) = some suffix)
    (hfree : s.frees spec.name suffix = true) :
    s.Creates spec extra now draws (podFor spec extra now suffix)
      (s.putPod (podFor spec extra now suffix)) where
  name := ⟨suffix, hfind, rfl⟩
  owner := rfl
  phase := rfl
  createdAt := rfl
  image := rfl
  labels := rfl
  env := Keyed.find?_overlay spec.template.env extra
  free := find?_of_frees hfree
  added := Keyed.insert_perm (find?_of_frees hfree)
  found := by
    rw [putPod, Keyed.find?_insert, if_pos rfl, Option.map_some, readPod_writePod]
  others key hkey := by rw [putPod, Keyed.find?_insert, if_neg hkey]
  pools := rfl

/-! ## Pods in a row -/

/-- Pods of one pool are created one after another, each with its own spec and supply. -/
inductive InTurn (pool : String) : Store → List Pod → Store → Prop where
  | none (s : Store) : InTurn pool s [] s
  | next {s s' s'' : Store} {spec : PoolSpec} {extra : Pairs} {now : Instant}
    {draws rest : List String} {p : Pod} {pods : List Pod} (hspec : spec.name = pool)
    (hcreate : s.createPod spec extra now draws = .ok (p, rest, s')) (h : InTurn pool s' pods s'') :
    InTurn pool s (p :: pods) s''

/-- Some pods of a pool are added to a store, and nothing else is changed. -/
structure Adds (s : Store) (pool : String) (pods : List Pod) (s' : Store) : Prop where
  owner : ∀ p ∈ pods, p.owner = pool
  names : (pods.map (·.name)).Nodup
  added : s'.pods.entries.Perm (pods.map (fun p => (p.tableKey, writePod p)) ++ s.pods.entries)
  pools : s'.pools = s.pools

/-- Pods have different names when each has a place of its own in a table. -/
theorem names_nodup_of_perm {pods : List Pod} (howner : ∀ p ∈ pods, p.owner = pool)
    {entries : List (String × String)} {m : Keyed String}
    (hperm : m.entries.Perm (pods.map (fun p => (p.tableKey, writePod p)) ++ entries)) :
    (pods.map (·.name)).Nodup := by
  have hkeys : (pods.map (·.name)).map (Pod.key pool) =
      (pods.map fun p => (p.tableKey, writePod p)).map (·.1) := by
    rw [List.map_map, List.map_map]
    refine List.map_congr_left fun p hp => ?_
    rw [Function.comp_apply, Function.comp_apply, Pod.tableKey, howner p hp]
  have hnodup := (hperm.map (·.1)).nodup_iff.mp m.nodup_keys
  rw [List.map_append, ← hkeys] at hnodup
  exact (List.nodup_append.mp hnodup).1.of_map (Pod.key pool)

theorem InTurn.adds {pods : List Pod} (h : InTurn pool s pods s') : s.Adds pool pods s' := by
  obtain ⟨howner, hadded, hpools⟩ : (∀ p ∈ pods, p.owner = pool) ∧
      s'.pods.entries.Perm (pods.map (fun p => (p.tableKey, writePod p)) ++ s.pods.entries) ∧
      s'.pools = s.pools := by
    induction h with
    | none s => exact ⟨nofun, .refl _, rfl⟩
    | @next s s' s'' spec extra now draws rest p pods hspec hcreate _ ih =>
      obtain ⟨howner, hadded, hpools⟩ := ih
      obtain ⟨hmade, -, hfree, rfl⟩ := createPod_eq_ok hcreate
      refine ⟨List.forall_mem_cons.mpr ⟨hmade.trans hspec, howner⟩, ?_, hpools⟩
      have hone : (s.pods.insert p.tableKey (writePod p)).entries.Perm
          ((p.tableKey, writePod p) :: s.pods.entries) := Keyed.insert_perm hfree
      exact hadded.trans ((hone.append_left _).trans List.perm_middle)
  exact ⟨howner, names_nodup_of_perm howner hadded, hadded, hpools⟩

/-- Once a pod is there, the suffixes that are free are those that were, but its own. -/
theorem frees_putPod (suffix x : String) :
    (s.putPod (podFor spec extra now suffix)).frees spec.name x =
      (!(x == suffix) && s.frees spec.name x) := by
  have hkey : Pod.key spec.name (spec.name ++ "-" ++ x) =
      (podFor spec extra now suffix).tableKey ↔ x = suffix := by
    constructor
    · intro hkey
      exact String.append_right_inj _ |>.mp (Pod.key_injective hkey)
    · rintro rfl
      rfl
  rw [frees, frees, putPod, Keyed.contains, Keyed.find?_insert, Keyed.contains]
  by_cases hx : x = suffix
  · rw [if_pos (hkey.mpr hx), beq_iff_eq.mpr hx]
    rfl
  · rw [if_neg (mt hkey.mp hx), beq_eq_false_iff_ne.mpr hx]
    rfl

/-- The free suffixes of a supply are its first one and those that are free after it. -/
theorem freeSuffixes_split (extra : Pairs) (now : Instant)
    (htaken : ∀ x ∈ taken, s.frees spec.name x = false)
    (hfree : s.frees spec.name suffix = true) :
    s.freeSuffixes spec.name (taken ++ suffix :: rest) =
      suffix :: (s.putPod (podFor spec extra now suffix)).freeSuffixes spec.name rest := by
  have hnone : taken.filter (s.frees spec.name) = [] := by
    refine List.filter_eq_nil_iff.mpr fun x hx => ?_
    rw [htaken x hx]
    exact Bool.false_ne_true
  have hlater : (s.putPod (podFor spec extra now suffix)).frees spec.name =
      fun x => !(x == suffix) && s.frees spec.name x := funext (frees_putPod suffix)
  rw [freeSuffixes, List.filter_append, hnone, List.nil_append, List.filter_cons_of_pos hfree,
    List.eraseDups_cons, List.filter_filter, freeSuffixes, hlater]

theorem createEach_ok {requests : List Request} (hpool : ∀ r ∈ requests, r.spec.name = pool)
    (hdraws : requests.length ≤ (s.freeSuffixes pool draws).length) :
    ∃ rest s', s.createEach requests draws =
        .ok (podsFor requests (s.freeSuffixes pool draws), rest, s') ∧
      InTurn pool s (podsFor requests (s.freeSuffixes pool draws)) s' := by
  induction requests generalizing s draws with
  | nil => exact ⟨draws, s, rfl, .none s⟩
  | cons r requests ih =>
    obtain ⟨rfl, hpool⟩ := List.forall_mem_cons.mp hpool
    have hfree : ∃ suffix ∈ draws, s.frees r.spec.name suffix = true := by
      have hpos : 0 < (s.freeSuffixes r.spec.name draws).length :=
        Nat.lt_of_lt_of_le (Nat.succ_pos _) hdraws
      obtain ⟨suffix, hmem⟩ := List.exists_mem_of_length_pos hpos
      exact ⟨suffix, List.mem_filter.mp (List.mem_eraseDups.mp hmem)⟩
    obtain ⟨taken, suffix, rest, rfl, htaken, hfree, -⟩ := exists_first_free hfree
    have hfirst : s.createPod r.spec r.extra r.now (taken ++ suffix :: rest) =
        .ok (podFor r.spec r.extra r.now suffix, rest,
          s.putPod (podFor r.spec r.extra r.now suffix)) := createPod_first htaken hfree
    rw [freeSuffixes_split r.extra r.now htaken hfree] at hdraws ⊢
    obtain ⟨rest', s', hcreate, hturn⟩ := ih hpool (Nat.le_of_succ_le_succ hdraws)
    refine ⟨rest', s', ?_, .next rfl hfirst hturn⟩
    rw [createEach, hfirst]
    dsimp only
    rw [hcreate]
    rfl

theorem creation_never_overwrites (s : Store) :
    (∀ spec extra now draws, (∃ suffix ∈ draws, s.frees spec.name suffix = true) →
      ∃ p rest s', s.createPod spec extra now draws = .ok (p, rest, s') ∧
        s.Creates spec extra now draws p s') ∧
    (∀ pool pods s', InTurn pool s pods s' → s.Adds pool pods s') ∧
    ∀ pool requests draws, (∀ r ∈ requests, r.spec.name = pool) →
      requests.length ≤ (s.freeSuffixes pool draws).length →
      (podsFor requests (s.freeSuffixes pool draws)).length = requests.length ∧
        ∃ rest s', s.createEach requests draws =
            .ok (podsFor requests (s.freeSuffixes pool draws), rest, s') ∧
          InTurn pool s (podsFor requests (s.freeSuffixes pool draws)) s' := by
  refine ⟨fun spec extra now draws hfree => ?_, fun pool pods s' h => h.adds,
    fun pool requests draws hpool hdraws => ⟨?_, createEach_ok hpool hdraws⟩⟩
  · obtain ⟨taken, suffix, rest, rfl, htaken, hfree, hfind⟩ := exists_first_free hfree
    exact ⟨_, rest, _, createPod_first htaken hfree, creates_first hfind hfree⟩
  · rw [podsFor, List.length_zipWith, Nat.min_eq_left hdraws]

/-- A template with two variables. -/
def loggingSpec : PoolSpec :=
  ⟨"ci", ⟨"", "acme", "", "ci"⟩, 0, none,
    ⟨"runner", .ofList [("os", "linux")], .ofList [("LOG", "debug"), ("TZ", "UTC")]⟩, 0⟩

/-- A store in which the place that the first suffix gives is taken, by what is no pod. -/
def crowdedStore : Store := ⟨.empty, .ofList [("ci:ci-aaaaa", "?")]⟩

/-- Two pods in a row, where suffixes collide with the store and with each other. -/
theorem creation_never_overwrites_colliding :
    let extra : Pairs := .ofList [("LOG", "info"), ("TOKEN", "t")]
    let requests : List Request := [⟨loggingSpec, extra, 7⟩, ⟨loggingSpec, extra, 8⟩]
    let draws := ["aaaaa", "bbbbb", "aaaaa", "bbbbb", "ccccc", "ddddd"]
    let pods := [podFor loggingSpec extra 7 "bbbbb", podFor loggingSpec extra 8 "ccccc"]
    ((∃ suffix ∈ draws, crowdedStore.frees loggingSpec.name suffix = true) ∧
      ∃ p rest s', crowdedStore.createPod loggingSpec extra 7 draws = .ok (p, rest, s') ∧
        crowdedStore.Creates loggingSpec extra 7 draws p s' ∧ p.name = "ci-bbbbb" ∧
        p.env.find? "LOG" = some "info" ∧ p.env.find? "TZ" = some "UTC") ∧
    (∀ r ∈ requests, r.spec.name = "ci") ∧
      requests.length ≤ (crowdedStore.freeSuffixes "ci" draws).length ∧
      ∃ rest s', crowdedStore.createEach requests draws = .ok (pods, rest, s') ∧
        crowdedStore.Adds "ci" pods s' := by
  intro extra requests draws pods
  have hsuffixes : crowdedStore.freeSuffixes "ci" draws = ["bbbbb", "ccccc", "ddddd"] := by
    decide +kernel
  have hfirst : draws.find? (crowdedStore.frees loggingSpec.name) = some "bbbbb" := by
    decide +kernel
  have hfree : ∃ suffix ∈ draws, crowdedStore.frees loggingSpec.name suffix = true :=
    ⟨"bbbbb", List.mem_of_find?_eq_some hfirst, List.find?_some hfirst⟩
  have hpool : ∀ r ∈ requests, r.spec.name = "ci" := by decide +kernel
  have hdraws : requests.length ≤ (crowdedStore.freeSuffixes "ci" draws).length := by
    rw [hsuffixes]
    decide
  obtain ⟨hone, hturns, hmany⟩ := creation_never_overwrites crowdedStore
  obtain ⟨p, rest, s', hcreate, hcreates⟩ := hone loggingSpec extra 7 draws hfree
  obtain ⟨-, rest', s'', hall, hturn⟩ := hmany "ci" requests draws hpool hdraws
  rw [hsuffixes] at hall hturn
  refine ⟨⟨hfree, p, rest, s', hcreate, hcreates, ?_, ?_, ?_⟩, hpool, hdraws, rest', s'', hall,
    hturns "ci" pods s'' hturn⟩
  · obtain ⟨suffix, hfind, hname⟩ := hcreates.name
    obtain rfl := Option.some.inj (hfirst.symm.trans hfind)
    exact hname
  · rw [hcreates.env]
    decide +kernel
  · rw [hcreates.env]
    decide +kernel

end Store

end PoolScaler
