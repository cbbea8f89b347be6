import PoolScaler.Proofs.Reconcile.Course
import PoolScaler.Proofs.Store.Isolation
import PoolScaler.Settings.Use
set_option autoImplicit false

/-!
# Pools leave each other alone

What is done for one pool, passes included, touches only what stands among its
pods.  For some names that leaves the pods of another pool alone, and these are not
all the names a pool may have.
-/

namespace PoolScaler.Reconcile

open Dialogue (Ends)
open Store (SameOutside SamePods)

/-! ## What a pass touches -/

variable {pool : String}

theorem sameOutside_deleteAll (pool : String) (s : Store) (gone : List Pod) :
    SameOutside pool s (deleteAll pool s gone) := by
  intro key hkey
  refine find?_deleteAll (fun p _ => ?_) s
  rintro rfl
  exact Bool.false_ne_true (hkey.symm.trans (Store.startsWith_key pool p.name))

theorem sameOutside_perform (cfg : Config) {o : Opening} (ho : o.record.spec.name = pool)
    (now : Instant) (move : Move) (st : Stage) :
    SameOutside pool st.store (perform cfg o now move st).2.store := by
  cases move with
  | rest | hold _ | backOff => exact .refl pool _
  | create count env =>
    have hcreate : SameOutside pool st.store (createAll o.record.spec env now count st).2.store :=
      createAll_keeps (P := SameOutside pool st.store)
        (fun hcreate h => h.trans (.createPod ho hcreate)) count (.refl pool _)
    unfold perform
    dsimp only
    split
    · rename_i hfault
      rw [hfault] at hcreate
      exact hcreate
    · rename_i hdone
      rw [hdone] at hcreate
      exact hcreate
  | delete gone =>
    rw [perform_delete, ho]
    exact sameOutside_deleteAll pool st.store gone

theorem sameOutside_conclude (cfg : Config) (now : Instant) {o : Opening}
    (ho : o.record.spec.name = pool) (move : Except Fault Move) (st : Stage) :
    SameOutside pool st.store (conclude cfg pool now o move st).2.store := by
  rcases move with fault | move
  · exact .refl pool _
  · exact (sameOutside_perform cfg ho now move st).of_pods_eq (conclude_pods cfg pool now o move st)

theorem sameOutside_openPass (pool : String) (now : Instant) {st : Stage}
    (hfiled : st.store.Filed) :
    SameOutside pool st.store (openPass pool now st).2.store ∧
      ∀ o, (openPass pool now st).1 = .ok o → o.record.spec.name = pool := by
  unfold openPass
  split
  · exact ⟨.refl pool _, nofun⟩
  · exact ⟨.refl pool _, nofun⟩
  · rename_i record hfound
    have hname := name_of_getPool hfiled hfound
    dsimp only
    split
    · exact ⟨.refl pool _, nofun⟩
    · refine ⟨?_, ?_⟩
      · rw [hname]
        exact sameOutside_deleteAll pool st.store _
      · rintro o ⟨⟩
        exact hname

/-- Whatever it is answered, a pass touches only what stands among the pods of its
pool. -/
theorem sameOutside_pass (cfg : Config) (pool : String) (now : Instant) {st : Stage}
    (hfiled : st.store.Filed) :
    (pass cfg pool now st).Ends fun out => SameOutside pool st.store out.2.store := by
  obtain ⟨hopen, hname⟩ := sameOutside_openPass pool now hfiled
  unfold pass
  split
  · rename_i hfault
    rw [hfault] at hopen
    exact hopen
  · rename_i o st' hok
    rw [hok] at hopen hname
    refine (Ends.trivial _).bind fun move _ => ?_
    exact hopen.trans (sameOutside_conclude cfg now (hname o rfl) move st')

/-! ## Isolation -/

/-- Listing the pods of `p` yields none of `q`, and nothing that is done for `p`
removes or alters a pod of `q`. -/
structure Isolated (s : Store) (p q : String) : Prop where
  listed : ∃ pods, s.listPods p = .ok pods ∧ ∀ x ∈ pods, x.owner ≠ q
  deletePool : SamePods q s (s.deletePool p).2
  deletePod : ∀ name, SamePods q s (s.deletePod p name).2
  setPodPhase : ∀ name phase found s', s.setPodPhase p name phase = .ok (found, s') →
    SamePods q s s'
  createPod : ∀ spec extra now draws x draws' s', spec.name = p →
    s.createPod spec extra now draws = .ok (x, draws', s') → SamePods q s s'
  putPod : ∀ x : Pod, x.owner = p → SamePods q s (s.putPod x)
  pass : ∀ cfg now tracker draws {σ : Type} (env : Surroundings RunnersCall.interface σ) (c : σ),
    SamePods q s ((pass cfg p now ⟨s, tracker, draws⟩).run env c).result.2.store

theorem isolated_of_apart {s : Store} (hfiled : s.Filed) {p q : String} (h : Apart p q) :
    Isolated s p q where
  listed := hfiled.listPods_apart h
  deletePool := (SameOutside.deletePool p s).samePods h
  deletePod name := (SameOutside.deletePod p name s).samePods h
  setPodPhase _ _ _ _ hset := (SameOutside.setPodPhase hset).samePods h
  createPod _ _ _ _ _ _ _ hspec hcreate := (SameOutside.createPod hspec hcreate).samePods h
  putPod _ hx := (SameOutside.putPod hx s).samePods h
  pass cfg now _ _ _ env c := ((sameOutside_pass cfg p now hfiled).run env c).samePods h

/-- A pod of `q` named so that it stands among the pods of `p`. -/
def straying (q name : String) : Pod := ⟨name, q, .running, "runner", .empty, .empty, 0⟩

theorem not_isolated_straying {p q name : String}
    (h : Store.startsWith (Pod.key q name) (Store.podKeyStart p) = true) :
    ¬ Isolated (Store.empty.putPod (straying q name)) p q := by
  intro hisolated
  obtain ⟨pods, hlisted, hpods⟩ := hisolated.listed
  have hsingle : (Store.empty.putPod (straying q name)).listPods p = .ok [straying q name] :=
    Store.listPods_single h
  obtain rfl := Except.ok.inj (hsingle.symm.trans hlisted)
  exact hpods _ (List.mem_singleton.mpr rfl) rfl

/-- The pods of `q` are safe from whatever is done for `p`, in every store that comes
of using one, just if the two names are apart. -/
theorem isolated_iff (p q : String) :
    (∀ s : Store, s.Reachable → Isolated s p q) ↔ Apart p q := by
  constructor
  · intro hall
    by_contra h
    obtain ⟨name, hname⟩ := exists_startsWith_key h
    exact not_isolated_straying hname (hall _ (Store.Reachable.empty.putPod _))
  · exact fun h s hs => isolated_of_apart hs.filed h

/-- A pool may have this name. -/
def Accepted (name : String) : Prop :=
  ∃ settings : Settings, settings.pool.name = name ∧ settings.validate = .ok ()

/-- Settings of a pool of some name. -/
def called (name : String) : Settings :=
  ⟨⟨"https://github.com", none, some "secret", none, none⟩,
    ⟨name, "", "acme", "", 0, none, "runner", .empty, .empty⟩, .usual, .usual, .usual⟩

/-- Two pools may have names of which one is listed the pods of the other, and deletes
them. -/
theorem not_isolated_colon :
    Accepted "a" ∧ Accepted "a:b" ∧ "a" ≠ "a:b" ∧
      let s := Store.empty.putPod (straying "a:b" "x")
      s.Reachable ∧ ¬ Isolated s "a" "a:b" ∧ s.Holds (straying "a:b" "x") ∧
        s.listPods "a" = .ok [straying "a:b" "x"] ∧
        ¬ (s.deletePool "a").2.Holds (straying "a:b" "x") := by
  have hstart : Store.startsWith (Pod.key "a:b" "x") (Store.podKeyStart "a") = true := by decide
  refine ⟨⟨called "a", rfl, by decide +kernel⟩, ⟨called "a:b", rfl, by decide +kernel⟩, by decide,
    .putPod .empty _, not_isolated_straying hstart, ⟨_, rfl, Store.readPod_writePod _⟩,
    Store.listPods_single hstart, ?_⟩
  rintro ⟨text, hfind, -⟩
  cases hfind

end PoolScaler.Reconcile
