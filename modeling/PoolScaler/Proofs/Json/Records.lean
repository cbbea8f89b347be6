import Mathlib.Data.List.Forall2
import PoolScaler.Pool.Record
import PoolScaler.Proofs.Json.RoundTrip
set_option autoImplicit false

/-!
# Records are read back

A record is written as the members that its fields read, in their order.
Whatever is written so is read back, and the stored records are.
-/

namespace PoolScaler.Json

/-! ## Members -/

section

variable {members : List (String × Json)}

theorem lookup_eq_none {name : String}
    (hname : name ∉ members.map (·.1)) : members.lookup name = none := by
  rw [List.lookup_eq_none_iff]
  intro m hm
  refine bne_iff_ne.mpr ?_
  rintro rfl
  exact hname (List.mem_map_of_mem hm)

theorem lookup_of_mem (hnodup : (members.map (·.1)).Nodup)
    {m : String × Json} (hm : m ∈ members) : members.lookup m.1 = some m.2 := by
  induction members with
  | nil => cases hm
  | cons n members ih =>
    rw [List.map_cons, List.nodup_cons] at hnodup
    rcases List.mem_cons.mp hm with rfl | hm
    · rw [Keyed.lookup_cons, if_pos rfl]
    · have hne : m.1 ≠ n.1 := fun h => hnodup.1 (h ▸ List.mem_map_of_mem hm)
      rw [Keyed.lookup_cons, if_neg hne]
      exact ih hnodup.2 hm

theorem mem_names_iff {name : String} :
    name ∈ members.map (·.1) ↔ ∃ j, members.lookup name = some j := by
  constructor
  · intro hmem
    cases hlookup : members.lookup name with
    | some j => exact ⟨j, rfl⟩
    | none =>
      obtain ⟨m, hm, rfl⟩ := List.mem_map.mp hmem
      have hne := List.lookup_eq_none_iff.mp hlookup m hm
      exact absurd rfl (bne_iff_ne.mp hne)
  · rintro ⟨j, hlookup⟩
    refine Decidable.byContradiction fun hmem => ?_
    rw [lookup_eq_none hmem] at hlookup
    cases hlookup

theorem lookup_eq_some_iff (hnodup : (members.map (·.1)).Nodup) {name : String} {j : Json} :
    members.lookup name = some j ↔ (name, j) ∈ members := by
  constructor
  · intro hlookup
    obtain ⟨before, after, rfl, -⟩ := List.lookup_eq_some_iff.mp hlookup
    exact List.mem_append_right _ List.mem_cons_self
  · exact lookup_of_mem hnodup

end

/-! ## Fields and members -/

namespace Fields

variable {α β : Type}

/-- A record knows a name. -/
def knows (r : Fields α) (name : String) : Bool := (r.find? name).isSome

/-- A record takes a value under a name: it passes the check of its field, or can be passed
over. -/
def Admits (r : Fields α) (name : String) (j : Json) : Prop :=
  match r.find? name with
  | some f => f.check j = .ok ()
  | none => skip j = .ok ()

/-- An object is gone through to its end when each of its values is taken and no known name
comes twice, and those are kept whose names are known. -/
theorem scan_eq_ok_iff (r : Fields α) {seen members out : List (String × Json)}
    (hseen : (seen.map (·.1)).Nodup) :
    r.scan seen (members.map fun m => (.ok m.1, m.2)) none = .ok out ↔
      (∀ m ∈ members, r.Admits m.1 m.2) ∧
        ((seen ++ members.filter (r.knows ·.1)).map (·.1)).Nodup ∧
        out = seen ++ members.filter (r.knows ·.1) := by
  induction members generalizing seen with
  | nil =>
    rw [List.map_nil, scan, List.filter_nil, List.append_nil]
    constructor
    · intro h
      exact ⟨List.forall_mem_nil _, hseen, (Except.ok.inj h).symm⟩
    · exact fun h => congrArg Except.ok h.2.2.symm
  | cons m members ih =>
    rw [List.map_cons, scan, List.forall_mem_cons, List.filter_cons]
    unfold Admits knows
    cases hfind : r.find? m.1 with
    | none =>
      cases hskip : skip m.2 with
      | error fault =>
        constructor
        · rintro ⟨⟩
        · rintro ⟨⟨⟨⟩, -⟩, -⟩
      | ok =>
        refine (ih hseen).trans (and_congr_left fun _ => ?_)
        exact ⟨fun h => ⟨rfl, h⟩, fun h => h.2⟩
    | some f =>
      cases hlookup : seen.lookup m.1 with
      | some j =>
        -- the name has come before
        constructor
        · rintro ⟨⟩
        · rintro ⟨-, hnodup, -⟩
          rw [Option.isSome_some, if_pos rfl, List.map_append, List.map_cons] at hnodup
          have hmem := mem_names_iff.mpr ⟨j, hlookup⟩
          exact absurd rfl ((List.nodup_append.mp hnodup).2.2 _ hmem _ List.mem_cons_self)
      | none =>
        have hfresh : m.1 ∉ seen.map (·.1) := by
          intro hmem
          obtain ⟨j, hj⟩ := mem_names_iff.mp hmem
          cases hlookup.symm.trans hj
        have hseen' : ((seen ++ [m]).map (·.1)).Nodup := by
          rw [List.map_append, List.map_singleton]
          refine List.nodup_append.mpr
            ⟨hseen, List.pairwise_singleton _ _, fun name hname n hn => ?_⟩
          obtain rfl := List.mem_singleton.mp hn
          exact fun h => hfresh (h ▸ hname)
        cases hcheck : f.check m.2 with
        | error fault =>
          simp only [hcheck]
          constructor
          · rintro ⟨⟩
          · rintro ⟨⟨⟨⟩, -⟩, -⟩
        | ok =>
          simp only [hcheck]
          have hscan := ih hseen'
          rw [List.append_assoc] at hscan
          refine hscan.trans (and_congr_left fun _ => ?_)
          exact ⟨fun h => ⟨trivial, h⟩, fun h => h.2⟩

/-- A record is read from an object by those of its members whose names it knows. -/
theorem read_members_iff (r : Fields α) {members : List (String × Json)} {a : α} :
    r.read (.object members) = .ok a ↔
      (∀ m ∈ members, r.Admits m.1 m.2) ∧
        ((members.filter (r.knows ·.1)).map (·.1)).Nodup ∧
        r.build ⟨fun name => (members.filter (r.knows ·.1)).lookup name, false⟩ = .ok a := by
  have hscan : ∀ out, r.scan [] (members.map fun m => (.ok m.1, m.2)) none = .ok out ↔ _ :=
    fun _ => r.scan_eq_ok_iff List.nodup_nil
  rw [object, Fields.read]
  cases hseen : r.scan [] (members.map fun m => (.ok m.1, m.2)) none with
  | error fault =>
    constructor
    · rintro ⟨⟩
    · intro h
      rw [(hscan _).mpr ⟨h.1, h.2.1, rfl⟩] at hseen
      cases hseen
  | ok seen =>
    obtain ⟨hadmits, hnodup, rfl⟩ := (hscan seen).mp hseen
    exact ⟨fun h => ⟨hadmits, hnodup, h⟩, fun h => h.2.2⟩

/-- A record is read from an object of distinct names by what stands under its names. -/
theorem read_object_iff (r : Fields α) {members : List (String × Json)}
    (hnodup : (members.map (·.1)).Nodup) {a : α} :
    r.read (.object members) = .ok a ↔
      (∀ name j, members.lookup name = some j → r.Admits name j) ∧
        r.build ⟨fun name => if r.knows name then members.lookup name else none, false⟩ = .ok a := by
  have hadmits : (∀ m ∈ members, r.Admits m.1 m.2) ↔
      ∀ name j, members.lookup name = some j → r.Admits name j := by
    constructor
    · intro h name j hlookup
      exact h _ ((lookup_eq_some_iff hnodup).mp hlookup)
    · intro h m hm
      exact h _ _ ((lookup_eq_some_iff hnodup).mpr hm)
  have hknown : ((members.filter (r.knows ·.1)).map (·.1)).Nodup :=
    hnodup.sublist (List.filter_sublist.map _)
  have hvalue : (fun name => (members.filter (r.knows ·.1)).lookup name) =
      fun name => if r.knows name then members.lookup name else none := by
    funext name
    exact Keyed.lookup_filter r.knows name members
  rw [read_members_iff, hadmits, hvalue]
  exact and_congr_right fun _ => ⟨fun h => h.2, fun h => ⟨hknown, h⟩⟩

/-- Items are placed when there are no more of them than fields and each passes the check of
its field. -/
theorem place_eq_ok_iff {known : List Field} {items : List Json} {seen out : List (String × Json)} :
    place seen known items none = .ok out ↔
      items.length ≤ known.length ∧
        (∀ (i : Nat) (f : Field) (j : Json), known[i]? = some f → items[i]? = some j →
          f.check j = .ok ()) ∧
        out = seen ++ (known.map (·.name)).zip items := by
  induction known generalizing items seen with
  | nil =>
    cases items with
    | nil =>
      rw [place, List.map_nil, List.zip_nil_left, List.append_nil]
      exact ⟨fun h => ⟨Nat.le_refl 0, nofun, (Except.ok.inj h).symm⟩,
        fun h => congrArg _ h.2.2.symm⟩
    | cons j items =>
      constructor
      · rintro ⟨⟩
      · exact fun h => absurd h.1 (Nat.not_succ_le_zero _)
  | cons f known ih =>
    cases items with
    | nil =>
      rw [place, List.zip_nil_right, List.append_nil]
      exact ⟨fun h => ⟨Nat.zero_le _, nofun, (Except.ok.inj h).symm⟩,
        fun h => congrArg _ h.2.2.symm⟩
    | cons j items =>
      rw [place]
      cases hcheck : f.check j with
      | error fault =>
        constructor
        · rintro ⟨⟩
        · intro h
          cases hcheck.symm.trans (h.2.1 0 f j rfl rfl)
      | ok =>
        rw [List.map_cons, List.zip_cons_cons, List.length_cons, List.length_cons,
          Nat.add_le_add_iff_right]
        refine ih.trans (and_congr_right fun _ => and_congr ?_ (by rw [List.append_assoc]; rfl))
        constructor
        · intro h i g x hg hx
          cases i with
          | zero =>
            obtain ⟨rfl⟩ := hg
            obtain ⟨rfl⟩ := hx
            exact hcheck
          | succ i => exact h i g x hg hx
        · exact fun h i => h (i + 1)

/-- A record is read from a list by position. -/
theorem read_list_iff (r : Fields α) {items : List Json} {a : α} :
    r.read (.list items) = .ok a ↔
      items.length ≤ r.known.length ∧
        (∀ (i : Nat) (f : Field) (j : Json), r.known[i]? = some f → items[i]? = some j →
          f.check j = .ok ()) ∧
        r.build ⟨fun name => ((r.known.map (·.name)).zip items).lookup name, true⟩ = .ok a := by
  rw [list, Fields.read]
  cases hplace : place [] r.known items none with
  | error fault =>
    constructor
    · rintro ⟨⟩
    · intro h
      rw [place_eq_ok_iff.mpr ⟨h.1, h.2.1, rfl⟩] at hplace
      cases hplace
  | ok seen =>
    obtain ⟨hlength, hchecks, rfl⟩ := place_eq_ok_iff.mp hplace
    exact ⟨fun h => ⟨hlength, hchecks, h⟩, fun h => h.2.2⟩

section Fits

variable {γ : Type} {r : Fields α} {name : γ → String} {fits : Field → γ → Prop} {xs : List γ}

/-- What is fitted to the fields of a record name by name has their names. -/
theorem names_of_fits (hfits : List.Forall₂ (fun f x => f.name = name x ∧ fits f x) r.known xs) :
    r.known.map (·.name) = xs.map name := by
  generalize r.known = known at hfits
  induction hfits with
  | nil => rfl
  | cons hfit _ ih => rw [List.map_cons, List.map_cons, hfit.1, ih]

/-- Where the fields have distinct names, what is fitted to them name by name finds its field
under its name. -/
theorem find?_of_fits (hfits : List.Forall₂ (fun f x => f.name = name x ∧ fits f x) r.known xs)
    (hnames : (r.known.map (·.name)).Nodup) {x : γ} (hx : x ∈ xs) :
    ∃ f, r.find? (name x) = some f ∧ fits f x := by
  unfold Fields.find?
  generalize r.known = known at hfits hnames
  induction hfits with
  | nil => cases hx
  | @cons f y known xs hfit _ ih =>
    obtain ⟨hfresh, hnames⟩ := List.nodup_cons.mp hnames
    rcases List.mem_cons.mp hx with rfl | hx
    · exact ⟨f, List.find?_cons_of_pos (beq_iff_eq.mpr hfit.1), hfit.2⟩
    · obtain ⟨g, hfind, hg⟩ := ih hx hnames
      have hsame := List.find?_some hfind
      rw [beq_iff_eq] at hsame
      have hother : (f.name == name x) = false := by
        refine beq_eq_false_iff_ne.mpr fun hname => ?_
        exact hfresh (List.mem_map.mpr ⟨g, List.mem_of_find?_eq_some hfind,
          hsame.trans hname.symm⟩)
      refine ⟨g, ?_, hg⟩
      rw [List.find?_cons, hother]
      exact hfind

end Fits

/-- The members stand for `a` to whoever reads these fields: one for each field
in order, which passes the field's check, and together they build `a`. -/
structure Stores (r : Fields α) (a : α) (members : List (String × Json)) : Prop where
  fits : List.Forall₂ (fun f m => f.name = m.1 ∧ f.check m.2 = .ok ()) r.known members
  build : ∀ found : Found, (∀ m ∈ members, found.value m.1 = some m.2) → r.build found = .ok a

theorem stores_pure (a : α) : (pure a : Fields α).Stores a [] := ⟨.nil, fun _ _ => rfl⟩

theorem seq_build_eq_ok_iff {f : Fields (α → β)} {x : Unit → Fields α} {found : Found} {b : β} :
    (f.seq x).build found = .ok b ↔
      ∃ g a, f.build found = .ok g ∧ (x ()).build found = .ok a ∧ b = g a := by
  simp only [Fields.seq]
  cases hf : f.build found with
  | error fault =>
    constructor
    · rintro ⟨⟩
    · rintro ⟨-, -, ⟨⟩, -⟩
  | ok g =>
    cases hx : (x ()).build found with
    | error fault =>
      constructor
      · rintro ⟨⟩
      · rintro ⟨-, -, -, ⟨⟩, -⟩
    | ok a =>
      constructor
      · rintro ⟨⟩
        exact ⟨g, a, rfl, rfl, rfl⟩
      · rintro ⟨_, _, ⟨⟩, ⟨⟩, rfl⟩
        rfl

theorem Stores.seq {f : Fields (α → β)} {x : Unit → Fields α} {g : α → β} {a : α}
    {members members' : List (String × Json)} (hf : f.Stores g members)
    (hx : (x ()).Stores a members') : (f.seq x).Stores (g a) (members ++ members') := by
  refine ⟨List.rel_append hf.fits hx.fits, fun found hfound => ?_⟩
  have hg := hf.build found fun m hm => hfound m (List.mem_append_left _ hm)
  have ha := hx.build found fun m hm => hfound m (List.mem_append_right _ hm)
  exact seq_build_eq_ok_iff.mpr ⟨g, a, hg, ha, rfl⟩

theorem Stores.map {x : Fields α} {a : α} {members : List (String × Json)} (g : α → β)
    (hx : x.Stores a members) : (g <$> x).Stores (g a) members :=
  (stores_pure g).seq (x := fun _ => x) hx

theorem Stores.ap {f : Fields (α → β)} {x : Fields α} {g : α → β} {a : α}
    {members members' : List (String × Json)} (hf : f.Stores g members)
    (hx : x.Stores a members') : (f <*> x).Stores (g a) (members ++ members') :=
  hf.seq (x := fun _ => x) hx

theorem stores_field (name : String) {dec : Decoder α} (absent : Bool → Except Fault α) {a : α}
    {j : Json} (hdec : dec j = .ok a) : (field name dec absent).Stores a [(name, j)] := by
  refine ⟨.cons ⟨rfl, ?_⟩ .nil, fun found hfound => ?_⟩
  · simp only [hdec, Except.map]
  · simp only [field, hfound (name, j) List.mem_cons_self, hdec]

theorem stores_required (name : String) {dec : Decoder α} {a : α} {j : Json}
    (hdec : dec j = .ok a) : (required name dec).Stores a [(name, j)] :=
  stores_field name _ hdec

theorem stores_defaulted (name : String) {dec : Decoder α} (default : α) {a : α} {j : Json}
    (hdec : dec j = .ok a) : (defaulted name dec default).Stores a [(name, j)] :=
  stores_field name _ hdec

theorem stores_optional (name : String) {dec : Decoder α} {o : Option α} {j : Json}
    (hdec : asOption dec j = .ok o) : (optional name dec).Stores o [(name, j)] :=
  stores_field name _ hdec

theorem Stores.names {r : Fields α} {a : α} {members : List (String × Json)}
    (h : r.Stores a members) : r.known.map (·.name) = members.map (·.1) := names_of_fits h.fits

/-- The members of a record stand under names of its fields and pass their checks. -/
theorem Stores.find? {r : Fields α} {a : α} {members : List (String × Json)}
    (h : r.Stores a members) (hnames : (r.known.map (·.name)).Nodup) {m : String × Json}
    (hm : m ∈ members) : ∃ f, r.find? m.1 = some f ∧ f.check m.2 = .ok () :=
  find?_of_fits h.fits hnames hm

/-- What is written for a record is read back as the record. -/
theorem Stores.read {r : Fields α} {a : α} {members : List (String × Json)}
    (h : r.Stores a members) (hnames : (r.known.map (·.name)).Nodup) :
    r.read (.object members) = .ok a := by
  have hnodup : (members.map (·.1)).Nodup := by
    rw [← h.names]
    exact hnames
  rw [read_object_iff r hnodup]
  refine ⟨fun name j hlookup => ?_, h.build _ fun m hm => ?_⟩
  · obtain ⟨f, hfind, hcheck⟩ := h.find? hnames ((lookup_eq_some_iff hnodup).mp hlookup)
    unfold Admits
    rw [hfind]
    exact hcheck
  · obtain ⟨f, hfind, -⟩ := h.find? hnames hm
    have hknown : r.knows m.1 = true := by rw [knows, hfind, Option.isSome_some]
    dsimp only
    rw [if_pos hknown]
    exact lookup_of_mem hnodup hm

end Fields

/-! ## Values -/

theorem asIntIn_int {low high n : Int} (hlow : low ≤ n) (hhigh : n < high) :
    asIntIn low high (.int n) = .ok n := by
  rw [asIntIn, if_pos ⟨hlow, hhigh⟩]

theorem asUInt32_ofUInt32 (n : UInt32) : asUInt32 (.ofUInt32 n) = .ok n := by
  have hread := asIntIn_int (Int.natCast_nonneg n.toNat) (Int.ofNat_lt.mpr n.toNat_lt_size)
  unfold asUInt32 ofUInt32
  rw [hread, Except.map, Int.toNat_natCast, UInt32.ofNat_toNat]

theorem asUInt64_ofUInt64 (n : UInt64) : asUInt64 (.ofUInt64 n) = .ok n := by
  have hread := asIntIn_int (Int.natCast_nonneg n.toNat) (Int.ofNat_lt.mpr n.toNat_lt_size)
  unfold asUInt64 ofUInt64
  rw [hread, Except.map, Int.toNat_natCast, UInt64.ofNat_toNat]

theorem plain_ofUInt32 (n : UInt32) : (Json.ofUInt32 n).Plain := by
  have hn := n.toNat_lt_size
  have hsize : UInt32.size < UInt64.size := by decide
  exact .int (by omega) (by omega)

theorem plain_ofUInt64 (n : UInt64) : (Json.ofUInt64 n).Plain := by
  have hn := n.toNat_lt_size
  exact .int (by omega) (by omega)

section Wrapped

variable {α : Type} {dec : Decoder α} {write : α → Json}

theorem asOption_ofOption (hne : ∀ a, write a ≠ .null) (hdec : ∀ a, dec (write a) = .ok a)
    (o : Option α) : asOption dec (.ofOption write o) = .ok o := by
  cases o with
  | none => rfl
  | some a =>
    rw [ofOption, asOption, hdec]
    · rfl
    · exact hne a

theorem plain_ofOption (hplain : ∀ a, (write a).Plain) (o : Option α) :
    (Json.ofOption write o).Plain := by
  cases o with
  | none => exact .null
  | some a => exact hplain a

theorem asList_map (hdec : ∀ a, dec (write a) = .ok a) (as : List α) :
    asList dec (.list (as.map write)) = .ok as := by
  rw [list, asList]
  induction as with
  | nil => rfl
  | cons a as ih =>
    rw [List.map_cons, readItems, hdec, ih]
    rfl

theorem plain_list_map (hplain : ∀ a, (write a).Plain) (as : List α) :
    (Json.list (as.map write)).Plain := by
  refine .list fun j hj => ?_
  obtain ⟨a, -, rfl⟩ := List.mem_map.mp hj
  exact hplain a

end Wrapped

end PoolScaler.Json

namespace PoolScaler

open Json (Plain)
open Json.Fields (stores_required stores_defaulted stores_optional)

/-! ## Maps -/

theorem Keyed.insertEntry_of_lt {α : Type} {entries : List (String × α)} {key : String} {value : α}
    (hlt : ∀ e ∈ entries, e.1 < key) :
    insertEntry key value entries = entries ++ [(key, value)] := by
  induction entries with
  | nil => rfl
  | cons e entries ih =>
    have he := hlt e List.mem_cons_self
    have hge : ¬ key < e.1 := fun h => String.lt_irrefl _ (String.lt_trans h he)
    have hne : key ≠ e.1 := fun h => String.lt_irrefl _ (h ▸ he)
    rw [insertEntry, if_neg hge, if_neg hne, ih fun x hx => hlt x (List.mem_cons_of_mem e hx),
      List.cons_append]

theorem Keyed.mem_of_find? {α : Type} {m : Keyed α} {key : String} {value : α}
    (h : m.find? key = some value) : (key, value) ∈ m.entries := by
  obtain ⟨before, after, hentries, -⟩ := List.lookup_eq_some_iff.mp h
  rw [hentries]
  exact List.mem_append_right _ List.mem_cons_self

theorem Keyed.find?_of_mem {α : Type} {m : Keyed α} {e : String × α} (he : e ∈ m.entries) :
    m.find? e.1 = some e.2 := by
  obtain ⟨entries, hsorted⟩ := m
  change entries.lookup e.1 = some e.2
  change e ∈ entries at he
  induction entries with
  | nil => cases he
  | cons x entries ih =>
    rw [lookup_cons]
    obtain ⟨hx, hsorted⟩ := List.pairwise_cons.mp hsorted
    rcases List.mem_cons.mp he with rfl | he
    · rw [if_pos rfl]
    · have hne : e.1 ≠ x.1 := fun h => String.lt_irrefl _ (h ▸ hx e he)
      rw [if_neg hne]
      exact ih hsorted he

theorem Keyed.find?_of_find?_filter {α : Type} {m : Keyed α} {keep : String × α → Bool}
    {key : String} {value : α} (h : (m.filter keep).find? key = some value) :
    m.find? key = some value :=
  find?_of_mem (List.mem_of_mem_filter (mem_of_find? h))

theorem Keyed.eq_of_entries_eq {α : Type} {m n : Keyed α} (h : m.entries = n.entries) : m = n := by
  obtain ⟨entries, sorted⟩ := m
  subst h
  rfl

theorem Keyed.foldl_insert_entries {α : Type} (after : List (String × α)) (m : Keyed α)
    (hsorted : (m.entries ++ after).Pairwise fun a b => a.1 < b.1) :
    (after.foldl (fun m e => m.insert e.1 e.2) m).entries = m.entries ++ after := by
  induction after generalizing m with
  | nil => rw [List.append_nil]; rfl
  | cons e after ih =>
    have hlast : (m.insert e.1 e.2).entries = m.entries ++ [e] := by
      refine insertEntry_of_lt fun x hx => ?_
      exact (List.pairwise_append.mp hsorted).2.2 x hx e List.mem_cons_self
    rw [List.foldl_cons, ih]
    · rw [hlast, List.append_assoc]
      rfl
    · rw [hlast, List.append_assoc]
      exact hsorted

/-- Entries put into a map one after another are what is found under their keys. -/
theorem Keyed.find?_foldl_insert {α : Type} {entries : List (String × α)} {m : Keyed α}
    (hnodup : (entries.map (·.1)).Nodup) {key : String} :
    (entries.foldl (fun m e => m.insert e.1 e.2) m).find? key =
      (entries.lookup key).or (m.find? key) := by
  induction entries generalizing m with
  | nil => rfl
  | cons e entries ih =>
    obtain ⟨hfresh, hnodup⟩ := List.nodup_cons.mp hnodup
    rw [List.foldl_cons, ih hnodup, find?_insert, lookup_cons]
    split
    · rename_i hkey
      have hnone : entries.lookup key = none := by
        refine List.lookup_eq_none_iff.mpr fun x hx => bne_iff_ne.mpr ?_
        rintro rfl
        exact hfresh (List.mem_map.mpr ⟨x, hx, hkey⟩)
      rw [hnone]
      rfl
    · rfl

/-- A map is the map of its entries. -/
theorem Keyed.ofList_entries {α : Type} (m : Keyed α) : ofList m.entries = m :=
  eq_of_entries_eq (foldl_insert_entries m.entries empty m.sorted)

/-- The entries of an object of texts are its members. -/
theorem readEntries_eq_ok_iff {members : List (String × Json)} {entries : List (String × String)} :
    Json.readEntries Json.asText (members.map fun m => (.ok m.1, m.2)) none = .ok entries ↔
      members = entries.map fun e => (e.1, .str e.2) := by
  induction members generalizing entries with
  | nil =>
    rw [List.map_nil, Json.readEntries, eq_comm (a := []), List.map_eq_nil_iff, eq_comm]
    exact ⟨fun h => Except.ok.inj h, fun h => congrArg Except.ok h⟩
  | cons m members ih =>
    obtain ⟨name, j⟩ := m
    rw [List.map_cons, Json.readEntries]
    constructor
    · intro hread
      cases j with
      | str text =>
        cases hrest : Json.readEntries Json.asText (members.map fun m => (.ok m.1, m.2)) none with
        | error fault =>
          rw [hrest] at hread
          cases hread
        | ok rest =>
          rw [hrest] at hread
          rw [← Except.ok.inj hread, ih.mp hrest]
          rfl
      | null | bool | int | real | arr | obj | spoiled => cases hread
    · intro hmembers
      cases entries with
      | nil => cases hmembers
      | cons e entries =>
        obtain ⟨hm, hrest⟩ := List.cons.inj hmembers
        obtain ⟨rfl, rfl⟩ := Prod.mk.inj hm
        rw [ih.mpr hrest]
        rfl

theorem Pairs.decoder_toJson (m : Pairs) : Pairs.decoder m.toJson = .ok m := by
  rw [Pairs.decoder, Pairs.toJson, Json.object, Json.asEntries, readEntries_eq_ok_iff.mpr rfl,
    Except.map, Keyed.ofList_entries]

theorem Pairs.plain_toJson (m : Pairs) : m.toJson.Plain := by
  refine .object fun e he => ?_
  obtain ⟨x, -, rfl⟩ := List.mem_map.mp he
  exact .str x.2

/-! ## Stored records -/

theorem asText_str (s : String) : Json.asText (.str s) = .ok s := rfl

theorem Identity.read_toJson (i : Identity) : Identity.fields.read i.toJson = .ok i :=
  ((((stores_defaulted "enterprise" "" (asText_str i.enterprise)).map Identity.mk).ap
    (stores_defaulted "organization" "" (asText_str i.organization))).ap
    (stores_defaulted "repository" "" (asText_str i.repository))).ap
    (stores_required "pool_name" (asText_str i.poolName)) |>.read (by decide)

theorem Identity.plain_toJson (i : Identity) : i.toJson.Plain := by
  refine .object ?_
  simp only [List.forall_mem_cons]
  exact ⟨.str _, .str _, .str _, .str _, nofun⟩

theorem PodTemplate.read_toJson (t : PodTemplate) : PodTemplate.fields.read t.toJson = .ok t :=
  (((stores_required "image" (asText_str t.image)).map PodTemplate.mk).ap
    (stores_defaulted "labels" Keyed.empty (Pairs.decoder_toJson t.labels))).ap
    (stores_defaulted "env" Keyed.empty (Pairs.decoder_toJson t.env)) |>.read (by decide)

theorem PodTemplate.plain_toJson (t : PodTemplate) : t.toJson.Plain := by
  refine .object ?_
  simp only [List.forall_mem_cons]
  exact ⟨.str _, Pairs.plain_toJson _, Pairs.plain_toJson _, nofun⟩

theorem PoolSpec.read_toJson (s : PoolSpec) : PoolSpec.fields.read s.toJson = .ok s :=
  ((((((stores_required "name" (asText_str s.name)).map PoolSpec.mk).ap
    (stores_required "identity" s.identity.read_toJson)).ap
    (stores_required "min_replicas" (Json.asUInt32_ofUInt32 s.minReplicas))).ap
    (stores_optional "max_replicas"
      (Json.asOption_ofOption nofun Json.asUInt32_ofUInt32 s.maxReplicas))).ap
    (stores_required "template" s.template.read_toJson)).ap
    (stores_required "created_at" (Json.asUInt64_ofUInt64 s.createdAt)) |>.read (by decide)

theorem PoolSpec.plain_toJson (s : PoolSpec) : s.toJson.Plain := by
  refine .object ?_
  simp only [List.forall_mem_cons]
  exact ⟨.str _, s.identity.plain_toJson, Json.plain_ofUInt32 _,
    Json.plain_ofOption Json.plain_ofUInt32 _, s.template.plain_toJson, Json.plain_ofUInt64 _,
    nofun⟩

theorem Reservation.read_toJson (r : Reservation) : Reservation.fields.read r.toJson = .ok r :=
  (((stores_required "name" (asText_str r.name)).map Reservation.mk).ap
    (stores_required "replicas" (Json.asUInt32_ofUInt32 r.replicas))).ap
    (stores_required "expiration_time" (Json.asUInt64_ofUInt64 r.expirationTime))
    |>.read (by decide)

theorem Reservation.plain_toJson (r : Reservation) : r.toJson.Plain := by
  refine .object ?_
  simp only [List.forall_mem_cons]
  exact ⟨.str _, Json.plain_ofUInt32 _, Json.plain_ofUInt64 _, nofun⟩

theorem PoolStatus.read_toJson (s : PoolStatus) : PoolStatus.fields.read s.toJson = .ok s :=
  ((((((stores_required "desired_replicas" (Json.asUInt32_ofUInt32 s.desiredReplicas)).map
      PoolStatus.mk).ap
    (stores_required "available_replicas" (Json.asUInt32_ofUInt32 s.availableReplicas))).ap
    (stores_required "ready_replicas" (Json.asUInt32_ofUInt32 s.readyReplicas))).ap
    (stores_defaulted "capacity_reservations" []
      (Json.asList_map Reservation.read_toJson s.reservations))).ap
    (stores_defaulted "last_scale_up_at" none
      (Json.asOption_ofOption nofun Json.asUInt64_ofUInt64 s.lastScaleUpAt))).ap
    (stores_required "updated_at" (Json.asUInt64_ofUInt64 s.updatedAt)) |>.read (by decide)

theorem PoolStatus.plain_toJson (s : PoolStatus) : s.toJson.Plain := by
  refine .object ?_
  simp only [List.forall_mem_cons]
  exact ⟨Json.plain_ofUInt32 _, Json.plain_ofUInt32 _, Json.plain_ofUInt32 _,
    Json.plain_list_map Reservation.plain_toJson _, Json.plain_ofOption Json.plain_ofUInt64 _,
    Json.plain_ofUInt64 _, nofun⟩

theorem PoolRecord.read_toJson (r : PoolRecord) : PoolRecord.fields.read r.toJson = .ok r :=
  ((stores_required "spec" r.spec.read_toJson).map PoolRecord.mk).ap
    (stores_defaulted "status" PoolStatus.initial r.status.read_toJson) |>.read (by decide)

theorem PoolRecord.plain_toJson (r : PoolRecord) : r.toJson.Plain := by
  refine .object ?_
  simp only [List.forall_mem_cons]
  exact ⟨r.spec.plain_toJson, r.status.plain_toJson, nofun⟩

theorem Phase.decoder_toJson (p : Phase) : Phase.decoder p.toJson = .ok p := by
  cases p <;> rfl

theorem Pod.read_toJson (p : Pod) : Pod.fields.read p.toJson = .ok p :=
  (((((((stores_required "name" (asText_str p.name)).map Pod.mk).ap
    (stores_required "owner" (asText_str p.owner))).ap
    (stores_required "phase" p.phase.decoder_toJson)).ap
    (stores_required "image" (asText_str p.image))).ap
    (stores_required "labels" (Pairs.decoder_toJson p.labels))).ap
    (stores_required "env" (Pairs.decoder_toJson p.env))).ap
    (stores_required "created_at" (Json.asUInt64_ofUInt64 p.createdAt)) |>.read (by decide)

theorem Pod.plain_toJson (p : Pod) : p.toJson.Plain := by
  refine .object ?_
  simp only [List.forall_mem_cons]
  exact ⟨.str _, .str _, .str _, .str _, Pairs.plain_toJson _, Pairs.plain_toJson _,
    Json.plain_ofUInt64 _, nofun⟩

end PoolScaler
