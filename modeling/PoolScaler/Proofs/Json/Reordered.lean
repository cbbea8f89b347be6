import Mathlib.Data.Option.Defs
import PoolScaler.Proofs.Json.Records
set_option autoImplicit false

/-!
# The order of members

A map is written with its entries in any order, and so is a record with its fields.
Readers of records take no notice: what they read from a value they read from each
form of it that differs in the order of the members of its objects only.
-/

namespace PoolScaler.Json

/-- The same value, with the members of its objects in another order. -/
inductive Reordered : Json → Json → Prop where
  /-- Nothing is moved. -/
  | refl (j : Json) : Reordered j j
  /-- A list is the same item by item. -/
  | cons {j j' : Json} {items items' : List Json} (hitem : Reordered j j')
    (hitems : Reordered (.arr items none) (.arr items' none)) :
    Reordered (.arr (j :: items) none) (.arr (j' :: items') none)
  /-- An object is the same name by name. -/
  | object {members members' : List (String × Json)} (hnodup : (members.map (·.1)).Nodup)
    (hnames : (members'.map (·.1)).Perm (members.map (·.1)))
    (hvalues : ∀ name j j', members.lookup name = some j → members'.lookup name = some j' →
      Reordered j j') : Reordered (.object members) (.object members')

variable {members members' members'' : List (String × Json)}

/-- The values of two objects that have the same names are the same name by name. -/
theorem rel_lookup (hnames : (members'.map (·.1)).Perm (members.map (·.1)))
    (hvalues : ∀ name j j', members.lookup name = some j → members'.lookup name = some j' →
      Reordered j j') (name : String) :
    Option.Rel Reordered (members.lookup name) (members'.lookup name) := by
  have hmem : name ∈ members'.map (·.1) ↔ name ∈ members.map (·.1) := hnames.mem_iff
  cases hlookup : members.lookup name with
  | some j =>
    obtain ⟨j', hlookup'⟩ := mem_names_iff.mp (hmem.mpr (mem_names_iff.mpr ⟨j, hlookup⟩))
    rw [hlookup']
    exact .some (hvalues name j j' hlookup hlookup')
  | none =>
    have hlookup' : members'.lookup name = none := by
      refine Option.eq_none_iff_forall_ne_some.mpr fun j' hj' => ?_
      obtain ⟨j, hj⟩ := mem_names_iff.mp (hmem.mp (mem_names_iff.mpr ⟨j', hj'⟩))
      cases hlookup.symm.trans hj
    rw [hlookup']
    exact .none

/-- The members of an object may change places. -/
theorem Reordered.of_perm (hperm : members'.Perm members) (hnodup : (members.map (·.1)).Nodup) :
    Reordered (.object members) (.object members') := by
  have hnames := hperm.map (·.1)
  refine .object hnodup hnames fun name j j' hj hj' => ?_
  rw [lookup_eq_some_iff hnodup] at hj
  rw [lookup_eq_some_iff (hnames.nodup_iff.mpr hnodup), hperm.mem_iff] at hj'
  rw [← lookup_eq_some_iff hnodup] at hj hj'
  rw [Option.some.inj (hj.symm.trans hj')]
  exact .refl _

theorem object_injective (h : object members = object members') : members = members' := by
  obtain ⟨hmap, -⟩ := Json.obj.inj h
  refine List.map_injective_iff.mpr (fun m m' hsame => ?_) hmap
  obtain ⟨hname, hvalue⟩ := Prod.mk.inj hsame
  exact Prod.ext (Except.ok.inj hname) hvalue

/-- The forms of an object are objects. -/
theorem Reordered.of_object {j : Json} (h : Reordered (.object members) j) :
    j = .object members ∨ ∃ members', j = .object members' ∧ (members.map (·.1)).Nodup ∧
      (members'.map (·.1)).Perm (members.map (·.1)) ∧
      ∀ name j j', members.lookup name = some j → members'.lookup name = some j' →
        Reordered j j' := by
  generalize hobject : Json.object members = whole at h
  cases h with
  | refl => exact .inl rfl
  | cons => cases hobject
  | @object _ members' hnodup hnames hvalues =>
    obtain rfl := object_injective hobject
    exact .inr ⟨members', rfl, hnodup, hnames, hvalues⟩

theorem Reordered.trans {j j' j'' : Json} (h : Reordered j j') (h' : Reordered j' j'') :
    Reordered j j'' := by
  induction h generalizing j'' with
  | refl j => exact h'
  | cons hitem hitems ih ihs =>
    generalize harr : Json.arr _ none = whole at h'
    cases h' with
    | refl => exact harr ▸ .cons hitem hitems
    | cons hitem' hitems' =>
      obtain ⟨hitems, -⟩ := Json.arr.inj harr
      obtain ⟨rfl, rfl⟩ := List.cons.inj hitems
      exact .cons (ih hitem') (ihs hitems')
    | object => cases harr
  | @object members members' hnodup hnames hvalues ih =>
    rcases h'.of_object with rfl | ⟨members'', rfl, -, hnames', hvalues'⟩
    · exact .object hnodup hnames hvalues
    · refine .object hnodup (hnames'.trans hnames) fun name j j'' hj hj'' => ?_
      obtain ⟨j', hj'⟩ := mem_names_iff.mp (hnames.mem_iff.mpr (mem_names_iff.mpr ⟨j, hj⟩))
      exact ih name j j' hj hj' (hvalues' name j' j'' hj' hj'')

/-- The forms of a list are lists, the same item by item. -/
theorem Reordered.forall₂ {items items' : List Json} (h : Reordered (.list items) (.list items')) :
    List.Forall₂ Reordered items items' := by
  generalize hlist : Json.list items = j at h
  generalize hlist' : Json.list items' = j' at h
  induction h generalizing items items' with
  | refl =>
    obtain ⟨rfl, -⟩ := Json.arr.inj (hlist.trans hlist'.symm)
    exact List.forall₂_same.mpr fun j _ => .refl j
  | cons hitem _ _ ihs =>
    obtain ⟨rfl, -⟩ := Json.arr.inj hlist
    obtain ⟨rfl, -⟩ := Json.arr.inj hlist'
    exact .cons hitem (ihs rfl rfl)
  | object => cases hlist

theorem plain_of_list {items : List Json} (h : (list items).Plain) : ∀ j ∈ items, j.Plain := by
  generalize hlist : list items = whole at h
  cases h with
  | null | bool | int | str | object => cases hlist
  | list hitems =>
    obtain ⟨rfl, -⟩ := Json.arr.inj hlist
    exact hitems

theorem plain_of_object (h : (object members).Plain) : ∀ m ∈ members, m.2.Plain := by
  generalize hobject : object members = whole at h
  cases h with
  | null | bool | int | str | list => cases hobject
  | object hmembers =>
    obtain rfl := object_injective hobject
    exact hmembers

/-- What can be written can be written in each of its forms. -/
theorem Reordered.plain {j j' : Json} (h : Reordered j j') (hj : j.Plain) : j'.Plain := by
  induction h with
  | refl => exact hj
  | cons hitem hitems ih ihs =>
    obtain ⟨hplain, hplains⟩ := List.forall_mem_cons.mp (plain_of_list hj)
    exact .list (List.forall_mem_cons.mpr ⟨ih hplain, plain_of_list (ihs (.list hplains))⟩)
  | object hnodup hnames hvalues ih =>
    refine .object fun m hm => ?_
    have hm' := (lookup_eq_some_iff (hnames.nodup_iff.mpr hnodup)).mpr hm
    obtain ⟨j, hj'⟩ := mem_names_iff.mp (hnames.mem_iff.mp (mem_names_iff.mpr ⟨_, hm'⟩))
    exact ih m.1 j m.2 hj' hm' (plain_of_object hj _ ((lookup_eq_some_iff hnodup).mp hj'))

/-! ## Readers that take no notice -/

theorem readItems_cons_eq_ok_iff {α : Type} {dec : Decoder α} {items : List Json} {j : Json}
    {as : List α} :
    readItems dec (j :: items) none = .ok as ↔
      ∃ a rest, dec j = .ok a ∧ readItems dec items none = .ok rest ∧ as = a :: rest := by
  rw [readItems]
  cases hj : dec j with
  | error fault =>
    constructor
    · intro h
      cases h
    · rintro ⟨-, -, ⟨⟩, -⟩
  | ok a =>
    cases hitems : readItems dec items none with
    | error fault =>
      constructor
      · intro h
        cases h
      · rintro ⟨-, -, -, ⟨⟩, -⟩
    | ok rest =>
      constructor
      · intro h
        exact ⟨a, rest, rfl, rfl, (Except.ok.inj h).symm⟩
      · rintro ⟨_, _, ⟨⟩, ⟨⟩, rfl⟩
        rfl

/-- What is read from a value is read from each form of it. -/
def Orderless {α : Type} (dec : Decoder α) : Prop :=
  ∀ ⦃j j' : Json⦄ ⦃a : α⦄, Reordered j j' → dec j = .ok a → dec j' = .ok a

namespace Orderless

variable {α : Type} {dec : Decoder α}

theorem intro
    (hlist : ∀ {items items' a}, Reordered (list items) (list items') →
      dec (list items) = .ok a → dec (list items') = .ok a)
    (hobject : ∀ {members members' a}, (members.map (·.1)).Nodup →
      (members'.map (·.1)).Perm (members.map (·.1)) →
      (∀ name, Option.Rel Reordered (members.lookup name) (members'.lookup name)) →
      dec (object members) = .ok a → dec (object members') = .ok a) : Orderless dec := by
  intro j j' a h hdec
  cases h with
  | refl => exact hdec
  | cons hitem hitems => exact hlist (.cons hitem hitems) hdec
  | object hnodup hnames hvalues => exact hobject hnodup hnames (rel_lookup hnames hvalues) hdec

/-- A reader that takes neither lists nor objects takes no notice. -/
theorem scalar (hlist : ∀ items a, dec (list items) ≠ .ok a)
    (hobject : ∀ members a, dec (object members) ≠ .ok a) : Orderless dec :=
  intro (fun _ hdec => absurd hdec (hlist _ _)) (fun _ _ _ hdec => absurd hdec (hobject _ _))

theorem text : Orderless asText := scalar nofun nofun

theorem bool : Orderless asBool := scalar nofun nofun

theorem uint32 : Orderless asUInt32 := scalar nofun nofun

theorem uint64 : Orderless asUInt64 := scalar nofun nofun

theorem int64 : Orderless asInt64 := scalar nofun nofun

theorem option (h : Orderless dec) : Orderless (asOption dec) := by
  have hsome : ∀ {j j' : Json} {o : Option α}, Reordered j j' → (dec j).map some = .ok o →
      (dec j').map some = .ok o := by
    intro j j' o hj hdec
    cases hread : dec j with
    | error fault =>
      rw [hread] at hdec
      cases hdec
    | ok a =>
      rw [hread] at hdec
      rw [h hj hread]
      exact hdec
  intro j j' o hj hdec
  cases hj with
  | refl => exact hdec
  | cons hitem hitems => exact hsome (.cons hitem hitems) hdec
  | object hnodup hnames hvalues => exact hsome (.object hnodup hnames hvalues) hdec

theorem readItems (h : Orderless dec) {items items' : List Json}
    (hitems : List.Forall₂ Reordered items items') {as : List α}
    (hread : Json.readItems dec items none = .ok as) :
    Json.readItems dec items' none = .ok as := by
  induction hitems generalizing as with
  | nil => exact hread
  | @cons j j' items items' hj _ ih =>
    obtain ⟨a, rest, ha, hrest, rfl⟩ := readItems_cons_eq_ok_iff.mp hread
    exact readItems_cons_eq_ok_iff.mpr ⟨a, rest, h hj ha, ih hrest, rfl⟩

theorem list (h : Orderless dec) : Orderless (asList dec) := by
  refine intro (fun hitems => h.readItems hitems.forall₂) ?_
  intro _ _ _ _ _ _ hdec
  cases hdec

end Orderless

/-! ## Records -/

namespace Fields

variable {α β : Type}

/-- Two lists of members have the same names in the same places, and under each the same
value up to the order of members. -/
abbrev Alike : List (String × Json) → List (String × Json) → Prop :=
  List.Forall₂ fun m m' => m.1 = m'.1 ∧ Reordered m.2 m'.2

theorem Alike.rel_lookup {members members' : List (String × Json)} (h : Alike members members')
    (name : String) : Option.Rel Reordered (members.lookup name) (members'.lookup name) := by
  induction h with
  | nil => exact .none
  | @cons m m' members members' hm _ ih =>
    rw [Keyed.lookup_cons, Keyed.lookup_cons, ← hm.1]
    split
    · exact .some hm.2
    · exact ih

/-- A record takes no notice of the order of members: neither do the checks of its fields,
nor does what is made of their values. -/
structure Orderless (r : Fields α) : Prop where
  checks : ∀ f ∈ r.known, ∀ {j j' : Json}, Reordered j j' → f.check j = .ok () →
    f.check j' = .ok ()
  build : ∀ {value value' : String → Option Json} {positional : Bool} {a : α},
    (∀ name, Option.Rel Reordered (value name) (value' name)) →
    r.build ⟨value, positional⟩ = .ok a → r.build ⟨value', positional⟩ = .ok a

namespace Orderless

theorem pure (a : α) : (Fields.pure a).Orderless := ⟨nofun, fun _ h => h⟩

theorem seq {f : Fields (α → β)} {x : Unit → Fields α} (hf : f.Orderless)
    (hx : (x ()).Orderless) : (f.seq x).Orderless := by
  refine ⟨fun g hg {j j'} hj hcheck => ?_, fun hvalue hbuild => ?_⟩
  · rcases List.mem_append.mp hg with hg | hg
    · exact hf.checks g hg hj hcheck
    · exact hx.checks g hg hj hcheck
  · obtain ⟨g, a, hg, ha, rfl⟩ := seq_build_eq_ok_iff.mp hbuild
    exact seq_build_eq_ok_iff.mpr ⟨g, a, hf.build hvalue hg, hx.build hvalue ha, rfl⟩

theorem map {x : Fields α} (g : α → β) (hx : x.Orderless) : (g <$> x).Orderless :=
  (pure g).seq (x := fun _ => x) hx

theorem ap {f : Fields (α → β)} {x : Fields α} (hf : f.Orderless) (hx : x.Orderless) :
    (f <*> x).Orderless := hf.seq (x := fun _ => x) hx

theorem field (name : String) {dec : Decoder α} (absent : Bool → Except Fault α)
    (h : Json.Orderless dec) : (Fields.field name dec absent).Orderless := by
  refine ⟨fun f hf {j j'} hj hcheck => ?_, fun {value value' positional a} hvalue hbuild => ?_⟩
  · obtain rfl := List.mem_singleton.mp hf
    dsimp only at hcheck ⊢
    cases hread : dec j with
    | error fault =>
      rw [hread] at hcheck
      cases hcheck
    | ok a =>
      rw [h hj hread]
      rfl
  · have hname := hvalue name
    simp only [Fields.field] at hbuild ⊢
    generalize value name = j? at hname hbuild
    generalize value' name = j?' at hname ⊢
    cases hname with
    | none => exact hbuild
    | some hj => exact h hj hbuild

theorem required (name : String) {dec : Decoder α} (h : Json.Orderless dec) :
    (Fields.required name dec).Orderless := field name _ h

theorem defaulted (name : String) {dec : Decoder α} (default : α) (h : Json.Orderless dec) :
    (Fields.defaulted name dec default).Orderless := field name _ h

theorem optional (name : String) {dec : Decoder α} (h : Json.Orderless dec) :
    (Fields.optional name dec).Orderless := field name _ h.option

/-- The items of a list are placed as those of each form of it. -/
theorem place {known : List Field}
    (hchecks : ∀ f ∈ known, ∀ {j j' : Json}, Reordered j j' → f.check j = .ok () →
      f.check j' = .ok ()) {items items' : List Json}
    (hitems : List.Forall₂ Reordered items items') {seen seen' out : List (String × Json)}
    (hseen : Alike seen seen') (hplace : Fields.place seen known items none = .ok out) :
    ∃ out', Fields.place seen' known items' none = .ok out' ∧ Alike out out' := by
  induction hitems generalizing known seen seen' with
  | nil =>
    obtain rfl : seen = out := by
      cases known <;> exact Except.ok.inj hplace
    refine ⟨seen', ?_, hseen⟩
    cases known <;> rfl
  | @cons j j' items items' hj _ ih =>
    cases known with
    | nil => cases hplace
    | cons f known =>
      obtain ⟨hcheck, hchecks⟩ := List.forall_mem_cons.mp hchecks
      rw [Fields.place] at hplace ⊢
      cases hread : f.check j with
      | error fault =>
        rw [hread] at hplace
        cases hplace
      | ok =>
        rw [hread] at hplace
        rw [hcheck hj hread]
        have hplaced : Alike [(f.name, j)] [(f.name, j')] := .cons ⟨rfl, hj⟩ .nil
        exact ih hchecks (List.rel_append hseen hplaced) hplace

end Orderless

end Fields

/-! ## Passing over a value -/

theorem skipItems_eq_ok_iff {items : List Json} :
    skipItems items none = .ok () ↔ ∀ j ∈ items, skip j = .ok () := by
  induction items with
  | nil => exact ⟨fun _ => List.forall_mem_nil _, fun _ => rfl⟩
  | cons j items ih =>
    rw [skipItems, List.forall_mem_cons, ← ih]
    cases skip j with
    | error fault =>
      constructor
      · rintro ⟨⟩
      · rintro ⟨⟨⟩, -⟩
    | ok => exact ⟨fun h => ⟨rfl, h⟩, fun h => h.2⟩

theorem skip_object_eq_ok_iff :
    skip (object members) = .ok () ↔ ∀ m ∈ members, skip m.2 = .ok () := by
  rw [object, skip]
  induction members with
  | nil => exact ⟨fun _ => List.forall_mem_nil _, fun _ => rfl⟩
  | cons m members ih =>
    rw [List.map_cons, skipMembers, List.forall_mem_cons, ← ih]
    cases skip m.2 with
    | error fault =>
      constructor
      · rintro ⟨⟩
      · rintro ⟨⟨⟩, -⟩
    | ok => exact ⟨fun h => ⟨rfl, h⟩, fun h => h.2⟩

/-- What can be passed over can be passed over in each of its forms. -/
theorem Reordered.skip {j j' : Json} (h : Reordered j j') (hskip : j.skip = .ok ()) :
    j'.skip = .ok () := by
  induction h with
  | refl => exact hskip
  | cons hitem hitems ih ihs =>
    rw [Json.skip, skipItems_eq_ok_iff, List.forall_mem_cons, ← skipItems_eq_ok_iff] at hskip ⊢
    rw [Json.skip, Json.skip] at ihs
    exact ⟨ih hskip.1, ihs hskip.2⟩
  | object hnodup hnames hvalues ih =>
    rw [skip_object_eq_ok_iff] at hskip ⊢
    intro m hm
    have hm' := (lookup_eq_some_iff (hnames.nodup_iff.mpr hnodup)).mpr hm
    obtain ⟨j, hj⟩ := mem_names_iff.mp (hnames.mem_iff.mp (mem_names_iff.mpr ⟨_, hm'⟩))
    exact ih m.1 j m.2 hj hm' (hskip _ ((lookup_eq_some_iff hnodup).mp hj))

namespace Fields.Orderless

variable {α : Type} {r : Fields α}

theorem admits (h : r.Orderless) {name : String} {j j' : Json} (hj : Reordered j j')
    (hadmits : r.Admits name j) : r.Admits name j' := by
  unfold Admits at hadmits ⊢
  cases hfind : r.find? name with
  | none =>
    rw [hfind] at hadmits
    exact hj.skip hadmits
  | some f =>
    rw [hfind] at hadmits
    exact h.checks f (List.mem_of_find?_eq_some hfind) hj hadmits

/-- A record is read from each form of the value it is read from. -/
theorem read (h : r.Orderless) : Json.Orderless r.read := by
  refine Json.Orderless.intro (fun {items items' a} hitems hread => ?_)
    (fun {members members' a} hnodup hnames hvalues hread => ?_)
  · rw [Json.list, Fields.read] at hread ⊢
    cases hplace : Fields.place [] r.known items none with
    | error fault =>
      rw [hplace] at hread
      cases hread
    | ok seen =>
      rw [hplace] at hread
      obtain ⟨seen', hplace', halike⟩ := place h.checks hitems.forall₂ .nil hplace
      rw [hplace']
      exact h.build halike.rel_lookup hread
  · rw [read_object_iff r hnodup] at hread
    rw [read_object_iff r (hnames.nodup_iff.mpr hnodup)]
    obtain ⟨hadmits, hbuild⟩ := hread
    refine ⟨fun name j' hj' => ?_, h.build (fun name => ?_) hbuild⟩
    · have hname := hvalues name
      rw [hj'] at hname
      cases hlookup : members.lookup name with
      | none =>
        rw [hlookup] at hname
        cases hname
      | some j =>
        rw [hlookup] at hname
        obtain ⟨hj⟩ := hname
        exact h.admits hj (hadmits name j hlookup)
    · split
      · exact hvalues name
      · exact .none

end Fields.Orderless

end PoolScaler.Json
