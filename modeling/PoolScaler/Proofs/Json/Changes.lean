import Mathlib.Data.List.Nodup
import PoolScaler.Proofs.Json.Reordered
set_option autoImplicit false

/-!
# Changes to what is written

A record need not come as this program would write it: an older program knew fewer fields,
another server knows more, and whoever writes an object chooses the order of its members.
The slots of a record tell which changes lose nothing and which lose a field; readers of
records take the ones without notice and refuse the others if the field is needed.

A manner is the two relations of changes that a value admits.  Lists and records make new
manners of those of their parts, as their readers are made of the readers of their parts, so
that one lemma for each way to build a reader is enough.
-/

namespace PoolScaler.Json

/-! ## Changes -/

/-- How a value may change: so that it says the same, or by the loss of a field, which is
needed or not. -/
structure Manner where
  same : Json → Json → Prop
  without (needed : Bool) : Json → Json → Prop

/-- What a record says of one of its fields: whether it is needed, which values mean the same
as its absence, and how its value may change. -/
structure Slot where
  name : String
  needed : Bool
  idle : Json → Prop
  inner : Manner

namespace Slot

/-- A field that must be there. -/
def required (name : String) (inner : Manner) : Slot := ⟨name, true, fun _ => False, inner⟩

/-- A field whose default is meant when it is absent. -/
def defaulted {α : Type} (name : String) (dec : Decoder α) (default : α) (inner : Manner) : Slot :=
  ⟨name, false, fun j => dec j = .ok default, inner⟩

/-- A field for which null is meant when it is absent. -/
def optional (name : String) (inner : Manner) : Slot := ⟨name, false, fun j => j = .null, inner⟩

end Slot

/-- A record that says the same. -/
inductive Same (slots : List Slot) : Json → Json → Prop where
  | refl (j : Json) : Same slots j j
  | trans {j j' j'' : Json} (h : Same slots j j') (h' : Same slots j' j'') : Same slots j j''
  /-- The members of an object may stand in any order. -/
  | reorder {members members' : List (String × Json)} (hperm : members.Perm members') :
    Same slots (.object members) (.object members')
  /-- A member may come in whose name the record does not know. -/
  | add {before after : List (String × Json)} {name : String} {j : Json}
    (hunknown : name ∉ slots.map (·.name)) (hplain : j.Plain) :
    Same slots (.object (before ++ after)) (.object (before ++ (name, j) :: after))
  /-- A field may be left out when its value means the same as its absence. -/
  | leaveOut {before after : List (String × Json)} {slot : Slot} {j : Json} (hslot : slot ∈ slots)
    (hspare : slot.needed = false) (hidle : slot.idle j) :
    Same slots (.object (before ++ (slot.name, j) :: after)) (.object (before ++ after))
  /-- A field that is absent may be put back with such a value. -/
  | putBack {before after : List (String × Json)} {slot : Slot} {j : Json} (hslot : slot ∈ slots)
    (hspare : slot.needed = false) (hidle : slot.idle j)
    (habsent : slot.name ∉ (before ++ after).map (·.1)) :
    Same slots (.object (before ++ after)) (.object (before ++ (slot.name, j) :: after))
  /-- The value of a field may change in its own manner. -/
  | within {before after : List (String × Json)} {slot : Slot} {j j' : Json} (hslot : slot ∈ slots)
    (hsame : slot.inner.same j j') :
    Same slots (.object (before ++ (slot.name, j) :: after))
      (.object (before ++ (slot.name, j') :: after))
  /-- So may the value of a field that is told by its position. -/
  | nth {before after : List Json} {slot : Slot} {j j' : Json}
    (hslot : slots[before.length]? = some slot) (hsame : slot.inner.same j j') :
    Same slots (.list (before ++ j :: after)) (.list (before ++ j' :: after))

/-- A record that lacks a field which it had, itself or inside one of its fields. -/
inductive Without (slots : List Slot) (needed : Bool) : Json → Json → Prop where
  | here {before after : List (String × Json)} {slot : Slot} {j : Json} (hslot : slot ∈ slots)
    (hneeded : slot.needed = needed) :
    Without slots needed (.object (before ++ (slot.name, j) :: after)) (.object (before ++ after))
  | within {before after : List (String × Json)} {slot : Slot} {j j' : Json} (hslot : slot ∈ slots)
    (hwithout : slot.inner.without needed j j') :
    Without slots needed (.object (before ++ (slot.name, j) :: after))
      (.object (before ++ (slot.name, j') :: after))
  | nth {before after : List Json} {slot : Slot} {j j' : Json}
    (hslot : slots[before.length]? = some slot) (hwithout : slot.inner.without needed j j') :
    Without slots needed (.list (before ++ j :: after)) (.list (before ++ j' :: after))

/-- One item of a list changes. -/
inductive AtItem (change : Json → Json → Prop) : Json → Json → Prop where
  | intro {before after : List Json} {j j' : Json} (hchange : change j j') :
    AtItem change (.list (before ++ j :: after)) (.list (before ++ j' :: after))

namespace Manner

/-- A value that is taken as it is. -/
def fixed : Manner := ⟨fun _ _ => False, fun _ _ _ => False⟩

/-- A list whose items change in one manner. -/
def items (m : Manner) : Manner := ⟨AtItem m.same, fun needed => AtItem (m.without needed)⟩

/-- A record. -/
def record (slots : List Slot) : Manner := ⟨Same slots, Without slots⟩

end Manner

/-- What can be written can be passed over. -/
theorem Plain.skip {j : Json} (hplain : j.Plain) : j.skip = .ok () := by
  induction hplain with
  | null | bool | int | str => rfl
  | list _ ih => exact skipItems_eq_ok_iff.mpr ih
  | object _ ih => exact skip_object_eq_ok_iff.mpr ih

/-! ## Readers that go along -/

/-- A reader reads the same from what says the same, refuses what lacks a needed field, and
takes what lacks any other. -/
structure Obeys {α : Type} (dec : Decoder α) (m : Manner) : Prop where
  same : ∀ {j j' : Json} {a : α}, m.same j j' → dec j = .ok a → dec j' = .ok a
  needed : ∀ {j j' : Json} {a : α}, m.without true j j' → dec j = .ok a → ∀ b, dec j' ≠ .ok b
  spare : ∀ {j j' : Json} {a : α}, m.without false j j' → dec j = .ok a → ∃ b, dec j' = .ok b

namespace Obeys

variable {α : Type} {dec : Decoder α} {m : Manner}

theorem fixed : Obeys dec .fixed := ⟨nofun, nofun, nofun⟩

/-- The check of a field goes along with its reader. -/
theorem check (h : Obeys dec m) : Obeys (fun j => (dec j).map fun _ => ()) m := by
  have hcheck : ∀ {j : Json}, ((dec j).map fun _ => ()) = .ok () ↔ ∃ a, dec j = .ok a := by
    intro j
    cases hdec : dec j with
    | error fault =>
      constructor
      · rintro ⟨⟩
      · rintro ⟨a, ⟨⟩⟩
    | ok a => exact ⟨fun _ => ⟨a, rfl⟩, fun _ => rfl⟩
  refine ⟨fun hsame hj => ?_, fun hwithout hj b hj' => ?_, fun hwithout hj => ?_⟩
  · obtain ⟨a, ha⟩ := hcheck.mp hj
    exact hcheck.mpr ⟨a, h.same hsame ha⟩
  · obtain ⟨a, ha⟩ := hcheck.mp hj
    obtain ⟨a', ha'⟩ := hcheck.mp hj'
    exact h.needed hwithout ha a' ha'
  · obtain ⟨a, ha⟩ := hcheck.mp hj
    exact ⟨(), hcheck.mpr (h.spare hwithout ha)⟩

end Obeys

/-- A list is read when what stands before an item, the item and what stands after it are. -/
theorem readItems_append_cons_eq_ok_iff {α : Type} {dec : Decoder α} {before after : List Json}
    {j : Json} {as : List α} :
    readItems dec (before ++ j :: after) none = .ok as ↔
      ∃ front a back, readItems dec before none = .ok front ∧ dec j = .ok a ∧
        readItems dec after none = .ok back ∧ as = front ++ a :: back := by
  induction before generalizing as with
  | nil =>
    rw [List.nil_append, readItems_cons_eq_ok_iff]
    constructor
    · rintro ⟨a, back, ha, hback, rfl⟩
      exact ⟨[], a, back, rfl, ha, hback, rfl⟩
    · rintro ⟨front, a, back, ⟨⟩, ha, hback, rfl⟩
      exact ⟨a, back, ha, hback, rfl⟩
  | cons x before ih =>
    rw [List.cons_append, readItems_cons_eq_ok_iff]
    constructor
    · rintro ⟨b, rest, hb, hrest, rfl⟩
      obtain ⟨front, a, back, hfront, ha, hback, rfl⟩ := ih.mp hrest
      exact ⟨b :: front, a, back, readItems_cons_eq_ok_iff.mpr ⟨b, front, hb, hfront, rfl⟩, ha,
        hback, rfl⟩
    · rintro ⟨front, a, back, hfront, ha, hback, rfl⟩
      obtain ⟨b, front', hb, hfront', rfl⟩ := readItems_cons_eq_ok_iff.mp hfront
      exact ⟨b, front' ++ a :: back, hb, ih.mpr ⟨front', a, back, hfront', ha, hback, rfl⟩, rfl⟩

theorem Obeys.items {α : Type} {dec : Decoder α} {m : Manner} (h : Obeys dec m) :
    Obeys (asList dec) (.items m) := by
  refine ⟨?_, ?_, ?_⟩
  · rintro _ _ as ⟨hsame⟩ hread
    obtain ⟨front, a, back, hfront, ha, hback, rfl⟩ := readItems_append_cons_eq_ok_iff.mp hread
    exact readItems_append_cons_eq_ok_iff.mpr ⟨front, a, back, hfront, h.same hsame ha, hback, rfl⟩
  · rintro _ _ as ⟨hwithout⟩ hread as' hread'
    obtain ⟨-, a, -, -, ha, -, -⟩ := readItems_append_cons_eq_ok_iff.mp hread
    obtain ⟨-, a', -, -, ha', -, -⟩ := readItems_append_cons_eq_ok_iff.mp hread'
    exact h.needed hwithout ha a' ha'
  · rintro _ _ as ⟨hwithout⟩ hread
    obtain ⟨front, a, back, hfront, ha, hback, rfl⟩ := readItems_append_cons_eq_ok_iff.mp hread
    obtain ⟨a', ha'⟩ := h.spare hwithout ha
    exact ⟨_, readItems_append_cons_eq_ok_iff.mpr ⟨front, a', back, hfront, ha', hback, rfl⟩⟩

/-! ## Records -/

/-- What stands in a slot changes and says the same; by position no field is left out. -/
inductive Slot.Keeps (slot : Slot) (positional : Bool) : Option Json → Option Json → Prop where
  | refl (j? : Option Json) : Keeps slot positional j? j?
  | within {j j' : Json} (hsame : slot.inner.same j j') : Keeps slot positional (some j) (some j')
  | leaveOut {j : Json} (hnamed : positional = false) (hspare : slot.needed = false)
    (hidle : slot.idle j) : Keeps slot positional (some j) none
  | putBack {j : Json} (hnamed : positional = false) (hspare : slot.needed = false)
    (hidle : slot.idle j) : Keeps slot positional none (some j)

/-- What stands in a slot is lost, or loses a field. -/
inductive Slot.Loses (slot : Slot) (positional needed : Bool) :
    Option Json → Option Json → Prop where
  | here {j : Json} (hnamed : positional = false) (hneeded : slot.needed = needed) :
    Loses slot positional needed (some j) none
  | within {j j' : Json} (hwithout : slot.inner.without needed j j') :
    Loses slot positional needed (some j) (some j')

theorem getElem?_append_cons {before after : List Json} (j j' : Json) {i : Nat} :
    (before ++ j :: after)[i]? =
      if i = before.length then some j else (before ++ j' :: after)[i]? := by
  induction before generalizing i with
  | nil => cases i <;> rfl
  | cons x before ih =>
    cases i with
    | zero => rfl
    | succ i =>
      rw [List.cons_append, List.cons_append, List.getElem?_cons_succ, List.getElem?_cons_succ, ih,
        List.length_cons]
      simp only [Nat.add_right_cancel_iff]

/-- Of what stands by position, only the value at one place differs with the item there. -/
theorem lookup_zip_append_cons {names : List String} {before after : List Json} {name : String}
    (hnames : names.Nodup) (hname : names[before.length]? = some name) (j j' : Json) (n : String) :
    (names.zip (before ++ j :: after)).lookup n =
      if n = name then some j else (names.zip (before ++ j' :: after)).lookup n := by
  induction before generalizing names with
  | nil =>
    cases names with
    | nil => cases hname
    | cons m names =>
      obtain ⟨rfl⟩ := hname
      rw [List.nil_append, List.nil_append, List.zip_cons_cons, List.zip_cons_cons,
        Keyed.lookup_cons, Keyed.lookup_cons]
      split <;> rfl
  | cons x before ih =>
    cases names with
    | nil => cases hname
    | cons m names =>
      obtain ⟨hfresh, hnames⟩ := List.nodup_cons.mp hnames
      have hmem : name ∈ names := List.mem_of_getElem? hname
      rw [List.cons_append, List.cons_append, List.zip_cons_cons, List.zip_cons_cons,
        Keyed.lookup_cons, Keyed.lookup_cons, ih hnames hname]
      by_cases hn : n = m
      · have hne : n ≠ name := fun h => hfresh (hn ▸ h ▸ hmem)
        rw [if_pos hn, if_neg hne, if_pos hn]
      · rw [if_neg hn, if_neg hn]

theorem lookup_perm {members members' : List (String × Json)} (hperm : members.Perm members')
    (hnodup : (members.map (·.1)).Nodup) (name : String) :
    members.lookup name = members'.lookup name := by
  have hnodup' := (hperm.map (·.1)).nodup_iff.mp hnodup
  refine Option.ext fun j => ?_
  rw [lookup_eq_some_iff hnodup, lookup_eq_some_iff hnodup', hperm.mem_iff]

namespace Fields

variable {α β : Type}

/-- A value of a field is checked as its slot says. -/
structure Fits (f : Field) (slot : Slot) : Prop where
  obeys : Obeys f.check slot.inner
  idle : ∀ {j : Json}, slot.needed = false → slot.idle j → f.check j = .ok ()

/-- The fields of a record are as its slots say. -/
structure Follows (r : Fields α) (slots : List Slot) : Prop where
  fits : List.Forall₂ (fun f slot => f.name = slot.name ∧ Fits f slot) r.known slots
  same : ∀ {value value' : String → Option Json} {positional : Bool} {a : α},
    (∀ slot ∈ slots, slot.Keeps positional (value slot.name) (value' slot.name)) →
    r.build ⟨value, positional⟩ = .ok a → r.build ⟨value', positional⟩ = .ok a
  needed : ∀ {value value' : String → Option Json} {positional : Bool} {a : α},
    (∃ slot ∈ slots, slot.Loses positional true (value slot.name) (value' slot.name)) →
    r.build ⟨value, positional⟩ = .ok a → ∀ b, r.build ⟨value', positional⟩ ≠ .ok b
  spare : ∀ {value value' : String → Option Json} {positional : Bool} {a : α},
    (∀ slot ∈ slots, value' slot.name = value slot.name ∨
      slot.Loses positional false (value slot.name) (value' slot.name)) →
    r.build ⟨value, positional⟩ = .ok a → ∃ b, r.build ⟨value', positional⟩ = .ok b

namespace Follows

theorem pure (a : α) : (Fields.pure a).Follows [] :=
  ⟨.nil, fun _ h => h, fun h => by simp at h, fun _ h => ⟨_, h⟩⟩

theorem seq {f : Fields (α → β)} {x : Unit → Fields α} {slots slots' : List Slot}
    (hf : f.Follows slots) (hx : (x ()).Follows slots') : (f.seq x).Follows (slots ++ slots') := by
  refine ⟨List.rel_append hf.fits hx.fits, fun hkeeps hbuild => ?_,
    fun hloses hbuild b hbuild' => ?_, fun hloses hbuild => ?_⟩
  · obtain ⟨hkeeps, hkeeps'⟩ := List.forall_mem_append.mp hkeeps
    obtain ⟨g, a, hg, ha, rfl⟩ := seq_build_eq_ok_iff.mp hbuild
    exact seq_build_eq_ok_iff.mpr ⟨g, a, hf.same hkeeps hg, hx.same hkeeps' ha, rfl⟩
  · obtain ⟨g, a, hg, ha, -⟩ := seq_build_eq_ok_iff.mp hbuild
    obtain ⟨g', a', hg', ha', -⟩ := seq_build_eq_ok_iff.mp hbuild'
    obtain ⟨slot, hslot, hloses⟩ := hloses
    rcases List.mem_append.mp hslot with hslot | hslot
    · exact hf.needed ⟨slot, hslot, hloses⟩ hg g' hg'
    · exact hx.needed ⟨slot, hslot, hloses⟩ ha a' ha'
  · obtain ⟨hloses, hloses'⟩ := List.forall_mem_append.mp hloses
    obtain ⟨g, a, hg, ha, rfl⟩ := seq_build_eq_ok_iff.mp hbuild
    obtain ⟨g', hg'⟩ := hf.spare hloses hg
    obtain ⟨a', ha'⟩ := hx.spare hloses' ha
    exact ⟨g' a', seq_build_eq_ok_iff.mpr ⟨g', a', hg', ha', rfl⟩⟩

theorem map {x : Fields α} {slots : List Slot} (g : α → β) (hx : x.Follows slots) :
    (g <$> x).Follows slots := (pure g).seq (x := fun _ => x) hx

theorem ap {f : Fields (α → β)} {x : Fields α} {slots slots' : List Slot} (hf : f.Follows slots)
    (hx : x.Follows slots') : (f <*> x).Follows (slots ++ slots') := hf.seq (x := fun _ => x) hx

/-- A field is as its slot says when its reader goes along, and what its absence means is a
fault if it is needed, and is what is read from the values that mean the same if it is not. -/
theorem field (slot : Slot) {dec : Decoder α} {absent : Bool → Except Fault α}
    (h : Obeys dec slot.inner) (hneeded : slot.needed = true → ∀ a, absent false ≠ .ok a)
    (hspare : slot.needed = false → ∃ a, absent false = .ok a)
    (hidle : ∀ {j}, slot.idle j → dec j = absent false) :
    (Fields.field slot.name dec absent).Follows [slot] := by
  have hfits : Fits ⟨slot.name, fun j => (dec j).map fun _ => ()⟩ slot := by
    refine ⟨h.check, fun hslot hj => ?_⟩
    obtain ⟨a, ha⟩ := hspare hslot
    simp only [hidle hj, ha, Except.map]
  refine ⟨.cons ⟨rfl, hfits⟩ .nil, fun {value value' _ _} hkeeps hbuild => ?_,
    fun {value value' _ _} hloses hbuild b hbuild' => ?_,
    fun {value value' _ _} hloses hbuild => ?_⟩
  · have hslot := hkeeps slot List.mem_cons_self
    simp only [Fields.field] at hbuild ⊢
    generalize value slot.name = j? at hslot hbuild
    generalize value' slot.name = j?' at hslot ⊢
    cases hslot with
    | refl => exact hbuild
    | within hsame => exact h.same hsame hbuild
    | leaveOut hnamed hspare hj =>
      subst hnamed
      exact (hidle hj).symm.trans hbuild
    | putBack hnamed hspare hj =>
      subst hnamed
      exact (hidle hj).trans hbuild
  · obtain ⟨slot', hmem, hslot⟩ := hloses
    rw [List.mem_singleton.mp hmem] at hslot
    simp only [Fields.field] at hbuild hbuild'
    generalize value slot.name = j? at hslot hbuild
    generalize value' slot.name = j?' at hslot hbuild'
    cases hslot with
    | here hnamed hslot =>
      subst hnamed
      exact hneeded hslot b hbuild'
    | within hwithout => exact h.needed hwithout hbuild b hbuild'
  · have hslot := hloses slot List.mem_cons_self
    simp only [Fields.field] at hbuild ⊢
    generalize value slot.name = j? at hslot hbuild
    generalize value' slot.name = j?' at hslot ⊢
    rcases hslot with rfl | hslot
    · exact ⟨_, hbuild⟩
    · cases hslot with
      | here hnamed hslot =>
        subst hnamed
        exact hspare hslot
      | within hwithout => exact h.spare hwithout hbuild

theorem required (name : String) {dec : Decoder α} {inner : Manner} (h : Obeys dec inner) :
    (Fields.required name dec).Follows [.required name inner] :=
  field (.required name inner) h nofun nofun nofun

theorem defaulted (name : String) {dec : Decoder α} (default : α) {inner : Manner}
    (h : Obeys dec inner) :
    (Fields.defaulted name dec default).Follows [.defaulted name dec default inner] :=
  field (.defaulted name dec default inner) h nofun (fun _ => ⟨default, rfl⟩) id

theorem optional (name : String) {dec : Decoder α} {inner : Manner}
    (h : Obeys (asOption dec) inner) :
    (Fields.optional name dec).Follows [.optional name inner] := by
  refine field (.optional name inner) h nofun (fun _ => ⟨none, rfl⟩) fun hidle => ?_
  subst hidle
  rfl

end Follows

/-! ### One member of an object -/

section

variable {r : Fields α} {members members' : List (String × Json)} {name : String} {j : Json} {a : α}

theorem knows_iff : r.knows name = true ↔ name ∈ r.known.map (·.name) := by
  rw [knows, find?, List.find?_isSome, List.mem_map]
  simp only [beq_iff_eq]

/-- The order of the members of an object does not matter. -/
theorem read_perm (hperm : members.Perm members') (hread : r.read (.object members) = .ok a) :
    r.read (.object members') = .ok a := by
  rw [read_members_iff] at hread ⊢
  obtain ⟨hadmits, hnodup, hbuild⟩ := hread
  have hkept := hperm.filter (r.knows ·.1)
  refine ⟨fun m hm => hadmits m (hperm.mem_iff.mpr hm), (hkept.map _).nodup_iff.mp hnodup, ?_⟩
  rw [← hbuild]
  congr 2
  funext name
  exact lookup_perm hkept.symm ((hkept.map _).nodup_iff.mp hnodup) name

theorem read_append_cons_iff {before after : List (String × Json)} {m : String × Json} :
    r.read (.object (before ++ m :: after)) = .ok a ↔
      r.read (.object (m :: (before ++ after))) = .ok a :=
  ⟨read_perm List.perm_middle, read_perm List.perm_middle.symm⟩

/-- A member whose name a record does not know is passed over. -/
theorem read_cons_unknown_iff (hunknown : name ∉ r.known.map (·.name)) :
    r.read (.object ((name, j) :: members)) = .ok a ↔
      skip j = .ok () ∧ r.read (.object members) = .ok a := by
  have hfind : r.find? name = none := Option.not_isSome_iff_eq_none.mp (mt knows_iff.mp hunknown)
  have hknows : ¬ r.knows (name, j).1 = true := mt knows_iff.mp hunknown
  rw [read_members_iff, read_members_iff, List.forall_mem_cons, and_assoc,
    List.filter_cons_of_neg (by exact hknows)]
  unfold Admits
  rw [hfind]

theorem lookup_kept_eq_none (hfresh : name ∉ members.map (·.1)) :
    (members.filter (r.knows ·.1)).lookup name = none :=
  lookup_eq_none fun hmem => hfresh ((List.filter_sublist.map _).subset hmem)

/-- A member whose name a record knows passes its check, stands nowhere else and is found. -/
theorem read_cons_iff {f : Field} (hfind : r.find? name = some f) :
    r.read (.object ((name, j) :: members)) = .ok a ↔
      f.check j = .ok () ∧
        ((∀ m ∈ members, r.Admits m.1 m.2) ∧ name ∉ members.map (·.1) ∧
          ((members.filter (r.knows ·.1)).map (·.1)).Nodup) ∧
        r.build ⟨fun n => if n = name then some j else
          (members.filter (r.knows ·.1)).lookup n, false⟩ = .ok a := by
  have hknows : r.knows name = true := by rw [knows, hfind, Option.isSome_some]
  have hfresh : name ∉ (members.filter (r.knows ·.1)).map (·.1) ↔ name ∉ members.map (·.1) := by
    refine not_congr ⟨fun hmem => ?_, fun hmem => ?_⟩
    · obtain ⟨m, hm, rfl⟩ := List.mem_map.mp hmem
      exact List.mem_map_of_mem (List.mem_of_mem_filter hm)
    · obtain ⟨m, hm, rfl⟩ := List.mem_map.mp hmem
      exact List.mem_map_of_mem (List.mem_filter.mpr ⟨hm, hknows⟩)
  rw [read_members_iff, List.forall_mem_cons, List.filter_cons_of_pos (by exact hknows),
    List.map_cons, List.nodup_cons, hfresh, and_assoc, and_assoc, and_assoc, and_assoc]
  simp only [Keyed.lookup_cons]
  unfold Admits
  rw [hfind]

end

/-- A whole opens at a slot: a record is read from it when the value in the slot passes its
check, the rest is as it has to be, and the record is built with the value in the slot. -/
inductive Opens (r : Fields α) (slot : Slot) (whole : Json → Json) : Prop where
  | intro (f : Field) (hfits : Fits f slot) (rest : Prop) (value : String → Option Json)
    (positional : Bool)
    (hread : ∀ {j a}, r.read (whole j) = .ok a ↔ f.check j = .ok () ∧ rest ∧
      r.build ⟨fun name => if name = slot.name then some j else value name, positional⟩ = .ok a)

namespace Follows

variable {r : Fields α} {slots : List Slot}

theorem names (h : r.Follows slots) : r.known.map (·.name) = slots.map (·.name) :=
  names_of_fits h.fits

theorem find? (h : r.Follows slots) (hnames : (slots.map (·.name)).Nodup) {slot : Slot}
    (hslot : slot ∈ slots) : ∃ f, r.find? slot.name = some f ∧ Fits f slot :=
  find?_of_fits h.fits (h.names ▸ hnames) hslot

theorem getElem? (h : r.Follows slots) {i : Nat} {slot : Slot} (hslot : slots[i]? = some slot) :
    ∃ f, r.known[i]? = some f ∧ Fits f slot := by
  obtain ⟨hi, rfl⟩ := List.getElem?_eq_some_iff.mp hslot
  have hi' : i < r.known.length := h.fits.length_eq ▸ hi
  exact ⟨_, List.getElem?_eq_getElem hi', (h.fits.get hi' hi).2⟩

/-- A slot is told by its name. -/
theorem eq_or_name_ne (hnames : (slots.map (·.name)).Nodup) {s slot : Slot} (hs : s ∈ slots)
    (hslot : slot ∈ slots) : s = slot ∨ s.name ≠ slot.name := by
  by_cases hname : s.name = slot.name
  · exact .inl (List.inj_on_of_nodup_map hnames hs hslot hname)
  · exact .inr hname

section

variable (h : r.Follows slots) (hnames : (slots.map (·.name)).Nodup) {slot : Slot}
  {members : List (String × Json)} {j : Json} {a : α}
include h hnames

/-- A record is built the same when one of its slots says the same and the others hold what
they held. -/
theorem build_of_keeps (hslot : slot ∈ slots) {value value' : String → Option Json}
    {positional : Bool} (hkeeps : slot.Keeps positional (value slot.name) (value' slot.name))
    (hothers : ∀ name ≠ slot.name, value' name = value name)
    (hbuild : r.build ⟨value, positional⟩ = .ok a) : r.build ⟨value', positional⟩ = .ok a := by
  refine h.same (fun s hs => ?_) hbuild
  rcases eq_or_name_ne hnames hs hslot with rfl | hne
  · exact hkeeps
  · rw [hothers s.name hne]
    exact .refl _

/-- A record is still built when one of its slots loses what is not needed. -/
theorem exists_build_of_loses (hslot : slot ∈ slots) {value value' : String → Option Json}
    {positional : Bool} (hloses : slot.Loses positional false (value slot.name) (value' slot.name))
    (hothers : ∀ name ≠ slot.name, value' name = value name)
    (hbuild : r.build ⟨value, positional⟩ = .ok a) : ∃ b, r.build ⟨value', positional⟩ = .ok b := by
  refine h.spare (fun s hs => ?_) hbuild
  rcases eq_or_name_ne hnames hs hslot with rfl | hne
  · exact .inr hloses
  · exact .inl (hothers s.name hne)

/-- What is read from a whole goes along with the changes to the value in a slot. -/
theorem obeys_of_opens (hslot : slot ∈ slots) {whole : Json → Json} (hopens : Opens r slot whole) :
    Obeys (fun j => r.read (whole j)) slot.inner := by
  obtain ⟨f, hfits, rest, value, positional, hiff⟩ := hopens
  refine ⟨fun hsame hread => ?_, fun hwithout hread b hread' => ?_, fun hwithout hread => ?_⟩
  · obtain ⟨hcheck, hrest, hbuild⟩ := hiff.mp hread
    refine hiff.mpr ⟨hfits.obeys.same hsame hcheck, hrest,
      h.build_of_keeps hnames hslot ?_ (fun name hne => ?_) hbuild⟩
    · rw [if_pos rfl, if_pos rfl]
      exact .within hsame
    · rw [if_neg hne, if_neg hne]
  · exact hfits.obeys.needed hwithout (hiff.mp hread).1 () (hiff.mp hread').1
  · obtain ⟨hcheck, hrest, hbuild⟩ := hiff.mp hread
    obtain ⟨_, hcheck'⟩ := hfits.obeys.spare hwithout hcheck
    refine (h.exists_build_of_loses hnames hslot ?_ (fun name hne => ?_) hbuild).imp
      fun b hbuild' => hiff.mpr ⟨hcheck', hrest, hbuild'⟩
    · rw [if_pos rfl, if_pos rfl]
      exact .within hwithout
    · rw [if_neg hne, if_neg hne]

/-- An object opens at each of its fields. -/
theorem opens_object (hslot : slot ∈ slots) (before after : List (String × Json)) :
    Opens r slot fun j => .object (before ++ (slot.name, j) :: after) := by
  obtain ⟨f, hfind, hfits⟩ := h.find? hnames hslot
  exact .intro f hfits _ _ _ (read_append_cons_iff.trans (read_cons_iff hfind))

/-- A list opens at the position of each field. -/
theorem opens_list {before : List Json} (hslot : slots[before.length]? = some slot)
    (after : List Json) : Opens r slot fun j => .list (before ++ j :: after) := by
  obtain ⟨f, hf, hfits⟩ := h.getElem? hslot
  have hname : (r.known.map (·.name))[before.length]? = some slot.name := by
    rw [h.names, List.getElem?_map, hslot, Option.map_some]
  have hnodup : (r.known.map (·.name)).Nodup := h.names ▸ hnames
  -- what is asked of the rest is told with null in the place of the item
  refine .intro f hfits
    ((before ++ .null :: after).length ≤ r.known.length ∧
      ∀ (i : Nat) (g : Field) (x : Json), i ≠ before.length → r.known[i]? = some g →
        (before ++ .null :: after)[i]? = some x → g.check x = .ok ())
    (fun n => ((r.known.map (·.name)).zip (before ++ .null :: after)).lookup n) true
    fun {j a} => ?_
  have hvalue : (fun n => ((r.known.map (·.name)).zip (before ++ j :: after)).lookup n) =
      fun n => if n = slot.name then some j else
        ((r.known.map (·.name)).zip (before ++ .null :: after)).lookup n :=
    funext fun n => lookup_zip_append_cons hnodup hname j .null n
  have hlength : (before ++ j :: after).length = (before ++ .null :: after).length := by
    rw [List.length_append, List.length_append, List.length_cons, List.length_cons]
  rw [read_list_iff, hvalue, hlength]
  constructor
  · rintro ⟨hfew, hchecks, hbuild⟩
    refine ⟨hchecks _ f j hf ?_, ⟨hfew, fun i g x hne hg hx => hchecks i g x hg ?_⟩, hbuild⟩
    · rw [getElem?_append_cons j .null, if_pos rfl]
    · rw [getElem?_append_cons j .null, if_neg hne, hx]
  · rintro ⟨hcheck, ⟨hfew, hchecks⟩, hbuild⟩
    refine ⟨hfew, fun i g x hg hx => ?_, hbuild⟩
    rw [getElem?_append_cons j .null] at hx
    split at hx
    · rename_i hi
      subst hi
      obtain ⟨rfl⟩ := hf.symm.trans hg
      obtain ⟨rfl⟩ := hx
      exact hcheck
    · rename_i hne
      exact hchecks i g x hne hg hx

theorem obeys_field (hslot : slot ∈ slots) (before after : List (String × Json)) :
    Obeys (fun j => r.read (.object (before ++ (slot.name, j) :: after))) slot.inner :=
  h.obeys_of_opens hnames hslot (h.opens_object hnames hslot before after)

theorem obeys_position {before : List Json} (hslot : slots[before.length]? = some slot)
    (after : List Json) : Obeys (fun j => r.read (.list (before ++ j :: after))) slot.inner :=
  h.obeys_of_opens hnames (List.mem_of_getElem? hslot) (h.opens_list hnames hslot after)

/-- A field that need not be there may be left out with a value that means its absence. -/
theorem read_leaveOut (hslot : slot ∈ slots) (hspare : slot.needed = false) (hidle : slot.idle j)
    (hread : r.read (.object ((slot.name, j) :: members)) = .ok a) :
    r.read (.object members) = .ok a := by
  obtain ⟨f, hfind, -⟩ := h.find? hnames hslot
  obtain ⟨-, ⟨hadmits, hfresh, hnodup⟩, hbuild⟩ := (read_cons_iff hfind).mp hread
  refine (read_members_iff r).mpr ⟨hadmits, hnodup,
    h.build_of_keeps hnames hslot ?_ (fun name hne => ?_) hbuild⟩
  · rw [if_pos rfl, lookup_kept_eq_none hfresh]
    exact .leaveOut rfl hspare hidle
  · rw [if_neg hne]

/-- It may be put back with such a value. -/
theorem read_putBack (hslot : slot ∈ slots) (hspare : slot.needed = false) (hidle : slot.idle j)
    (habsent : slot.name ∉ members.map (·.1)) (hread : r.read (.object members) = .ok a) :
    r.read (.object ((slot.name, j) :: members)) = .ok a := by
  obtain ⟨f, hfind, hfits⟩ := h.find? hnames hslot
  obtain ⟨hadmits, hnodup, hbuild⟩ := (read_members_iff r).mp hread
  refine (read_cons_iff hfind).mpr
    ⟨hfits.idle hspare hidle, ⟨hadmits, habsent, hnodup⟩,
      h.build_of_keeps hnames hslot ?_ (fun name hne => ?_) hbuild⟩
  · rw [if_pos rfl, lookup_kept_eq_none habsent]
    exact .putBack rfl hspare hidle
  · rw [if_neg hne]

/-- A field that must be there may not be left out. -/
theorem read_ne_of_needed (hslot : slot ∈ slots) (hneeded : slot.needed = true)
    (hread : r.read (.object ((slot.name, j) :: members)) = .ok a) (b : α) :
    r.read (.object members) ≠ .ok b := by
  obtain ⟨f, hfind, -⟩ := h.find? hnames hslot
  obtain ⟨-, ⟨-, hfresh, -⟩, hbuild⟩ := (read_cons_iff hfind).mp hread
  intro hread'
  obtain ⟨-, -, hbuild'⟩ := (read_members_iff r).mp hread'
  refine h.needed ⟨slot, hslot, ?_⟩ hbuild b hbuild'
  rw [if_pos rfl, lookup_kept_eq_none hfresh]
  exact .here rfl hneeded

/-- Any other may, whatever its value. -/
theorem exists_read_of_spare (hslot : slot ∈ slots) (hspare : slot.needed = false)
    (hread : r.read (.object ((slot.name, j) :: members)) = .ok a) :
    ∃ b, r.read (.object members) = .ok b := by
  obtain ⟨f, hfind, -⟩ := h.find? hnames hslot
  obtain ⟨-, ⟨hadmits, hfresh, hnodup⟩, hbuild⟩ := (read_cons_iff hfind).mp hread
  refine (h.exists_build_of_loses hnames hslot ?_ (fun name hne => ?_) hbuild).imp
    fun b hbuild' => (read_members_iff r).mpr ⟨hadmits, hnodup, hbuild'⟩
  · rw [if_pos rfl, lookup_kept_eq_none hfresh]
    exact .here rfl hspare
  · rw [if_neg hne]

/-- A record is read from what says the same. -/
theorem read_same {j j' : Json} (hsame : Same slots j j') (hread : r.read j = .ok a) :
    r.read j' = .ok a := by
  induction hsame with
  | refl => exact hread
  | trans _ _ ih ih' => exact ih' (ih hread)
  | reorder hperm => exact read_perm hperm hread
  | add hunknown hplain =>
    rw [← h.names] at hunknown
    exact read_append_cons_iff.mpr ((read_cons_unknown_iff hunknown).mpr ⟨hplain.skip, hread⟩)
  | leaveOut hslot hspare hidle =>
    exact h.read_leaveOut hnames hslot hspare hidle (read_append_cons_iff.mp hread)
  | putBack hslot hspare hidle habsent =>
    exact read_append_cons_iff.mpr (h.read_putBack hnames hslot hspare hidle habsent hread)
  | within hslot hsame => exact (h.obeys_field hnames hslot _ _).same hsame hread
  | nth hslot hsame => exact (h.obeys_position hnames hslot _).same hsame hread

/-- A record is read as its slots say. -/
theorem obeys : Obeys r.read (.record slots) := by
  refine ⟨h.read_same hnames, ?needed, ?spare⟩
  case needed =>
    intro j j' a hwithout hread b
    cases hwithout with
    | here hslot hneeded =>
      exact h.read_ne_of_needed hnames hslot hneeded (read_append_cons_iff.mp hread) b
    | within hslot hwithout => exact (h.obeys_field hnames hslot _ _).needed hwithout hread b
    | nth hslot hwithout => exact (h.obeys_position hnames hslot _).needed hwithout hread b
  case spare =>
    intro j j' a hwithout hread
    cases hwithout with
    | here hslot hspare =>
      exact h.exists_read_of_spare hnames hslot hspare (read_append_cons_iff.mp hread)
    | within hslot hwithout => exact (h.obeys_field hnames hslot _ _).spare hwithout hread
    | nth hslot hwithout => exact (h.obeys_position hnames hslot _).spare hwithout hread

end

end Follows

end Fields

/-! ## Texts -/

/-- What a reader makes of texts goes along with the changes to the value of the text: the same
is read from what says the same, what lacks a needed field is refused, and what lacks any other
is taken. -/
structure Tolerant {α : Type} (dec : Decoder α) (m : Manner) : Prop where
  same : ∀ {d d' : Document} {a : α}, d.decode dec = .ok a → m.same d.root d'.root →
    d'.trailing = false → d'.decode dec = .ok a
  needed : ∀ {d d' : Document} {a : α}, d.decode dec = .ok a → m.without true d.root d'.root →
    ∃ fault, d'.decode dec = .error fault
  spare : ∀ {d d' : Document} {a : α}, d.decode dec = .ok a → m.without false d.root d'.root →
    d'.trailing = false → ∃ b, d'.decode dec = .ok b

theorem Document.decode_eq_ok_iff {α : Type} {d : Document} {dec : Decoder α} {a : α} :
    d.decode dec = .ok a ↔ dec d.root = .ok a ∧ d.trailing = false := by
  rw [Document.decode]
  cases dec d.root with
  | error fault =>
    constructor
    · rintro ⟨⟩
    · rintro ⟨⟨⟩, -⟩
  | ok b =>
    cases d.trailing with
    | false => exact ⟨fun h => ⟨h, rfl⟩, fun h => h.1⟩
    | true =>
      constructor
      · rintro ⟨⟩
      · rintro ⟨-, ⟨⟩⟩

theorem Obeys.tolerant {α : Type} {dec : Decoder α} {m : Manner} (h : Obeys dec m) :
    Tolerant dec m := by
  refine ⟨fun hread hsame htrailing => ?_, fun {d d' a} hread hwithout => ?_,
    fun hread hwithout htrailing => ?_⟩
  · obtain ⟨hroot, -⟩ := Document.decode_eq_ok_iff.mp hread
    exact Document.decode_eq_ok_iff.mpr ⟨h.same hsame hroot, htrailing⟩
  · obtain ⟨hroot, -⟩ := Document.decode_eq_ok_iff.mp hread
    cases hread' : d'.decode dec with
    | error fault => exact ⟨fault, rfl⟩
    | ok b => exact absurd (Document.decode_eq_ok_iff.mp hread').1 (h.needed hwithout hroot b)
  · obtain ⟨hroot, -⟩ := Document.decode_eq_ok_iff.mp hread
    obtain ⟨b, hb⟩ := h.spare hwithout hroot
    exact ⟨b, Document.decode_eq_ok_iff.mpr ⟨hb, htrailing⟩⟩

end PoolScaler.Json
