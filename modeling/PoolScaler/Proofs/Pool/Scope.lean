import PoolScaler.Pool.Scope
import PoolScaler.Proofs.Text.Pieces
set_option autoImplicit false

/-!
# Whom an identity stands for

The names that an identity gives decide its scope: the repository if there is one, which
must be written as owner and name, then the organization, then the enterprise.  The paths
of different scopes are different texts.
-/

namespace PoolScaler

/-- Two identities give the same names; their pools may have different ones. -/
structure Identity.SameNames (i j : Identity) : Prop where
  enterprise : i.enterprise = j.enterprise
  organization : i.organization = j.organization
  repository : i.repository = j.repository

namespace Scope

/-! ## What is resolved -/

/-- A text is the owner and the name of a repository with a slash between them, which is
the only one, and neither is empty. -/
structure Names (text owner name : String) : Prop where
  text_eq : text = owner ++ "/" ++ name
  owner_ne : owner ≠ ""
  name_ne : name ≠ ""
  owner_whole : '/' ∉ owner.toList
  name_whole : '/' ∉ name.toList

/-- What an identity is resolved to. -/
inductive Resolves (i : Identity) : Except SourceFault Scope → Prop where
  /-- A repository comes first. -/
  | repository {owner name : String} (h : Names i.repository owner name) :
    Resolves i (.ok (.repository owner name))
  /-- One that is not written as owner and name is a fault, whatever else is given. -/
  | misspelt (hgiven : i.repository ≠ "") (hnone : ∀ owner name, ¬ Names i.repository owner name) :
    Resolves i (.error (.invalidScope
      ("invalid repository name: " ++ Text.Quoted.quote i.repository)))
  | organization (hrepository : i.repository = "") (hgiven : i.organization ≠ "") :
    Resolves i (.ok (.organization i.organization))
  | enterprise (hrepository : i.repository = "") (horganization : i.organization = "")
    (hgiven : i.enterprise ≠ "") : Resolves i (.ok (.enterprise i.enterprise))
  | nobody (hrepository : i.repository = "") (horganization : i.organization = "")
    (henterprise : i.enterprise = "") :
    Resolves i (.error (.invalidScope "enterprise, organization and repository are all empty"))

theorem splitSlash_eq (cs : List Char) : splitSlash cs = Text.pieces '/' cs := by
  induction cs with
  | nil => rfl
  | cons c rest ih =>
    unfold splitSlash Text.pieces
    split
    · contradiction
    · rename_i heq
      obtain ⟨rfl, rfl⟩ := List.cons.inj heq
      rw [if_pos rfl, ih]
    · rename_i hc heq
      obtain ⟨rfl, rfl⟩ := List.cons.inj heq
      cases hparts : Text.pieces '/' rest <;> simp [if_neg hc, ih, hparts]

theorem Names.splitSlash {text owner name : String} (h : Names text owner name) :
    Scope.splitSlash text.toList = [owner.toList, name.toList] := by
  rw [splitSlash_eq, Text.pieces_eq_pair_iff, h.text_eq]
  exact ⟨by simp, h.owner_whole, h.name_whole⟩

theorem repository?_eq_some_iff {text : String} {scope : Scope} :
    repository? text = some scope ↔
      ∃ owner name, Names text owner name ∧ scope = .repository owner name := by
  constructor
  · intro h
    unfold repository? at h
    split at h
    · rename_i owner name hparts
      split at h
      · cases h
      · rename_i hfull
        obtain rfl := Option.some.inj h
        obtain ⟨htext, howner, hname⟩ :=
          Text.pieces_eq_pair_iff.mp ((splitSlash_eq text.toList).symm.trans hparts)
        obtain ⟨howner_ne, hname_ne⟩ : owner ≠ [] ∧ name ≠ [] := by simpa using hfull
        refine ⟨String.ofList owner, String.ofList name, ⟨?_, ?_, ?_, ?_, ?_⟩, rfl⟩
        · exact String.toList_injective (by simp [htext])
        · simpa using howner_ne
        · simpa using hname_ne
        · simpa using howner
        · simpa using hname
    · cases h
  · rintro ⟨owner, name, h, rfl⟩
    unfold repository?
    rw [h.splitSlash]
    simp [h.owner_ne, h.name_ne]

theorem Names.ne_empty {text owner name : String} (h : Names text owner name) : text ≠ "" := by
  rintro rfl
  simpa using congrArg String.toList h.text_eq

theorem resolves_ofIdentity (i : Identity) : Resolves i (ofIdentity i) := by
  unfold ofIdentity
  by_cases hrepository : i.repository = ""
  · by_cases horganization : i.organization = ""
    · by_cases henterprise : i.enterprise = ""
      · simpa [*] using Resolves.nobody hrepository horganization henterprise
      · simpa [*] using Resolves.enterprise hrepository horganization henterprise
    · simpa [*] using Resolves.organization hrepository horganization
  · rw [if_pos (by simpa using hrepository)]
    split
    · rename_i scope hscope
      obtain ⟨owner, name, hnames, rfl⟩ := repository?_eq_some_iff.mp hscope
      exact .repository hnames
    · rename_i hnone
      refine .misspelt hrepository fun owner name hnames => ?_
      rw [repository?_eq_some_iff.mpr ⟨owner, name, hnames, rfl⟩] at hnone
      cases hnone

theorem Resolves.ofIdentity_eq {i : Identity} {r : Except SourceFault Scope} (h : Resolves i r) :
    ofIdentity i = r := by
  unfold ofIdentity
  cases h with
  | repository hnames =>
    rw [if_pos (by simpa using hnames.ne_empty),
      repository?_eq_some_iff.mpr ⟨_, _, hnames, rfl⟩]
  | misspelt hgiven hnone =>
    have hnot : repository? i.repository = none := by
      refine Option.eq_none_iff_forall_ne_some.mpr fun scope hscope => ?_
      obtain ⟨owner, name, hnames, -⟩ := repository?_eq_some_iff.mp hscope
      exact hnone owner name hnames
    rw [if_pos (by simpa using hgiven), hnot]
  | organization hrepository hgiven => simp [hrepository, hgiven]
  | enterprise hrepository horganization hgiven => simp [hrepository, horganization, hgiven]
  | nobody hrepository horganization henterprise =>
    simp [hrepository, horganization, henterprise]

/-- An identity is resolved by these rules and by no others. -/
theorem ofIdentity_eq_iff {i : Identity} {r : Except SourceFault Scope} :
    ofIdentity i = r ↔ Resolves i r :=
  ⟨fun h => h ▸ resolves_ofIdentity i, fun h => h.ofIdentity_eq⟩

/-- The names alone decide. -/
theorem ofIdentity_congr {i j : Identity} (h : i.SameNames j) : ofIdentity i = ofIdentity j := by
  unfold ofIdentity
  rw [h.enterprise, h.organization, h.repository]

/-! ## Paths -/

/-- The owner and the name of a repository have no slash. -/
def Whole : Scope → Prop
  | .repository owner name => '/' ∉ owner.toList ∧ '/' ∉ name.toList
  | .organization _ | .enterprise _ => True

theorem whole_of_ofIdentity {i : Identity} {scope : Scope} (h : ofIdentity i = .ok scope) :
    scope.Whole := by
  have hresolves := ofIdentity_eq_iff.mp h
  cases hresolves with
  | repository hnames => exact ⟨hnames.owner_whole, hnames.name_whole⟩
  | organization | enterprise => trivial

theorem repository_inj {owner name owner' name' : String}
    (h : (Scope.repository owner name).Whole) (h' : (Scope.repository owner' name').Whole)
    (heq : owner.toList ++ '/' :: name.toList = owner'.toList ++ '/' :: name'.toList) :
    owner = owner' ∧ name = name' := by
  have hpieces := Text.pieces_eq_pair_iff.mpr ⟨rfl, h.1, h.2⟩
  rw [heq, Text.pieces_eq_pair_iff.mpr ⟨rfl, h'.1, h'.2⟩] at hpieces
  simp only [List.cons.injEq, and_true] at hpieces
  exact ⟨String.toList_injective hpieces.1.symm, String.toList_injective hpieces.2.symm⟩

/-- Different scopes have different paths. -/
theorem runnersPath_injective {scope scope' : Scope} (h : scope.Whole) (h' : scope'.Whole)
    (hpath : scope.runnersPath = scope'.runnersPath) : scope = scope' := by
  have hchars := congrArg String.toList hpath
  cases scope with
  | repository owner name =>
    cases scope' with
    | repository owner' name' =>
      have hparts : owner.toList ++ '/' :: name.toList = owner'.toList ++ '/' :: name'.toList := by
        refine (List.append_left_inj "/actions/runners".toList).mp ?_
        simpa [runnersPath] using hchars
      obtain ⟨rfl, rfl⟩ := repository_inj h h' hparts
      rfl
    | organization name' => simp [runnersPath] at hchars
    | enterprise name' => simp [runnersPath] at hchars
  | organization name =>
    cases scope' with
    | repository owner' name' => simp [runnersPath] at hchars
    | organization name' => simpa [runnersPath, String.toList_inj] using hchars
    | enterprise name' => simp [runnersPath] at hchars
  | enterprise name =>
    cases scope' with
    | repository owner' name' => simp [runnersPath] at hchars
    | organization name' => simp [runnersPath] at hchars
    | enterprise name' => simpa [runnersPath, String.toList_inj] using hchars

end Scope

end PoolScaler
