set_option autoImplicit false

/-!
# Finite maps with texts as keys

A map is the list of its entries in increasing order of their keys, by code
points, which is also the order of the keys' bytes.  Two maps with the same
entries are equal, and going through a map goes through its keys in order.
-/

namespace PoolScaler

/-- A finite map from texts. -/
structure Keyed (α : Type) where
  /-- The entries, keys increasing. -/
  entries : List (String × α)
  sorted : entries.Pairwise fun a b => a.1 < b.1
  deriving DecidableEq

namespace Keyed

variable {α : Type}

/-- The map without entries. -/
def empty : Keyed α := ⟨[], .nil⟩

instance : Inhabited (Keyed α) := ⟨empty⟩

instance [Repr α] : Repr (Keyed α) := ⟨fun m => reprPrec m.entries⟩

/-- The value under a key. -/
def find? (m : Keyed α) (key : String) : Option α := m.entries.lookup key

/-- A key has a value. -/
def contains (m : Keyed α) (key : String) : Bool := (m.find? key).isSome

/-- The number of entries. -/
def size (m : Keyed α) : Nat := m.entries.length

/-- Entries with one more put in its place; an entry of the same key goes. -/
def insertEntry (key : String) (value : α) : List (String × α) → List (String × α)
  | [] => [(key, value)]
  | e :: rest =>
    if key < e.1 then (key, value) :: e :: rest
    else if key = e.1 then (key, value) :: rest
    else e :: insertEntry key value rest

theorem mem_insertEntry {key : String} {value : α} {x : String × α} {l : List (String × α)}
    (h : x ∈ insertEntry key value l) : x = (key, value) ∨ x ∈ l := by
  induction l with
  | nil => exact Or.inl (by simpa [insertEntry] using h)
  | cons e rest ih =>
    simp only [insertEntry] at h
    split at h
    · simpa using h
    · split at h
      · rcases List.mem_cons.1 h with h | h
        · exact Or.inl h
        · exact Or.inr (List.mem_cons_of_mem _ h)
      · rcases List.mem_cons.1 h with h | h
        · exact Or.inr (h ▸ List.mem_cons_self)
        · rcases ih h with h | h
          · exact Or.inl h
          · exact Or.inr (List.mem_cons_of_mem _ h)

theorem lt_of_not_lt_of_ne {a b : String} (h : ¬ a < b) (hne : a ≠ b) : b < a := by
  rcases Decidable.em (b < a) with h' | h'
  · exact h'
  · exact absurd (String.le_antisymm (String.not_lt.1 h') (String.not_lt.1 h)) hne

theorem sorted_insertEntry (key : String) (value : α) {l : List (String × α)}
    (h : l.Pairwise fun a b => a.1 < b.1) :
    (insertEntry key value l).Pairwise fun a b => a.1 < b.1 := by
  induction l with
  | nil => simp [insertEntry]
  | cons e rest ih =>
    obtain ⟨he, hrest⟩ := List.pairwise_cons.1 h
    simp only [insertEntry]
    split
    · rename_i hlt
      refine List.pairwise_cons.2 ⟨fun x hx => ?_, h⟩
      rcases List.mem_cons.1 hx with rfl | hx
      · exact hlt
      · exact String.lt_trans hlt (he x hx)
    · rename_i hnlt
      split
      · rename_i heq
        refine List.pairwise_cons.2 ⟨fun x hx => ?_, hrest⟩
        exact heq ▸ he x hx
      · rename_i hne
        refine List.pairwise_cons.2 ⟨fun x hx => ?_, ih hrest⟩
        rcases mem_insertEntry hx with rfl | hx
        · exact lt_of_not_lt_of_ne hnlt hne
        · exact he x hx

/-- Put a value under a key. -/
def insert (m : Keyed α) (key : String) (value : α) : Keyed α :=
  ⟨insertEntry key value m.entries, sorted_insertEntry key value m.sorted⟩

/-- The entries that pass a test. -/
def filter (m : Keyed α) (keep : String × α → Bool) : Keyed α :=
  ⟨m.entries.filter keep, m.sorted.filter keep⟩

/-- The map without a key. -/
def erase (m : Keyed α) (key : String) : Keyed α := m.filter (·.1 != key)

/-- The map of a list of entries; of two with one key the later counts. -/
def ofList (entries : List (String × α)) : Keyed α :=
  entries.foldl (fun m e => m.insert e.1 e.2) empty

/-- One map laid over another: under a key of both, the upper one's value. -/
def overlay (lower upper : Keyed α) : Keyed α :=
  upper.entries.foldl (fun m e => m.insert e.1 e.2) lower

/-- Looking up in a list of entries looks at the first one first. -/
theorem lookup_cons (k : String) (e : String × α) (l : List (String × α)) :
    List.lookup k (e :: l) = if k = e.1 then some e.2 else List.lookup k l := by
  obtain ⟨a, b⟩ := e
  by_cases h : k = a
  · simp [h]
  · simp [List.lookup_cons, h, beq_eq_false_iff_ne.2 h]

theorem lookup_insertEntry (key k : String) (value : α) (l : List (String × α)) :
    (insertEntry key value l).lookup k = if k = key then some value else l.lookup k := by
  induction l with
  | nil => simp [insertEntry, lookup_cons]
  | cons e rest ih =>
    simp only [insertEntry]
    split
    · simp only [lookup_cons]
    · split
      · rename_i heq
        simp only [lookup_cons, heq]
        split <;> rfl
      · rename_i hne
        simp only [lookup_cons, ih]
        by_cases h : k = key
        · subst h; simp [hne]
        · simp [h]

theorem find?_insert (m : Keyed α) (key k : String) (value : α) :
    (m.insert key value).find? k = if k = key then some value else m.find? k :=
  lookup_insertEntry key k value m.entries

theorem lookup_filter (keep : String → Bool) (k : String) (l : List (String × α)) :
    (l.filter fun e => keep e.1).lookup k = if keep k then l.lookup k else none := by
  induction l with
  | nil => simp
  | cons e rest ih =>
    by_cases he : keep e.1
    · by_cases h : k = e.1
      · simp [he, lookup_cons, h]
      · simp [he, lookup_cons, ih, h]
    · by_cases h : k = e.1
      · simpa [he, lookup_cons, h] using ih
      · simp [he, lookup_cons, ih, h]

/-- A filter that looks at the keys only keeps the values under those that pass. -/
theorem find?_filter (m : Keyed α) (keep : String → Bool) (k : String) :
    (m.filter fun e => keep e.1).find? k = if keep k then m.find? k else none :=
  lookup_filter keep k m.entries

theorem find?_erase (m : Keyed α) (key k : String) :
    (m.erase key).find? k = if k = key then none else m.find? k := by
  rw [erase, find?_filter m (· != key)]
  by_cases h : k = key <;> simp [h]

@[simp] theorem find?_empty (k : String) : (empty : Keyed α).find? k = none := rfl

end Keyed

end PoolScaler
