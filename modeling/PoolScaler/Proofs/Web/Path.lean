import Mathlib.Data.List.DropRight
import PoolScaler.Proofs.Text.Pieces
import PoolScaler.Proofs.Web.Escape
set_option autoImplicit false

/-!
# Paths below an address

The parts that are put after an address lead below its path, one by one, as long as each of
them is a name: a part that has a slash of either direction, that ends the path, that is all
dots or that has an escape can lead anywhere.
-/

namespace PoolScaler.Web

/-- A text is one part of a path and stands for itself: it has nothing that cuts or ends a
path, nothing that is passed over or taken for an escape, and it is no dots that lead
elsewhere. -/
structure Plain (part : String) : Prop where
  chars : ∀ c ∈ part.toList, c ∉ ['/', '\\', '?', '#', '%', '\t', '\n', '\r']
  ne_here : part ≠ "."
  ne_above : part ≠ ".."

theorem plain_iff {part : String} : Plain part ↔
    (part.toList.all fun c => c ∉ ['/', '\\', '?', '#', '%', '\t', '\n', '\r']) = true ∧
      part ≠ "." ∧ part ≠ ".." := by
  constructor
  · intro h
    refine ⟨List.all_eq_true.mpr fun c hc => ?_, h.ne_here, h.ne_above⟩
    exact decide_eq_true (h.chars c hc)
  · rintro ⟨hchars, hhere, habove⟩
    exact ⟨fun c hc => of_decide_eq_true (List.all_eq_true.mp hchars c hc), hhere, habove⟩

instance (part : String) : Decidable (Plain part) := decidable_of_iff' _ plain_iff

theorem Plain.not_mem {part : String} (h : Plain part) {c : Char}
    (hc : c ∈ ['/', '\\', '?', '#', '%', '\t', '\n', '\r']) : c ∉ part.toList :=
  fun hmem => h.chars c hmem hc

namespace Url

/-! ## Where the path of an address begins -/

/-- The characters of an address that count. -/
def core (text : String) : List Char :=
  (((text.toList.dropWhile isEdge).reverse.dropWhile isEdge).reverse).filter fun c => !isBreak c

/-- What follows the scheme of an address and the slashes after it. -/
def afterSlashes (cs : List Char) : List Char :=
  ((cs.dropWhile (· ≠ ':')).drop 1).dropWhile isSlash

/-- What follows the authority of an address. -/
def afterAuthority (cs : List Char) : List Char :=
  (afterSlashes cs).dropWhile fun c => !endsAuthority c

theorem drop_length_takeWhile (p : Char → Bool) (cs : List Char) :
    cs.drop (cs.takeWhile p).length = cs.dropWhile p :=
  calc cs.drop (cs.takeWhile p).length
    _ = (cs.takeWhile p ++ cs.dropWhile p).drop (cs.takeWhile p).length := by
      rw [List.takeWhile_append_dropWhile]
    _ = cs.dropWhile p := List.drop_left

theorem scheme?_rest {cs rest : List Char} {secure : Bool} (h : scheme? cs = some (secure, rest)) :
    rest = (cs.dropWhile (· ≠ ':')).drop 1 := by
  unfold scheme? at h
  dsimp only at h
  rw [drop_length_takeWhile] at h
  split at h
  · cases h
  · rename_i heq
    rw [heq]
    split at h
    · exact (Prod.mk.inj (Option.some.inj h)).2.symm
    · split at h
      · exact (Prod.mk.inj (Option.some.inj h)).2.symm
      · cases h

theorem host?_nil : host? [] = none := by decide +kernel

/-- An address has something after the slashes, and its path is what follows its
authority. -/
theorem path_of_parse? {text : String} {url : Url} (h : parse? text = some url) :
    afterSlashes (core text) ≠ [] ∧ url.path = walk [] (pathParts
      ((afterAuthority (core text)).takeWhile fun c => c ≠ '?' && c ≠ '#')) := by
  unfold parse? at h
  obtain ⟨⟨secure, cs⟩, hscheme, h⟩ := Option.bind_eq_some_iff.mp h
  have hcs : cs.dropWhile isSlash = afterSlashes (core text) :=
    congrArg (List.dropWhile isSlash) (scheme?_rest hscheme)
  have hrest : (afterSlashes (core text)).dropWhile (fun c => !endsAuthority c) =
      afterAuthority (core text) := rfl
  dsimp only at h
  rw [hcs, drop_length_takeWhile, hrest] at h
  constructor
  · intro hnil
    rw [hnil] at h
    obtain ⟨host, hhost, -⟩ := Option.bind_eq_some_iff.mp h
    exact nomatch host?_nil.symm.trans hhost
  · split at h
    · obtain ⟨host, -, h⟩ := Option.bind_eq_some_iff.mp h
      obtain ⟨port, -, h⟩ := Option.bind_eq_some_iff.mp h
      rw [← Option.some.inj h]
    · obtain ⟨host, -, h⟩ := Option.bind_eq_some_iff.mp h
      obtain ⟨port, -, h⟩ := Option.bind_eq_some_iff.mp h
      rw [← Option.some.inj h]

/-! ## Putting parts after an address -/

theorem dropWhile_append_of_ne_nil {p : Char → Bool} {cs more : List Char}
    (h : cs.dropWhile p ≠ []) : (cs ++ more).dropWhile p = cs.dropWhile p ++ more := by
  rw [List.dropWhile_append, if_neg (by simpa using h)]

theorem afterSlashes_append {cs : List Char} (h : afterSlashes cs ≠ []) (more : List Char) :
    afterSlashes (cs ++ more) = afterSlashes cs ++ more := by
  have hcolon : cs.dropWhile (· ≠ ':') ≠ [] := by
    intro hnil
    unfold afterSlashes at h
    rw [hnil] at h
    exact h rfl
  unfold afterSlashes at h ⊢
  rw [dropWhile_append_of_ne_nil hcolon, List.drop_append_of_le_length
    (List.length_pos_of_ne_nil hcolon), dropWhile_append_of_ne_nil h]

theorem afterAuthority_append {cs : List Char} (h : afterSlashes cs ≠ []) (more : List Char) :
    afterAuthority (cs ++ '/' :: more) = afterAuthority cs ++ '/' :: more := by
  unfold afterAuthority
  rw [afterSlashes_append h, List.dropWhile_append]
  split
  · rename_i hnil
    rw [List.isEmpty_iff.mp hnil]
    rfl
  · rfl

/-- The characters that count of an address that goes on. -/
def front (base : String) : List Char := (base.toList.dropWhile isEdge).filter fun c => !isBreak c

theorem core_prefix (base : String) : core base <+: front base :=
  (List.rdropWhile_prefix isEdge (base.toList.dropWhile isEdge)).filter _

theorem afterSlashes_front {base : String} (h : afterSlashes (core base) ≠ []) :
    afterSlashes (front base) ≠ [] := by
  obtain ⟨more, hmore⟩ := core_prefix base
  rw [← hmore, afterSlashes_append h]
  exact List.append_ne_nil_of_left_ne_nil h _

theorem core_append {base : String} (h : front base ≠ []) {body : List Char} {last : Char}
    (hlast : isEdge last = false) (hbody : ∀ c ∈ body ++ [last], isBreak c = false) :
    core (base ++ String.ofList (body ++ [last])) = front base ++ (body ++ [last]) := by
  have hstart : base.toList.dropWhile isEdge ≠ [] := by
    intro hnil
    unfold front at h
    rw [hnil] at h
    exact h rfl
  have hkept : ((body ++ [last]).filter fun c => !isBreak c) = body ++ [last] :=
    List.filter_eq_self.mpr fun c hc => by rw [hbody c hc]; rfl
  unfold core front
  rw [String.toList_append, String.toList_ofList, dropWhile_append_of_ne_nil hstart,
    ← List.append_assoc, List.reverse_append, List.reverse_singleton, List.singleton_append,
    List.dropWhile_cons_of_neg (by simp [hlast]), List.reverse_cons, List.reverse_reverse,
    List.append_assoc, List.filter_append, hkept]

/-! ## The parts of a path -/

theorem pathParts_append (cs : List Char) : ∃ lead, ∀ more : List Char, '\\' ∉ more →
    pathParts (cs ++ '/' :: more) = lead ++ Text.pieces '/' more := by
  have hplain : ∀ more : List Char, '\\' ∉ more →
      (more.map fun c => if c = '\\' then '/' else c) = more := by
    intro more hmore
    refine (List.map_congr_left fun c hc => if_neg fun hback => hmore ?_).trans (List.map_id more)
    exact hback ▸ hc
  cases cs with
  | nil =>
    refine ⟨[], fun more hmore => ?_⟩
    unfold pathParts
    rw [List.nil_append, List.map_cons, hplain more hmore]
    rfl
  | cons c rest =>
    by_cases hslash : (if c = '\\' then '/' else c) = '/'
    · refine ⟨Text.pieces '/' (rest.map fun c => if c = '\\' then '/' else c), fun more hmore => ?_⟩
      unfold pathParts
      rw [List.cons_append, List.map_cons, hslash, List.map_append, List.map_cons,
        hplain more hmore]
      exact Text.pieces_append '/' _ more
    · refine ⟨Text.pieces '/' ((c :: rest).map fun c => if c = '\\' then '/' else c),
        fun more hmore => ?_⟩
      unfold pathParts
      rw [← Text.pieces_append, List.map_append, List.map_cons, List.map_cons, hplain more hmore]
      dsimp only
      split
      · rename_i heq
        exact absurd (List.cons.inj heq).1 hslash
      · rfl

/-- Parts that are not the last lead to one place. -/
def follow (path : List String) (parts : List (List Char)) : List String :=
  parts.foldl (fun path part => pathStep path (written (String.ofList part)) false) path

theorem walk_append (path : List String) (parts : List (List Char)) {more : List (List Char)}
    (h : more ≠ []) : walk path (parts ++ more) = walk (follow path parts) more := by
  induction parts generalizing path with
  | nil => rfl
  | cons part parts ih =>
    have hnot : (parts ++ more).isEmpty = false := by
      simpa using fun _ => h
    rw [List.cons_append, walk, hnot, ih]
    simp only [follow, List.foldl_cons, written, String.toList_ofList]

theorem walk_plain (path : List String) {parts : List String} (h : ∀ part ∈ parts, Plain part) :
    walk path (parts.map String.toList) = path ++ parts.map written := by
  induction parts generalizing path with
  | nil => simp [walk]
  | cons part parts ih =>
    obtain ⟨hpart, hparts⟩ := List.forall_mem_cons.mp h
    have hfree := hpart.not_mem (c := '%') (by decide)
    have hstep : ∀ last, pathStep path (written part) last = path ++ [written part] := by
      intro last
      unfold pathStep
      rw [isAbove_written hfree hpart.ne_above, isHere_written hfree hpart.ne_here]
      rfl
    rw [List.map_cons, walk, ← written, hstep, ih _ hparts, List.append_assoc]
    rfl

/-- An address that parts can be put after: it can be read, and its path is the end of it. -/
structure Open (base : String) : Prop where
  read : (parse? base).isSome
  no_query : '?' ∉ base.toList
  no_fragment : '#' ∉ base.toList

/-- Parts as they are put after an address. -/
def below (parts : List String) : List Char :=
  List.intercalate ['/'] (parts.map String.toList)

/-- Characters of plain parts neither cut nor end a path. -/
theorem not_mem_below {parts : List String} (h : ∀ part ∈ parts, Plain part) {c : Char}
    (hc : c ∈ ['\\', '?', '#', '%', '\t', '\n', '\r']) : c ∉ below parts := by
  intro hmem
  rcases Text.mem_of_mem_intercalate hmem with rfl | ⟨part, hpart, hmem⟩
  · exact absurd hc (by decide)
  · obtain ⟨name, hname, rfl⟩ := List.mem_map.mp hpart
    exact (h name hname).not_mem (List.mem_cons_of_mem _ hc) hmem

theorem not_isBreak_below {parts : List String} (h : ∀ part ∈ parts, Plain part) :
    ∀ c ∈ '/' :: below parts, isBreak c = false := by
  refine List.forall_mem_cons.mpr ⟨rfl, fun c hc => Bool.eq_false_iff.mpr fun hbreak => ?_⟩
  refine not_mem_below h ?_ hc
  simp only [isBreak, Bool.or_eq_true, decide_eq_true_eq] at hbreak
  rcases hbreak with (rfl | rfl) | rfl
  · decide
  · decide
  · decide

theorem pieces_below {parts : List String} (hne : parts ≠ []) (h : ∀ part ∈ parts, Plain part) :
    Text.pieces '/' (below parts) = parts.map String.toList := by
  refine Text.pieces_intercalate (by simpa using hne) fun part hpart => ?_
  obtain ⟨name, hname, rfl⟩ := List.mem_map.mp hpart
  exact (h name hname).not_mem (by decide)

theorem below_append {parts more : List String} (hparts : parts ≠ []) (hmore : more ≠ []) :
    below (parts ++ more) = below parts ++ '/' :: below more := by
  induction parts with
  | nil => exact absurd rfl hparts
  | cons part rest ih =>
    cases rest with
    | nil =>
      obtain ⟨next, others, rfl⟩ := List.exists_cons_of_ne_nil hmore
      simp [below, List.intercalate_cons_cons]
    | cons next others =>
      have hrest := ih (List.cons_ne_nil _ _)
      simp only [below, List.cons_append, List.map_cons, List.intercalate_cons_cons,
        List.append_assoc] at hrest ⊢
      rw [hrest]

theorem mem_of_mem_afterAuthority {base : String} {c : Char}
    (h : c ∈ afterAuthority (front base)) : c ∈ base.toList := by
  have hsuffix : afterAuthority (front base) <:+ front base :=
    (List.dropWhile_suffix _).trans ((List.dropWhile_suffix _).trans
      ((List.drop_suffix _ _).trans (List.dropWhile_suffix _)))
  exact (List.dropWhile_suffix _).subset (List.mem_of_mem_filter (hsuffix.subset h))

/-- What plain parts are put after is all path. -/
theorem Open.whole {base : String} (h : Open base) {parts : List String}
    (hplain : ∀ part ∈ parts, Plain part) :
    ∀ c ∈ afterAuthority (front base) ++ '/' :: below parts, (c ≠ '?' && c ≠ '#') = true := by
  intro c hc
  rw [Bool.and_eq_true, decide_eq_true_eq, decide_eq_true_eq]
  rcases List.mem_append.mp hc with hc | hc
  · exact ⟨ne_of_mem_of_not_mem (mem_of_mem_afterAuthority hc) h.no_query,
      ne_of_mem_of_not_mem (mem_of_mem_afterAuthority hc) h.no_fragment⟩
  · rcases List.mem_cons.mp hc with rfl | hc
    · exact ⟨by decide, by decide⟩
    · exact ⟨ne_of_mem_of_not_mem hc (not_mem_below hplain (by decide)),
        ne_of_mem_of_not_mem hc (not_mem_below hplain (by decide))⟩

/-- The path of an address with plain parts put after it: what the address leads to does
not depend on them, and they follow as they are written. -/
theorem path_below {base : String} (h : Open base) : ∃ above : List String,
    ∀ (parts : List String) (body : List Char) (last : Char), (∀ part ∈ parts, Plain part) →
      below parts = body ++ [last] → isEdge last = false → ∀ url : Url,
      parse? (base ++ String.ofList ('/' :: below parts)) = some url →
      url.path = above ++ parts.map written := by
  obtain ⟨own, hown⟩ := Option.isSome_iff_exists.mp h.read
  have hfront := afterSlashes_front (path_of_parse? hown).1
  have hne : front base ≠ [] := by
    intro hnil
    rw [hnil] at hfront
    exact hfront rfl
  obtain ⟨lead, hlead⟩ := pathParts_append (afterAuthority (front base))
  refine ⟨follow [] lead, fun parts body last hplain hbody hlast url hurl => ?_⟩
  have hsome : parts ≠ [] := by
    rintro rfl
    exact List.append_ne_nil_of_right_ne_nil body (List.cons_ne_nil last []) hbody.symm
  have hcore : core (base ++ String.ofList ('/' :: below parts)) =
      front base ++ '/' :: below parts := by
    have hkept := not_isBreak_below hplain
    rw [hbody, ← List.cons_append] at hkept ⊢
    exact core_append hne hlast hkept
  rw [(path_of_parse? hurl).2, hcore, afterAuthority_append hfront,
    List.takeWhile_eq_self_iff.mpr (h.whole hplain), hlead _ (not_mem_below hplain (by decide)),
    pieces_below hsome hplain, walk_append _ _ (by simpa using hsome), walk_plain _ hplain]

end Url

end PoolScaler.Web
