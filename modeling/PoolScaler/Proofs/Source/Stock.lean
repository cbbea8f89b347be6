import PoolScaler.Proofs.Source.Listing
import PoolScaler.Proofs.Source.TokenCache
set_option autoImplicit false

/-!
# Stocks of tokens

What a client keeps of the tokens of one kind is compared with everything the source has
granted to it: from any time on a stock shows exactly the tokens that were granted and
still have enough time left.  This survives whatever a call does to the stock, as long as
a token is only put where there is none.
-/

namespace PoolScaler

/-- A token as it was issued, with the time it expires at. -/
structure Grant where
  token : String
  expiresAt : Instant
  deriving DecidableEq, Repr, Inhabited

/-- More than some seconds are left until a token expires. -/
def Grant.Lasts (g : Grant) (margin : Nat) (t : Instant) : Prop :=
  t.toNat + margin < g.expiresAt.toNat

theorem Grant.lasts_iff (g : Grant) (margin : Nat) (t : Instant) :
    g.Lasts margin t ↔ t < Api.earlier g.expiresAt margin := by
  have hsize : g.expiresAt.toNat - margin < UInt64.size :=
    Nat.lt_of_le_of_lt (Nat.sub_le _ _) g.expiresAt.toNat_lt
  unfold Lasts Api.earlier
  rw [UInt64.lt_iff_toNat_lt, UInt64.toNat_ofNat_of_lt' hsize]
  omega

namespace Client

/-! ## What is kept -/

/-- One of the stocks of tokens on a shelf. -/
structure Stock (α : Type) where
  cache : TokenShelf → TtlCache α
  /-- What is used of a token. -/
  value : Grant → α
  /-- The seconds a token must have left to be used again. -/
  margin : Nat
  /-- What is kept of a token under a key. -/
  issue : String → Grant → Instant → Issue
  keep_issue : ∀ shelf key g now, cache (TokenShelf.keep shelf (issue key g now)) =
    (cache shelf).insert key (value g) (Api.earlier g.expiresAt margin) now

/-- Tokens for registrations. -/
def registrations : Stock RegistrationToken where
  cache := TokenShelf.registration
  value g := ⟨g.token, g.expiresAt⟩
  margin := registrationMargin
  issue key g now := .registration key ⟨g.token, g.expiresAt⟩
    (Api.earlier g.expiresAt registrationMargin) now
  keep_issue _ _ _ _ := rfl

/-- Tokens of an app's installations. -/
def appTokens : Stock String where
  cache := TokenShelf.app
  value := Grant.token
  margin := appMargin
  issue key g now := .app key g.token (Api.earlier g.expiresAt appMargin) now
  keep_issue _ _ _ _ := rfl

/-- From a time on, a stock shows exactly the tokens that were granted under a key and
have enough time left. -/
structure Mirrors {α : Type} (d : Stock α) (granted : String → Grant → Prop)
    (cache : TtlCache α) (now : Instant) : Prop where
  distinct : cache.Distinct
  get?_iff : ∀ key t a, now ≤ t → (cache.get? key t = some a ↔
    ∃ g, granted key g ∧ g.Lasts d.margin t ∧ d.value g = a)

namespace Mirrors

variable {α : Type} {d : Stock α} {granted : String → Grant → Prop} {cache : TtlCache α}
  {now now' : Instant}

theorem later (h : Mirrors d granted cache now) (hle : now ≤ now') :
    Mirrors d granted cache now' :=
  ⟨h.distinct, fun key t a ht => h.get?_iff key t a (UInt64.le_trans hle ht)⟩

/-- An empty stock mirrors that nothing was granted. -/
theorem empty (d : Stock α) (now : Instant) : Mirrors d (fun _ _ => False) .empty now :=
  ⟨TtlCache.distinct_empty, fun _ _ _ _ => ⟨nofun, nofun⟩⟩

theorem congr {granted' : String → Grant → Prop} (h : Mirrors d granted cache now)
    (hsame : ∀ key g, granted' key g ↔ granted key g) : Mirrors d granted' cache now := by
  refine ⟨h.distinct, fun key t a ht => ?_⟩
  simp only [hsame]
  exact h.get?_iff key t a ht

/-- What can be had of a stock can still be had once more was granted. -/
theorem lasting {granted' : String → Grant → Prop} {cache' : TtlCache α}
    (h : Mirrors d granted cache now) (h' : Mirrors d granted' cache' now') (hle : now ≤ now')
    (hmore : ∀ key g, granted key g → granted' key g) {key : String} {t : Instant} {a : α}
    (ht : now' ≤ t) (hfound : cache.get? key t = some a) : cache'.get? key t = some a := by
  obtain ⟨g, hgranted, hlasts, rfl⟩ := (h.get?_iff key t a (UInt64.le_trans hle ht)).mp hfound
  exact (h'.get?_iff key t _ ht).mpr ⟨g, hmore key g hgranted, hlasts, rfl⟩

/-- A token is put where there is none with enough time left. -/
theorem insert (h : Mirrors d granted cache now) {key : String} (g : Grant)
    (hnone : cache.get? key now = none) :
    Mirrors d (fun k g' => granted k g' ∨ k = key ∧ g' = g)
      (cache.insert key (d.value g) (Api.earlier g.expiresAt d.margin) now) now := by
  -- The tokens that were granted under the key before have too little time left from now on.
  have hlapsed : ∀ g' t, now ≤ t → granted key g' → ¬ g'.Lasts d.margin t := by
    intro g' t ht hgranted hlasts
    have hnow : g'.Lasts d.margin now := by
      have hle : now.toNat ≤ t.toNat := UInt64.le_iff_toNat_le.mp ht
      unfold Grant.Lasts at hlasts ⊢
      omega
    have hfound := (h.get?_iff key now (d.value g') (UInt64.le_refl _)).mpr
      ⟨g', hgranted, hnow, rfl⟩
    rw [hnone] at hfound
    cases hfound
  refine ⟨h.distinct.insert, fun k t a ht => ?_⟩
  rw [h.distinct.get?_insert ht, h.get?_iff k t a ht, ← g.lasts_iff]
  constructor
  · rintro (⟨rfl, hlasts, rfl⟩ | ⟨-, g', hgranted, hlasts, rfl⟩)
    · exact ⟨g, .inr ⟨rfl, rfl⟩, hlasts, rfl⟩
    · exact ⟨g', .inl hgranted, hlasts, rfl⟩
  · rintro ⟨g', hgranted | ⟨rfl, rfl⟩, hlasts, rfl⟩
    · refine .inr ⟨?_, g', hgranted, hlasts, rfl⟩
      rintro rfl
      exact hlapsed g' t ht hgranted hlasts
    · exact .inl ⟨rfl, hlasts, rfl⟩

end Mirrors

/-! ## What a run shows -/

-- Answers stay folded: to compare two of them would otherwise read both.
/-- The token that an answer grants: it comes whole, with a status of success, and with a
time at which the token expires. -/
@[irreducible]
def grantOf? : Web.Outcome → Option Grant
  | .response r =>
    match Api.checkedDecode IssuedToken.fields r with
    | .ok issued =>
      match Api.instant issued.expiresAt with
      | .ok expires => some ⟨issued.token, expires⟩
      | .error _ => none
    | .error _ => none
  | .broken _ => none

theorem grantOf?_eq_some {r : Web.Response} {issued : IssuedToken} {expires : Instant}
    (hissued : Api.checkedDecode IssuedToken.fields r = .ok issued)
    (hexpires : Api.instant issued.expiresAt = .ok expires) :
    grantOf? (.response r) = some ⟨issued.token, expires⟩ := by
  unfold grantOf?
  simp only [hissued, hexpires]

theorem grantOf?_of_unread {r : Web.Response} {fault : SourceFault}
    (h : Api.checkedDecode IssuedToken.fields r = .error fault) :
    grantOf? (.response r) = none := by
  unfold grantOf?
  simp only [h]

theorem grantOf?_of_untimed {r : Web.Response} {issued : IssuedToken} {fault : SourceFault}
    (hissued : Api.checkedDecode IssuedToken.fields r = .ok issued)
    (h : Api.instant issued.expiresAt = .error fault) : grantOf? (.response r) = none := by
  unfold grantOf?
  simp only [hissued, h]

theorem grantOf?_broken (timedOut : Bool) : grantOf? (.broken timedOut) = none := by
  unfold grantOf?
  rfl

/-- A request that was sent, with what came of it. -/
def sent? : Step → Option (Web.Request × Web.Outcome)
  | ⟨.send request, outcome⟩ => some (request, outcome)
  | _ => none

/-- The requests that were sent, with what came of them, in order. -/
def sends (steps : List Step) : List (Web.Request × Web.Outcome) := steps.filterMap sent?

/-- What was given to be kept. -/
def kept? : Step → Option Issue
  | ⟨.keep issue, _⟩ => some issue
  | _ => none

/-- What was given to be kept, in order. -/
def keeps (steps : List Step) : List Issue := steps.filterMap kept?

@[simp] theorem sends_append (steps later : List Step) :
    sends (steps ++ later) = sends steps ++ sends later := List.filterMap_append

@[simp] theorem keeps_append (steps later : List Step) :
    keeps (steps ++ later) = keeps steps ++ keeps later := List.filterMap_append

@[simp] theorem sends_looks (now : Instant) (kept : TokenShelf) (steps : List Step) :
    sends (⟨.clock, now⟩ :: ⟨.shelf, kept⟩ :: steps) = sends steps := rfl

/-- A token was granted to one of the requests that ask for it. -/
def Granted (asks : Web.Request → Prop) (steps : List Step) (g : Grant) : Prop :=
  ∃ sent ∈ sends steps, asks sent.1 ∧ grantOf? sent.2 = some g

/-- Exchanges go with a shelf: the clock never goes back, what is seen on the shelf is what
stands there, and what is kept is put there.  They begin with one shelf at one time and end
with another at a later one. -/
def Goes (shelf' : TokenShelf) (time' : Instant) : TokenShelf → Instant → List Step → Prop
  | shelf, time, [] => shelf' = shelf ∧ time ≤ time'
  | shelf, time, ⟨.clock, now⟩ :: later =>
    time ≤ (now : Instant) ∧ Goes shelf' time' shelf now later
  | shelf, time, ⟨.shelf, kept⟩ :: later =>
    (kept : TokenShelf) = shelf ∧ Goes shelf' time' shelf time later
  | shelf, time, ⟨.keep issue, _⟩ :: later => Goes shelf' time' (shelf.keep issue) time later
  | shelf, time, ⟨.send _, _⟩ :: later => Goes shelf' time' shelf time later

namespace Goes

variable {shelf shelf' : TokenShelf} {time time' earlier : Instant} {steps later : List Step}

theorem of_le (h : Goes shelf' time' shelf time steps) (hle : earlier ≤ time) :
    Goes shelf' time' shelf earlier steps := by
  induction steps generalizing shelf time earlier with
  | nil => exact ⟨h.1, UInt64.le_trans hle h.2⟩
  | cons x later ih =>
    obtain ⟨need, answer⟩ := x
    cases need with
    | clock => exact ⟨UInt64.le_trans hle h.1, h.2⟩
    | shelf => exact ⟨h.1, ih h.2 hle⟩
    | keep issue => exact @ih (shelf.keep issue) time earlier h hle
    | send request => exact @ih shelf time earlier h hle

theorem le (h : Goes shelf' time' shelf time steps) : time ≤ time' := by
  induction steps generalizing shelf time with
  | nil => exact h.2
  | cons x later ih =>
    obtain ⟨need, answer⟩ := x
    cases need with
    | clock => exact UInt64.le_trans h.1 (ih h.2)
    | shelf => exact ih h.2
    | keep issue => exact @ih (shelf.keep issue) time h
    | send request => exact @ih shelf time h

/-- Exchanges can be cut anywhere. -/
theorem cut (h : Goes shelf' time' shelf time (steps ++ later)) :
    ∃ shelf'' time'', Goes shelf'' time'' shelf time steps ∧
      Goes shelf' time' shelf'' time'' later := by
  induction steps generalizing shelf time with
  | nil => exact ⟨shelf, time, ⟨rfl, UInt64.le_refl _⟩, h⟩
  | cons x rest ih =>
    obtain ⟨need, answer⟩ := x
    cases need with
    | clock =>
      obtain ⟨shelf'', time'', hfirst, hsecond⟩ := ih h.2
      exact ⟨shelf'', time'', ⟨h.1, hfirst⟩, hsecond⟩
    | shelf =>
      obtain ⟨shelf'', time'', hfirst, hsecond⟩ := ih h.2
      exact ⟨shelf'', time'', ⟨h.1, hfirst⟩, hsecond⟩
    | keep issue => exact @ih (shelf.keep issue) time h
    | send request => exact @ih shelf time h

end Goes

/-- Surroundings that keep what they are given to keep, and nothing else, and whose clock
never goes back. -/
structure Keeps {σ : Type} (env : Surroundings ClientNeed.interface σ)
    (shelfOf : σ → TokenShelf) (timeOf : σ → Instant) : Prop where
  forward : ∀ s need, timeOf s ≤ timeOf (env s need).2
  clock : ∀ s, (env s .clock).1 = timeOf (env s .clock).2
  shelf : ∀ s, (env s .shelf).1 = shelfOf s
  keep : ∀ s issue, shelfOf (env s (.keep issue)).2 = (shelfOf s).keep issue
  leave : ∀ s need, (∀ issue, need ≠ .keep issue) → shelfOf (env s need).2 = shelfOf s

/-- In such surroundings the exchanges of every dialogue go with the shelf. -/
theorem Keeps.goes {σ α : Type} {env : Surroundings ClientNeed.interface σ}
    {shelfOf : σ → TokenShelf} {timeOf : σ → Instant} (h : Keeps env shelfOf timeOf)
    (d : Dialogue ClientNeed.interface α) (s : σ) :
    Goes (shelfOf (d.run env s).state) (timeOf (d.run env s).state) (shelfOf s) (timeOf s)
      (d.run env s).exchanges := by
  induction d generalizing s with
  | done a => exact ⟨rfl, UInt64.le_refl _⟩
  | ask need next ih =>
    have hnext := ih (env s need).1 (env s need).2
    cases need with
    | clock =>
      have hforward := h.forward s .clock
      rw [← h.clock s] at hforward
      rw [h.leave s .clock nofun, ← h.clock s] at hnext
      exact ⟨hforward, hnext⟩
    | shelf =>
      rw [h.leave s .shelf nofun] at hnext
      exact ⟨h.shelf s, hnext.of_le (h.forward s .shelf)⟩
    | keep issue =>
      rw [h.keep s issue] at hnext
      exact hnext.of_le (h.forward s (.keep issue))
    | send request =>
      rw [h.leave s (.send request) nofun] at hnext
      exact hnext.of_le (h.forward s (.send request))

/-! ## Drawing on a stock -/

section

variable {α : Type}

/-- Exchanges that do not touch a stock: nothing is kept in it, and none of the requests
that ask for its tokens is granted one. -/
structure Quiet (d : Stock α) (asks : Web.Request → Prop) (steps : List Step) : Prop where
  untouched : ∀ issue ∈ keeps steps, ∀ shelf : TokenShelf,
    d.cache (shelf.keep issue) = d.cache shelf
  none_granted : ∀ sent ∈ sends steps, asks sent.1 → grantOf? sent.2 = none

/-- How a token is had: from the stock, or else from the source, and then it is kept. -/
inductive Draws (d : Stock α) (asks : Web.Request → Prop) (key : String) :
    List Step → Sourced α → Prop
  /-- The stock has one with enough time left. -/
  | served {now : Instant} {kept : TokenShelf} {a : α}
    (hfound : (d.cache kept).get? key now = some a) :
    Draws d asks key [⟨.clock, now⟩, ⟨.shelf, kept⟩] (.ok a)
  /-- There is none to be had. -/
  | failed {now : Instant} {kept : TokenShelf} {steps : List Step} {fault : SourceFault}
    (hnone : (d.cache kept).get? key now = none) (hquiet : Quiet d asks steps) :
    Draws d asks key (⟨.clock, now⟩ :: ⟨.shelf, kept⟩ :: steps) (.error fault)
  /-- The source grants one. -/
  | issued {now : Instant} {kept : TokenShelf} {steps : List Step} {request : Web.Request}
    {outcome : Web.Outcome} {g : Grant} (hnone : (d.cache kept).get? key now = none)
    (hquiet : Quiet d asks steps) (hasks : asks request) (hgrant : grantOf? outcome = some g) :
    Draws d asks key (⟨.clock, now⟩ :: ⟨.shelf, kept⟩ ::
      (steps ++ [⟨.send request, outcome⟩, ⟨.keep (d.issue key g now), ()⟩])) (.ok (d.value g))

variable {d : Stock α} {asks : Web.Request → Prop} {key : String} {steps later : List Step}
  {shelf shelf' : TokenShelf} {time time' : Instant} {granted : String → Grant → Prop}

namespace Quiet

theorem nil : Quiet d asks [] := ⟨List.forall_mem_nil _, List.forall_mem_nil _⟩

theorem append (h : Quiet d asks steps) (h' : Quiet d asks later) :
    Quiet d asks (steps ++ later) := by
  constructor
  · rw [keeps_append]
    exact List.forall_mem_append.mpr ⟨h.untouched, h'.untouched⟩
  · rw [sends_append]
    exact List.forall_mem_append.mpr ⟨h.none_granted, h'.none_granted⟩

theorem not_granted (h : Quiet d asks steps) {g : Grant} : ¬ Granted asks steps g := by
  rintro ⟨sent, hsent, hasks, hgrant⟩
  rw [h.none_granted sent hsent hasks] at hgrant
  cases hgrant

theorem goes (h : Quiet d asks steps) (hgoes : Goes shelf' time' shelf time steps) :
    d.cache shelf' = d.cache shelf := by
  replace h := h.untouched
  induction steps generalizing shelf time with
  | nil => rw [hgoes.1]
  | cons x later ih =>
    obtain ⟨need, answer⟩ := x
    cases need with
    | clock => exact ih hgoes.2 h
    | shelf => exact ih hgoes.2 h
    | keep issue =>
      obtain ⟨hissue, hlater⟩ := List.forall_mem_cons.mp h
      rw [@ih (shelf.keep issue) time hgoes hlater, hissue]
    | send request => exact @ih shelf time hgoes h

end Quiet

namespace Draws

variable {result : Sourced α}

/-- A stock still mirrors what was granted after a token was had. -/
theorem mirrors (h : Draws d asks key steps result)
    (hgoes : Goes shelf' time' shelf time steps)
    (hmirrors : Mirrors d granted (d.cache shelf) time) :
    Mirrors d (fun k g => granted k g ∨ k = key ∧ Granted asks steps g) (d.cache shelf') time' := by
  have hle := hgoes.le
  cases h with
  | served hfound =>
    obtain ⟨-, -, rfl, -⟩ := hgoes
    refine (hmirrors.later hle).congr fun k g => or_iff_left ?_
    exact fun hgranted => (@Quiet.nil α d asks).not_granted hgranted.2
  | failed hnone hquiet =>
    obtain ⟨-, -, hrest⟩ := hgoes
    rw [hquiet.goes hrest]
    refine (hmirrors.later hle).congr fun k g => or_iff_left ?_
    exact fun hgranted => hquiet.not_granted hgranted.2
  | @issued now kept before request outcome g hnone hquiet hasks hgrant =>
    obtain ⟨hnow, rfl, hrest⟩ := hgoes
    obtain ⟨shelf'', time'', hbefore, rfl, hafter⟩ := hrest.cut
    rw [d.keep_issue, hquiet.goes hbefore]
    have hinsert := (hmirrors.later hnow).insert g hnone
    refine (hinsert.later (UInt64.le_trans hbefore.le hafter)).congr fun k g' => ?_
    have hgranted : Granted asks (⟨.clock, now⟩ :: ⟨.shelf, kept⟩ ::
        (before ++ [⟨.send request, outcome⟩, ⟨.keep (d.issue key g now), ()⟩])) g' ↔ g' = g := by
      constructor
      · rintro ⟨sent, hsent, hasks', hgrant'⟩
        rw [sends_looks, sends_append] at hsent
        rcases List.mem_append.mp hsent with hsent | hsent
        · exact absurd ⟨sent, hsent, hasks', hgrant'⟩ hquiet.not_granted
        · obtain rfl := List.mem_singleton.mp hsent
          exact Option.some.inj (hgrant'.symm.trans hgrant)
      · rintro rfl
        refine ⟨(request, outcome), ?_, hasks, hgrant⟩
        rw [sends_looks, sends_append]
        exact List.mem_append_right _ List.mem_cons_self
    rw [hgranted]

end Draws

/-- What is done to a stock in the course of a question: nothing, or one token is had. -/
inductive Deals (d : Stock α) (asks : Web.Request → Prop) (key : String) : List Step → Prop
  | quiet {steps : List Step} (h : Quiet d asks steps) : Deals d asks key steps
  | draws {before drawn later : List Step} {result : Sourced α} (hbefore : Quiet d asks before)
    (h : Draws d asks key drawn result) (hlater : Quiet d asks later) :
    Deals d asks key (before ++ (drawn ++ later))

namespace Deals

theorem of_draws {result : Sourced α} (h : Draws d asks key steps result) :
    Deals d asks key steps := by
  have hdeals := Deals.draws Quiet.nil h Quiet.nil
  rwa [List.nil_append, List.append_nil] at hdeals

theorem append (h : Deals d asks key steps) (hquiet : Quiet d asks later) :
    Deals d asks key (steps ++ later) := by
  cases h with
  | quiet h => exact .quiet (h.append hquiet)
  | draws hbefore h hlater =>
    rw [List.append_assoc, List.append_assoc]
    exact .draws hbefore h (hlater.append hquiet)

theorem prepend (h : Deals d asks key steps) {before : List Step} (hquiet : Quiet d asks before) :
    Deals d asks key (before ++ steps) := by
  cases h with
  | quiet h => exact .quiet (hquiet.append h)
  | draws hbefore h hlater =>
    rw [← List.append_assoc]
    exact .draws (hquiet.append hbefore) h hlater

/-- A stock mirrors what was granted, and goes on to do so. -/
theorem mirrors (h : Deals d asks key steps) (hgoes : Goes shelf' time' shelf time steps)
    (hmirrors : Mirrors d granted (d.cache shelf) time) :
    Mirrors d (fun k g => granted k g ∨ k = key ∧ Granted asks steps g) (d.cache shelf') time' := by
  cases h with
  | quiet h =>
    rw [h.goes hgoes]
    exact (hmirrors.later hgoes.le).congr fun k g => or_iff_left fun hg => h.not_granted hg.2
  | @draws before drawn later result hbefore h hlater =>
    obtain ⟨shelf₁, time₁, hgoes₁, hrest⟩ := hgoes.cut
    obtain ⟨shelf₂, time₂, hgoes₂, hgoes₃⟩ := hrest.cut
    have hmirrors₁ : Mirrors d granted (d.cache shelf₁) time₁ := by
      rw [hbefore.goes hgoes₁]
      exact hmirrors.later hgoes₁.le
    rw [hlater.goes hgoes₃]
    refine ((h.mirrors hgoes₂ hmirrors₁).later hgoes₃.le).congr fun k g => ?_
    have hgranted : Granted asks (before ++ (drawn ++ later)) g ↔ Granted asks drawn g := by
      simp only [Granted, sends_append, List.mem_append, or_and_right, exists_or]
      exact (or_iff_right hbefore.not_granted).trans (or_iff_left hlater.not_granted)
    rw [hgranted]

end Deals

theorem quiet_send {request : Web.Request} {outcome : Web.Outcome}
    (h : asks request → grantOf? outcome = none) : Quiet d asks [⟨.send request, outcome⟩] :=
  ⟨List.forall_mem_nil _, List.forall_mem_singleton.mpr h⟩

theorem quiet_keep {issue : Issue} {u : Unit}
    (h : ∀ shelf : TokenShelf, d.cache (shelf.keep issue) = d.cache shelf) :
    Quiet d asks [⟨.keep issue, u⟩] :=
  ⟨List.forall_mem_singleton.mpr h, List.forall_mem_nil _⟩

theorem Quiet.looks (h : Quiet d asks steps) (now : Instant) (kept : TokenShelf) :
    Quiet d asks (⟨.clock, now⟩ :: ⟨.shelf, kept⟩ :: steps) := ⟨h.untouched, h.none_granted⟩

end

end Client

end PoolScaler
