import PoolScaler.Proofs.Pool.Scope
import PoolScaler.Proofs.Source.Margin
set_option autoImplicit false

/-!
# Keys of scopes

A token for registrations is kept under a key that spells out all the names of an identity,
one after the other, with a mark before each.  A name may itself contain a mark, so that one
key can be read in several ways.  The names that are free of the marks which could be taken
for the ones of the key are those whose key has one reading only.
-/

namespace PoolScaler

namespace Text

variable {c : Char} {w w' x y a b : List Char}

/-- A character that is not in a word comes after it. -/
theorem append_eq_append_cons (hw : c ∉ w) (h : w ++ y = x ++ c :: b) :
    ∃ z, x = w ++ z ∧ y = z ++ c :: b := by
  rcases List.append_eq_append_iff.mp h with ⟨z, hx, hy⟩ | ⟨z, hwz, hb⟩
  · exact ⟨z, hx, hy⟩
  · cases z with
    | nil => exact ⟨[], by simpa using hwz.symm, hb.symm⟩
    | cons d z =>
      obtain ⟨rfl, -⟩ := List.cons.inj hb
      exact absurd (hwz ▸ List.mem_append_right _ List.mem_cons_self) hw

/-- Of two marks in a text the second stands at the place of the first, or after all of it:
they cannot overlap because they begin with a character that they do not have again. -/
theorem mark_cases_of_le {k : List Char} (hw : c ∉ w) (ha : a = x ++ k)
    (hk : c :: (w ++ y) = k ++ c :: (w' ++ b)) :
    x = a ∧ w ++ y = w' ++ b ∨ ∃ z, a = x ++ c :: (w ++ z) ∧ y = z ++ c :: (w' ++ b) := by
  cases k with
  | nil => exact .inl ⟨by simpa using ha.symm, (List.cons.inj hk).2⟩
  | cons d k =>
    obtain ⟨rfl, hrest⟩ := List.cons.inj hk
    obtain ⟨z, rfl, hy⟩ := append_eq_append_cons hw hrest
    exact .inr ⟨z, ha, hy⟩

/-- Two readings of a text with a mark each: the marks stand at one place, or one of them
stands in what follows the other. -/
theorem mark_cases (hw : c ∉ w) (hw' : c ∉ w') (h : x ++ c :: (w ++ y) = a ++ c :: (w' ++ b)) :
    x = a ∧ w ++ y = w' ++ b ∨
      (∃ z, a = x ++ c :: (w ++ z) ∧ y = z ++ c :: (w' ++ b)) ∨
      ∃ z, x = a ++ c :: (w' ++ z) ∧ b = z ++ c :: (w ++ y) := by
  rcases List.append_eq_append_iff.mp h with ⟨k, ha, hk⟩ | ⟨k, hx, hk⟩
  · exact (mark_cases_of_le hw ha hk).imp_right .inl
  · rcases mark_cases_of_le hw' hx hk with ⟨hsame, hrest⟩ | hlater
    · exact .inl ⟨hsame.symm, hrest.symm⟩
    · exact .inr (.inr hlater)

end Text

namespace Identity

/-! ## Readings of a key -/

/-- No name has a mark that could be taken for the one that follows it or the one before
it. -/
structure Unmistakable (i : Identity) : Prop where
  organization : ¬ ",repo=".toList <:+: i.organization.toList
  repository : ¬ ",repo=".toList <:+: i.repository.toList
  repository_end : ¬ ",enterprise=".toList <:+: i.repository.toList
  enterprise : ¬ ",enterprise=".toList <:+: i.enterprise.toList

theorem toList_scopeKey (i : Identity) : i.scopeKey.toList =
    "org=".toList ++ (i.organization.toList ++ ',' :: ("repo=".toList ++
      (i.repository.toList ++ ',' :: ("enterprise=".toList ++ i.enterprise.toList)))) := by
  simp [scopeKey]

theorem infix_of_repo {x s t : List Char} (h : x = s ++ ',' :: ("repo=".toList ++ t)) :
    ",repo=".toList <:+: x := ⟨s, t, by simp [h]⟩

theorem infix_of_enterprise {x s t : List Char}
    (h : x = s ++ ',' :: ("enterprise=".toList ++ t)) : ",enterprise=".toList <:+: x :=
  ⟨s, t, by simp [h]⟩

/-- The key of unmistakable names is the key of no others. -/
theorem Unmistakable.sameNames {i j : Identity} (h : i.Unmistakable)
    (hkey : j.scopeKey = i.scopeKey) : j.SameNames i := by
  have hchars := congrArg String.toList hkey
  rw [toList_scopeKey, toList_scopeKey] at hchars
  have hrepo : ',' ∉ "repo=".toList := by decide
  have henterprise : ',' ∉ "enterprise=".toList := by decide
  rcases Text.mark_cases hrepo hrepo (List.append_cancel_left hchars) with
    ⟨horganization, hrest⟩ | ⟨z, horganization, -⟩ | ⟨z, -, hrest⟩
  · rcases Text.mark_cases henterprise henterprise (List.append_cancel_left hrest) with
      ⟨hrepository, hlast⟩ | ⟨z, hrepository, -⟩ | ⟨z, -, hlast⟩
    · exact ⟨String.toList_injective (List.append_cancel_left hlast),
        String.toList_injective horganization, String.toList_injective hrepository⟩
    · exact absurd (infix_of_enterprise hrepository) h.repository_end
    · exact absurd (infix_of_enterprise hlast) h.enterprise
  · exact absurd (infix_of_repo horganization) h.organization
  · rcases Text.mark_cases henterprise hrepo hrest with
      ⟨-, hlast⟩ | ⟨t, -, hlast⟩ | ⟨t, hrepository, -⟩
    · simp at hlast
    · have hmark : i.enterprise.toList = (t ++ ',' :: ("repo=".toList ++ j.repository.toList)) ++
          ',' :: ("enterprise=".toList ++ j.enterprise.toList) := by
        rw [hlast]
        simp
      exact absurd (infix_of_enterprise hmark) h.enterprise
    · exact absurd (infix_of_repo hrepository) h.repository

/-- Names that share their key with no others are unmistakable: a mark could be read as the
one of the key. -/
theorem unmistakable_of_sameNames {i : Identity}
    (h : ∀ j : Identity, j.scopeKey = i.scopeKey → j.SameNames i) : i.Unmistakable := by
  have hshort : ∀ {m text s t : List Char}, m ≠ [] → s ++ m ++ t = text → s ≠ text ∧ t ≠ text := by
    rintro m _ s t hm rfl
    have hpos := List.length_pos_of_ne_nil hm
    refine ⟨fun hs => ?_, fun ht => ?_⟩
    · have hlength := congrArg List.length hs
      simp only [List.length_append] at hlength
      omega
    · have hlength := congrArg List.length ht
      simp only [List.length_append] at hlength
      omega
  have hreading : ∀ o r e : List Char, "org=".toList ++ (o ++ ',' :: ("repo=".toList ++
      (r ++ ',' :: ("enterprise=".toList ++ e)))) = i.scopeKey.toList →
      o = i.organization.toList ∧ r = i.repository.toList ∧ e = i.enterprise.toList := by
    intro o r e hkey
    have hsame := h ⟨String.ofList e, String.ofList o, String.ofList r, i.poolName⟩
      (String.toList_injective (by simpa [toList_scopeKey] using hkey))
    rw [← hsame.organization, ← hsame.repository, ← hsame.enterprise]
    simp
  rw [toList_scopeKey] at hreading
  constructor
  · rintro ⟨s, t, hinfix⟩
    exact (hshort (by decide) hinfix).1 (hreading s (t ++ ",repo=".toList ++ i.repository.toList)
      i.enterprise.toList (by simp [← hinfix])).1
  · rintro ⟨s, t, hinfix⟩
    exact (hshort (by decide) hinfix).2 (hreading (i.organization.toList ++ ",repo=".toList ++ s) t
      i.enterprise.toList (by simp [← hinfix])).2.1
  · rintro ⟨s, t, hinfix⟩
    exact (hshort (by decide) hinfix).1 (hreading i.organization.toList s
      (t ++ ",enterprise=".toList ++ i.enterprise.toList) (by simp [← hinfix])).2.1
  · rintro ⟨s, t, hinfix⟩
    exact (hshort (by decide) hinfix).2 (hreading i.organization.toList
      (i.repository.toList ++ ",enterprise=".toList ++ s) t (by simp [← hinfix])).2.2

theorem unmistakable_iff {i : Identity} :
    i.Unmistakable ↔ ∀ j : Identity, j.scopeKey = i.scopeKey → j.SameNames i :=
  ⟨fun h _ => h.sameNames, unmistakable_of_sameNames⟩

end Identity

/-! ## Tokens of a key -/

namespace Client

theorem AsksForRegistration.congr {c : Client} {i j : Identity} {request : Web.Request}
    (hsame : i.SameNames j) (h : c.AsksForRegistration i request) :
    c.AsksForRegistration j request := by
  obtain ⟨scope, authorization, hscope, hasks⟩ := h
  exact ⟨scope, authorization, (Scope.ofIdentity_congr hsame).symm.trans hscope, hasks⟩

section

variable {σ : Type} {env : Surroundings ClientNeed.interface σ} {shelfOf : σ → TokenShelf}
  {timeOf : σ → Instant}

/-- What was granted under the key of unmistakable names was granted to a request for their
scope. -/
theorem granted_of_registered {c : Client} {course : List (TokenCall × List Step)}
    {identity : Identity} (hplain : identity.Unmistakable) {g : Grant}
    (h : c.registered course identity.scopeKey g) :
    ∃ entry ∈ course, entry.1.identity.SameNames identity ∧
      Granted (c.AsksForRegistration identity) entry.2 g := by
  obtain ⟨entry, hentry, hkey, sent, hsent, hasks, hgrant⟩ := h
  have hsame := hplain.sameNames hkey.symm
  exact ⟨entry, hentry, hsame, sent, hsent, hasks.congr hsame, hgrant⟩

/-- A token for registrations stays in its scope, if the names of the identity are
unmistakable: these are exactly the names whose key has one reading.  Identities with the
key of such names have the same scope, and whatever calls a client that starts with no
tokens has made for any identities, a token that it hands out was granted to a request for
this scope, now or in an earlier call for the same names. -/
theorem tokens_stay_in_scope (identity : Identity) :
    (identity.Unmistakable ↔
      ∀ j : Identity, j.scopeKey = identity.scopeKey → j.SameNames identity) ∧
    (identity.Unmistakable →
      (∀ j : Identity, j.scopeKey = identity.scopeKey →
        Scope.ofIdentity j = Scope.ofIdentity identity) ∧
      ∀ (c : Client) {σ : Type} (env : Surroundings ClientNeed.interface σ)
        (shelfOf : σ → TokenShelf) (timeOf : σ → Instant) (start : σ) (calls : List TokenCall)
        (token : RegistrationToken), Keeps env shelfOf timeOf → shelfOf start = .empty →
        let fetch := (c.registrationToken identity).run env (c.afterCalls env start calls)
        fetch.result = .ok token →
        ∃ g, registrations.value g = token ∧
          (Granted (c.AsksForRegistration identity) fetch.exchanges g ∨
            sends fetch.exchanges = [] ∧ ∃ entry ∈ c.course env start calls,
              entry.1.identity.SameNames identity ∧
                Granted (c.AsksForRegistration identity) entry.2 g)) := by
  refine ⟨Identity.unmistakable_iff, fun hplain => ⟨?_, ?_⟩⟩
  · exact fun j hkey => Scope.ofIdentity_congr (hplain.sameNames hkey)
  intro c σ env shelfOf timeOf start calls token hkeeps hempty fetch hresult
  have hmirrors := mirrors_registered c hkeeps hempty calls
  have hreuse := ((traces_registrationToken_draws c identity).run env
    (c.afterCalls env start calls)).1.reuse (hkeeps.goes _ _) hmirrors
    (run_registrationToken_looks c identity _)
  by_cases hsilent : sends fetch.exchanges = []
  · obtain ⟨g, hregistered, -, hvalue⟩ := (hreuse.served_iff token).mp ⟨hresult, hsilent⟩
    exact ⟨g, hvalue, .inr ⟨hsilent, granted_of_registered hplain hregistered⟩⟩
  · obtain ⟨g, hgranted, hvalue⟩ := hreuse.granted token hresult hsilent
    exact ⟨g, hvalue, .inl hgranted⟩

end

/-- The names of `acme` are unmistakable. -/
theorem unmistakable_acme : acme.Unmistakable := ⟨by decide, by decide, by decide, by decide⟩

theorem tokens_stay_in_scope_at_desk :
    Keeps atDesk Desk.shelf Desk.time ∧ desk.shelf = .empty ∧ acme.Unmistakable ∧
      ((deskClient.registrationToken acme).run atDesk stocked).result = .ok ⟨"reg-1", 3600⟩ ∧
      ∃ entry ∈ deskClient.course atDesk desk [.registration acme],
        entry.1.identity.SameNames acme ∧
          ∃ g, Granted (deskClient.AsksForRegistration acme) entry.2 g ∧
            registrations.value g = ⟨"reg-1", 3600⟩ := by
  have hempty : desk.shelf = .empty := rfl
  have hserved : ((deskClient.registrationToken acme).run atDesk stocked).result =
        .ok ⟨"reg-1", 3600⟩ ∧
      sends ((deskClient.registrationToken acme).run atDesk stocked).exchanges = [] := by
    decide +kernel
  obtain ⟨-, hstays⟩ := tokens_stay_in_scope acme
  obtain ⟨-, hgrants⟩ := hstays unmistakable_acme
  have hgranted := hgrants deskClient atDesk Desk.shelf Desk.time desk [.registration acme]
    ⟨"reg-1", 3600⟩ keeps_atDesk hempty
  rw [afterCalls_desk] at hgranted
  obtain ⟨g, hvalue, ⟨sent, hsent, -⟩ | ⟨-, entry, hentry, hsame, hearlier⟩⟩ := hgranted hserved.1
  · rw [hserved.2] at hsent
    cases hsent
  · exact ⟨keeps_atDesk, hempty, unmistakable_acme, hserved.1, entry, hentry, hsame, g, hearlier,
      hvalue⟩

/-- An organization whose name goes on as the key of `crossed` does. -/
def extended : Identity := ⟨"", "a,repo=,enterprise=", "", "p"⟩

/-- Two organizations that share a key, so that the one is handed the token of the other
without any request. -/
theorem token_leaves_scope :
    extended.scopeKey = crossed.scopeKey ∧
      Scope.ofIdentity crossed = .ok (.organization "a") ∧
      Scope.ofIdentity extended = .ok (.organization "a,repo=,enterprise=") ∧
      let later := deskClient.afterCalls atDesk desk [.registration crossed]
      let fetch := (deskClient.registrationToken extended).run atDesk later
      fetch.result = .ok ⟨"reg-1", 3600⟩ ∧ sends fetch.exchanges = [] := by
  decide +kernel

end Client

end PoolScaler
