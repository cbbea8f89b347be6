import PoolScaler.Proofs.Settings.Start
set_option autoImplicit false

/-!
# Which way to show who asks

Settings may name several ways to show who asks.  A name with its password counts more
than a token and a token more than an app, and a way that lacks a part counts as not
there.  What counts less than the way that is picked makes no difference to what comes
out, with one exception: the file of an app's key is read before anything is picked, so
an app that nobody needs can still spoil the outcome.
-/

namespace PoolScaler.Settings

/-- The way to show who asks that counts most, where that is a name with its password or
a token.  A token counts most where no name comes with its password. -/
inductive Source.Prefers (source : Source) : Credentials → Prop where
  | login (login : Login) : source.basicAuth = some login → login.username ≠ "" →
      login.password ≠ "" → source.Prefers (.basic ⟨login.username, login.password⟩)
  | token (token : String) :
      (∀ login, source.basicAuth = some login → login.username = "" ∨ login.password = "") →
      source.token = some token → token ≠ "" → source.Prefers (.token token)

/-- Two sources name the same ways to show who asks, down to the given one; those that
count less, and everything else, may differ. -/
def Source.AgreesDownTo (source other : Source) : Credentials → Prop
  | .basic _ => other.basicAuth = source.basicAuth
  | .token _ => other.basicAuth = source.basicAuth ∧ other.token = source.token
  | .app _ =>
    other.basicAuth = source.basicAuth ∧ other.token = source.token ∧ other.app = source.app

/-- The settings name an app, and the file with its key cannot be read. -/
def KeyLost (s : Settings) (files : Files) : Prop :=
  ∃ app, s.source.app = some app ∧ files app.privateKeyPath = none

variable {s t : Settings} {files : Files} {c : Credentials}

/-- What counts most is settled by what counts at least as much. -/
theorem Source.Prefers.of_agrees {source other : Source} (h : source.Prefers c)
    (hsame : source.AgreesDownTo other c) : other.Prefers c := by
  cases h with
  | login login hlogin hname hpassword => exact .login login (hsame.trans hlogin) hname hpassword
  | token token hnone htoken hfull =>
    obtain ⟨hbasic, hsame⟩ := hsame
    exact .token token (hbasic ▸ hnone) (hsame.trans htoken) hfull

/-- A name or a password that is empty is no way to show who asks. -/
theorem basicAuth_filter_eq_none
    (h : ∀ login, s.source.basicAuth = some login → login.username = "" ∨ login.password = "") :
    s.basicAuth.filter Credentials.basicComplete = none := by
  rw [Option.filter_eq_none_iff]
  intro auth hauth hcomplete
  have hany : s.basicAuth.any Credentials.basicComplete = true := by
    rw [hauth, Option.any_some, hcomplete]
  obtain ⟨login, hlogin, hname, hpassword⟩ := (any_basicAuth_iff s).mp hany
  exact (h login hlogin).elim hname hpassword

/-- The way that counts most is picked, whatever the key of an app is. -/
theorem Source.Prefers.select_eq (h : s.source.Prefers c) (key? : Option AppKey) :
    Credentials.select s.source.token s.basicAuth key? = .ok c := by
  unfold Credentials.select
  cases h with
  | login login hlogin hname hpassword =>
    have hcomplete : Credentials.basicComplete ⟨login.username, login.password⟩ = true :=
      basicComplete_iff.mpr ⟨hname, hpassword⟩
    have hauth : s.basicAuth = some ⟨login.username, login.password⟩ := by
      unfold Settings.basicAuth
      rw [hlogin, Option.map_some]
    rw [hauth, Option.filter_some_pos hcomplete]
  | token token hnone htoken hfull =>
    have htaken : (some token).filter (fun t => !t.isEmpty) = some token :=
      Option.filter_some_pos (not_isEmpty_iff.mpr hfull)
    rw [basicAuth_filter_eq_none hnone, htoken, htaken]

/-- Getting hold of the key of an app fails exactly where its file cannot be read, and
names that file. -/
theorem appKey_eq_error_iff {fault : Fault} : s.appKey files = .error fault ↔
    ∃ app, s.source.app = some app ∧ files app.privateKeyPath = none ∧
      fault = .read app.privateKeyPath := by
  unfold appKey
  cases s.source.app with
  | none => exact ⟨nofun, nofun⟩
  | some app =>
    dsimp only
    cases hfile : files app.privateKeyPath with
    | some key =>
      refine ⟨nofun, ?_⟩
      rintro ⟨_, ⟨⟩, hlost, -⟩
      cases hfile.symm.trans hlost
    | none =>
      constructor
      · rintro ⟨⟩
        exact ⟨app, rfl, hfile, rfl⟩
      · rintro ⟨_, ⟨⟩, -, rfl⟩
        rfl

theorem keyLost_iff : s.KeyLost files ↔ ∃ fault, s.appKey files = .error fault := by
  simp only [appKey_eq_error_iff]
  constructor
  · rintro ⟨app, happ, hlost⟩
    exact ⟨_, app, happ, hlost, rfl⟩
  · rintro ⟨_, app, happ, hlost, -⟩
    exact ⟨app, happ, hlost⟩

/-- What counts less than the way to show who asks that counts most matters only through
the file of an app's key.  However the settings are changed below that way, and whatever
the files hold, the same way is picked if and only if they name no app whose file cannot
be read; and the one fault there can be says that this file cannot be read. -/
theorem outranked_credentials_matter_iff (h : s.source.Prefers c)
    (hsame : s.source.AgreesDownTo t.source c) (files : Files) :
    (t.credentials files = .ok c ↔ ¬ t.KeyLost files) ∧
      ∀ fault, t.credentials files = .error fault ↔
        ∃ app, t.source.app = some app ∧ files app.privateKeyPath = none ∧
          fault = .read app.privateKeyPath := by
  have hselect := (h.of_agrees hsame).select_eq
  rw [keyLost_iff]
  simp only [← appKey_eq_error_iff]
  unfold credentials
  cases t.appKey files with
  | error fault =>
    refine ⟨⟨nofun, fun hkept => absurd ⟨fault, rfl⟩ hkept⟩, fun told => ?_⟩
    simp only [Except.error.injEq]
  | ok key? =>
    dsimp only
    rw [hselect key?]
    exact ⟨⟨fun _ => nofun, fun _ => rfl⟩, fun _ => ⟨nofun, nofun⟩⟩

/-- The job source, asked with a token, and an app with its key in a file. -/
def tokenAndAppSource : Source :=
  ⟨"https://github.com", none, some "t", some ⟨1, 2, "missing.pem"⟩, none⟩

/-- An app beside a token changes nothing while its file can be read, even if the file is
empty. -/
theorem outranked_credentials_matter_iff_empty_key :
    tokenSource.Prefers (.token "t") ∧
      tokenSource.AgreesDownTo tokenAndAppSource (.token "t") ∧
      (acme tokenAndAppSource none).credentials (fun _ => some "") = .ok (.token "t") := by
  have hprefers : tokenSource.Prefers (.token "t") := .token "t" nofun rfl (by decide)
  have hsame : tokenSource.AgreesDownTo tokenAndAppSource (.token "t") := ⟨rfl, rfl⟩
  have hread : ¬ (acme tokenAndAppSource none).KeyLost fun _ => some "" := nofun
  exact ⟨hprefers, hsame, (outranked_credentials_matter_iff (s := acme tokenSource none)
    (t := acme tokenAndAppSource none) hprefers hsame fun _ => some "").1.mpr hread⟩

/-- A token that is picked without an app is not picked with one whose file is missing. -/
theorem token_lost_with_unused_key :
    (acme tokenSource none).credentials (fun _ => none) = .ok (.token "t") ∧
      tokenAndAppSource.Prefers (.token "t") ∧
      (acme tokenAndAppSource none).credentials (fun _ => none) = .error (.read "missing.pem") :=
  ⟨rfl, .token "t" nofun rfl (by decide), rfl⟩

end PoolScaler.Settings
