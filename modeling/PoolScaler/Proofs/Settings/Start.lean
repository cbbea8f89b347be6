import PoolScaler.Daemon
set_option autoImplicit false

/-!
# What checked settings are good for

Checking settings asks for most of what the parts of a daemon ask for when they are
set up.  It asks less in two places: an owner that is named may have the empty name,
and an app counts as a way to show who asks whatever its numbers are.
-/

namespace PoolScaler.Settings

/-- Settings that pass the check. -/
structure Sound (s : Settings) : Prop where
  name : Text.blank s.pool.name = false
  image : Text.blank s.pool.image = false
  scope : ∃ scope, Scope.ofIdentity s.identity = .ok scope
  size : ∀ most, s.pool.maxReplicas = some most → s.pool.minReplicas ≤ most
  attempts : s.lease.createAttempts ≠ 0
  reconcile : ∃ cfg, s.reconcileConfig = .ok cfg
  ttl : ∃ ttl, s.reservationTtl = .ok ttl
  period : ∃ period, s.syncPeriod = .ok period
  delay : ∃ delay, span "session.create_retry_delay" s.lease.createRetryDelay = .ok delay
  credentials : s.hasCredentials = true

theorem bind_eq_ok_iff {α β : Type} {x : Except Fault α} {f : α → Except Fault β} {b : β} :
    x >>= f = .ok b ↔ ∃ a, x = .ok a ∧ f a = .ok b := by
  rcases x with fault | a
  · exact ⟨nofun, fun ⟨_, h, _⟩ => nomatch h⟩
  · constructor
    · exact fun h => ⟨a, rfl, h⟩
    · rintro ⟨_, ⟨⟩, h⟩
      exact h

theorem demand_eq_ok_iff {holds : Bool} {reason : String} :
    demand holds reason = .ok () ↔ holds = true := by
  cases holds
  · exact ⟨nofun, nofun⟩
  · exact ⟨fun _ => rfl, fun _ => rfl⟩

theorem checkSize_eq_ok_iff {p : Pool} :
    checkSize p = .ok () ↔ ∀ most, p.maxReplicas = some most → p.minReplicas ≤ most := by
  unfold checkSize
  cases p.maxReplicas with
  | none => exact ⟨fun _ => nofun, fun _ => rfl⟩
  | some most =>
    rw [demand_eq_ok_iff, decide_eq_true_iff]
    constructor
    · rintro h _ ⟨⟩
      exact h
    · exact fun h => h most rfl

theorem checkScope_eq_ok_iff {s : Settings} :
    s.checkScope = .ok () ↔ ∃ scope, Scope.ofIdentity s.identity = .ok scope := by
  unfold checkScope
  rcases Scope.ofIdentity s.identity with fault | scope
  · exact ⟨nofun, nofun⟩
  · exact ⟨fun _ => ⟨scope, rfl⟩, fun _ => rfl⟩

theorem check_bind_eq_ok_iff {β : Type} {x : Except Fault Unit} {f : Unit → Except Fault β}
    {b : β} : x >>= f = .ok b ↔ x = .ok () ∧ f () = .ok b :=
  bind_eq_ok_iff.trans ⟨fun ⟨(), h⟩ => h, fun h => ⟨(), h⟩⟩

/-- What the check asks for. -/
theorem validate_eq_ok_iff {s : Settings} : s.validate = .ok () ↔ s.Sound := by
  unfold validate
  simp only [check_bind_eq_ok_iff, bind_eq_ok_iff (x := s.reconcileConfig),
    bind_eq_ok_iff (x := s.reservationTtl), bind_eq_ok_iff (x := s.syncPeriod),
    bind_eq_ok_iff (x := span _ _), demand_eq_ok_iff, checkScope_eq_ok_iff, checkSize_eq_ok_iff,
    Bool.not_eq_true', decide_eq_true_iff]
  constructor
  · rintro ⟨hname, himage, hscope, hsize, hattempts, cfg, hcfg, ttl, httl, period, hperiod, delay,
      hdelay, hcredentials⟩
    exact ⟨hname, himage, hscope, hsize, hattempts, ⟨cfg, hcfg⟩, ⟨ttl, httl⟩, ⟨period, hperiod⟩,
      ⟨delay, hdelay⟩, hcredentials⟩
  · rintro ⟨hname, himage, hscope, hsize, hattempts, ⟨cfg, hcfg⟩, ⟨ttl, httl⟩, ⟨period, hperiod⟩,
      ⟨delay, hdelay⟩, hcredentials⟩
    exact ⟨hname, himage, hscope, hsize, hattempts, cfg, hcfg, ttl, httl, period, hperiod, delay,
      hdelay, hcredentials⟩

/-! ## Setting up the parts -/

/-- The settings name a way to show who asks that can be used: a name and a password, a
token, or an app with positive numbers. -/
def Credited (s : Settings) : Prop :=
  (∃ login, s.source.basicAuth = some login ∧ login.username ≠ "" ∧ login.password ≠ "") ∨
    (∃ token, s.source.token = some token ∧ token ≠ "") ∨
    ∃ app, s.source.app = some app ∧ 0 < app.appId ∧ 0 < app.installationId

/-- The file with the app's key can be read and is not empty, if there is an app. -/
def KeyReadable (s : Settings) (files : Files) : Prop :=
  ∀ app, s.source.app = some app → ∃ key, files app.privateKeyPath = some key ∧ key ≠ ""

/-- What the selection of a way to show who asks says when there is none. -/
def noCredentials : SourceFault :=
  .credentials "must provide a token, app credentials or basic auth"

/-- One of the credentials is selected exactly when one of them is complete, and else the
selection says that there is none. -/
theorem select_ok_iff (token : Option String) (auth : Option BasicAuth) (key : Option AppKey) :
    ((∃ c, Credentials.select token auth key = .ok c) ↔
      auth.any Credentials.basicComplete = true ∨ token.any (fun t => !t.isEmpty) = true ∨
        key.any Credentials.appComplete = true) ∧
    ∀ fault, Credentials.select token auth key = .error fault → fault = noCredentials := by
  unfold Credentials.select
  simp only [← Option.isSome_filter]
  cases auth.filter Credentials.basicComplete with
  | some auth => exact ⟨⟨fun _ => .inl rfl, fun _ => ⟨_, rfl⟩⟩, nofun⟩
  | none =>
    cases token.filter fun t => !t.isEmpty with
    | some token => exact ⟨⟨fun _ => .inr (.inl rfl), fun _ => ⟨_, rfl⟩⟩, nofun⟩
    | none =>
      cases key.filter Credentials.appComplete with
      | some key => exact ⟨⟨fun _ => .inr (.inr rfl), fun _ => ⟨_, rfl⟩⟩, nofun⟩
      | none =>
        refine ⟨⟨nofun, ?_⟩, fun fault h => (Except.error.inj h).symm⟩
        rintro (h | h | h) <;> cases h

theorem not_isEmpty_iff {text : String} : (!text.isEmpty) = true ↔ text ≠ "" := by
  rw [Bool.not_eq_true', ← Bool.not_eq_true, String.isEmpty_iff]

theorem basicComplete_iff {auth : BasicAuth} :
    Credentials.basicComplete auth = true ↔ auth.username ≠ "" ∧ auth.password ≠ "" := by
  unfold Credentials.basicComplete
  rw [Bool.and_eq_true, not_isEmpty_iff, not_isEmpty_iff]

theorem any_basicAuth_iff (s : Settings) : s.basicAuth.any Credentials.basicComplete = true ↔
    ∃ login, s.source.basicAuth = some login ∧ login.username ≠ "" ∧ login.password ≠ "" := by
  unfold basicAuth
  rw [Option.any_map, Option.any_eq_true]
  refine exists_congr fun login => and_congr_right fun _ => ?_
  exact basicComplete_iff

theorem any_token_iff (s : Settings) : s.source.token.any (fun t => !t.isEmpty) = true ↔
    ∃ token, s.source.token = some token ∧ token ≠ "" := by
  rw [Option.any_eq_true]
  exact exists_congr fun token => and_congr_right fun _ => not_isEmpty_iff

/-- An app whose key can be read and is not empty is complete when its numbers are
positive. -/
theorem any_appKey_iff {s : Settings} {files : Files} (hkey : s.KeyReadable files) :
    ∃ key?, s.appKey files = .ok key? ∧ (key?.any Credentials.appComplete = true ↔
      ∃ app, s.source.app = some app ∧ 0 < app.appId ∧ 0 < app.installationId) := by
  unfold appKey
  cases happ : s.source.app with
  | none => exact ⟨none, rfl, nofun, nofun⟩
  | some app =>
    obtain ⟨key, hread, hfull⟩ := hkey app happ
    refine ⟨some ⟨app.appId, app.installationId, key⟩, by dsimp only; rw [hread], ?_⟩
    rw [Option.any_some]
    unfold Credentials.appComplete
    rw [Bool.and_eq_true, Bool.and_eq_true, decide_eq_true_iff, decide_eq_true_iff,
      not_isEmpty_iff]
    constructor
    · rintro ⟨⟨hid, hplace⟩, -⟩
      exact ⟨app, rfl, hid, hplace⟩
    · rintro ⟨_, ⟨⟩, hid, hplace⟩
      exact ⟨⟨hid, hplace⟩, hfull⟩

/-- With the app's key at hand there are credentials exactly when the settings name some
that can be used. -/
theorem credentials_ok_iff {s : Settings} {files : Files} (hkey : s.KeyReadable files) :
    ((∃ c, s.credentials files = .ok c) ↔ s.Credited) ∧
      ∀ fault, s.credentials files = .error fault → fault = .source noCredentials := by
  obtain ⟨key?, happ, hcomplete⟩ := any_appKey_iff hkey
  obtain ⟨hok, herror⟩ := select_ok_iff s.source.token s.basicAuth key?
  rw [any_basicAuth_iff, any_token_iff, hcomplete] at hok
  unfold credentials Credited
  rw [happ, ← hok]
  dsimp only
  cases hselect : Credentials.select s.source.token s.basicAuth key? with
  | ok c => exact ⟨⟨fun _ => ⟨c, rfl⟩, fun _ => ⟨c, rfl⟩⟩, nofun⟩
  | error fault =>
    refine ⟨⟨nofun, nofun⟩, ?_⟩
    rintro _ ⟨⟩
    rw [herror fault hselect]

theorem isUnscoped_eq_false {i : Identity} {scope : Scope} (h : Scope.ofIdentity i = .ok scope) :
    i.isUnscoped = false := by
  refine Bool.eq_false_iff.mpr fun hunscoped => ?_
  unfold Identity.isUnscoped at hunscoped
  rw [Bool.and_eq_true, Bool.and_eq_true] at hunscoped
  obtain ⟨⟨henterprise, horganization⟩, hrepository⟩ := hunscoped
  unfold Scope.ofIdentity at h
  rw [henterprise, horganization, hrepository] at h
  cases h

theorem isEmpty_eq_false_of_blank {text : String} (h : Text.blank text = false) :
    text.isEmpty = false := by
  refine Bool.eq_false_iff.mpr fun hempty => ?_
  rw [String.isEmpty_iff] at hempty
  rw [hempty] at h
  cases h

/-- The owner of a session is the one that the settings name, or the machine. -/
theorem isEmpty_ownerName {owner : Option String} {machine : String} (hmachine : machine ≠ "") :
    (owner.getD machine).isEmpty = true ↔ owner = some "" := by
  rw [String.isEmpty_iff]
  cases owner with
  | none => exact ⟨fun h => absurd h hmachine, nofun⟩
  | some owner => exact ⟨congrArg some, Option.some.inj⟩

/-- The session of checked settings is set up, and the listener complains about it only
where the settings name an owner with the empty name. -/
theorem Sound.sessionConfig_ok {s : Settings} (h : s.Sound) {machine : String}
    (hmachine : machine ≠ "") : ∃ session, s.sessionConfig machine = .ok session ∧
      session.complaint? =
        if s.lease.ownerName = some "" then some "session owner name is empty" else none := by
  obtain ⟨delay, hdelay⟩ := h.delay
  obtain ⟨scope, hscope⟩ := h.scope
  unfold sessionConfig
  rw [hdelay]
  refine ⟨_, rfl, ?_⟩
  unfold SessionConfig.complaint?
  have hname : s.identity.poolName.isEmpty = false := isEmpty_eq_false_of_blank h.name
  simp only [hname, isUnscoped_eq_false hscope, isEmpty_ownerName hmachine, h.attempts,
    Bool.false_eq_true, if_false]

/-! ## Starting -/

/-- The client takes the name that the program gives itself. -/
theorem clientOf_ok (s : Settings) (c : Credentials) :
    Daemon.clientOf s c = .ok ⟨s.clientConfig, c⟩ := by
  have hagent : Web.isHeaderText s.clientConfig.userAgent = true := by
    change Web.isHeaderText userAgent = true
    decide
  unfold Daemon.clientOf Client.make?
  rw [hagent]
  rfl

/-- The parts of a daemon with checked settings are set up unless there are no credentials
or the owner of the session has no name, and these are reported in this order. -/
theorem Sound.parts_eq {s : Settings} (h : s.Sound) {machine : String} (hmachine : machine ≠ "")
    (files : Files) :
    (∀ fault, s.credentials files = .error fault →
      Daemon.parts s files machine = .error (.settings fault)) ∧
    ∀ c, s.credentials files = .ok c →
      (s.lease.ownerName = some "" →
        Daemon.parts s files machine = .error (.listener "session owner name is empty")) ∧
      (s.lease.ownerName ≠ some "" → ∃ p, Daemon.parts s files machine = .ok p) := by
  obtain ⟨cfg, hcfg⟩ := h.reconcile
  obtain ⟨ttl, httl⟩ := h.ttl
  obtain ⟨period, hperiod⟩ := h.period
  obtain ⟨session, hsession, hcomplaint⟩ := h.sessionConfig_ok hmachine
  unfold Daemon.parts
  refine ⟨fun fault hfault => ?_, fun c hc => ?_⟩
  · rw [hfault]
    rfl
  · have haccepted : Daemon.accepted session =
        if s.lease.ownerName = some "" then .error (.listener "session owner name is empty")
        else .ok session := by
      unfold Daemon.accepted
      rw [hcomplaint]
      by_cases howner : s.lease.ownerName = some ""
      · simp only [howner, if_true]
      · simp only [howner, if_false]
    rw [hc, hcfg, httl, hperiod, hsession]
    simp only [Daemon.lift, clientOf_ok, bind, Except.bind, haccepted]
    constructor
    · intro howner
      rw [if_pos howner]
    · intro howner
      rw [if_neg howner]
      exact ⟨_, rfl⟩

/-- Checked settings start.  The pool has a scope, and the keeper, the span of a
reservation, the period of the looks at the pool and the session are set up, whatever the
machine is called.  The listener accepts the session unless the settings name an owner
with the empty name; and with the key of an app at hand, if there is one, there are
credentials exactly when the settings name some that can be used.  A daemon fails to set
up its parts for these two reasons only. -/
theorem checked_settings_start {s : Settings} (hchecked : s.validate = .ok ()) {machine : String}
    (hmachine : machine ≠ "") (files : Files) :
    (∃ scope, Scope.ofIdentity s.identity = .ok scope) ∧
    (∃ cfg, s.reconcileConfig = .ok cfg) ∧
    (∃ ttl, s.reservationTtl = .ok ttl) ∧
    (∃ period, s.syncPeriod = .ok period) ∧
    (∃ session, s.sessionConfig machine = .ok session ∧
      session.complaint? =
        if s.lease.ownerName = some "" then some "session owner name is empty" else none) ∧
    (s.KeyReadable files →
      ((∃ c, s.credentials files = .ok c) ↔ s.Credited) ∧
      (¬ s.Credited →
        Daemon.parts s files machine = .error (.settings (.source noCredentials))) ∧
      (s.Credited → s.lease.ownerName = some "" →
        Daemon.parts s files machine = .error (.listener "session owner name is empty")) ∧
      (s.Credited → s.lease.ownerName ≠ some "" →
        ∃ p, Daemon.parts s files machine = .ok p)) := by
  have h := validate_eq_ok_iff.mp hchecked
  refine ⟨h.scope, h.reconcile, h.ttl, h.period, h.sessionConfig_ok hmachine, fun hkey => ?_⟩
  obtain ⟨hok, herror⟩ := credentials_ok_iff hkey
  obtain ⟨hrefused, hgranted⟩ := h.parts_eq hmachine files
  refine ⟨hok, fun hnone => ?_, fun hsome howner => ?_, fun hsome howner => ?_⟩
  · cases hcredentials : s.credentials files with
    | ok c => exact absurd (hok.mp ⟨c, hcredentials⟩) hnone
    | error fault =>
      rw [hrefused fault hcredentials, herror fault hcredentials]
  · obtain ⟨c, hc⟩ := hok.mpr hsome
    exact (hgranted c hc).1 howner
  · obtain ⟨c, hc⟩ := hok.mpr hsome
    exact (hgranted c hc).2 howner

/-- Settings for a pool of an organization that say nothing else but who asks and whose the
session is. -/
def acme (source : Source) (owner : Option String) : Settings :=
  ⟨source, ⟨"ci", "", "acme", "", 0, none, "runner:latest", .empty, .empty⟩, .usual,
    { Lease.usual with ownerName := owner }, .usual⟩

/-- The job source, asked with a token. -/
def tokenSource : Source := ⟨"https://github.com", none, some "t", none, none⟩

/-- The job source, asked as an app that has no numbers yet. -/
def numberlessSource : Source := ⟨"https://github.com", none, none, some ⟨0, 0, "app.pem"⟩, none⟩

theorem checked_settings_start_acme :
    (acme tokenSource none).validate = .ok () ∧ "host-1" ≠ "" ∧
      (acme tokenSource none).KeyReadable (fun _ => none) ∧
      ∃ p, Daemon.parts (acme tokenSource none) (fun _ => none) "host-1" = .ok p := by
  have hchecked : (acme tokenSource none).validate = .ok () := rfl
  have hmachine : "host-1" ≠ "" := by decide
  have hkey : (acme tokenSource none).KeyReadable fun _ => none := nofun
  have hcredited : (acme tokenSource none).Credited := .inr (.inl ⟨"t", rfl, by decide⟩)
  obtain ⟨-, -, -, -, -, hstart⟩ :=
    checked_settings_start hchecked hmachine fun _ => none
  exact ⟨hchecked, hmachine, hkey, (hstart hkey).2.2.2 hcredited nofun⟩

/-- The two ways in which checked settings do not start. -/
theorem checked_settings_that_fail :
    ((acme tokenSource (some "")).validate = .ok () ∧
      (acme tokenSource (some "")).KeyReadable (fun _ => none) ∧
      ∃ session, (acme tokenSource (some "")).sessionConfig "host-1" = .ok session ∧
        session.complaint? = some "session owner name is empty") ∧
    ((acme numberlessSource none).validate = .ok () ∧
      (acme numberlessSource none).KeyReadable (fun _ => some "key") ∧
      (acme numberlessSource none).credentials (fun _ => some "key") =
        .error (.source noCredentials)) := by
  refine ⟨⟨rfl, nofun, _, rfl, rfl⟩, rfl, ?_, rfl⟩
  rintro _ ⟨⟩
  exact ⟨"key", rfl, by decide⟩

end PoolScaler.Settings
