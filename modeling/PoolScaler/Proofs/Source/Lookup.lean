import Mathlib.Data.List.DropRight
import PoolScaler.Proofs.Json.Faithful
import PoolScaler.Proofs.Source.Listing
set_option autoImplicit false

/-!
# Looking for a runner in a listing

A source serves the runners of a scope in pages.  To look for a runner page by page is
to look it up in the whole listing: the first entry with the name counts, on whatever
page it stands, and the pages are asked for in order, up to the one with that entry or
the last.
-/

namespace PoolScaler.Client

open Dialogue (run_andThen_ok)

/-! ## Pages -/

/-- A page of a listing; pages are counted from one on. -/
def pageOf (runners : List RunnerEntry) (page : Nat) : RunnerPage :=
  ⟨(runners.drop (pageSize * (page - 1))).take pageSize⟩

/-- What a listing tells of a name. -/
def lookUp (runners : List RunnerEntry) (name : String) : Sourced RunnerStatus :=
  match runners.find? (·.name == name) with
  | some entry => statusOf name entry
  | none => .error (.runnerNotFound name)

section

variable {α : Type} {p : α → Bool} {items : List α} {n : Nat}

/-- What is found at the front of a list is what is found in the list. -/
theorem find?_of_take {a : α} (h : (items.take n).find? p = some a) :
    items.find? p = some a ∧ items.findIdx p < n := by
  have hsplit := List.take_append_drop n items
  constructor
  · rw [← hsplit, List.find?_append, h, Option.some_or]
  · have hlt : (items.take n).findIdx p < (items.take n).length :=
      List.findIdx_lt_length_of_exists ⟨a, List.mem_of_find?_eq_some h, List.find?_some h⟩
    rw [← hsplit, List.findIdx_append, if_pos hlt]
    exact hlt.trans_le (List.length_take_le n items)

/-- What is not found at the front of a list is looked for in the rest. -/
theorem find?_drop (h : (items.take n).find? p = none) (hn : n ≤ items.length) :
    items.find? p = (items.drop n).find? p ∧
      items.findIdx p = (items.drop n).findIdx p + n := by
  have hsplit := List.take_append_drop n items
  have hfront : (items.take n).findIdx p = (items.take n).length :=
    List.findIdx_eq_length.mpr fun a ha => Bool.eq_false_iff.mpr (List.find?_eq_none.mp h a ha)
  constructor
  · conv_lhs => rw [← hsplit, List.find?_append, h, Option.none_or]
  · have hlength : (items.take n).length = n := by rw [List.length_take, Nat.min_eq_left hn]
    conv_lhs => rw [← hsplit, List.findIdx_append, if_neg (hfront ▸ Nat.lt_irrefl _), hlength]

end

/-! ## A source that serves a listing -/

theorem checkedDecode_of_pageOf? {outcome : Web.Outcome} {page : RunnerPage}
    (h : pageOf? outcome = some page) :
    ∃ r, outcome = .response r ∧ Api.checkedDecode RunnerPage.fields r = .ok page := by
  cases outcome with
  | broken timedOut => cases h
  | response r =>
    refine ⟨r, rfl, ?_⟩
    simp only [pageOf?, Option.ite_none_right_eq_some, Bool.and_eq_true] at h
    obtain ⟨⟨hsuccess, hcomplete⟩, hbody⟩ := h
    cases hlisted : Json.decodeBytes RunnerPage.fields.read r.body with
    | error e =>
      rw [hlisted] at hbody
      cases hbody
    | ok listed =>
      rw [hlisted] at hbody
      obtain rfl := Option.some.inj hbody
      simp [Api.checkedDecode, Api.check, Api.decode, hsuccess, hcomplete, hlisted]

variable {σ : Type}

/-- The surroundings serve a listing of the runners of a scope to a client: it gets the
authorization to ask for each page that the listing takes, and each request for a page is
answered with the page. -/
structure Serves (c : Client) (scope : Scope) (runners : List RunnerEntry)
    (env : Surroundings ClientNeed.interface σ) : Prop where
  authorized : ∀ s, ∃ authorization, (c.authorization.run env s).result = .ok authorization ∧
    ∀ page, 1 ≤ page → page ≤ runners.length / pageSize + 1 →
      ((c.pageDraft scope page authorization).request? c.config.userAgent
        c.config.requestTimeout).isSome
  served : ∀ s page request, 1 ≤ page → page ≤ runners.length / pageSize + 1 →
    c.AsksForPage scope page request → pageOf? (env s (.send request)).1 =
      some (pageOf runners page)

section

variable {c : Client} {scope : Scope} {runners : List RunnerEntry} {name : String}
  {env : Surroundings ClientNeed.interface σ}

/-- A request that can be sent is sent, and ends as the surroundings have it. -/
theorem run_send_response {d : Web.Draft} {request : Web.Request} {r : Web.Response} {s : σ}
    (h : d.request? c.config.userAgent c.config.requestTimeout = some request)
    (hr : (env s (.send request)).1 = .response r) :
    ((c.send d).run env s).result = .ok r := by
  unfold send exchange
  rw [h]
  simp only [Dialogue.run, hr]

/-- A page that the listing takes is got by one request. -/
theorem Serves.run_runnerPage (h : Serves c scope runners env) (s : σ) {page : Nat}
    (hfirst : 1 ≤ page) (hlast : page ≤ runners.length / pageSize + 1) :
    ((c.runnerPage scope page).run env s).result = .ok (pageOf runners page) ∧
      ∃ look, looks ((c.runnerPage scope page).run env s).exchanges = [look] ∧
        c.AsksForPage scope page look.1 := by
  obtain ⟨authorization, hauthorization, hsendable⟩ := h.authorized s
  obtain ⟨request, hrequest⟩ := Option.isSome_iff_exists.mp (hsendable page hfirst hlast)
  obtain ⟨r, hr, hdecoded⟩ := checkedDecode_of_pageOf?
    (h.served (c.authorization.run env s).state page request hfirst hlast
      ⟨authorization, hrequest⟩)
  have hresult : ((c.runnerPage scope page).run env s).result = .ok (pageOf runners page) := by
    rw [runnerPage_eq, run_andThen_ok hauthorization,
      run_andThen_ok (run_send_response hrequest hr)]
    exact hdecoded
  obtain ⟨look, hlooks, hasks, -⟩ :=
    ((traces_runnerPage c scope page).run env s).1 _ hresult
  exact ⟨hresult, look, hlooks, hasks⟩

/-- A search from a page on asks for the pages in order, up to the one with the first entry
of the name or the last, and tells what the rest of the listing does. -/
theorem Serves.run_findRunner (h : Serves c scope runners env) (name : String) (limit : Nat)
    (s : σ) {before : Nat} {rest : List RunnerEntry}
    (hrest : runners.drop (pageSize * before) = rest) (hbefore : pageSize * before ≤ runners.length)
    (hlimit : rest.findIdx (·.name == name) / pageSize < limit) :
    ((c.findRunner scope name (before + 1) limit).run env s).result = lookUp rest name ∧
      List.Forall₂ (fun look page => c.AsksForPage scope page look.1)
        (looks ((c.findRunner scope name (before + 1) limit).run env s).exchanges)
        (List.range' (before + 1) (rest.findIdx (·.name == name) / pageSize + 1)) := by
  induction limit generalizing before rest s with
  | zero => exact absurd hlimit (Nat.not_lt_zero _)
  | succ limit ih =>
    have hlast : before + 1 ≤ runners.length / pageSize + 1 :=
      Nat.succ_le_succ ((Nat.le_div_iff_mul_le (by decide)).mpr (Nat.mul_comm _ _ ▸ hbefore))
    have hlisted : pageOf runners (before + 1) = ⟨rest.take pageSize⟩ := by
      rw [← hrest]
      rfl
    obtain ⟨hpage, look, hlooks, hasks⟩ := h.run_runnerPage s (Nat.le_add_left 1 before) hlast
    rw [hlisted] at hpage
    rw [findRunner, run_andThen_ok hpage]
    dsimp only
    rw [looks_append, hlooks]
    cases hfind : (rest.take pageSize).find? (·.name == name) with
    | some entry =>
      -- The first entry of the name is on this page.
      obtain ⟨hentry, hplace⟩ := find?_of_take hfind
      rw [lookUp, hentry, Nat.div_eq_of_lt hplace]
      exact ⟨rfl, .cons hasks .nil⟩
    | none =>
      dsimp only
      by_cases hshort : rest.length < pageSize
      · -- This page is the last.
        rw [List.take_of_length_le (Nat.le_of_lt hshort)] at hfind ⊢
        have hplace : rest.findIdx (·.name == name) < pageSize :=
          Nat.lt_of_le_of_lt List.findIdx_le_length hshort
        rw [if_pos hshort, lookUp, hfind, Nat.div_eq_of_lt hplace]
        exact ⟨rfl, .cons hasks .nil⟩
      · have hfull : pageSize ≤ rest.length := Nat.le_of_not_lt hshort
        obtain ⟨hentry, hplace⟩ := find?_drop hfind hfull
        have hnext : runners.drop (pageSize * (before + 1)) = rest.drop pageSize := by
          rw [← hrest, List.drop_drop, Nat.mul_succ]
        have hwithin : pageSize * (before + 1) ≤ runners.length := by
          rw [← hrest, List.length_drop] at hfull
          rw [Nat.mul_succ]
          omega
        have hpages : rest.findIdx (·.name == name) / pageSize =
            (rest.drop pageSize).findIdx (·.name == name) / pageSize + 1 := by
          rw [hplace, Nat.add_div_right _ (by decide : 0 < pageSize)]
        have hlength : ¬ (rest.take pageSize).length < pageSize := by
          rw [List.length_take, Nat.min_eq_left hfull]
          exact Nat.lt_irrefl _
        obtain ⟨hresult, hrequests⟩ := ih ((c.runnerPage scope (before + 1)).run env s).state
          hnext hwithin (by omega)
        rw [if_neg hlength, hpages, lookUp, hentry]
        exact ⟨hresult, .cons hasks hrequests⟩

/-- What a client did and said to find a runner in a listing. -/
structure Finds (c : Client) (scope : Scope) (runners : List RunnerEntry) (name : String)
    (steps : List Step) (result : Sourced RunnerStatus) : Prop where
  /-- The pages were asked for in order, from the first on. -/
  inOrder : List.Forall₂ (fun look page => c.AsksForPage scope page look.1) (looks steps)
    (List.range' 1 (looks steps).length)
  /-- The first entry with the name is what counts, and its page is the last that was asked
  for. -/
  found : ∀ before entry after, runners = before ++ entry :: after → entry.name = name →
    (∀ other ∈ before, other.name ≠ name) →
      (looks steps).length = before.length / pageSize + 1 ∧
        result = if entry.status = "offline" then .error (.runnerOffline name entry.busy)
          else .ok ⟨entry.busy⟩
  /-- Without such an entry all pages were asked for, the last of which is not full. -/
  absent : (∀ entry ∈ runners, entry.name ≠ name) →
    (looks steps).length = runners.length / pageSize + 1
  notFound_iff : result = .error (.runnerNotFound name) ↔ ∀ entry ∈ runners, entry.name ≠ name

theorem strangers_iff :
    runners.find? (·.name == name) = none ↔ ∀ entry ∈ runners, entry.name ≠ name := by
  simp only [List.find?_eq_none, beq_iff_eq, ne_eq]

theorem findIdx_of_strangers (h : ∀ entry ∈ runners, entry.name ≠ name) :
    runners.findIdx (·.name == name) = runners.length :=
  List.findIdx_eq_length.mpr fun entry hentry => beq_eq_false_iff_ne.mpr (h entry hentry)

/-- The first entry with a name is found, at its place. -/
theorem find?_first {before : List RunnerEntry} {entry : RunnerEntry} (after : List RunnerEntry)
    (hentry : entry.name = name) (hbefore : ∀ other ∈ before, other.name ≠ name) :
    (before ++ entry :: after).find? (·.name == name) = some entry ∧
      (before ++ entry :: after).findIdx (·.name == name) = before.length := by
  have hname : (entry.name == name) = true := beq_iff_eq.mpr hentry
  constructor
  · rw [List.find?_append, strangers_iff.mpr hbefore, Option.none_or, List.find?_cons, hname]
  · rw [List.findIdx_append, findIdx_of_strangers hbefore, if_neg (Nat.lt_irrefl _),
      List.findIdx_cons, hname, cond_true, Nat.zero_add]

/-- A listing says that a runner is not there exactly where no entry has its name. -/
theorem lookUp_eq_notFound_iff :
    lookUp runners name = .error (.runnerNotFound name) ↔
      ∀ entry ∈ runners, entry.name ≠ name := by
  rw [← strangers_iff, lookUp]
  cases runners.find? (·.name == name) with
  | none => exact ⟨fun _ => rfl, fun _ => rfl⟩
  | some entry =>
    refine ⟨fun h => ?_, nofun⟩
    exact absurd rfl (ne_notFound_of_statusOf h)

/-- To look for a runner page by page is to look it up in the whole listing: it asks for
the pages in order, up to the one with the first entry of the name or the last, and
answers for that entry.  The listing may be of any length and name runners more than once,
as long as the number of the page on which the search ends fits a word. -/
theorem runnerStatus_finds {identity : Identity} (hscope : Scope.ofIdentity identity = .ok scope)
    (hserves : Serves c scope runners env)
    (hpages : runners.findIdx (·.name == name) / pageSize < pageLimit) (s : σ) :
    let out := (c.runnerStatus identity name).run env s
    Finds c scope runners name out.exchanges out.result := by
  intro out
  have hout : out = (c.findRunner scope name 1 pageLimit).run env s := by
    change (c.runnerStatus identity name).run env s = _
    unfold runnerStatus
    rw [hscope]
    rfl
  have hstart : runners.drop (pageSize * 0) = runners := rfl
  obtain ⟨hresult, hrequests⟩ :=
    hserves.run_findRunner name pageLimit s hstart (Nat.zero_le _) hpages
  rw [Nat.zero_add, ← hout] at hresult hrequests
  have hlength : (looks out.exchanges).length =
      runners.findIdx (·.name == name) / pageSize + 1 := by
    rw [hrequests.length_eq, List.length_range']
  rw [← hlength] at hrequests
  refine ⟨hrequests, ?_, fun hnone => ?_, ?_⟩
  · rintro before entry after rfl hentry hbefore
    obtain ⟨hfind, hplace⟩ := find?_first after hentry hbefore
    rw [hlength, hplace, hresult, lookUp, hfind]
    exact ⟨rfl, rfl⟩
  · rw [hlength, findIdx_of_strangers hnone]
  · rw [hresult]
    exact lookUp_eq_notFound_iff

end

end PoolScaler.Client

/-! ## A listing in writing -/

namespace PoolScaler

open Json.Fields (stores_required stores_defaulted)

/-- A listed runner as it is written. -/
def RunnerEntry.toJson (e : RunnerEntry) : Json :=
  .object [("name", .str e.name), ("status", .str e.status), ("busy", .bool e.busy)]

/-- A page of runners as it is written. -/
def RunnerPage.toJson (p : RunnerPage) : Json :=
  .object [("runners", .list (p.runners.map RunnerEntry.toJson))]

theorem RunnerEntry.plain_toJson (e : RunnerEntry) : e.toJson.Plain := by
  refine .object ?_
  simp only [List.forall_mem_cons]
  exact ⟨.str _, .str _, .bool _, nofun⟩

theorem RunnerEntry.read_toJson (e : RunnerEntry) : RunnerEntry.fields.read e.toJson = .ok e :=
  (((stores_required "name" (asText_str e.name)).map RunnerEntry.mk).ap
    (stores_defaulted "status" "" (asText_str e.status))).ap
    (stores_defaulted "busy" false rfl) |>.read (by decide)

theorem RunnerPage.plain_toJson (p : RunnerPage) : p.toJson.Plain := by
  refine .object ?_
  simp only [List.forall_mem_cons]
  exact ⟨Json.plain_list_map RunnerEntry.plain_toJson _, nofun⟩

theorem RunnerPage.read_toJson (p : RunnerPage) : RunnerPage.fields.read p.toJson = .ok p :=
  (stores_defaulted "runners" [] (Json.asList_map RunnerEntry.read_toJson p.runners)).map
    RunnerPage.mk |>.read (by decide)

namespace Client

/-- A page in the body of a response. -/
def written (page : RunnerPage) : Web.Response :=
  ⟨200, [], Text.Utf8.encode page.toJson.render, true⟩

theorem pageOf?_written (page : RunnerPage) : pageOf? (.response (written page)) = some page := by
  have hbody : Json.decodeBytes RunnerPage.fields.read (written page).body = .ok page := by
    rw [written, Json.decodeBytes_encode, Json.decodeText_render _ page.plain_toJson,
      page.read_toJson]
  simp only [pageOf?, hbody]
  rfl

/-- The number at the end of the query of a request. -/
def numberOf (request : Web.Request) : Nat :=
  Text.digitsValue ((request.url.query.getD "").toList.rtakeWhile Text.isDigit)

theorem rtakeWhile_of_stop {α : Type} {p : α → Bool} {stop : α} {items : List α}
    (hstop : p stop = false) (hitems : ∀ a ∈ items, p a = true) (front : List α) :
    (front ++ stop :: items).rtakeWhile p = items := by
  have hall : ∀ a ∈ items.reverse, p a = true := fun a ha => hitems a (List.mem_reverse.mp ha)
  rw [List.rtakeWhile, List.reverse_append, List.reverse_cons, List.append_assoc,
    List.takeWhile_append_of_pos hall, List.singleton_append, List.takeWhile_cons, hstop,
    if_neg Bool.false_ne_true, List.append_nil, List.reverse_reverse]

/-- Digits stand for themselves in a query. -/
theorem formChar_digit {d : Char} (hd : Text.isDigit d = true) : Web.formChar d = [d] := by
  have halphanum : d.isAlphanum = true := by
    have hdigit : d.isDigit = true := by simpa [Text.isDigit, Char.isDigit, Char.le_def] using hd
    rw [Char.isAlphanum, hdigit, Bool.or_true]
  have hbounds : '0' ≤ d ∧ d ≤ '9' := by simpa [Text.isDigit] using hd
  have hascii : d.toNat < 0x80 := Nat.lt_of_le_of_lt hbounds.2 (by decide)
  have hblank : d ≠ ' ' := by
    rintro rfl
    cases hd
  unfold Web.formChar
  rw [if_neg hblank, halphanum, decide_eq_true hascii, Bool.true_or, Bool.true_and, if_pos rfl]

theorem formChars_numeral (n : Nat) :
    (toString n).toList.flatMap Web.formChar = Nat.toDigits 10 n := by
  have hdigits : (toString n).toList = Nat.toDigits 10 n := Nat.toList_repr
  rw [hdigits, List.flatMap_congr fun d hd => formChar_digit (Text.isDigit_of_mem_toDigits hd)]
  exact List.flatMap_singleton' _

/-- What is added to an address is at the end of its query. -/
theorem withQuery_query (u : Web.Url) (pairs : List (String × String)) :
    ∃ front, (u.withQuery pairs).query = some (front ++ String.ofList (Web.formPairs pairs)) := by
  unfold Web.Url.withQuery
  dsimp only
  split
  · exact ⟨"", by rw [String.empty_append]⟩
  · exact ⟨"", by rw [String.empty_append]⟩
  · rename_i query _ _
    exact ⟨query ++ "&", rfl⟩

/-- A request for a page ends with its number. -/
theorem numberOf_of_asksForPage {c : Client} {scope : Scope} {page : Nat} {request : Web.Request}
    (h : c.AsksForPage scope page request) : numberOf request = page := by
  obtain ⟨authorization, hrequest⟩ := h
  obtain ⟨-, -, -, url, hurl⟩ := request?_parts hrequest
  have hquery : (c.pageDraft scope page authorization).query =
      [("per_page", toString pageSize), ("page", toString page)] := by
    unfold pageDraft
    rfl
  rw [hquery, List.isEmpty_cons, if_neg Bool.false_ne_true] at hurl
  obtain ⟨front, hfront⟩ :=
    withQuery_query url [("per_page", toString pageSize), ("page", toString page)]
  have hpairs : Web.formPairs [("per_page", toString pageSize), ("page", toString page)] =
      (Web.formPair ("per_page", toString pageSize) ++ '&' :: "page".toList.flatMap Web.formChar) ++
        '=' :: Nat.toDigits 10 page := by
    simp only [Web.formPairs, List.map_cons, List.map_nil, List.intercalate_cons_cons,
      List.intercalate_singleton, Web.formPair, formChars_numeral, List.append_assoc,
      List.cons_append, List.nil_append]
  rw [numberOf, hurl, hfront, Option.getD_some, String.toList_append, String.toList_ofList, hpairs,
    ← List.append_assoc, rtakeWhile_of_stop rfl fun d => Text.isDigit_of_mem_toDigits,
    Text.digitsValue_toDigits]

/-- What a source answers that has a listing in writing. -/
def tell (runners : List RunnerEntry) : (need : ClientNeed) → need.Answer
  | .clock => (0 : Instant)
  | .send request => Web.Outcome.response (written (pageOf runners (numberOf request)))
  | .shelf => TokenShelf.empty
  | .keep _ => ()

/-- Surroundings with such a source. -/
def listing (runners : List RunnerEntry) : Surroundings ClientNeed.interface Unit :=
  fun s need => (tell runners need, s)

/-- A client that shows a name and a password to an address that is a number. -/
def localClient : Client :=
  ⟨⟨"", some "http://[::1]", "pool", .ofSeconds 30, .ofSeconds 60⟩, .basic ⟨"ops", "secret"⟩⟩

/-- A full page, and two runners of one name on the next. -/
def crowd : List RunnerEntry :=
  List.replicate 100 ⟨"ci-1", "online", false⟩ ++
    [⟨"ci-2", "offline", true⟩, ⟨"ci-2", "online", false⟩]

theorem serves_crowd : Serves localClient (.organization "acme") crowd (listing crowd) := by
  refine ⟨fun s => ⟨.basic ⟨"ops", "secret"⟩, rfl, fun page hfirst hlast => ?_⟩, ?_⟩
  · have hpages : page = 1 ∨ page = 2 := by
      have hcrowd : crowd.length / pageSize = 1 := by decide +kernel
      omega
    rcases hpages with rfl | rfl
    all_goals
      unfold pageDraft
      decide +kernel
  · intro s page request _ _ hasks
    change pageOf? (.response (written (pageOf crowd (numberOf request)))) = _
    rw [pageOf?_written, numberOf_of_asksForPage hasks]

theorem runnerStatus_finds_second_page :
    Scope.ofIdentity ⟨"", "acme", "", "ci"⟩ = .ok (.organization "acme") ∧
      Serves localClient (.organization "acme") crowd (listing crowd) ∧
      crowd.findIdx (·.name == "ci-2") / pageSize < pageLimit ∧
      let out := (localClient.runnerStatus ⟨"", "acme", "", "ci"⟩ "ci-2").run (listing crowd) ()
      Finds localClient (.organization "acme") crowd "ci-2" out.exchanges out.result ∧
        (looks out.exchanges).length = 2 ∧ out.result = .error (.runnerOffline "ci-2" true) := by
  have hscope : Scope.ofIdentity ⟨"", "acme", "", "ci"⟩ = .ok (.organization "acme") := rfl
  have hpages : crowd.findIdx (·.name == "ci-2") / pageSize < pageLimit := by decide +kernel
  have hfinds := runnerStatus_finds hscope serves_crowd hpages ()
  obtain ⟨hlooks, hresult⟩ := hfinds.found (List.replicate 100 ⟨"ci-1", "online", false⟩)
    ⟨"ci-2", "offline", true⟩ [⟨"ci-2", "online", false⟩] rfl rfl (by decide +kernel)
  refine ⟨hscope, serves_crowd, hpages, hfinds, ?_, hresult⟩
  rw [hlooks, List.length_replicate]
  rfl

end Client

end PoolScaler
