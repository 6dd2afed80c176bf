import SparkGateway.Batch.Driver
import SparkGateway.Json.Lookup
import SparkGateway.Proofs.Batch.Inquiries
import SparkGateway.Proofs.Url.Parts

/-!
# The host of a driver

The question for the host of a driver puts two inquiries, one after the other: for the application of the
batch, and of the resource manager for that application.  What the first good reply of the resource manager
holds under `app` decides how the question is to end (`HostAsPromised`): the application has finished, its
address names a host, or the reply is told to be malformed.

It ends so for every value, unless the application has not finished and its address counts as given but is
no text (`Unreadable`): then it ends in a misfit.  No request follows in any case.

Main statement: `driverHost_asPromised_iff`.
-/

namespace SparkGateway

open Run Polling

/-! ## What a reply holds -/

/-- The value under `app` in the document of a reply, if there is one. -/
def Reply.app (found : Reply) : Json := (found.document.toOption.getD .null).field "app"

theorem Reply.app_of_same {url text : String} {code : Int} {contentType : Option String} {app : Json}
    (h : (Json.parse? text).any (Json.same (.obj [("app", app)])) = true) :
    (Reply.mk url code (some text) contentType).app = app := by
  rw [Reply.app, Reply.document_of_same h]
  rfl

/-- A reply tells of an application if there are fields under `app`, and is malformed otherwise. -/
theorem Cluster.Application.ofReply_cases (found : Reply) :
    (∃ (fields : Json.Fields) (a : Application), found.app = .obj fields ∧ ofReply found = .ok a ∧
        a.masterAddress = fields.get "amHostHttpAddress" ∧ a.finished = isFinished fields) ∨
      (∀ fields, found.app ≠ .obj fields) ∧ ∃ message, ofReply found = .error (found.malformed message) := by
  unfold ofReply Reply.app
  cases hdocument : found.document with
  | error f =>
      obtain ⟨message, rfl⟩ := Reply.document_error hdocument
      exact .inr ⟨fun _ h => (by cases h), message, rfl⟩
  | ok document =>
      cases document with
      | obj fields =>
          have hfield : Json.field (.obj fields) "app" = Json.Fields.get fields "app" := rfl
          simp only [Except.toOption, Option.getD_some, hfield, Reply.fields, bind, Except.bind]
          cases Json.Fields.get fields "app" with
          | obj app => exact .inl ⟨app, _, rfl, rfl, rfl, rfl⟩
          | _ => exact .inr ⟨fun _ h => (by cases h), _, rfl⟩
      | _ => exact .inr ⟨fun _ h => (by cases h), _, rfl⟩

/-! ## Answers that decide -/

/-- The first answer to an inquiry that is not "nothing yet" stands at `k` in the script, the attempts reach
it, and it is read as `v`. -/
structure Inquiry.Finds {α τ : Type} (q : Inquiry α) (p : Polling τ) (said : Nat → Answer) (k : Nat)
    (v : α) : Prop where
  reached : (k : Int) < p.attempts
  before : ∀ j < k, q.NotYet (said j)
  found : ∃ found, (said k).goodReply? q.request = some found ∧ q.read found = .ok (some v)

theorem Inquiry.Finds.decides {α τ : Type} {q : Inquiry α} {p : Polling τ} {said : Nat → Answer} {k : Nat}
    {v : α} (h : q.Finds p said k v) (hq : q.Reached) : q.Decides p said k := by
  obtain ⟨found, hgood, hread⟩ := h.found
  refine ⟨h.reached, h.before, ?_⟩
  rw [← notYet_outcome_iff hq, outcome_of_goodReply hgood, hread]
  exact nofun

namespace Batch

/-! ## What is to come of the question -/

/-- An address names a host: it is a text, which up to blanks around it is the host, a colon and digits. -/
def NamesHost (address : Json) (host : String) : Prop :=
  ∃ s port, address = .str s ∧ Text.trimChars s.toList = host.toList ++ ':' :: port ∧
    (host ≠ "" ∧ ':' ∉ host.toList) ∧ port ≠ [] ∧ ∀ c ∈ port, Text.isDecimal c = true

theorem hostChars?_eq_some_iff {address host : List Char} :
    hostChars? address = some host ↔ ∃ port, address = host ++ ':' :: port ∧
      (host ≠ [] ∧ ':' ∉ host) ∧ port ≠ [] ∧ ∀ c ∈ port, Text.isDecimal c = true := by
  have hfree (cs : List Char) : (∀ c ∈ cs, (c == ':') = false) ↔ ':' ∉ cs := by
    simp only [beq_eq_false_iff_ne]
    exact ⟨fun h hmem => h _ hmem rfl, fun h c hc heq => h (heq ▸ hc)⟩
  constructor
  · intro h
    unfold hostChars? at h
    split at h
    · next before port hcut =>
        split at h
        · next hparts =>
            obtain rfl := Option.some.inj h
            obtain ⟨c, rfl, hbefore, hc⟩ := Url.cutAt?_eq_some hcut
            obtain rfl : c = ':' := by simpa using hc
            exact ⟨port, rfl, ⟨hparts.1, (hfree _).1 hbefore⟩, hparts.2.1, List.all_eq_true.1 hparts.2.2⟩
        · cases h
    · cases h
  · rintro ⟨port, rfl, ⟨hne, hcolon⟩, hport⟩
    exact hostChars?_some ⟨hne, (hfree _).2 hcolon⟩ hport

theorem host?_eq_some_iff {address : Json} {host : String} :
    host? address = .ok (some host) ↔ NamesHost address host := by
  have hempty : host.toList ≠ [] ↔ host ≠ "" := by simp
  have hother {v : Json} (hv : ∀ s, v ≠ .str s)
      (hhost : host? v = if v.given then .error .notText else .ok none) :
      host? v = .ok (some host) ↔ NamesHost v host := by
    rw [hhost]
    constructor
    · intro h
      split at h <;> cases h
    · rintro ⟨s, port, rfl, -⟩
      exact absurd rfl (hv s)
  cases address with
  | str s =>
      have hchars : host? (.str s) = .ok (some host) ↔
          hostChars? (Text.trimChars s.toList) = some host.toList := by
        simp only [host?, Except.ok.injEq, Option.map_eq_some_iff]
        constructor
        · rintro ⟨cs, hcs, rfl⟩
          rw [hcs, String.toList_ofList]
        · intro h
          exact ⟨_, h, String.ofList_toList⟩
      rw [hchars, hostChars?_eq_some_iff, hempty]
      constructor
      · rintro ⟨port, h⟩
        exact ⟨s, port, rfl, h⟩
      · rintro ⟨s', port, hs, h⟩
        cases hs
        exact ⟨port, h⟩
  | null | bool b | num n | arr items | obj fields => exact hother nofun rfl

/-- An address that counts as given is a misfit if it is no text. -/
theorem host?_of_not_str {address : Json} (h : ∀ s, address ≠ .str s) :
    host? address = if address.given then .error .notText else .ok none := by
  cases address with
  | str s => exact absurd rfl (h s)
  | null | bool b | num n | arr items | obj fields => rfl

/-- An application is said to have finished; if nothing is said, the word for its state tells. -/
def SaidFinished (app : Json) : Prop :=
  (app.field "finished" ≠ .null ∧ (app.field "finished").given = true) ∨
    (app.field "finished" = .null ∧
      Text.upper (Cluster.Application.textOf (app.field "state")) ∈ ["FINISHED", "FAILED", "KILLED"])

/-- Where an application is said to be reached. -/
def saidAddress (app : Json) : Json := app.field "amHostHttpAddress"

/-- How the question for the host of a driver is to end: the application has finished, or its address names
the host, or else the reply is malformed. -/
structure HostAsPromised (url : String) (app : Json) (r : Except Stop String) : Prop where
  finished : (∃ message, r = .error (.fault (.finished message))) ↔ SaidFinished app
  host : ∀ host, r = .ok host ↔ ¬SaidFinished app ∧ NamesHost (saidAddress app) host
  malformed : (∃ message body, r = .error (.fault (.malformed message (some url) body))) ↔
    ¬SaidFinished app ∧ ∀ host, ¬NamesHost (saidAddress app) host

theorem HostAsPromised.not_misfit {url : String} {app : Json} {r : Except Stop String}
    (h : HostAsPromised url app r) (m : Misfit) : r ≠ .error (.misfit m) := by
  rintro rfl
  by_cases hfinished : SaidFinished app
  · obtain ⟨message, hr⟩ := h.finished.2 hfinished
    cases hr
  · by_cases hnames : ∃ host, NamesHost (saidAddress app) host
    · obtain ⟨host, hhost⟩ := hnames
      exact nomatch (h.host host).2 ⟨hfinished, hhost⟩
    · obtain ⟨message, body, hr⟩ := h.malformed.2 ⟨hfinished, not_exists.1 hnames⟩
      cases hr

/-- The address of an application that has not finished counts as given but is no text. -/
def Unreadable (app : Json) : Prop :=
  ¬SaidFinished app ∧ (saidAddress app).given = true ∧ ∀ s, saidAddress app ≠ .str s

theorem isFinished_iff (fields : Json.Fields) :
    Cluster.Application.isFinished fields = true ↔ SaidFinished (.obj fields) := by
  have hfield (name : String) : (Json.obj fields).field name = fields.get name := rfl
  unfold SaidFinished Cluster.Application.isFinished Cluster.Application.finishedStates
  rw [hfield, hfield]
  cases fields.get "finished" <;> simp

theorem not_saidFinished_of_not_obj {app : Json} (h : ∀ fields, app ≠ .obj fields) : ¬SaidFinished app := by
  have hfield (name : String) : app.field name = .null := by
    cases app with
    | obj fields => exact absurd rfl (h fields)
    | _ => rfl
  have hword : Text.upper (Cluster.Application.textOf .null) ∉ ["FINISHED", "FAILED", "KILLED"] := by
    decide +kernel
  unfold SaidFinished
  rw [hfield, hfield]
  rintro (⟨hnull, -⟩ | ⟨-, hmem⟩)
  · exact hnull rfl
  · exact hword hmem

/-- What becomes of the question for a host when the resource manager has told of the application. -/
def hostOf (id : Int) (url : String) (a : Cluster.Application) : Except Stop String :=
  if a.finished then
    let number := id.repr
    .error (.fault (.finished s!"The Livy batch {number} on YARN is not running"))
  else
    match host? a.masterAddress with
    | .ok (some host) => .ok host
    | .ok none =>
      let address := a.masterAddress.written
      .error (.fault (.malformed s!"Bad amHostHttpAddress {address}" (some url) none))
    | .error m => .error (.misfit m)

theorem hostOf_misfit {a : Cluster.Application} (hfinished : a.finished = false)
    (hgiven : a.masterAddress.given = true) (hstr : ∀ s, a.masterAddress ≠ .str s) (id : Int) (url : String) :
    hostOf id url a = .error (.misfit .notText) := by
  simp [hostOf, hfinished, host?_of_not_str hstr, hgiven]

/-- Unless an address does not fit, the question ends as it is to end. -/
theorem hostOf_asPromised {a : Cluster.Application} {app : Json}
    (hfinished : a.finished = true ↔ SaidFinished app) (haddress : a.masterAddress = saidAddress app)
    (hfits : ¬Unreadable app) (id : Int) (url : String) : HostAsPromised url app (hostOf id url a) := by
  unfold hostOf
  by_cases hf : SaidFinished app
  · rw [if_pos (hfinished.2 hf)]
    exact ⟨by simp [hf], by simp [hf], by simp [hf]⟩
  · rw [if_neg fun h => hf (hfinished.1 h), haddress]
    cases hhost : host? (saidAddress app) with
    | ok o =>
        cases o with
        | some host =>
            have hnames (other : String) : NamesHost (saidAddress app) other ↔ host = other := by
              rw [← host?_eq_some_iff, hhost]
              simp
            exact ⟨by simp [hf], by simp [hf, hnames], by simp [hf, hnames]⟩
        | none =>
            have hnames (other : String) : ¬NamesHost (saidAddress app) other := by
              rw [← host?_eq_some_iff, hhost]
              simp
            exact ⟨by simp [hf], by simp [hnames], by simp [hf, hnames]⟩
    | error m =>
        have hstr : ∀ s, saidAddress app ≠ .str s := by
          rintro s hs
          rw [hs] at hhost
          cases hhost
        rw [host?_of_not_str hstr] at hhost
        cases hgiven : (saidAddress app).given with
        | true => exact absurd ⟨hf, hgiven, hstr⟩ hfits
        | false =>
            rw [hgiven] at hhost
            cases hhost

theorem asPromised_of_not_obj {found : Reply} (h : ∀ fields, found.app ≠ .obj fields) (message : String) :
    HostAsPromised found.url found.app (.error (.fault (found.malformed message))) ∧
      ¬Unreadable found.app := by
  have hfinished := not_saidFinished_of_not_obj h
  have haddress : saidAddress found.app = .null := by
    unfold saidAddress
    cases happ : found.app with
    | obj fields => exact absurd happ (h fields)
    | _ => rfl
  have hnames (host : String) : ¬NamesHost (saidAddress found.app) host := by
    rintro ⟨s, port, hs, -⟩
    rw [haddress] at hs
    cases hs
  have hmalformed : HostAsPromised found.url found.app (.error (.fault (found.malformed message))) :=
    ⟨by simp [Reply.malformed, hfinished], by simp [hnames],
      by simp [Reply.malformed, hfinished, hnames]⟩
  refine ⟨hmalformed, ?_⟩
  rintro ⟨-, hgiven, -⟩
  rw [haddress] at hgiven
  cases hgiven

/-- What is read of a reply is as promised exactly if the address in it can be read. -/
theorem hostOf_asPromised_iff (found : Reply) (id : Int) :
    (HostAsPromised found.url found.app
        ((Cluster.Application.ofReply found).mapError .fault >>= hostOf id found.url) ↔
      ¬Unreadable found.app) ∧
      (Unreadable found.app →
        (Cluster.Application.ofReply found).mapError .fault >>= hostOf id found.url =
          .error (.misfit .notText)) := by
  rcases Cluster.Application.ofReply_cases found with
    ⟨fields, a, happ, hread, haddress, hfinished⟩ | ⟨hobj, message, hread⟩
  · have hsaid : a.finished = true ↔ SaidFinished found.app := by
      rw [hfinished, happ]
      exact isFinished_iff fields
    have haddress : a.masterAddress = saidAddress found.app := by
      rw [haddress, happ]
      rfl
    have hmisfit (h : Unreadable found.app) : hostOf id found.url a = .error (.misfit .notText) :=
      hostOf_misfit (Bool.eq_false_iff.2 fun hf => h.1 (hsaid.1 hf)) (haddress ▸ h.2.1) (haddress ▸ h.2.2) _ _
    rw [hread]
    exact ⟨⟨fun hpromised h => hpromised.not_misfit _ (hmisfit h),
      fun h => hostOf_asPromised hsaid haddress h _ _⟩, hmisfit⟩
  · obtain ⟨hpromised, hreadable⟩ := asPromised_of_not_obj hobj message
    rw [hread]
    exact ⟨iff_of_true hpromised hreadable, fun h => absurd h hreadable⟩

/-! ## The question -/

variable {σ τ : Type} {b : Batch τ} {c : Cluster τ}

theorem hostOf_silent {env : Surroundings τ} {application : String} {url : String} {id : Int}
    (hid : b.id = some id) (hurl : c.applicationUrl application = .ok url) (a : Cluster.Application) :
    Does (σ := σ) env (do
      if a.finished then
        let id := (← Run.ofFault b.number).repr
        Run.fail (.finished s!"The Livy batch {id} on YARN is not running")
      else
        match ← Run.ofMisfit (host? a.masterAddress) with
        | some host => return host
        | none => do
          let url ← Run.ofMisfit (c.applicationUrl application)
          let address := a.masterAddress.written
          Run.fail (.malformed s!"Bad amHostHttpAddress {address}" (some url) none))
      (Silent (hostOf id url a)) := by
  have hnumber : b.number = .ok id := by simp [number, hid]
  unfold hostOf
  by_cases hfinished : a.finished = true
  · rw [if_pos hfinished, if_pos hfinished, hnumber]
    exact stop_silent _
  · rw [if_neg hfinished, if_neg hfinished]
    cases hhost : host? a.masterAddress with
    | error m => exact stop_silent _
    | ok o =>
        cases o with
        | some host => exact value_silent host
        | none =>
            rw [hurl]
            exact stop_silent _

theorem id_of_batchUrl {url : String} (h : b.batchUrl = .ok url) : ∃ id, b.id = some id := by
  cases hid : b.id with
  | some id => exact ⟨id, rfl⟩
  | none => exact nomatch (b.batchUrl_of_none hid).symm.trans h

variable [Timeline τ]

theorem applicationAt_orderly (id url : String) : (applicationAt id url).Orderly :=
  fun _ _ h => .inl (applicationAt_fault h)

omit [Timeline τ] in
/-- A good reply about an application always decides: it is never "nothing yet". -/
theorem applicationAt_decides {p : Polling τ} {said : Nat → Answer} {k : Nat} {id url : String}
    (hreached : (k : Int) < p.attempts) (hmissed : ∀ j < k, (said j).Missed (.get url)) {found : Reply}
    (hfound : (said k).goodReply? (.get url) = some found) : (applicationAt id url).Decides p said k := by
  refine ⟨hreached, fun j hj => .inl (hmissed j hj), ?_⟩
  have hread : (applicationAt id url).read found =
      ((Cluster.Application.ofReply found).mapError .fault).map some := rfl
  rw [← Inquiry.notYet_outcome_iff (applicationAt_orderly id url).reached,
    Inquiry.outcome_of_goodReply (q := applicationAt id url) hfound, hread]
  rcases Cluster.Application.ofReply_cases found with ⟨fields, a, -, ha, -⟩ | ⟨-, message, hlost⟩
  · rw [ha]
    exact nofun
  · rw [hlost]
    exact nofun

/-- The events of the question for the host of a driver, and what it comes to. -/
theorem driverHost_course (hmanager : b.cluster = some c) {id : Int} (hnumber : b.id = some id)
    {batchUrl url : String} (hbatch : b.batchUrl = .ok batchUrl) (env : Surroundings τ)
    (script : Nat → Said) (w : World σ τ) {i k : Nat} {application : Json}
    (hid : (applicationIdAt batchUrl).Finds b.polling (w.hears script) i application)
    (hurl : c.applicationUrl application.display = .ok url) (hreached : (k : Int) < b.polling.attempts)
    (hmissed : ∀ j < k, (w.hears script (i + 1 + j)).Missed (.get url)) {found : Reply}
    (hfound : (w.hears script (i + 1 + k)).goodReply? (.get url) = some found) :
    ∃ v, Course b.driverHost (env.saying script) w
      (b.polling.asking (.get batchUrl) (w.hears script) (i + 1) ++
        b.polling.asking (.get url) (fun j => w.hears script (i + 1 + j)) (k + 1))
      ((Cluster.Application.ofReply found).mapError .fault >>= hostOf id url) v := by
  have hp : 1 ≤ b.polling.attempts := by omega
  have horderly : (applicationIdAt batchUrl).Orderly := seenAt_orderly _ _ _
  obtain ⟨seen, r, u, hseen, hread, hfirst⟩ :=
    (applicationId_puts hbatch hp).course_at_decision horderly.reached env (hid.decides horderly.reached)
  obtain ⟨seen', hseen', hread'⟩ := hid.found
  obtain rfl := Option.some.inj (hseen'.symm.trans hseen)
  obtain rfl : r = .ok application := eq_of_map_some_eq (hread.symm.trans hread')
  have hhears : u.hears script = fun j => w.hears script (i + 1 + j) := by
    funext j
    rw [hfirst.hears, length_answers_asking]
  have hdecides : (applicationAt application.display url).Decides b.polling (u.hears script) k := by
    rw [hhears]
    exact applicationAt_decides hreached hmissed hfound
  obtain ⟨found', r, v, hfound', hread, hsecond⟩ := (application_puts hurl hp).course_at_decision
    (applicationAt_orderly _ _).reached env hdecides
  rw [hhears] at hfound' hsecond
  obtain rfl := Option.some.inj (hfound'.symm.trans hfound)
  obtain rfl : (Cluster.Application.ofReply found').mapError .fault = r := eq_of_map_some_eq hread
  have hmanager' : b.manager = (pure c : Run σ τ (Cluster τ)) := by simp [manager, hmanager]
  unfold driverHost
  rw [hmanager']
  have hpure : Course (pure c : Run σ τ (Cluster τ)) (env.saying script) w [] (.ok c) w := .silent rfl rfl
  cases hread : Cluster.Application.ofReply found' with
  | error f =>
      rw [hread] at hsecond
      exact ⟨v, hpure.bind (hfirst.bind hsecond.bind_error)⟩
  | ok a =>
      rw [hread] at hsecond
      obtain ⟨es, r, v', hlast, -, rfl, rfl⟩ := hostOf_silent hnumber hurl a v
      refine ⟨v', ?_⟩
      rw [← List.append_nil (b.polling.asking (.get url) _ _)]
      exact hpure.bind (hfirst.bind (hsecond.bind hlast))

/-- Whatever the first good reply about the application holds, no request follows it, and the question ends
as it is to end exactly if the address in it can be read: otherwise it ends in a misfit. -/
theorem driverHost_asPromised_iff (hmanager : b.cluster = some c) {batchUrl url : String}
    (hbatch : b.batchUrl = .ok batchUrl) (env : Surroundings τ) (script : Nat → Said) (w : World σ τ)
    {i k : Nat} {application : Json}
    (hid : (applicationIdAt batchUrl).Finds b.polling (w.hears script) i application)
    (hurl : c.applicationUrl application.display = .ok url)
    (hreached : (k : Int) < b.polling.attempts)
    (hmissed : ∀ j < k, (w.hears script (i + 1 + j)).Missed (.get url)) {found : Reply}
    (hfound : (w.hears script (i + 1 + k)).goodReply? (.get url) = some found) :
    b.driverHost.events (env.saying script) w =
        b.polling.asking (.get batchUrl) (w.hears script) (i + 1) ++
          b.polling.asking (.get url) (fun j => w.hears script (i + 1 + j)) (k + 1) ∧
      (HostAsPromised url found.app (b.driverHost (env.saying script) w).1 ↔ ¬Unreadable found.app) ∧
      (Unreadable found.app → (b.driverHost (env.saying script) w).1 = .error (.misfit .notText)) := by
  obtain ⟨id, hnumber⟩ := id_of_batchUrl hbatch
  obtain ⟨v, hcourse⟩ :=
    driverHost_course hmanager hnumber hbatch env script w hid hurl hreached hmissed hfound
  obtain rfl : found.url = url := Answer.url_of_goodReply hfound
  rw [hcourse.events_eq, hcourse.outcome_eq]
  exact ⟨rfl, hostOf_asPromised_iff found id⟩

/-- The batch 42 at a gateway with a resource manager behind it. -/
def driven : Batch Number :=
  .attached "http://livy:8998/batches" 42 (some (.on "http://livy:8998/batches" "/yarnui" (.whole 3)))
    ⟨3, .whole 5⟩

/-- A service that names the application of a batch, and then tells of it. -/
def tellingOf (body : String) (k : Nat) : Said :=
  if k = 0 then .reply 200
    (some "\x7b\"id\": 42, \"state\": \"running\", \"appId\": \"application_1_0001\"\x7d") none
  else .reply 200 (some body) none

theorem finds_tellingOf (body : String) :
    (applicationIdAt "http://livy:8998/batches/42").Finds driven.polling
      ((⟨(), .whole 0, []⟩ : World Unit Number).hears (tellingOf body)) 0 (.str "application_1_0001") := by
  refine ⟨by decide, nofun, _, rfl, ?_⟩
  let fields : Json.Fields :=
    [("id", .int 42), ("state", .str "running"), ("appId", .str "application_1_0001")]
  have hnumbers : Reply.Numbers ⟨"http://livy:8998/batches/42", 200, some
      "\x7b\"id\": 42, \"state\": \"running\", \"appId\": \"application_1_0001\"\x7d", none⟩ fields 42 :=
    ⟨Reply.document_of_same (by decide +kernel), rfl⟩
  show Snapshot.ofReply ⟨"http://livy:8998/batches/42", _, _, _⟩ >>= _ = _
  rw [Snapshot.ofReply_of_numbers hnumbers]
  rfl

/-- A host and a port with blanks around them name the host. -/
theorem driverHost_asPromised_of_addressed :
    let w : World Unit Number := ⟨(), .whole 0, []⟩
    let env : Surroundings Number := Replies.surroundings {} 9
    let url := "http://livy:8998/yarnui/ws/v1/cluster/apps/application_1_0001"
    let body := "\x7b\"app\": \x7b\"state\": \"RUNNING\", \"amHostHttpAddress\": \" node1:8042 \"\x7d\x7d"
    HostAsPromised url (Reply.app ⟨url, 200, some body, none⟩)
        (driven.driverHost (env.saying (tellingOf body)) w).1 ∧
      (driven.driverHost (env.saying (tellingOf body)) w).1.toOption = some "node1" := by
  intro w env url body
  have happ : Reply.app ⟨url, 200, some body, none⟩ =
      .obj [("state", .str "RUNNING"), ("amHostHttpAddress", .str " node1:8042 ")] :=
    Reply.app_of_same (by decide +kernel)
  have hreadable : ¬Unreadable (Reply.app ⟨url, 200, some body, none⟩) := by
    rw [happ]
    exact fun h => h.2.2 _ rfl
  refine ⟨?_, by decide +kernel⟩
  exact (driverHost_asPromised_iff (b := driven) rfl rfl env (tellingOf body) w (finds_tellingOf body)
    (by decide +kernel) (k := 0) (by decide) nofun rfl).2.1.2 hreadable

/-- A port alone, as a number, is not told to be malformed. -/
theorem driverHost_not_asPromised :
    let w : World Unit Number := ⟨(), .whole 0, []⟩
    let env : Surroundings Number := Replies.surroundings {} 9
    let url := "http://livy:8998/yarnui/ws/v1/cluster/apps/application_1_0001"
    let body := "\x7b\"app\": \x7b\"amHostHttpAddress\": 80, \"finished\": false\x7d\x7d"
    (∃ m, (driven.driverHost (env.saying (tellingOf body)) w).1 = .error (.misfit m)) ∧
      (w.hears (tellingOf body) 1).goodReply? (.get url) = some ⟨url, 200, some body, none⟩ ∧
      Reply.app ⟨url, 200, some body, none⟩ =
        .obj [("amHostHttpAddress", .int 80), ("finished", .bool false)] ∧
      ¬HostAsPromised url (Reply.app ⟨url, 200, some body, none⟩)
        (driven.driverHost (env.saying (tellingOf body)) w).1 := by
  intro w env url body
  obtain ⟨m, hm⟩ := eq_of_misfits (r := (driven.driverHost (env.saying (tellingOf body)) w).1)
    (by decide +kernel)
  exact ⟨⟨m, hm⟩, rfl, Reply.app_of_same (by decide +kernel), fun h => h.not_misfit m hm⟩

end Batch

end SparkGateway
