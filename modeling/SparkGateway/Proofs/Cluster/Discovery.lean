import Mathlib.Data.List.Nodup
import SparkGateway.Proofs.Cluster.AttemptPage

/-!
# The containers that are discovered

The page of an attempt describes containers in its rows (`Page.containerRows`).  Their log pages are
fetched one after the other, in the order of the rows (`Fetches`), and a container is listed if its log
page came and does not say that there are no logs (`ListedAs`).  Nothing is listed twice or in another order
(`Picks`).  What one log page comes to decides about its own container only: two discoveries over the same rows that hear the same of every log page but one list the
same containers, the container of that page apart (`sameBut_of_sameOutcomes`).  They do hear the same if
the service answers the same for these pages, and what is kept of them is what it answers
(`SameElsewhere.sameOutcomes`), although the cache is shared by all fetches.

Main statement: `containers_listed`.
-/

namespace SparkGateway

open Run

/-- What is picked from a list by a relation, in order: one thing for each element that it relates to
anything. -/
inductive Picks {α β : Type} (R : α → β → Prop) : List α → List β → Prop where
  | nil : Picks R [] []
  | take {a : α} {b : β} {as : List α} {bs : List β} :
      R a b → Picks R as bs → Picks R (a :: as) (b :: bs)
  | skip {a : α} {as : List α} {bs : List β} :
      (∀ b, ¬ R a b) → Picks R as bs → Picks R (a :: as) bs

theorem picks_filterMap {α β : Type} {R : α → β → Prop} {f : α → Option β}
    (h : ∀ a b, f a = some b ↔ R a b) (as : List α) : Picks R as (as.filterMap f) := by
  induction as with
  | nil => exact .nil
  | cons a as ih =>
      cases hf : f a with
      | none =>
          rw [List.filterMap_cons_none hf]
          exact .skip (fun b hb => nomatch hf.symm.trans ((h a b).2 hb)) ih
      | some b =>
          rw [List.filterMap_cons_some hf]
          exact .take ((h a b).1 hf) ih

/-- The containers that the page of an attempt describes, in the order of their rows. -/
def Page.containerRows (p : Page) : List Cluster.ContainerRow :=
  match p.table? "containers" with
  | none => []
  | some table => table.rows.filterMap Cluster.ContainerRow.ofRow?

namespace Cluster

variable {τ : Type}

/-- A row of a table describes a container: it has the three cells and a link that is not empty. -/
def Describes (r : Row) (row : ContainerRow) : Prop :=
  ∃ id host logs, r.cellAt? 0 = some id ∧ r.cellAt? 1 = some host ∧ r.cellAt? 3 = some logs ∧
    logs.href = some row.logs ∧ row.logs ≠ "" ∧ row.id = id.text ∧ row.host = host.text

theorem ContainerRow.ofRow?_eq_some_iff (r : Row) (row : ContainerRow) :
    ofRow? r = some row ↔ Describes r row := by
  constructor
  · intro h
    unfold ofRow? at h
    split at h
    · next id host logs hid hhost hlogs =>
        split at h
        · next link hlink =>
            split at h
            · cases h
            · next hempty =>
                obtain rfl := Option.some.inj h
                exact ⟨id, host, logs, hid, hhost, hlogs, hlink, by simpa using hempty, rfl, rfl⟩
        · cases h
    · cases h
  · rintro ⟨id, host, logs, hid, hhost, hlogs, hlink, hempty, hrowid, hrowhost⟩
    obtain ⟨rowid, rowhost, link⟩ := row
    simp only at hlink hempty hrowid hrowhost
    simp [ofRow?, hid, hhost, hlogs, hlink, hempty, hrowid, hrowhost]

theorem mem_containerRows_iff {p : Page} {row : ContainerRow} :
    row ∈ p.containerRows ↔
      ∃ table, p.table? "containers" = some table ∧ ∃ r ∈ table.rows, Describes r row := by
  unfold Page.containerRows
  cases p.table? "containers" with
  | none => simp
  | some table => simp [List.mem_filterMap, ContainerRow.ofRow?_eq_some_iff]

theorem containerRows_picks {p : Page} {table : Table} (h : p.table? "containers" = some table) :
    Picks Describes table.rows p.containerRows := by
  unfold Page.containerRows
  rw [h]
  exact picks_filterMap ContainerRow.ofRow?_eq_some_iff table.rows

/-- The host and the identifier of a container that is listed, given what the fetch of its log page came
to. -/
def ContainerRow.listed? (row : ContainerRow) : Except String Page → Option (String × String)
  | .ok page =>
    if page.isLogAvailable then row.hostName.toOption.map fun host => (host, Text.trim row.id) else none
  | .error _ => none

theorem ContainerRow.listed?_of_unavailable (row : ContainerRow) {page : Page}
    (h : page.isLogAvailable = false) : row.listed? (.ok page) = none := by
  simp [listed?, h]

theorem ContainerRow.listed?_of_available {row : ContainerRow} {page : Page} {host : String}
    (h : page.isLogAvailable = true) (hhost : row.hostName = .ok host) :
    row.listed? (.ok page) = some (host, Text.trim row.id) := by
  simp [listed?, h, hhost, Except.toOption]

/-- The text of the page of a log does not say, in whatever case, that there are no logs. -/
def HoldsLogs (page : Page) : Prop :=
  ¬ ∃ before after, Text.lowerChars page.text.toList = before ++ "no logs available".toList ++ after

/-- The host that a text stands for: that of the URL that it is read as, or the text itself if that has
none. -/
inductive StandsForHost (text : String) : String → Prop where
  | url {u : Url} {host : List Char} : Url.parse? text.toList = some u → u.host? = some host →
      StandsForHost text (String.ofList host)
  | plain {u : Url} : Url.parse? text.toList = some u → u.host? = none → StandsForHost text text

/-- A container is listed with its host and its identifier: its log page came, and holds logs. -/
structure ListedAs (row : ContainerRow) (outcome : Except String Page) (found : String × String) :
    Prop where
  came : ∃ page, outcome = .ok page ∧ HoldsLogs page
  host : StandsForHost (Text.trim row.host) found.1
  id : found.2 = Text.trim row.id

theorem isLogAvailable_iff {page : Page} : page.isLogAvailable = true ↔ HoldsLogs page := by
  unfold Page.isLogAvailable HoldsLogs
  rw [Bool.not_eq_true', Bool.eq_false_iff, Ne, Text.occursIn_iff]
  rfl

theorem ContainerRow.hostName_eq_ok_iff {row : ContainerRow} {host : String} :
    row.hostName = .ok host ↔ StandsForHost (Text.trim row.host) host := by
  unfold hostName
  constructor
  · intro h
    dsimp only at h
    split at h
    · cases h
    · next u hread =>
        obtain rfl := Except.ok.inj h
        cases hhost : u.host? with
        | none => exact .plain hread hhost
        | some host => exact .url hread hhost
  · rintro (⟨hread, hhost⟩ | ⟨hread, hhost⟩) <;> simp [hread, hhost]

theorem ContainerRow.listed?_eq_some_iff {row : ContainerRow} {outcome : Except String Page}
    {found : String × String} : row.listed? outcome = some found ↔ ListedAs row outcome found := by
  obtain ⟨host, id⟩ := found
  constructor
  · intro h
    cases outcome with
    | error message => cases h
    | ok page =>
        cases havailable : page.isLogAvailable with
        | false =>
            rw [row.listed?_of_unavailable havailable] at h
            cases h
        | true =>
            cases hhost : row.hostName with
            | error m =>
                simp [listed?, havailable, hhost, Except.toOption] at h
            | ok host' =>
                rw [listed?_of_available havailable hhost] at h
                obtain ⟨rfl, rfl⟩ := Prod.mk.inj (Option.some.inj h)
                exact ⟨⟨page, rfl, isLogAvailable_iff.1 havailable⟩, hostName_eq_ok_iff.1 hhost, rfl⟩
  · rintro ⟨⟨page, rfl, hholds⟩, hhost, hid⟩
    obtain rfl : id = Text.trim row.id := hid
    exact listed?_of_available (isLogAvailable_iff.2 hholds) (hostName_eq_ok_iff.2 hhost)

/-- The host of a container can be read if its log page came and holds logs. -/
def ContainerRow.Named (row : ContainerRow) (outcome : Except String Page) : Prop :=
  ∀ page, outcome = .ok page → page.isLogAvailable = true → ∃ host, row.hostName = .ok host

/-- The containers of some rows that are listed, given what the fetches of their log pages came to. -/
def listed (rows : List ContainerRow) (outcomes : List (Except String Page)) :
    List (String × String) :=
  (rows.zip outcomes).filterMap fun (row, outcome) => row.listed? outcome

theorem listed_picks (rows : List ContainerRow) (outcomes : List (Except String Page)) :
    Picks (fun x found => ListedAs x.1 x.2 found) (rows.zip outcomes) (listed rows outcomes) :=
  picks_filterMap (fun _ _ => ContainerRow.listed?_eq_some_iff) _

def given (found : String × String) : Item := .container found.1 found.2

/-- The steps after the fetch of the log page of a container. -/
def ContainerRow.report (row : ContainerRow) : Except String Page → Trace τ
  | .ok page => (row.listed? (.ok page)).toList.map fun found => .gave (given found)
  | .error message =>
    let id := Text.trim row.id
    [.noted .debug s!"Skipping container {id}: {message}"]

theorem ContainerRow.items_report (row : ContainerRow) (outcome : Except String Page) :
    (row.report outcome : Trace τ).items = (row.listed? outcome).toList.map given := by
  cases outcome with
  | error message => rfl
  | ok page => cases hlisted : row.listed? (.ok page) <;> simp [report, hlisted, Trace.items, Step.item?]

theorem ContainerRow.loads_report (row : ContainerRow) (outcome : Except String Page) :
    (row.report outcome : Trace τ).loads = [] := by
  cases outcome with
  | error message => rfl
  | ok page => cases hlisted : row.listed? (.ok page) <;> simp [report, hlisted, Trace.loads, Step.load?]

theorem ContainerRow.visits_report (row : ContainerRow) (outcome : Except String Page) :
    (row.report outcome : Trace τ).visits = [] := by
  cases outcome with
  | error message => rfl
  | ok page =>
      cases hlisted : row.listed? (.ok page) <;>
        simp [report, hlisted, Trace.visits, Step.visit?, Step.request?, Step.load?]

variable [Timeline τ]

/-- The log pages of some rows are fetched one after the other, with these outcomes. -/
inductive Fetches (c : Cluster τ) (env : Surroundings τ) :
    World (Page.Cache τ) τ → List ContainerRow → List (Except String Page) →
      World (Page.Cache τ) τ → Prop where
  | nil (w : World (Page.Cache τ) τ) : Fetches c env w [] [] w
  | cons {w u v : World (Page.Cache τ) τ} {row : ContainerRow} {rows : List ContainerRow} {url : String}
      {outcome : Except String Page} {outcomes : List (Except String Page)} :
      Url.join? c.gateway row.logs = some url → Page.Fetch env url w outcome u →
      Fetches c env { u with trace := u.trace ++ row.report outcome } rows outcomes v →
      Fetches c env w (row :: rows) (outcome :: outcomes) v

def logUrls (c : Cluster τ) (rows : List ContainerRow) : List String :=
  rows.filterMap fun row => Url.join? c.gateway row.logs

omit [Timeline τ] in
theorem logUrls_cons {c : Cluster τ} {row : ContainerRow} {url : String}
    (h : Url.join? c.gateway row.logs = some url) (rows : List ContainerRow) :
    c.logUrls (row :: rows) = url :: c.logUrls rows :=
  List.filterMap_cons_some h

/-- The links and the hosts of a row can be read. -/
def Readable (c : Cluster τ) (row : ContainerRow) : Prop :=
  (∃ url, Url.join? c.gateway row.logs = some url) ∧ ∃ host, row.hostName = .ok host

/-- Whoever follows takes every container that is given. -/
def Followed (env : Surroundings τ) : Prop := ∀ t item, env.halt (t ++ [.gave item]) = none

theorem listed_cons (row : ContainerRow) (rows : List ContainerRow) (outcome : Except String Page)
    (outcomes : List (Except String Page)) :
    listed (row :: rows) (outcome :: outcomes) =
      (row.listed? outcome).toList ++ listed rows outcomes := by
  cases hlisted : row.listed? outcome <;> simp [listed, hlisted]

theorem Fetches.length_eq {c : Cluster τ} {env : Surroundings τ} {w v : World (Page.Cache τ) τ}
    {rows : List ContainerRow} {outcomes : List (Except String Page)}
    (h : c.Fetches env w rows outcomes v) : outcomes.length = rows.length := by
  induction h with
  | nil => rfl
  | cons hurl hfetch hrest ih => simp [ih]

/-- Once its log page was fetched, a container is told by its row and that page. -/
theorem container_run {c : Cluster τ} {env : Surroundings τ} {row : ContainerRow} {url : String}
    {w u : World (Page.Cache τ) τ} {outcome : Except String Page}
    (hfollowed : Followed env) (hurl : Url.join? c.gateway row.logs = some url)
    (hnamed : row.Named outcome) (hfetch : Page.Fetch env url w outcome u) :
    c.container row env w =
      (.ok (row.listed? outcome), { u with trace := u.trace ++ row.report outcome }) := by
  simp only [container, hurl]
  rw [bind_ok hfetch.reachable]
  cases outcome with
  | error message => rfl
  | ok page =>
      cases havailable : page.isLogAvailable with
      | false => simp [ContainerRow.report, row.listed?_of_unavailable havailable, havailable]
      | true =>
          obtain ⟨host, hhost⟩ := hnamed page rfl havailable
          have hlisted := ContainerRow.listed?_of_available havailable hhost
          have hgive : give (.container host (Text.trim row.id)) env u =
              (.ok (), { u with trace := u.trace ++ [.gave (.container host (Text.trim row.id))] }) := by
            simp [give, hfollowed u.trace]
          simp only [ContainerRow.report, hlisted, havailable, hhost]
          exact bind_ok hgive

omit [Timeline τ] in
theorem give_eq_ok {σ : Type} {item : Item} {env : Surroundings τ} {w v : World σ τ} {a : Unit}
    (h : give item env w = (.ok a, v)) : v = { w with trace := w.trace ++ [.gave item] } := by
  unfold give at h
  dsimp only at h
  split at h
  · cases h
  · cases h
    rfl

/-- A container that came to a result is told by its row and its log page. -/
theorem container_eq_ok {c : Cluster τ} {env : Surroundings τ} {row : ContainerRow} {url : String}
    {w u v : World (Page.Cache τ) τ} {outcome : Except String Page} {found : Option (String × String)}
    (hurl : Url.join? c.gateway row.logs = some url) (hfetch : Page.Fetch env url w outcome u)
    (h : c.container row env w = (.ok found, v)) :
    row.Named outcome ∧ found = row.listed? outcome ∧
      v = { u with trace := u.trace ++ row.report outcome } := by
  simp only [container, hurl] at h
  rw [bind_ok hfetch.reachable] at h
  cases outcome with
  | error message =>
      have h : (Except.ok none, { u with trace := u.trace ++ row.report (.error message) }) =
          (Except.ok found, v) := h
      cases h
      exact ⟨nofun, rfl, rfl⟩
  | ok page =>
      cases havailable : page.isLogAvailable with
      | false =>
          simp only [havailable, Bool.not_false, if_true] at h
          cases h
          have hlisted := row.listed?_of_unavailable havailable
          refine ⟨?_, hlisted.symm, by simp [ContainerRow.report, hlisted]⟩
          rintro page' ⟨⟩ htrue
          exact nomatch havailable.symm.trans htrue
      | true =>
          simp only [havailable, Bool.not_true, Bool.false_eq_true, if_false] at h
          cases hhost : row.hostName with
          | error m =>
              rw [hhost] at h
              exact nomatch h
          | ok host =>
              have hlisted := ContainerRow.listed?_of_available havailable hhost
              rw [hhost, bind_ok (show ofMisfit (.ok host) env u = (.ok host, u) from rfl)] at h
              obtain ⟨_, u', hgive, h⟩ := bind_eq_ok h
              cases h
              refine ⟨fun _ _ _ => ⟨host, hhost⟩, hlisted.symm, ?_⟩
              rw [give_eq_ok hgive]
              simp [ContainerRow.report, hlisted, given]

/-- The fetches of the log pages of some rows that have been made are the discovery of their containers. -/
theorem Fetches.run {c : Cluster τ} {env : Surroundings τ} {w v : World (Page.Cache τ) τ}
    {rows : List ContainerRow} {outcomes : List (Except String Page)}
    (h : c.Fetches env w rows outcomes v) (hfollowed : Followed env)
    (hnamed : List.Forall₂ ContainerRow.Named rows outcomes) :
    c.containersOf rows env w = (.ok (listed rows outcomes), v) := by
  induction h with
  | nil => rfl
  | @cons w u v row rows url outcome outcomes hurl hfetch hrest ih =>
      obtain ⟨hfirst, hothers⟩ := List.forall₂_cons.1 hnamed
      simp only [containersOf]
      rw [bind_ok (container_run hfollowed hurl hfirst hfetch), bind_ok (ih hothers), listed_cons]
      rfl

theorem exists_fetches {c : Cluster τ} {env : Surroundings τ} {rows : List ContainerRow}
    (hreadable : ∀ row ∈ rows, c.Readable row)
    (hanswers : ∀ url ∈ c.logUrls rows, Page.Answers env url) (w : World (Page.Cache τ) τ) :
    ∃ outcomes v, c.Fetches env w rows outcomes v := by
  induction rows generalizing w with
  | nil => exact ⟨[], w, .nil w⟩
  | cons row rows ih =>
      obtain ⟨⟨url, hurl⟩, hhost⟩ := hreadable row List.mem_cons_self
      rw [logUrls_cons hurl] at hanswers
      -- What the fetch leaves in the cache is part of the world in which the other rows are read.
      obtain ⟨outcome, u, hfetch⟩ := Page.exists_fetch (hanswers url List.mem_cons_self) w
      obtain ⟨outcomes, v, hfetches⟩ := ih
        (fun r hr => hreadable r (List.mem_cons_of_mem row hr))
        (fun other hother => hanswers other (List.mem_cons_of_mem url hother))
        { u with trace := u.trace ++ row.report outcome }
      exact ⟨outcome :: outcomes, v, .cons hurl hfetch hfetches⟩

theorem containersOf_run {c : Cluster τ} {env : Surroundings τ} {rows : List ContainerRow}
    (hfollowed : Followed env) (hreadable : ∀ row ∈ rows, c.Readable row)
    (hanswers : ∀ url ∈ c.logUrls rows, Page.Answers env url) (w : World (Page.Cache τ) τ) :
    ∃ outcomes v, c.Fetches env w rows outcomes v ∧
      c.containersOf rows env w = (.ok (listed rows outcomes), v) := by
  obtain ⟨outcomes, v, hfetches⟩ := exists_fetches hreadable hanswers w
  refine ⟨outcomes, v, hfetches, hfetches.run hfollowed (List.forall₂_iff_zip.2 ⟨?_, ?_⟩)⟩
  · exact hfetches.length_eq.symm
  · intro row outcome hmem page _ _
    exact (hreadable row (List.of_mem_zip hmem).1).2

/-- Work that discovered the containers of some rows, whose log pages were fetched. -/
theorem Fetches.of_run {c : Cluster τ} {env : Surroundings τ} {w v v' : World (Page.Cache τ) τ}
    {rows : List ContainerRow} {outcomes : List (Except String Page)} {found : List (String × String)}
    (h : c.Fetches env w rows outcomes v) (hrun : c.containersOf rows env w = (.ok found, v')) :
    found = listed rows outcomes ∧ List.Forall₂ ContainerRow.Named rows outcomes := by
  induction h generalizing found v' with
  | nil =>
      obtain ⟨rfl, -⟩ : [] = found ∧ _ := by simpa [containersOf] using hrun
      exact ⟨rfl, .nil⟩
  | @cons w u v row rows url outcome outcomes hurl hfetch hrest ih =>
      simp only [containersOf] at hrun
      obtain ⟨first, u', hfirst, hrun⟩ := bind_eq_ok hrun
      obtain ⟨others, v', hothers, hrun⟩ := bind_eq_ok hrun
      obtain ⟨hnamed, rfl, rfl⟩ := container_eq_ok hurl hfetch hfirst
      obtain ⟨rfl, hall⟩ := ih hothers
      obtain ⟨rfl, -⟩ : _ = found ∧ _ := by simpa using hrun
      exact ⟨(listed_cons row rows outcome outcomes).symm, .cons hnamed hall⟩

/-- The containers that are listed are given, in the order of their rows. -/
theorem Fetches.items {c : Cluster τ} {env : Surroundings τ} {w v : World (Page.Cache τ) τ}
    {rows : List ContainerRow} {outcomes : List (Except String Page)}
    (h : c.Fetches env w rows outcomes v) :
    v.trace.items = w.trace.items ++ (listed rows outcomes).map given := by
  induction h with
  | nil w => simp [listed]
  | @cons w u v row rows url outcome outcomes hurl hfetch hrest ih =>
      rw [ih, listed_cons, List.map_append, Trace.items_append, hfetch.items, row.items_report,
        List.append_assoc]

/-- Pages are loaded only for the rows, in the order of the rows. -/
theorem Fetches.loads {c : Cluster τ} {env : Surroundings τ} {w v : World (Page.Cache τ) τ}
    {rows : List ContainerRow} {outcomes : List (Except String Page)}
    (h : c.Fetches env w rows outcomes v) :
    ∃ urls : List String, urls.Sublist (c.logUrls rows) ∧ v.trace.loads = w.trace.loads ++ urls.map .get := by
  induction h with
  | nil w => exact ⟨[], .slnil, by simp⟩
  | @cons w u v row rows url outcome outcomes hurl hfetch hrest ih =>
      obtain ⟨urls, hsublist, hloads⟩ := ih
      rw [logUrls_cons hurl]
      rw [Trace.loads_append, row.loads_report, List.append_nil] at hloads
      rcases hfetch.loads with hnone | hone
      · exact ⟨urls, hsublist.cons url, by rw [hloads, hnone]⟩
      · exact ⟨url :: urls, hsublist.cons_cons url, by rw [hloads, hone]; simp⟩

/-! ## Two discoveries -/

/-- What two runs of fetches came to is the same for every row whose log page is not at `url`. -/
def SameOutcomes (c : Cluster τ) (url : String) (rows : List ContainerRow)
    (outcomes outcomes' : List (Except String Page)) : Prop :=
  ∀ (i : Nat) (row : ContainerRow), rows[i]? = some row → Url.join? c.gateway row.logs ≠ some url →
    outcomes[i]? = outcomes'[i]?

/-- Two lists of containers are the same, except that one container may be in the one and not in the
other. -/
def SameBut (found : String × String) (xs ys : List (String × String)) : Prop :=
  ∃ before after x y, xs = before ++ x ++ after ∧ ys = before ++ y ++ after ∧
    (x = [] ∨ x = [found]) ∧ (y = [] ∨ y = [found])

omit [Timeline τ] in
theorem listed_append_cons {front back : List ContainerRow} (row : ContainerRow)
    {os : List (Except String Page)} (outcome : Except String Page) (os' : List (Except String Page))
    (hlength : front.length = os.length) :
    listed (front ++ row :: back) (os ++ outcome :: os') =
      listed front os ++ (row.listed? outcome).toList ++ listed back os' := by
  rw [List.append_assoc, ← listed_cons]
  unfold listed
  rw [List.zip_append hlength, List.filterMap_append]

theorem getElem?_append_cons_after {α : Type} {n : Nat} (xs : List α) (y : α) (zs : List α) (i : Nat)
    (hn : n = xs.length) :
    (xs ++ y :: zs)[n + 1 + i]? = zs[i]? := by
  rw [List.getElem?_append_right (by omega)]
  have hindex : n + 1 + i - xs.length = i + 1 := by omega
  rw [hindex, List.getElem?_cons_succ]

theorem exists_append_cons {α β : Type} {front back : List α} {a : α} {xs : List β}
    (h : xs.length = (front ++ a :: back).length) :
    ∃ before x after, xs = before ++ x :: after ∧ front.length = before.length := by
  have hlt : front.length < xs.length := by
    simp only [List.length_append, List.length_cons] at h
    omega
  refine ⟨xs.take front.length, xs[front.length], xs.drop (front.length + 1), ?_, ?_⟩
  · rw [← List.drop_eq_getElem_cons hlt, List.take_append_drop]
  · simp only [List.length_take]
    omega

omit [Timeline τ] in
theorem sameBut_of_sameOutcomes {c : Cluster τ} {url host : String} {front back : List ContainerRow}
    {row : ContainerRow} {outcomes outcomes' : List (Except String Page)}
    (hlength : outcomes.length = (front ++ row :: back).length)
    (hlength' : outcomes'.length = (front ++ row :: back).length)
    (hurl : Url.join? c.gateway row.logs = some url) (hhost : row.hostName = .ok host)
    (hnodup : (c.logUrls (front ++ row :: back)).Nodup)
    (hsame : c.SameOutcomes url (front ++ row :: back) outcomes outcomes') :
    SameBut (host, Text.trim row.id) (listed (front ++ row :: back) outcomes)
      (listed (front ++ row :: back) outcomes') := by
  have hurls : c.logUrls (front ++ row :: back) = c.logUrls front ++ url :: c.logUrls back := by
    simp [logUrls, hurl]
  rw [hurls, List.nodup_middle, List.nodup_cons, List.mem_append, not_or] at hnodup
  obtain ⟨⟨hfront, hback⟩, -⟩ := hnodup
  have hother {rows : List ContainerRow} (hrows : url ∉ c.logUrls rows) {r : ContainerRow} (hr : r ∈ rows) :
      Url.join? c.gateway r.logs ≠ some url :=
    fun hjoin => hrows (List.mem_filterMap.2 ⟨r, hr, hjoin⟩)
  -- No other row has its log page at `url`, so the outcomes before and after that of `row` are the same.
  obtain ⟨before, outcome, after, rfl, hbefore⟩ := exists_append_cons hlength
  obtain ⟨before', outcome', after', rfl, hbefore'⟩ := exists_append_cons hlength'
  obtain rfl : before = before' := by
    refine List.ext_getElem? fun i => ?_
    by_cases hi : i < front.length
    · have hi' := hsame i front[i]
        (by rw [List.getElem?_append_left hi, List.getElem?_eq_getElem hi]) (hother hfront (List.getElem_mem hi))
      rwa [List.getElem?_append_left (by omega), List.getElem?_append_left (by omega)] at hi'
    · rw [List.getElem?_eq_none (by omega), List.getElem?_eq_none (by omega)]
  obtain rfl : after = after' := by
    refine List.ext_getElem? fun i => ?_
    by_cases hi : i < back.length
    · have hi' := hsame (front.length + 1 + i) back[i]
        (by rw [getElem?_append_cons_after front row back i rfl, List.getElem?_eq_getElem hi])
        (hother hback (List.getElem_mem hi))
      rwa [getElem?_append_cons_after _ _ _ i hbefore, getElem?_append_cons_after _ _ _ i hbefore] at hi'
    · simp only [List.length_append, List.length_cons] at hlength hlength'
      rw [List.getElem?_eq_none (by omega), List.getElem?_eq_none (by omega)]
  have hfound (o : Except String Page) : (row.listed? o).toList = [] ∨
      (row.listed? o).toList = [(host, Text.trim row.id)] := by
    cases o with
    | error message => exact Or.inl rfl
    | ok page =>
        cases havailable : page.isLogAvailable with
        | false => exact Or.inl (by rw [row.listed?_of_unavailable havailable]; rfl)
        | true => exact Or.inr (by rw [ContainerRow.listed?_of_available havailable hhost]; rfl)
  exact ⟨listed front before, listed back after, (row.listed? outcome).toList,
    (row.listed? outcome').toList, listed_append_cons row outcome after hbefore,
    listed_append_cons row outcome' after hbefore, hfound outcome, hfound outcome'⟩

/-- The service answers for every other log page in both surroundings the same, whenever it is asked, and
whatever is kept of these pages is what it answers. -/
structure SameElsewhere (c : Cluster τ) (rows : List ContainerRow) (url : String)
    (env env' : Surroundings τ) (cache cache' : Page.Cache τ) : Prop where
  answered : ∀ other ∈ c.logUrls rows, other ≠ url → ∀ t t', env.page t other = env'.page t' other
  kept : ∀ e, e ∈ cache.entries ∨ e ∈ cache'.entries → e.url ∈ c.logUrls rows → e.url ≠ url →
    Page.ofAnswer e.url (env.page [] e.url) = .ok e.page

/-- Where the service answers steadily and what is kept is what it answers, every fetch comes to that
answer, whatever the fetches before it have left in the cache. -/
theorem Fetches.steady {c : Cluster τ} {env : Surroundings τ} {w v : World (Page.Cache τ) τ}
    {rows : List ContainerRow} {outcomes : List (Except String Page)} {url : String}
    (h : c.Fetches env w rows outcomes v)
    (hsteady : ∀ other ∈ c.logUrls rows, other ≠ url → ∀ t, env.page t other = env.page [] other)
    (hkept : ∀ e ∈ w.memory.entries, e.url ∈ c.logUrls rows → e.url ≠ url →
      Page.ofAnswer e.url (env.page [] e.url) = .ok e.page)
    {i : Nat} {row : ContainerRow} {other : String} (hrow : rows[i]? = some row)
    (hjoin : Url.join? c.gateway row.logs = some other) (hne : other ≠ url) :
    (outcomes[i]?).map .ok = some (heard (Page.ofAnswer other (env.page [] other))) := by
  induction h generalizing i with
  | nil w => cases hrow
  | @cons w u v first rows firstUrl outcome outcomes hurl hfetch hrest ih =>
      rw [logUrls_cons hurl] at hsteady hkept
      cases i with
      | zero =>
          obtain rfl : first = row := by simpa using hrow
          obtain rfl : firstUrl = other := Option.some.inj (hurl.symm.trans hjoin)
          rw [hfetch.steady (hsteady firstUrl List.mem_cons_self hne) fun e he heq =>
            heq ▸ hkept e he (heq ▸ List.mem_cons_self) (heq ▸ hne)]
          rfl
      | succ i =>
          refine ih (fun o ho => hsteady o (List.mem_cons_of_mem _ ho)) ?_ hrow
          intro e he hmem hother
          rcases hfetch.mem_entries he with hold | ⟨rfl, t, hnew⟩
          · exact hkept e hold (List.mem_cons_of_mem _ hmem) hother
          · rw [← hsteady _ List.mem_cons_self hother t, hnew]

theorem SameElsewhere.sameOutcomes {c : Cluster τ} {rows : List ContainerRow} {url : String}
    {env env' : Surroundings τ} {w w' v v' : World (Page.Cache τ) τ}
    {outcomes outcomes' : List (Except String Page)}
    (h : c.SameElsewhere rows url env env' w.memory w'.memory)
    (hreadable : ∀ row ∈ rows, c.Readable row)
    (hfetches : c.Fetches env w rows outcomes v) (hfetches' : c.Fetches env' w' rows outcomes' v') :
    c.SameOutcomes url rows outcomes outcomes' := by
  intro i row hrow hurl
  obtain ⟨⟨other, hother⟩, -⟩ := hreadable row (List.mem_of_getElem? hrow)
  have hne : other ≠ url := fun heq => hurl (heq ▸ hother)
  have hmem : other ∈ c.logUrls rows := List.mem_filterMap.2 ⟨row, List.mem_of_getElem? hrow, hother⟩
  have hhere := hfetches.steady
    (fun o ho hne t => (h.answered o ho hne t []).trans (h.answered o ho hne [] []).symm)
    (fun e he => h.kept e (.inl he)) hrow hother hne
  have hthere := hfetches'.steady
    (fun o ho hne t => (h.answered o ho hne [] t).symm.trans (h.answered o ho hne [] []))
    (fun e he hu hne => h.answered e.url hu hne [] [] ▸ h.kept e (.inr he) hu hne) hrow hother hne
  rw [← h.answered other hmem hne [] [], ← hhere] at hthere
  exact Option.map_injective (fun _ _ heq => Except.ok.inj heq) hthere.symm

/-- The page of an attempt has been accepted, its rows can be read, each log page comes or cannot be
reached, and whoever follows takes every container. -/
structure Discovery (c : Cluster τ) (p : Polling τ) (attempt : String) (env : Surroundings τ)
    (w : World (Page.Cache τ) τ) (page : Page) (u : World (Page.Cache τ) τ) : Prop where
  accepted : c.attemptPage p attempt env w = (.ok page, u)
  readable : ∀ row ∈ page.containerRows, c.Readable row
  answers : ∀ url ∈ c.logUrls page.containerRows, Page.Answers env url
  followed : Followed env

/-- What a discovery comes to: the log page of every row that describes a container is fetched, in the order
of the rows, and the containers whose log page came with logs are given, and are the result. -/
structure Discovered (c : Cluster τ) (p : Polling τ) (attempt : String) (env : Surroundings τ)
    (w : World (Page.Cache τ) τ) (page : Page) (u : World (Page.Cache τ) τ)
    (outcomes : List (Except String Page)) (v : World (Page.Cache τ) τ) : Prop where
  described : ∀ row, row ∈ page.containerRows ↔
    ∃ table, page.table? "containers" = some table ∧ ∃ r ∈ table.rows, Describes r row
  rows : ∀ table, page.table? "containers" = some table →
    Picks Describes table.rows page.containerRows
  fetches : c.Fetches env u page.containerRows outcomes v
  result : c.containers p attempt env w = (.ok (listed page.containerRows outcomes), v)
  picked : Picks (fun x found => ListedAs x.1 x.2 found) (page.containerRows.zip outcomes)
    (listed page.containerRows outcomes)
  items : v.trace.items = u.trace.items ++ (listed page.containerRows outcomes).map given
  loads : ∃ urls : List String, urls.Sublist (c.logUrls page.containerRows) ∧
    v.trace.loads = u.trace.loads ++ urls.map .get

/-- Once the page of an attempt is accepted, what is left is to go through its rows. -/
theorem containers_eq {c : Cluster τ} {p : Polling τ} {attempt : String} {env : Surroundings τ}
    {w u : World (Page.Cache τ) τ} {page : Page} (h : c.attemptPage p attempt env w = (.ok page, u)) :
    c.containers p attempt env w = c.containersOf page.containerRows env u := by
  unfold containers
  rw [bind_ok h]
  unfold Page.containerRows
  cases page.table? "containers" <;> rfl

theorem Discovery.containers_eq {c : Cluster τ} {p : Polling τ} {attempt : String}
    {env : Surroundings τ} {w u : World (Page.Cache τ) τ} {page : Page}
    (h : c.Discovery p attempt env w page u) :
    c.containers p attempt env w = c.containersOf page.containerRows env u :=
  Cluster.containers_eq h.accepted

theorem Discovery.discovered {c : Cluster τ} {p : Polling τ} {attempt : String} {env : Surroundings τ}
    {w u : World (Page.Cache τ) τ} {page : Page} (h : c.Discovery p attempt env w page u) :
    ∃ outcomes v, c.Discovered p attempt env w page u outcomes v := by
  obtain ⟨outcomes, v, hfetches, hrun⟩ := containersOf_run h.followed h.readable h.answers u
  exact ⟨outcomes, v, fun _ => mem_containerRows_iff, fun _ => containerRows_picks, hfetches,
    h.containers_eq.trans hrun, listed_picks _ _, hfetches.items, hfetches.loads⟩

/-- The containers of an attempt are those rows, in order, whose log page came with logs.  Another
discovery over the same rows that hears the same of all log pages but one finds the same containers, the
container of that page apart; and it does hear the same if the service answers the same for them. -/
theorem containers_listed {c : Cluster τ} {p : Polling τ} {attempt : String} {env : Surroundings τ}
    {w u : World (Page.Cache τ) τ} {page : Page} (h : c.Discovery p attempt env w page u) :
    ∃ outcomes v, c.Discovered p attempt env w page u outcomes v ∧
      ∀ env' w' page' u' outcomes' v', c.Discovery p attempt env' w' page' u' →
        c.Discovered p attempt env' w' page' u' outcomes' v' →
        page'.containerRows = page.containerRows → ∀ url,
          (c.SameElsewhere page.containerRows url env env' u.memory u'.memory →
            c.SameOutcomes url page.containerRows outcomes outcomes') ∧
          ((c.logUrls page.containerRows).Nodup →
            c.SameOutcomes url page.containerRows outcomes outcomes' →
            ∀ row ∈ page.containerRows, Url.join? c.gateway row.logs = some url →
              ∃ host, row.hostName = .ok host ∧
                SameBut (host, Text.trim row.id) (listed page.containerRows outcomes)
                  (listed page'.containerRows outcomes')) := by
  obtain ⟨outcomes, v, hdiscovered⟩ := h.discovered
  refine ⟨outcomes, v, hdiscovered, ?_⟩
  intro env' w' page' u' outcomes' v' h' hdiscovered' hrows url
  have hfetches := hdiscovered.fetches
  have hfetches' := hdiscovered'.fetches
  rw [hrows] at hfetches' ⊢
  refine ⟨fun helse => helse.sameOutcomes h.readable hfetches hfetches', ?_⟩
  intro hnodup hsame row hrow hurl
  obtain ⟨-, host, hhost⟩ := h.readable row hrow
  obtain ⟨front, back, hsplit⟩ := List.append_of_mem hrow
  have hlength := hfetches.length_eq
  have hlength' := hfetches'.length_eq
  rw [hsplit] at hnodup hsame hlength hlength' ⊢
  exact ⟨host, hhost, sameBut_of_sameOutcomes hlength hlength' hurl hhost hnodup hsame⟩

/-- The page of an attempt with three containers, the last of them without a link to its logs. -/
def threeContainers : String :=
  "<table id=info><tr><td>Application Attempt State:</td><td>RUNNING</td></tr></table>" ++
  "<table id=containers><tr><td>c1</td><td>http://n1:1</td><td></td><td><a href=/1></td></tr>" ++
  "<tr><td>c2</td><td>n2</td><td></td><td><a href=/2></td></tr><tr><td>c3</td></tr></table>"

/-- A resource manager that has the logs of the first container and fails for the second. -/
def containerServer : Surroundings Number where
  answer _ _ := .broken "refused"
  page _ url :=
    if url = "http://livy:8998/yarnui/hn/cluster/appattempt/attempt_1" then
      .reply 200 (some threeContainers) none
    else if url = "http://livy:8998/1" then .reply 200 (some "log of c1") none
    else .reply 500 none none
  halt _ := none
  confirms _ := false
  picks _ := []
  turn _ := 0
  waits := true
  connects := false
  patience := 9

def threeRows : Page :=
  let plain (text : String) : Cell := ⟨text, none⟩
  let row (id host link : String) : Row := ⟨[plain id, plain host, plain "", ⟨"", some link⟩]⟩
  ⟨"http://livy:8998/yarnui/hn/cluster/appattempt/attempt_1",
    [⟨some "info", [], [⟨[plain "Application Attempt State:", plain "RUNNING"]⟩]⟩,
      ⟨some "containers", [], [row "c1" "http://n1:1" "/1", row "c2" "n2" "/2", ⟨[plain "c3"]⟩]⟩],
    "Application Attempt State: RUNNING c1 http://n1:1 c2 n2 c3"⟩

theorem ofHtml_threeContainers : Page.ofHtml threeRows.url threeContainers = .ok threeRows := by
  decide +kernel

theorem containerRows_threeRows :
    threeRows.containerRows = [⟨"c1", "http://n1:1", "/1"⟩, ⟨"c2", "n2", "/2"⟩] := by
  decide +kernel

theorem containers_listed_of_threeContainers :
    let c : Cluster Number := .on "http://livy:8998/batches" "/yarnui" (.whole 3)
    let p : Polling Number := ⟨3, .whole 5⟩
    let w : World (Page.Cache Number) Number := ⟨.empty (.whole 10) 100, .whole 0, []⟩
    ∃ u outcomes v, c.Discovery p "attempt_1" containerServer w threeRows u ∧
      c.Discovered p "attempt_1" containerServer w threeRows u outcomes v ∧
      listed threeRows.containerRows outcomes = [("n1", "c1")] := by
  intro c p w
  have hlog : Page.ofHtml "http://livy:8998/1" "log of c1" =
      .ok ⟨"http://livy:8998/1", [], "log of c1"⟩ := by
    decide +kernel
  have hurls : c.logUrls threeRows.containerRows = ["http://livy:8998/1", "http://livy:8998/2"] := by
    decide +kernel
  have hanswer (t : Trace Number) :
      Page.ofAnswer threeRows.url (containerServer.page t threeRows.url) = .ok threeRows := by
    have hreply : containerServer.page t threeRows.url = .reply 200 (some threeContainers) none := by
      simp [containerServer, threeRows]
    rw [hreply]
    exact Page.ofAnswer_html (by decide) ofHtml_threeContainers
  have haccepted := attemptPage_of_isPastLaunch (c := c) (p := p) (w := w) (by decide)
    (show c.attemptPageUrl "attempt_1" = .ok threeRows.url by decide +kernel)
    (show containerServer.halt _ = none from rfl) (hanswer _) (by decide +kernel)
  have hreadable : ∀ row ∈ threeRows.containerRows, c.Readable row := by
    rw [containerRows_threeRows]
    simp only [List.forall_mem_cons, List.not_mem_nil, false_implies, implies_true, and_true]
    refine ⟨⟨⟨"http://livy:8998/1", ?_⟩, "n1", ?_⟩, ⟨⟨"http://livy:8998/2", ?_⟩, "n2", ?_⟩⟩
    all_goals decide +kernel
  have hanswers : ∀ url ∈ c.logUrls threeRows.containerRows, Page.Answers containerServer url := by
    rw [hurls]
    simp only [List.forall_mem_cons, List.not_mem_nil, false_implies, implies_true, and_true]
    exact ⟨fun _ => .inl ⟨_, Page.ofAnswer_html (by decide) hlog⟩,
      fun _ => .inr ⟨"GET http://livy:8998/2 returned 500", rfl⟩⟩
  have hdiscovery : c.Discovery p "attempt_1" containerServer w threeRows _ :=
    ⟨haccepted, hreadable, hanswers, fun _ _ => rfl⟩
  obtain ⟨outcomes, v, hdiscovered, -⟩ := containers_listed hdiscovery
  refine ⟨_, outcomes, v, hdiscovery, hdiscovered, ?_⟩
  have hfound := congrArg (fun r => r.1.toOption) (hdiscovery.containers_eq.symm.trans hdiscovered.result)
  exact Option.some.inj (hfound.symm.trans (by decide +kernel))

end Cluster

end SparkGateway
