import SparkGateway.Proofs.Cluster.Discovery
import SparkGateway.Proofs.Exchange.Composed
import SparkGateway.Proofs.Page.Coherence

/-!
# Discovering containers once more

A discovery loads the page of the attempt anew, as often as it takes, and keeps each of these pages in the
cache that also keeps the log pages.  If there is room for all of them (`Cache.Roomy`), the page of the
attempt takes the place of no log page (`attemptPage_reloaded`).  So after a discovery for which every log
page came, each of them is kept (`Fetches.shelved`), and another discovery over the same rows finds all of
them in the cache: it gives the same containers and loads only the page of the attempt, whatever the service
would answer for the log pages by then (`containers_rediscovered`).
-/

namespace SparkGateway

open Run

/-! ## A cache with room for all its pages -/

namespace Page

variable {τ : Type} [Timeline τ] {c : Cache τ} {urls : List String} {url : String}

/-- A cache keeps pages of some addresses only, each at most once, and has room for all of them. -/
structure Cache.Roomy (c : Cache τ) (urls : List String) : Prop where
  keeps : c.keeps = true
  nodup : (c.entries.map Stored.url).Nodup
  known : ∀ e ∈ c.entries, e.url ∈ urls
  room : (urls.dedup.length : Int) ≤ c.room

/-- Asking a cache for a page at a time gives it, and leaves the cache as it is. -/
def Cache.Serves (c : Cache τ) (now : τ) (url : String) (page : Page) : Prop :=
  c.get now url = (some page, c)

theorem Cache.serves_iff (hc : (c.entries.map Stored.url).Nodup) (now : τ) (url : String) (page : Page) :
    c.Serves now url page ↔
      ∃ e ∈ c.entries, e.url = url ∧ e.page = page ∧ c.expired now e = false := by
  have hget := get_fst_iff hc now url page
  constructor
  · intro hserves
    obtain ⟨e, hfresh, hurl, hpage⟩ := hget.1 (congrArg Prod.fst hserves)
    obtain ⟨he, hexpired⟩ := List.mem_filter.1 hfresh
    exact ⟨e, he, hurl, hpage, by simpa [fresh] using hexpired⟩
  · rintro ⟨e, he, hurl, hpage, hexpired⟩
    have hfresh : e ∈ c.entries.filter (c.fresh now) := List.mem_filter.2 ⟨he, by simp [fresh, hexpired]⟩
    have hfst := hget.2 ⟨e, hfresh, hurl, hpage⟩
    have hsame := (get_some (Prod.ext hfst rfl : c.get now url = (some page, (c.get now url).2))).1
    exact Prod.ext hfst hsame

/-- Nothing has to make room for a page, apart from an older one of its address. -/
theorem Cache.Roomy.entries_put (h : c.Roomy urls) (hurl : url ∈ urls) (now : τ) (page : Page) :
    (c.put now url page).entries = (c.drop url).entries ++ [⟨url, now, page⟩] := by
  have hfew : (c.drop url).entries.length < urls.dedup.length := by
    refine length_lt_of_urls (h.nodup.sublist (List.filter_sublist.map _)) ?_ (List.mem_dedup.2 hurl)
    intro e he
    obtain ⟨hmem, hne⟩ := List.mem_filter.1 he
    exact ⟨List.mem_dedup.2 (h.known e hmem), by simpa using hne⟩
  have hroom := h.room
  rw [put_of_keeps h.keeps]
  refine rtake_of_length_le ?_
  show ((c.drop url).entries ++ _).length ≤ _
  rw [List.length_append, List.length_singleton]
  omega

theorem Cache.Roomy.mem_put_iff (h : c.Roomy urls) (hurl : url ∈ urls) (now : τ) (page : Page)
    {e : Stored τ} :
    e ∈ (c.put now url page).entries ↔ e ∈ c.entries ∧ e.url ≠ url ∨ e = ⟨url, now, page⟩ := by
  rw [h.entries_put hurl]
  simp [Cache.drop]

theorem Cache.Roomy.put (h : c.Roomy urls) (hurl : url ∈ urls) (now : τ) (page : Page) :
    (c.put now url page).Roomy urls := by
  obtain ⟨hlifetime, hroom⟩ := c.put_bounds now url page
  refine ⟨?_, ?_, fun e he => ?_, ?_⟩
  · rw [← h.keeps]
    simp [Cache.keeps, hlifetime, hroom]
  · rw [h.entries_put hurl]
    exact nodup_filter_append h.nodup ⟨url, now, page⟩
  · rcases (h.mem_put_iff hurl now page).1 he with ⟨hmem, -⟩ | rfl
    · exact h.known e hmem
    · exact hurl
  · rw [hroom]
    exact h.room

/-- What looking for a page in vain has dropped is dropped anyway when the page is stored. -/
theorem Unkept.put_eq {w : World (Cache τ) τ} {fresh : Bool} {cache : Cache τ}
    (h : Unkept url fresh w cache) (hkeeps : w.memory.keeps = true) (now : τ) (page : Page) :
    cache.put now url page = w.memory.put now url page := by
  rcases h.eq_or_drop with rfl | ⟨e, -, -, -, rfl⟩
  · rfl
  · have hsame : (w.memory.drop url).keeps = true := hkeeps
    rw [Cache.put, Cache.put, if_pos hsame, if_pos hkeeps]
    simp [Cache.drop, List.filter_filter]

/-- A page that is stored takes no other page away. -/
theorem Cache.Roomy.serves_put_of_ne (h : c.Roomy urls) (hurl : url ∈ urls) {other : String}
    (hne : other ≠ url) {now t : τ} {page page' : Page} (hserves : c.Serves now other page') :
    (c.put t url page).Serves now other page' := by
  obtain ⟨e, he, rfl, hpage, hexpired⟩ := (serves_iff h.nodup now other page').1 hserves
  refine (serves_iff (h.put hurl t page).nodup now e.url page').2 ⟨e, ?_, rfl, hpage, ?_⟩
  · exact (h.mem_put_iff hurl t page).2 (.inl ⟨he, hne⟩)
  · rw [← hexpired]
    simp [Cache.expired, (c.put_bounds t url page).1]

/-- What a world has become after which every page that was given is still given. -/
structure Shelved (urls : List String) (w v : World (Cache τ) τ) : Prop where
  roomy : v.memory.Roomy urls
  lifetime : v.memory.lifetime = w.memory.lifetime
  serves : ∀ url page, w.memory.Serves w.now url page → v.memory.Serves v.now url page

theorem Shelved.trans {u w v : World (Cache τ) τ} (h : Shelved urls u w) (h' : Shelved urls w v) :
    Shelved urls u v :=
  ⟨h'.roomy, h'.lifetime.trans h.lifetime,
    fun url page hserves => h'.serves url page (h.serves url page hserves)⟩

variable [AddCommGroup τ] [LinearOrder τ] [Timeline.Exact τ]

theorem Cache.expired_eq_false_iff {now : τ} {e : Stored τ} :
    c.expired now e = false ↔ now - e.since ≤ c.lifetime := by
  rw [← fresh_iff, Cache.fresh, Bool.not_eq_true']

/-- A page that was just stored is given, since it has no age yet. -/
theorem Cache.Roomy.serves_put (h : c.Roomy urls) (hurl : url ∈ urls) (now : τ) (page : Page) :
    (c.put now url page).Serves now url page := by
  refine (serves_iff (h.put hurl now page).nodup now url page).2 ⟨⟨url, now, page⟩, ?_, rfl, rfl, ?_⟩
  · exact (h.mem_put_iff hurl now page).2 (.inr rfl)
  · rw [expired_eq_false_iff, sub_self, (c.put_bounds now url page).1]
    exact (keeps_iff.1 h.keeps).1.le

/-- A page that came is kept after its fetch, and all that was kept is kept. -/
theorem Fetch.shelved {env : Surroundings τ} {w v : World (Cache τ) τ} {page : Page}
    (h : Fetch env url w (.ok page) v) (hroomy : w.memory.Roomy urls) (hurl : url ∈ urls) :
    Shelved urls w v ∧ v.memory.Serves v.now url page := by
  cases h with
  | kept hget =>
      obtain ⟨rfl, -⟩ := Cache.get_some hget
      exact ⟨⟨hroomy, rfl, fun _ _ hserves => hserves⟩, hget⟩
  | @came _ cache hget _ =>
      have hunkept : Unkept url false w cache := .inr ⟨rfl, hget⟩
      rw [hunkept.put_eq hroomy.keeps]
      refine ⟨⟨hroomy.put hurl w.now page, (w.memory.put_bounds w.now url page).1, ?_⟩,
        hroomy.serves_put hurl w.now page⟩
      intro other page' hserves
      refine hroomy.serves_put_of_ne hurl ?_ hserves
      -- the page that was looked for in vain is none of those that are kept
      rintro rfl
      exact nomatch hserves.symm.trans hget

end Page

namespace Cluster

variable {τ : Type} [Timeline τ] {c : Cluster τ} {p : Polling τ} {attempt url : String}
  {urls : List String} {env : Surroundings τ} {w u v : World (Page.Cache τ) τ}
  {rows : List ContainerRow} {outcomes : List (Except String Page)}

/-! ## The page of the attempt is loaded anew -/

/-- What a world has become by loads of one page only. -/
structure Reloaded (urls : List String) (url : String) (w v : World (Page.Cache τ) τ) : Prop where
  roomy : v.memory.Roomy urls
  lifetime : v.memory.lifetime = w.memory.lifetime
  others : ∀ e, e.url ≠ url → (e ∈ v.memory.entries ↔ e ∈ w.memory.entries)
  items : v.trace.items = w.trace.items
  visits : ∃ n, v.trace.visits = w.trace.visits ++ List.replicate n (.get url)

/-- A step that is neither an item nor a request. -/
theorem Reloaded.step (h : Reloaded urls url w v) {s : Step τ} (hitem : s.item? = none)
    (hvisit : s.visit? = none) (t : τ) :
    Reloaded urls url w ⟨v.memory, t, v.trace ++ [s]⟩ := by
  refine ⟨h.roomy, h.lifetime, h.others, ?_, ?_⟩
  · rw [Trace.items_append, h.items]
    simp [Trace.items, hitem]
  · obtain ⟨n, hn⟩ := h.visits
    refine ⟨n, ?_⟩
    rw [Trace.visits_append, hn]
    simp [Trace.visits, hvisit]

/-- Another load of the page, which came or failed. -/
theorem Reloaded.load (h : Reloaded urls url w v) {cache : Page.Cache τ} (hroomy : cache.Roomy urls)
    (hlifetime : cache.lifetime = v.memory.lifetime)
    (hothers : ∀ e, e.url ≠ url → (e ∈ cache.entries ↔ e ∈ v.memory.entries)) :
    Reloaded urls url w ⟨cache, v.now, v.trace ++ Page.loading url⟩ := by
  refine ⟨hroomy, hlifetime.trans h.lifetime, fun e he => (hothers e he).trans (h.others e he), ?_, ?_⟩
  · rw [Trace.items_append, h.items, Page.items_loading, List.append_nil]
  · obtain ⟨n, hn⟩ := h.visits
    refine ⟨n + 1, ?_⟩
    rw [Trace.visits_append, hn, Page.visits_loading, List.append_assoc, List.replicate_succ']

theorem note_reloads (level : Level) (text : String) :
    Preserves env (Reloaded urls url w) (note level text) :=
  fun v h => h.step rfl rfl v.now

theorem sleep_reloads (amount : τ) : Preserves env (Reloaded urls url w) (sleep amount) := by
  intro v h
  unfold sleep
  dsimp only
  split
  · exact h.step rfl rfl v.now
  · exact h.step rfl rfl _

theorem fetch_reloads (hurl : url ∈ urls) : Preserves env (Reloaded urls url w) (Page.fetch url true) := by
  intro v h
  have hfetched := Page.fetch_fetched env url true v
  obtain ⟨⟨r, v'⟩, hrun⟩ : ∃ result, Page.fetch url true env v = result := ⟨_, rfl⟩
  rw [hrun] at hfetched ⊢
  cases hfetched with
  | kept hfresh => cases hfresh
  | @came page _ hunkept _ =>
      obtain ⟨-, rfl⟩ := hunkept.resolve_right fun hkept => Bool.false_ne_true hkept.1.symm
      refine h.load (h.roomy.put hurl v.now page) (v.memory.put_bounds v.now url page).1 fun e he => ?_
      rw [h.roomy.mem_put_iff hurl]
      constructor
      · rintro (⟨hmem, -⟩ | rfl)
        · exact hmem
        · exact absurd rfl he
      · exact fun hmem => .inl ⟨hmem, he⟩
  | failed hunkept _ =>
      obtain ⟨-, rfl⟩ := hunkept.resolve_right fun hkept => Bool.false_ne_true hkept.1.symm
      exact h.load h.roomy rfl fun _ _ => Iff.rfl

theorem attemptTry_reloads (hurl : url ∈ urls) :
    Preserves env (Reloaded urls url w) (c.attemptTry attempt url) := by
  have hclosed := preserves_closed env (Reloaded urls url w)
  refine hclosed.bind (sleep_reloads _) fun _ => hclosed.bind (fetch_reloads hurl) fun page => ?_
  by_cases hpast : page.isPastLaunch = true
  · rw [if_pos hpast]
    exact hclosed.value _
  · rw [if_neg hpast]
    exact hclosed.bind (note_reloads _ _) fun _ => hclosed.value _

/-- However often the page of an attempt is loaded, it takes no other page away. -/
theorem attemptPage_reloaded (hattempt : c.attemptPageUrl attempt = .ok url) (hurl : url ∈ urls)
    (hroomy : w.memory.Roomy urls) {r : Except Stop Page} (hrun : c.attemptPage p attempt env w = (r, v)) :
    Reloaded urls url w v := by
  have hplain : Plain (Preserves env (Reloaded urls url w))
      (p.seek s!"load attempt page {url}" (c.attemptTry attempt url)) :=
    (Plain.piece (attemptTry_reloads hurl)).seek note_reloads sleep_reloads p _
  have hpreserves := hplain.closed (preserves_closed env _) id
  have hbefore : Reloaded urls url w w := by
    refine ⟨hroomy, rfl, fun _ _ => Iff.rfl, rfl, 0, ?_⟩
    rw [List.replicate_zero, List.append_nil]
  have hafter := hpreserves w hbefore
  rwa [← attemptPage_eq hattempt, hrun] at hafter

/-! ## The log pages are kept -/

/-- The log page of a container came, and is kept. -/
def Shelves (c : Cluster τ) (w : World (Page.Cache τ) τ) (row : ContainerRow)
    (outcome : Except String Page) : Prop :=
  ∃ url page, Url.join? c.gateway row.logs = some url ∧ outcome = .ok page ∧
    w.memory.Serves w.now url page

theorem Shelves.mono {row : ContainerRow} {outcome : Except String Page} (h : c.Shelves w row outcome)
    (hwv : Page.Shelved urls w v) : c.Shelves v row outcome := by
  obtain ⟨url, page, hurl, hpage, hserves⟩ := h
  exact ⟨url, page, hurl, hpage, hwv.serves url page hserves⟩

/-- Loads of another page leave a log page where it is, so it is given as long as it is not too old. -/
theorem Shelves.reloaded {row : ContainerRow} {outcome : Except String Page}
    (h : c.Shelves w row outcome) (hw : (w.memory.entries.map Page.Stored.url).Nodup)
    (hwv : Reloaded urls url w v) (hrow : Url.join? c.gateway row.logs ≠ some url)
    (hyoung : ∀ e ∈ w.memory.entries, Url.join? c.gateway row.logs = some e.url →
      v.memory.expired v.now e = false) : c.Shelves v row outcome := by
  obtain ⟨other, page, hother, rfl, hserves⟩ := h
  obtain ⟨e, he, rfl, hpage, -⟩ := (Page.Cache.serves_iff hw w.now other page).1 hserves
  have hne : e.url ≠ url := fun heq => hrow (heq ▸ hother)
  refine ⟨e.url, page, hother, rfl, (Page.Cache.serves_iff hwv.roomy.nodup v.now e.url page).2 ?_⟩
  exact ⟨e, (hwv.others e hne).2 he, rfl, hpage, hyoung e he hother⟩

/-- Loads of the page of the attempt leave all log pages where they are. -/
theorem forall₂_shelves_reloaded (h : List.Forall₂ (c.Shelves w) rows outcomes)
    (hw : (w.memory.entries.map Page.Stored.url).Nodup) (hwv : Reloaded urls url w v)
    (hother : url ∉ c.logUrls rows)
    (hyoung : ∀ e ∈ w.memory.entries, e.url ∈ c.logUrls rows → v.memory.expired v.now e = false) :
    List.Forall₂ (c.Shelves v) rows outcomes := by
  refine ((List.forall₂_and_left rows outcomes).2 ⟨fun _ => id, h⟩).imp ?_
  rintro row outcome ⟨hrow, hshelves⟩
  have hmem {x : String} (hx : Url.join? c.gateway row.logs = some x) : x ∈ c.logUrls rows :=
    List.mem_filterMap.2 ⟨row, hrow, hx⟩
  exact hshelves.reloaded hw hwv (fun hx => hother (hmem hx)) fun e he hx => hyoung e he (hmem hx)

/-- Where every log page is kept, they are all fetched without a request. -/
theorem fetches_of_shelves (env : Surroundings τ)
    (h : List.Forall₂ (c.Shelves w) rows outcomes) :
    ∃ t : Trace τ, c.Fetches env w rows outcomes { w with trace := w.trace ++ t } ∧ t.visits = [] := by
  induction rows generalizing w outcomes with
  | nil =>
      obtain rfl := List.forall₂_nil_left_iff.1 h
      refine ⟨[], ?_, rfl⟩
      rw [List.append_nil]
      exact .nil w
  | cons row rows ih =>
      obtain ⟨outcome, outcomes, ⟨url, page, hurl, rfl, hserves⟩, hothers, rfl⟩ :=
        List.forall₂_cons_left_iff.1 h
      obtain ⟨t, hfetches, hvisits⟩ := ih (w := { w with trace := w.trace ++ row.report (.ok page) }) hothers
      refine ⟨row.report (.ok page) ++ t, ?_, ?_⟩
      · rw [← List.append_assoc]
        exact .cons hurl (.kept hserves) hfetches
      · rw [Trace.visits_append, row.visits_report, hvisits, List.append_nil]

variable [AddCommGroup τ] [LinearOrder τ] [Timeline.Exact τ]

/-- Where every log page comes and there is room for all of them, they are all kept. -/
theorem Fetches.shelved (h : c.Fetches env w rows outcomes v)
    (hcame : ∀ outcome ∈ outcomes, ∃ page, outcome = .ok page) (hroomy : w.memory.Roomy urls)
    (hurls : ∀ url ∈ c.logUrls rows, url ∈ urls) :
    Page.Shelved urls w v ∧ List.Forall₂ (c.Shelves v) rows outcomes := by
  induction h with
  | nil w => exact ⟨⟨hroomy, rfl, fun _ _ hserves => hserves⟩, .nil⟩
  | @cons w u v row rows url outcome outcomes hurl hfetch hrest ih =>
      rw [logUrls_cons hurl] at hurls
      obtain ⟨page, rfl⟩ := hcame outcome List.mem_cons_self
      obtain ⟨hstep, hserves⟩ := hfetch.shelved hroomy (hurls url List.mem_cons_self)
      obtain ⟨hrun, hothers⟩ := ih (fun o ho => hcame o (List.mem_cons_of_mem _ ho)) hstep.roomy
        fun other hother => hurls other (List.mem_cons_of_mem _ hother)
      have hfirst : c.Shelves u row (.ok page) := ⟨url, page, hurl, rfl, hserves⟩
      have hlater : Page.Shelved urls u v := ⟨hrun.roomy, hrun.lifetime, hrun.serves⟩
      exact ⟨hstep.trans hlater, .cons (hfirst.mono hlater) hothers⟩

/-! ## Another discovery -/

/-- A discovery that accepted the page of the attempt and for which the log page of every container came. -/
structure FullyDiscovered (c : Cluster τ) (p : Polling τ) (attempt : String) (env : Surroundings τ)
    (w : World (Page.Cache τ) τ) (page : Page) (u : World (Page.Cache τ) τ)
    (outcomes : List (Except String Page)) (found : List (String × String))
    (v : World (Page.Cache τ) τ) : Prop where
  accepted : c.attemptPage p attempt env w = (.ok page, u)
  fetches : c.Fetches env u page.containerRows outcomes v
  came : ∀ outcome ∈ outcomes, ∃ log, outcome = .ok log
  result : c.containers p attempt env w = (.ok found, v)

/-- After a discovery that started with an empty cache and for which every log page came, with room for all
of them and the page of the attempt, another one that accepts a page with the same table, before any log
page is too old, gives the same containers and loads nothing but the page of the attempt. -/
theorem containers_rediscovered {p' : Polling τ} {env' : Surroundings τ} {u' : World (Page.Cache τ) τ}
    {page page' : Page} {found : List (String × String)} (hattempt : c.attemptPageUrl attempt = .ok url)
    (hempty : w.memory.entries = []) (hlifetime : 0 < w.memory.lifetime)
    (hroom : ((c.logUrls page.containerRows).dedup.length : Int) ≤ w.memory.room - 1)
    (hother : url ∉ c.logUrls page.containerRows)
    (hfirst : c.FullyDiscovered p attempt env w page u outcomes found v)
    (haccepted : c.attemptPage p' attempt env' v = (.ok page', u'))
    (htable : page'.table? "containers" = page.table? "containers")
    (hyoung : ∀ e ∈ v.memory.entries, e.url ∈ c.logUrls page.containerRows →
      u'.now - e.since ≤ w.memory.lifetime)
    (hfollowed : Followed env') :
    ∃ v', c.containers p' attempt env' v = (.ok found, v') ∧ v'.now = u'.now ∧
      v.trace.items = w.trace.items ++ found.map given ∧
      v'.trace.items = v.trace.items ++ found.map given ∧
      ∃ n, v'.trace.visits = v.trace.visits ++ List.replicate n (.get url) := by
  have hrows : page'.containerRows = page.containerRows := by
    unfold Page.containerRows
    rw [htable]
  have hroomy : w.memory.Roomy (url :: c.logUrls page.containerRows) := by
    refine ⟨Page.Cache.keeps_iff.2 ⟨hlifetime, by omega⟩, by simp [hempty], by simp [hempty], ?_⟩
    rw [List.dedup_cons_of_notMem hother, List.length_cons]
    omega
  -- All three stages leave the room as it is: loads of the page, fetches of the log pages, loads again.
  have hu := attemptPage_reloaded hattempt List.mem_cons_self hroomy hfirst.accepted
  obtain ⟨hv, hkept⟩ := hfirst.fetches.shelved hfirst.came hu.roomy fun _ => List.mem_cons_of_mem _
  have hu' := attemptPage_reloaded hattempt List.mem_cons_self hv.roomy haccepted
  have hstill : List.Forall₂ (c.Shelves u') page.containerRows outcomes := by
    refine forall₂_shelves_reloaded hkept hv.roomy.nodup hu' hother fun e he hlog => ?_
    rw [Page.Cache.expired_eq_false_iff, hu'.lifetime, hv.lifetime, hu.lifetime]
    exact hyoung e he hlog
  -- So every fetch of the other discovery gives what the first one got.
  obtain ⟨t, hfetches, hvisits⟩ := fetches_of_shelves env' hstill
  obtain ⟨rfl, hnamed⟩ := hfirst.fetches.of_run ((containers_eq hfirst.accepted).symm.trans hfirst.result)
  refine ⟨{ u' with trace := u'.trace ++ t }, ?_, rfl, ?_, ?_, ?_⟩
  · rw [containers_eq haccepted, hrows]
    exact hfetches.run hfollowed hnamed
  · rw [hfirst.fetches.items, hu.items]
  · rw [hfetches.items, hu'.items]
  · obtain ⟨n, hn⟩ := hu'.visits
    refine ⟨n, ?_⟩
    rw [Trace.visits_append, hvisits, List.append_nil, hn]

/-- A resource manager that has some pages, and fails for every other one. -/
def havingPages (pages : List (String × String)) : Surroundings Int :=
  { ({} : Replies).surroundings 9 with
    page := fun _ url =>
      match pages.lookup url with
      | some html => .reply 200 (some html) none
      | none => .reply 500 none none }

theorem havingPages_answers {pages : List (String × String)} {url html : String} {page : Page}
    (hhtml : pages.lookup url = some html) (hpage : Page.ofHtml url html = .ok page) (t : Trace Int) :
    Page.ofAnswer url ((havingPages pages).page t url) = .ok page := by
  simp only [havingPages, hhtml]
  exact Page.ofAnswer_html (by decide) hpage

theorem attemptPage_of_havingPages {pages : List (String × String)}
    (h : pages.lookup threeRows.url = some threeContainers) (w : World (Page.Cache Int) Int) :
    (Cluster.on "http://livy:8998/batches" "/yarnui" 3).attemptPage ⟨3, 5⟩ "attempt_1" (havingPages pages) w =
      (.ok threeRows, ⟨w.memory.put (w.now + 3) threeRows.url threeRows, w.now + 3,
        w.trace ++ [.slept 3] ++ Page.loading threeRows.url⟩) := by
  have hattempt : (Cluster.on "http://livy:8998/batches" "/yarnui" (3 : Int)).attemptPageUrl "attempt_1" =
      .ok threeRows.url := by
    decide +kernel
  exact attemptPage_of_isPastLaunch (by decide) hattempt rfl (havingPages_answers h ofHtml_threeContainers _) (by decide +kernel)

/-- The logs of both containers are gone when they are discovered once more. -/
theorem containers_rediscovered_of_threeContainers :
    let c : Cluster Int := .on "http://livy:8998/batches" "/yarnui" 3
    let p : Polling Int := ⟨3, 5⟩
    let env := havingPages [(threeRows.url, threeContainers), ("http://livy:8998/1", "log of c1"),
      ("http://livy:8998/2", "log of c2")]
    let env' := havingPages [(threeRows.url, threeContainers)]
    let w : World (Page.Cache Int) Int := ⟨.empty 3 3, 0, []⟩
    let found := [("n1", "c1"), ("n2", "c2")]
    ∃ u outcomes v v' n, c.FullyDiscovered p "attempt_1" env w threeRows u outcomes found v ∧
      c.containers p "attempt_1" env' v = (.ok found, v') ∧
      v'.trace.items = v.trace.items ++ found.map given ∧
      v'.trace.visits = v.trace.visits ++ List.replicate n (.get threeRows.url) := by
  intro c p env env' w found
  have hlog₁ : Page.ofHtml "http://livy:8998/1" "log of c1" =
      .ok ⟨"http://livy:8998/1", [], "log of c1"⟩ := by
    decide +kernel
  have hlog₂ : Page.ofHtml "http://livy:8998/2" "log of c2" =
      .ok ⟨"http://livy:8998/2", [], "log of c2"⟩ := by
    decide +kernel
  have hurls : c.logUrls threeRows.containerRows = ["http://livy:8998/1", "http://livy:8998/2"] := by
    decide +kernel
  have hattempt : c.attemptPageUrl "attempt_1" = .ok threeRows.url := by decide +kernel
  obtain ⟨u, hu, hfirst⟩ : ∃ u, u = ⟨w.memory.put 3 threeRows.url threeRows, 3,
      [.slept 3] ++ Page.loading threeRows.url⟩ ∧
      c.attemptPage p "attempt_1" env w = (.ok threeRows, u) :=
    ⟨_, rfl, attemptPage_of_havingPages rfl w⟩
  let outcomes : List (Except String Page) :=
    [.ok ⟨"http://livy:8998/1", [], "log of c1"⟩, .ok ⟨"http://livy:8998/2", [], "log of c2"⟩]
  obtain ⟨v, hfetches, hnow, hsince⟩ : ∃ v, c.Fetches env u threeRows.containerRows outcomes v ∧
      v.now = 3 ∧ ∀ e ∈ v.memory.entries, e.since = 3 := by
    have hcame {url : String} {page : Page} (u : World (Page.Cache Int) Int)
        (hget : u.memory.get u.now url = (none, u.memory))
        (hanswer : Page.ofAnswer url (env.page (u.trace ++ Page.connecting url) url) = .ok page) :
        Page.Fetch env url u (.ok page) ⟨u.memory.put u.now url page, u.now, u.trace ++ Page.loading url⟩ :=
      .came hget hanswer
    rw [containerRows_threeRows]
    refine ⟨_, .cons (by decide +kernel) (hcame u (by rw [hu]; rfl) (havingPages_answers rfl hlog₁ _))
      (.cons (by decide +kernel) (hcame _ (by rw [hu]; rfl) (havingPages_answers rfl hlog₂ _)) (.nil _)), ?_⟩
    rw [hu]
    decide +kernel
  have hnamed : List.Forall₂ ContainerRow.Named threeRows.containerRows outcomes := by
    rw [containerRows_threeRows]
    exact .cons (fun _ _ _ => ⟨"n1", by decide +kernel⟩) (.cons (fun _ _ _ => ⟨"n2", by decide +kernel⟩) .nil)
  have hlisted : listed threeRows.containerRows outcomes = found := by decide +kernel
  have hresult : c.containers p "attempt_1" env w = (.ok found, v) := by
    rw [containers_eq hfirst, ← hlisted]
    exact hfetches.run (fun _ _ => rfl) hnamed
  have hdiscovered : c.FullyDiscovered p "attempt_1" env w threeRows u outcomes found v :=
    ⟨hfirst, hfetches, by simp [outcomes], hresult⟩
  have hsecond : c.attemptPage p "attempt_1" env' v = (.ok threeRows, _) := attemptPage_of_havingPages rfl v
  have hyoung : ∀ e ∈ v.memory.entries, e.url ∈ c.logUrls threeRows.containerRows →
      v.now + 3 - e.since ≤ w.memory.lifetime := by
    intro e he _
    rw [hnow, hsince e he]
    decide
  obtain ⟨v', hagain, -, -, hitems, n, hvisits⟩ := containers_rediscovered hattempt rfl (by decide)
    (by rw [hurls]; decide +kernel) (by rw [hurls]; decide +kernel) hdiscovered hsecond rfl hyoung
    fun _ _ => rfl
  exact ⟨u, outcomes, v, v', n, hdiscovered, hagain, hitems, hvisits⟩

end Cluster

end SparkGateway
