import SparkGateway.Page.Loader
import SparkGateway.Proofs.Exchange.Course

/-!
# Fetching pages

What a fetch of a page comes to and what it leaves in the cache.  A load makes the same steps whatever
comes of it (`load_eq`), so its outcome is the answer, read as a page (`ofAnswer`).  A fetch that may be
served from the cache makes no step if it is, and loads the page otherwise (`Fetch.reachable`).
-/

namespace SparkGateway.Page

open Run

variable {σ τ : Type}

/-- What the answer to the load of a page comes to. -/
def ofAnswer (url : String) : Answer → Except Stop Page
  | .reply code body _ =>
    if 200 ≤ code ∧ code < 300 then
      match body with
      | some html => (ofHtml url html).mapError .misfit
      | none => .error (.misfit .wrongKind)
    else
      let c := code.repr
      .error (.fault (.unreachable s!"GET {url} returned {c}"))
  | .broken message => .error (.fault (.unreachable s!"GET {url} failed: {message}"))
  | .stop e => .error e

theorem ofAnswer_html {url html : String} {page : Page} {code : Int} {contentType : Option String}
    (hcode : 200 ≤ code ∧ code < 300) (h : ofHtml url html = .ok page) :
    ofAnswer url (.reply code (some html) contentType) = .ok page := by
  simp only [ofAnswer, if_pos hcode]
  exact congrArg (Except.mapError Stop.misfit) h

/-- The steps before the load of a page. -/
def connecting (url : String) : Trace τ := [.noted .debug s!"Loading page {url}", .connected]

/-- The steps of the load of a page. -/
def loading (url : String) : Trace τ := connecting url ++ [.loaded url, .released]

theorem items_loading (url : String) : (loading url : Trace τ).items = [] := rfl

theorem loads_loading (url : String) : (loading url : Trace τ).loads = [.get url] := rfl

theorem visits_loading (url : String) : (loading url : Trace τ).visits = [.get url] := rfl

theorem load_eq (url : String) (env : Surroundings τ) (w : World σ τ) :
    load url env w = (ofAnswer url (env.page (w.trace ++ connecting url) url),
      { w with trace := w.trace ++ loading url }) := by
  have hconnected : w.trace ++ [.noted .debug s!"Loading page {url}"] ++ [.connected] =
      w.trace ++ connecting url := by
    simp [connecting]
  have hloaded : w.trace ++ connecting url ++ [.loaded url] ++ [.released] =
      w.trace ++ loading url := by
    simp [loading]
  unfold load
  rw [bind_ok (show note .debug s!"Loading page {url}" env w =
      (.ok (), { w with trace := w.trace ++ [.noted .debug s!"Loading page {url}"] }) from rfl),
    bind_ok rfl, bind_ok rfl, bind_ok rfl]
  simp only [hconnected, hloaded]
  cases env.page (w.trace ++ connecting url) url with
  | reply code body contentType =>
      simp only [ofAnswer]
      split
      · cases body with
        | none => rfl
        | some html =>
            dsimp only
            cases ofHtml url html <;> rfl
      · rfl
  | broken message => rfl
  | stop e => rfl

/-- What comes of loading the page at an address after some steps. -/
def loadedAfter (env : Surroundings τ) (before : Trace τ) (url : String) : Except Stop Page :=
  ofAnswer url (env.page (before ++ connecting url) url)

theorem fetch_fresh [Timeline τ] {env : Surroundings τ} {url : String} {w : World (Cache τ) τ}
    {page : Page} (h : ofAnswer url (env.page (w.trace ++ connecting url) url) = .ok page) :
    fetch url true env w =
      (.ok page, ⟨w.memory.put w.now url page, w.now, w.trace ++ loading url⟩) := by
  have hload := load_eq url env w
  rw [h] at hload
  exact bind_ok hload

theorem kept_eq [Timeline τ] (url : String) (env : Surroundings τ) (w : World (Cache τ) τ) :
    kept url env w =
      (.ok (w.memory.get w.now url).1, { w with memory := (w.memory.get w.now url).2 }) := by
  unfold kept
  rw [bind_ok (show Run.memory env w = (.ok w.memory, w) from rfl),
    bind_ok (show Run.now env w = (.ok w.now, w) from rfl)]
  rfl

theorem Cache.get_some [Timeline τ] {cache cache' : Cache τ} {now : τ} {url : String} {page : Page}
    (h : cache.get now url = (some page, cache')) :
    cache' = cache ∧ ∃ e ∈ cache.entries, e.url = url ∧ e.page = page := by
  unfold Cache.get at h
  split at h
  · cases h
  · next e hfind =>
      split at h
      · cases h
      · obtain ⟨rfl, rfl⟩ : e.page = page ∧ cache = cache' := by simpa using h
        have hmem := List.mem_of_find?_eq_some hfind
        exact ⟨rfl, e, hmem, by simpa using List.find?_some hfind, rfl⟩

theorem Cache.mem_of_get [Timeline τ] {cache cache' : Cache τ} {now : τ} {url : String}
    {found : Option Page} (h : cache.get now url = (found, cache')) {e : Stored τ}
    (he : e ∈ cache'.entries) : e ∈ cache.entries := by
  unfold Cache.get at h
  split at h
  · obtain ⟨-, rfl⟩ := Prod.mk.inj h
    exact he
  · split at h
    · obtain ⟨-, rfl⟩ := Prod.mk.inj h
      exact (List.mem_filter.1 he).1
    · obtain ⟨-, rfl⟩ := Prod.mk.inj h
      exact he

theorem Cache.mem_of_put [Timeline τ] {cache : Cache τ} {now : τ} {url : String} {page : Page}
    {e : Stored τ} (he : e ∈ (cache.put now url page).entries) :
    e ∈ cache.entries ∨ e.url = url ∧ e.page = page := by
  unfold Cache.put at he
  split at he
  · rcases List.mem_append.1 (List.mem_of_mem_drop he) with hold | hnew
    · exact Or.inl (List.mem_filter.1 hold).1
    · obtain rfl := List.mem_singleton.1 hnew
      exact Or.inr ⟨rfl, rfl⟩
  · exact Or.inl he

/-- No kept page serves a fetch: it asks for a new one, or none is kept that is not too old.  The cache is
then the one that is left of it. -/
def Unkept [Timeline τ] (url : String) (fresh : Bool) (w : World (Cache τ) τ) (cache : Cache τ) : Prop :=
  (fresh = true ∧ cache = w.memory) ∨ (fresh = false ∧ w.memory.get w.now url = (none, cache))

/-- How a fetch of a page comes out, and the world after it. -/
inductive Fetched [Timeline τ] (env : Surroundings τ) (url : String) (fresh : Bool)
    (w : World (Cache τ) τ) : Except Stop Page → World (Cache τ) τ → Prop where
  | kept {page : Page} :
      fresh = false → w.memory.get w.now url = (some page, w.memory) →
      Fetched env url fresh w (.ok page) w
  | came {page : Page} {cache : Cache τ} :
      Unkept url fresh w cache → loadedAfter env w.trace url = .ok page →
      Fetched env url fresh w (.ok page) ⟨cache.put w.now url page, w.now, w.trace ++ loading url⟩
  | failed {e : Stop} {cache : Cache τ} :
      Unkept url fresh w cache → loadedAfter env w.trace url = .error e →
      Fetched env url fresh w (.error e) ⟨cache, w.now, w.trace ++ loading url⟩

theorem renew_fetched [Timeline τ] {env : Surroundings τ} {url : String} {fresh : Bool}
    {w : World (Cache τ) τ} {cache : Cache τ} (h : Unkept url fresh w cache) :
    Fetched env url fresh w (renew url env { w with memory := cache }).1
      (renew url env { w with memory := cache }).2 := by
  have hload : load url env { w with memory := cache } =
      (loadedAfter env w.trace url, { w with memory := cache, trace := w.trace ++ loading url }) :=
    load_eq url env _
  cases hpage : loadedAfter env w.trace url with
  | ok page =>
      rw [hpage] at hload
      have hrenew : renew url env { w with memory := cache } =
          (.ok page, ⟨cache.put w.now url page, w.now, w.trace ++ loading url⟩) := bind_ok hload
      rw [hrenew]
      exact .came h hpage
  | error e =>
      rw [hpage] at hload
      have hrenew : renew url env { w with memory := cache } =
          (.error e, ⟨cache, w.now, w.trace ++ loading url⟩) := bind_error hload
      rw [hrenew]
      exact .failed h hpage

theorem fetch_fetched [Timeline τ] (env : Surroundings τ) (url : String) (fresh : Bool)
    (w : World (Cache τ) τ) :
    Fetched env url fresh w (fetch url fresh env w).1 (fetch url fresh env w).2 := by
  cases fresh with
  | true => exact renew_fetched (.inl ⟨rfl, rfl⟩)
  | false =>
      have hkept := kept_eq url env w
      obtain ⟨⟨found, cache⟩, hget⟩ : ∃ r, w.memory.get w.now url = r := ⟨_, rfl⟩
      rw [hget] at hkept
      cases found with
      | some page =>
          obtain ⟨rfl, -⟩ := Cache.get_some hget
          have hfetch : fetch url false env w = (.ok page, w) := bind_ok hkept
          rw [hfetch]
          exact .kept rfl hget
      | none =>
          have hfetch : fetch url false env w = renew url env { w with memory := cache } := bind_ok hkept
          rw [hfetch]
          exact renew_fetched (.inr ⟨rfl, hget⟩)

/-- How a fetch of a page that need not be new comes out, and the world after it: a kept page is given
without a step; otherwise the page is loaded, and it is kept if it comes. -/
inductive Fetch [Timeline τ] (env : Surroundings τ) (url : String) (w : World (Cache τ) τ) :
    Except String Page → World (Cache τ) τ → Prop where
  | kept {page : Page} {cache : Cache τ} :
      w.memory.get w.now url = (some page, cache) →
      Fetch env url w (.ok page) { w with memory := cache }
  | came {page : Page} {cache : Cache τ} :
      w.memory.get w.now url = (none, cache) →
      ofAnswer url (env.page (w.trace ++ connecting url) url) = .ok page →
      Fetch env url w (.ok page) ⟨cache.put w.now url page, w.now, w.trace ++ loading url⟩
  | failed {message : String} {cache : Cache τ} :
      w.memory.get w.now url = (none, cache) →
      ofAnswer url (env.page (w.trace ++ connecting url) url) = .error (.fault (.unreachable message)) →
      Fetch env url w (.error message) ⟨cache, w.now, w.trace ++ loading url⟩

/-- Every load of an address brings a page or fails to reach the service. -/
def Answers (env : Surroundings τ) (url : String) : Prop :=
  ∀ t, (∃ page, ofAnswer url (env.page t url) = .ok page) ∨
    ∃ message, ofAnswer url (env.page t url) = .error (.fault (.unreachable message))

theorem exists_fetch [Timeline τ] {env : Surroundings τ} {url : String} (h : Answers env url)
    (w : World (Cache τ) τ) : ∃ o v, Fetch env url w o v := by
  have hfetched := fetch_fetched env url false w
  obtain ⟨⟨r, v⟩, hrun⟩ : ∃ result, fetch url false env w = result := ⟨_, rfl⟩
  rw [hrun] at hfetched
  cases hfetched with
  | kept _ hget => exact ⟨_, _, .kept hget⟩
  | came hunkept hpage =>
      have hget := hunkept.resolve_left fun hfresh => Bool.false_ne_true hfresh.1
      exact ⟨_, _, .came hget.2 hpage⟩
  | failed hunkept hfail =>
      have hget := hunkept.resolve_left fun hfresh => Bool.false_ne_true hfresh.1
      rcases h (w.trace ++ connecting url) with ⟨page, hpage⟩ | ⟨message, hlost⟩
      · exact nomatch hpage.symm.trans hfail
      · exact ⟨_, _, .failed hget.2 hlost⟩

/-- A fetch runs as it is told. -/
theorem Fetch.reachable [Timeline τ] {env : Surroundings τ} {url : String} {w v : World (Cache τ) τ}
    {o : Except String Page} (h : Fetch env url w o v) :
    (fetch url false).reachable env w = (.ok o, v) := by
  rw [reachable_eq]
  have hkept := kept_eq url env w
  have hload (cache : Cache τ) := load_eq url env { w with memory := cache }
  cases h with
  | kept hget =>
      rw [hget] at hkept
      have hfetch : fetch url false env w = _ := bind_ok hkept
      rw [hfetch]
      rfl
  | @came page cache hget hpage =>
      rw [hget] at hkept
      have hfetch : fetch url false env w = renew url env { w with memory := cache } := bind_ok hkept
      have hrenew : renew url env { w with memory := cache } = _ :=
        bind_ok ((hload cache).trans (congrArg (·, _) hpage))
      rw [hfetch, hrenew]
      rfl
  | @failed message cache hget hfail =>
      rw [hget] at hkept
      have hfetch : fetch url false env w = renew url env { w with memory := cache } := bind_ok hkept
      have hrenew : renew url env { w with memory := cache } = _ :=
        bind_error ((hload cache).trans (congrArg (·, _) hfail))
      rw [hfetch, hrenew]
      rfl

theorem Fetch.items [Timeline τ] {env : Surroundings τ} {url : String} {w v : World (Cache τ) τ}
    {o : Except String Page} (h : Fetch env url w o v) : v.trace.items = w.trace.items := by
  cases h with
  | kept => rfl
  | came => simp [items_loading]
  | failed => simp [items_loading]

/-- A fetch loads the page at its address, or none. -/
theorem Fetch.loads [Timeline τ] {env : Surroundings τ} {url : String} {w v : World (Cache τ) τ}
    {o : Except String Page} (h : Fetch env url w o v) :
    v.trace.loads = w.trace.loads ∨ v.trace.loads = w.trace.loads ++ [.get url] := by
  cases h with
  | kept => exact Or.inl rfl
  | came => simp [loads_loading]
  | failed => simp [loads_loading]

/-- Where the service always answers the same for an address, and whatever is kept of it is that answer,
a fetch comes to that answer. -/
theorem Fetch.steady [Timeline τ] {env : Surroundings τ} {url : String} {w v : World (Cache τ) τ}
    {o : Except String Page} (h : Fetch env url w o v)
    (hsteady : ∀ t, env.page t url = env.page [] url)
    (hkept : ∀ e ∈ w.memory.entries, e.url = url → ofAnswer url (env.page [] url) = .ok e.page) :
    heard (ofAnswer url (env.page [] url)) = .ok o := by
  cases h with
  | kept hget =>
      obtain ⟨-, e, he, hurl, rfl⟩ := Cache.get_some hget
      rw [hkept e he hurl]
      rfl
  | came _ hpage =>
      rw [← hsteady, hpage]
      rfl
  | failed _ hfail =>
      rw [← hsteady, hfail]
      rfl

/-- What is kept after a fetch was kept before it or has just been loaded. -/
theorem Fetch.mem_entries [Timeline τ] {env : Surroundings τ} {url : String} {w v : World (Cache τ) τ}
    {o : Except String Page} (h : Fetch env url w o v) {e : Stored τ} (he : e ∈ v.memory.entries) :
    e ∈ w.memory.entries ∨ e.url = url ∧ ∃ t, ofAnswer url (env.page t url) = .ok e.page := by
  cases h with
  | kept hget => exact Or.inl (Cache.mem_of_get hget he)
  | came hget hpage =>
      rcases Cache.mem_of_put he with hold | ⟨hurl, hnew⟩
      · exact Or.inl (Cache.mem_of_get hget hold)
      · exact Or.inr ⟨hurl, _, hnew ▸ hpage⟩
  | failed hget => exact Or.inl (Cache.mem_of_get hget he)

end SparkGateway.Page
