import Mathlib.Data.List.Perm.Subperm
import SparkGateway.Proofs.Page.Fetching
import SparkGateway.Proofs.Page.History

/-!
# Coherence of fetched pages

Pages are fetched one after the other, while time passes and the cache is sometimes emptied.  Each such
turn is told by the turns before it: a fetch makes no request exactly if the cache holds a page of its
address that is not too old, and gives then what the last load of that address has brought; every other
fetch makes one request.  A load that fails takes nothing away that is not too old, and the connection of
a load is closed whatever comes of it.

Two invariants carry this through a sequence of turns.  What is kept was loaded last from its address
(`Sound`), and a page that was loaded stays, with few enough others behind it, until it is replaced,
cleared away or found to be too old (`Cache.Keeps`).  Neither needs a clock that keeps the order of
time, so time may pass in any way.
-/

namespace SparkGateway.Page

open Run

/-- What can be done with pages: fetch one, let time pass, or empty the cache. -/
inductive Deed (τ : Type) where
  | fetch (url : String) (fresh : Bool)
  | pass (amount : τ)
  | clear

/-- Something that was done with pages: the world before it, what it gave, and the world after it. -/
structure Turn (τ : Type) where
  deed : Deed τ
  before : World (Cache τ) τ
  given : Except Stop (Option Page)
  after : World (Cache τ) τ

section Views

variable {τ : Type}

/-- The steps of a turn. -/
def Turn.steps (t : Turn τ) : Trace τ := t.after.trace.drop t.before.trace.length

/-- A page was loaded from an address. -/
def Turn.Loaded (t : Turn τ) (url : String) (page : Page) : Prop :=
  (∃ fresh, t.deed = .fetch url fresh) ∧ t.steps.visits = [.get url] ∧ t.given = .ok (some page)

/-- A page is what the most recent load from an address that succeeded has brought. -/
def LastLoaded (h : List (Turn τ)) (url : String) (page : Page) : Prop :=
  ∃ earlier t later, h = earlier ++ t :: later ∧ t.Loaded url page ∧
    ∀ u ∈ later, ∀ page', ¬ u.Loaded url page'

theorem LastLoaded.append {h : List (Turn τ)} {url : String} {page : Page} (hlast : LastLoaded h url page)
    {t : Turn τ} (ht : ∀ page', ¬ t.Loaded url page') : LastLoaded (h ++ [t]) url page := by
  obtain ⟨earlier, u, later, rfl, hu, hlater⟩ := hlast
  refine ⟨earlier, u, later ++ [t], by simp, hu, fun u' hu' => ?_⟩
  rcases List.mem_append.1 hu' with hu' | hu'
  · exact hlater u' hu'
  · obtain rfl := List.mem_singleton.1 hu'
    exact ht

end Views

variable {τ : Type} [Timeline τ]

/-- Does something with pages: what it gives, and the world after it. -/
def perform (env : Surroundings τ) (w : World (Cache τ) τ) :
    Deed τ → Except Stop (Option Page) × World (Cache τ) τ
  | .fetch url fresh => ((fetch url fresh env w).1.map some, (fetch url fresh env w).2)
  | .pass amount => (.ok none, { w with now := Timeline.plus w.now amount })
  | .clear => (.ok none, { w with memory := w.memory.clear })

/-- The turn in which something is done with pages. -/
def turn (env : Surroundings τ) (w : World (Cache τ) τ) (d : Deed τ) : Turn τ :=
  ⟨d, w, (perform env w d).1, (perform env w d).2⟩

/-- Does one thing after another with pages, from a world on. -/
def turns (env : Surroundings τ) : World (Cache τ) τ → List (Deed τ) → List (Turn τ)
  | _, [] => []
  | w, d :: ds => turn env w d :: turns env (turn env w d).after ds

/-- The cache holds a page of an address that is not too old. -/
def Cache.Holds (c : Cache τ) (now : τ) (url : String) : Prop :=
  ∃ e ∈ c.entries, e.url = url ∧ c.expired now e = false

/-- The load of a page is answered by a failure of the connection, or by a code that is not good. -/
def FailsLoad (a : Answer) : Prop :=
  (∃ message, a = .broken message) ∨
    ∃ code body contentType, a = .reply code body contentType ∧ ¬ (200 ≤ code ∧ code < 300)

/-- A turn fits the turns before it. -/
structure Coherent (env : Surroundings τ) (h : List (Turn τ)) (t : Turn τ) : Prop where
  /-- A fetch makes no request exactly if it need not be new and the cache holds its page. -/
  unasked : ∀ url fresh, t.deed = .fetch url fresh →
    (t.steps.visits = [] ↔ fresh = false ∧ t.before.memory.Holds t.before.now url)
  /-- Without a request it gives what was loaded last. -/
  kept : ∀ url fresh, t.deed = .fetch url fresh → t.steps.visits = [] →
    ∃ page, t.given = .ok (some page) ∧ LastLoaded h url page
  /-- Otherwise it makes one request, and gives what comes of it. -/
  asked : ∀ url fresh, t.deed = .fetch url fresh → t.steps.visits ≠ [] →
    t.steps.visits = [.get url] ∧ t.given = (loadedAfter env t.before.trace url).map some
  /-- A connection that fails and a code that is not good count as a service that was not reached. -/
  lost : ∀ url fresh, t.deed = .fetch url fresh → t.steps.visits ≠ [] →
    FailsLoad (env.page (t.before.trace ++ connecting url) url) →
    ∃ message, t.given = .error (.fault (.unreachable message))
  /-- A page that was loaded is kept, if anything is. -/
  stored : ∀ url page, t.Loaded url page → t.before.memory.keeps = true →
    ⟨url, t.before.now, page⟩ ∈ t.after.memory.entries
  /-- A load that fails leaves all that is not too old as it was. -/
  failed : ∀ url fresh e, t.deed = .fetch url fresh → t.given = .error e →
    t.after.memory.entries.filter (t.before.memory.fresh t.before.now) =
      t.before.memory.entries.filter (t.before.memory.fresh t.before.now)
  /-- Every connection that was opened has been closed. -/
  closed : t.after.trace.opened = t.after.trace.closed

/-- A turn does not remove a page that was loaded at a time: it does not empty the cache or load a newer
page from that address, it does not find the page too old, and if it loads another, that is from one of
some addresses. -/
structure Turn.Spares (u : Turn τ) (e : Stored τ) (urls : List String) : Prop where
  uncleared : u.deed ≠ .clear
  unreplaced : ∀ page, ¬ u.Loaded e.url page
  unexpired : u.deed = .fetch e.url false → u.before.memory.expired u.before.now e = false
  few : ∀ url page, u.Loaded url page → url ∈ urls

/-- Turns fit each other. -/
structure CoherentTurns (env : Surroundings τ) (ts : List (Turn τ)) : Prop where
  coherent : ∀ earlier t later, ts = earlier ++ t :: later → Coherent env earlier t
  /-- What was loaded is what later fetches see that need not be new. -/
  seen : ∀ earlier t middle t' later url page urls, ts = earlier ++ t :: (middle ++ t' :: later) →
    t.Loaded url page → t.before.memory.keeps = true → (urls.length : Int) < t.before.memory.room →
    (∀ u ∈ middle, u.Spares ⟨url, t.before.now, page⟩ urls) → t'.deed = .fetch url false →
    t'.before.memory.expired t'.before.now ⟨url, t.before.now, page⟩ = false →
    t'.steps.visits = [] ∧ t'.given = .ok (some page)

/-! ## What a cache keeps -/

namespace Cache

variable {c : Cache τ} {e : Stored τ} {urls : List String}

theorem holds_iff (hc : (c.entries.map Stored.url).Nodup) (now : τ) (url : String) :
    c.Holds now url ↔ ∃ page, (c.get now url).1 = some page := by
  constructor
  · rintro ⟨e, he, hurl, hexpired⟩
    have hfresh : e ∈ c.entries.filter (c.fresh now) :=
      List.mem_filter.2 ⟨he, by simp [fresh, hexpired]⟩
    exact ⟨e.page, (get_fst_iff hc now url e.page).2 ⟨e, hfresh, hurl, rfl⟩⟩
  · rintro ⟨page, hget⟩
    obtain ⟨e, hfresh, hurl, -⟩ := (get_fst_iff hc now url page).1 hget
    obtain ⟨he, hexpired⟩ := List.mem_filter.1 hfresh
    exact ⟨e, he, hurl, by simpa [fresh] using hexpired⟩

/-- An entry is in a cache, and all entries behind it stand under some addresses. -/
def Keeps (c : Cache τ) (e : Stored τ) (urls : List String) : Prop :=
  ∃ before behind, c.entries = before ++ e :: behind ∧ ∀ e' ∈ behind, e'.url ∈ urls

omit [Timeline τ] in
theorem Keeps.mem (h : c.Keeps e urls) : e ∈ c.entries := by
  obtain ⟨before, behind, hentries, -⟩ := h
  simp [hentries]

omit [Timeline τ] in
theorem Keeps.drop (h : c.Keeps e urls) {url : String} (hurl : url ≠ e.url) :
    (c.drop url).Keeps e urls := by
  obtain ⟨before, behind, hentries, hbehind⟩ := h
  refine ⟨before.filter (fun e' => e'.url != url), behind.filter (fun e' => e'.url != url), ?_, ?_⟩
  · simp [Cache.drop, hentries, hurl.symm]
  · exact fun e' he' => hbehind e' (List.mem_filter.1 he').1

/-- Asking for another page, or for this one while it is not too old, leaves it in the cache. -/
theorem Keeps.get (h : c.Keeps e urls) (hc : (c.entries.map Stored.url).Nodup) {now : τ} {url : String}
    (hexpired : url = e.url → c.expired now e = false) : (c.get now url).2.Keeps e urls := by
  rcases c.get_snd now url with hget | ⟨e', hfind, hold, hget⟩
  · rwa [hget]
  · rw [hget]
    apply h.drop
    rintro rfl
    have hsame := find?_of_mem hc h.mem
    obtain rfl := Option.some.inj (hsame.symm.trans hfind)
    exact Bool.false_ne_true ((hexpired rfl).symm.trans hold)

omit [Timeline τ] in
theorem length_lt_of_urls {behind : List (Stored τ)} {url : String}
    (hnodup : (behind.map Stored.url).Nodup) (hbehind : ∀ e' ∈ behind, e'.url ∈ urls ∧ e'.url ≠ url)
    (hmem : url ∈ urls) : behind.length < urls.length := by
  have hall : (url :: behind.map Stored.url).Nodup := by
    refine List.nodup_cons.2 ⟨fun hin => ?_, hnodup⟩
    obtain ⟨e', he', hsame⟩ := List.mem_map.1 hin
    exact (hbehind e' he').2 hsame
  have hsub : url :: behind.map Stored.url ⊆ urls := by
    refine List.cons_subset.2 ⟨hmem, fun u hu => ?_⟩
    obtain ⟨e', he', rfl⟩ := List.mem_map.1 hu
    exact (hbehind e' he').1
  simpa [Nat.succ_le_iff] using (hall.subperm hsub).length_le

/-- A page from another address takes the room of an entry only if there are too many behind it. -/
theorem Keeps.put (h : c.Keeps e urls) (hc : (c.entries.map Stored.url).Nodup)
    (hroom : (urls.length : Int) < c.room) {url : String} (hurl : url ≠ e.url) (hmem : url ∈ urls)
    (now : τ) (page : Page) : (c.put now url page).Keeps e urls := by
  by_cases hkeeps : c.keeps = true
  · obtain ⟨before, behind, hentries, hbehind⟩ := h.drop hurl
    have hnodup : ((c.drop url).entries.map Stored.url).Nodup := hc.sublist (List.filter_sublist.map _)
    have hfew : behind.length < urls.length := by
      refine length_lt_of_urls ?_ (fun e' he' => ⟨hbehind e' he', ?_⟩) hmem
      · rw [hentries] at hnodup
        exact hnodup.sublist (((List.sublist_cons_self _ _).trans (List.sublist_append_right _ _)).map _)
      · have hdropped : e' ∈ (c.drop url).entries := by simp [hentries, he']
        simpa [Cache.drop] using (List.mem_filter.1 hdropped).2
    have hput : (c.put now url page).entries =
        (before ++ e :: (behind ++ [(⟨url, now, page⟩ : Stored τ)])).rtake c.room.toNat := by
      rw [put_of_keeps hkeeps]
      show ((c.drop url).entries ++ _).rtake _ = _
      rw [hentries, List.append_assoc, List.cons_append]
    have hle : (before ++ e :: (behind ++ [(⟨url, now, page⟩ : Stored τ)])).length - c.room.toNat ≤
        before.length := by
      simp only [List.length_append, List.length_cons, List.length_nil]
      omega
    rw [List.rtake, List.drop_append_of_le_length hle] at hput
    refine ⟨_, behind ++ [⟨url, now, page⟩], hput, ?_⟩
    exact List.forall_mem_append.2 ⟨hbehind, List.forall_mem_singleton.2 hmem⟩
  · simpa [Cache.put, hkeeps] using h

end Cache

/-! ## What a turn comes to -/

variable {env : Surroundings τ} {w : World (Cache τ) τ} {url : String} {fresh : Bool} {cache : Cache τ}

/-- Looking for a kept page in vain drops an entry of that address that is too old, and nothing else. -/
theorem Unkept.eq_or_drop (h : Unkept url fresh w cache) :
    cache = w.memory ∨ ∃ e, fresh = false ∧ w.memory.find? url = some e ∧
      w.memory.expired w.now e = true ∧ cache = w.memory.drop url := by
  rcases h with ⟨-, rfl⟩ | ⟨hfresh, hget⟩
  · exact .inl rfl
  · obtain rfl : (w.memory.get w.now url).2 = cache := congrArg Prod.snd hget
    rcases w.memory.get_snd w.now url with hsame | ⟨e, hfind, hexpired, hdrop⟩
    · exact .inl hsame
    · exact .inr ⟨e, hfresh, hfind, hexpired, hdrop⟩

theorem Unkept.sublist (h : Unkept url fresh w cache) :
    cache.entries.Sublist w.memory.entries ∧ cache.lifetime = w.memory.lifetime ∧
      cache.room = w.memory.room := by
  rcases h.eq_or_drop with rfl | ⟨e, -, -, -, rfl⟩
  · exact ⟨List.Sublist.refl _, rfl, rfl⟩
  · exact ⟨List.filter_sublist, rfl, rfl⟩

theorem Unkept.keeps (h : Unkept url fresh w cache) : cache.keeps = w.memory.keeps := by
  obtain ⟨-, hlifetime, hroom⟩ := h.sublist
  simp [Cache.keeps, hlifetime, hroom]

theorem Unkept.filter_fresh (h : Unkept url fresh w cache)
    (hc : (w.memory.entries.map Stored.url).Nodup) :
    cache.entries.filter (w.memory.fresh w.now) = w.memory.entries.filter (w.memory.fresh w.now) := by
  rcases h.eq_or_drop with rfl | ⟨e, -, hfind, hexpired, rfl⟩
  · rfl
  · exact Cache.filter_drop hc hfind (by simp [Cache.fresh, hexpired])

theorem Unkept.unheld (h : Unkept url fresh w cache) (hc : (w.memory.entries.map Stored.url).Nodup) :
    ¬ (fresh = false ∧ w.memory.Holds w.now url) := by
  rintro ⟨rfl, hheld⟩
  obtain ⟨page, hpage⟩ := (Cache.holds_iff hc w.now url).1 hheld
  rcases h with ⟨hfresh, -⟩ | ⟨-, hget⟩
  · cases hfresh
  · simp [hget] at hpage

/-- Looking in vain leaves an entry where it is, unless it is its own page that is looked for. -/
theorem Unkept.keeps_entry (h : Unkept url fresh w cache) (hc : (w.memory.entries.map Stored.url).Nodup)
    {e : Stored τ} {urls : List String} (he : w.memory.Keeps e urls)
    (hexpired : url = e.url → fresh = false → w.memory.expired w.now e = false) :
    cache.Keeps e urls := by
  rcases h with ⟨-, rfl⟩ | ⟨hfresh, hget⟩
  · exact he
  · obtain rfl : (w.memory.get w.now url).2 = cache := congrArg Prod.snd hget
    exact he.get hc fun hurl => hexpired hurl hfresh

theorem FailsLoad.unreachable {a : Answer} (h : FailsLoad a) (url : String) :
    ∃ message, ofAnswer url a = .error (.fault (.unreachable message)) := by
  rcases h with ⟨message, rfl⟩ | ⟨code, body, contentType, rfl, hcode⟩
  · exact ⟨_, rfl⟩
  · exact ⟨_, if_neg hcode⟩

/-- The turn in which a page is fetched, told by how the fetch comes out. -/
theorem exists_turn_fetched (env : Surroundings τ) (url : String) (fresh : Bool) (w : World (Cache τ) τ) :
    ∃ r v, Fetched env url fresh w r v ∧
      turn env w (.fetch url fresh) = ⟨.fetch url fresh, w, r.map some, v⟩ :=
  ⟨_, _, fetch_fetched env url fresh w, by simp [turn, perform]⟩

omit [Timeline τ] in
theorem visits_silent {d : Deed τ} {given : Except Stop (Option Page)} :
    (⟨d, w, given, w⟩ : Turn τ).steps.visits = [] := by
  simp [Turn.steps, Trace.visits]

omit [Timeline τ] in
theorem visits_renewed {d : Deed τ} {given : Except Stop (Option Page)} {now : τ} :
    (⟨d, w, given, ⟨cache, now, w.trace ++ loading url⟩⟩ : Turn τ).steps.visits = [.get url] := by
  simp [Turn.steps, visits_loading]

/-- An entry that is not too old serves a fetch that need not be new. -/
theorem turn_of_get {page : Page} (hget : (w.memory.get w.now url).1 = some page) :
    turn env w (.fetch url false) = ⟨.fetch url false, w, .ok (some page), w⟩ := by
  obtain ⟨r, v, hfetched, hturn⟩ := exists_turn_fetched env url false w
  rw [hturn]
  cases hfetched with
  | kept _ hsame =>
      rw [hsame] at hget
      obtain rfl := Option.some.inj hget
      rfl
  | came hunkept _ | failed hunkept _ =>
      obtain ⟨-, hnone⟩ := hunkept.resolve_left fun hfresh => Bool.false_ne_true hfresh.1
      simp [hnone] at hget

/-! ## One turn after another -/

/-- What is kept after some turns: of every address at most one page, the one that was loaded last from
it. -/
structure Sound (h : List (Turn τ)) (w : World (Cache τ) τ) : Prop where
  nodup : (w.memory.entries.map Stored.url).Nodup
  loaded : ∀ e ∈ w.memory.entries, LastLoaded h e.url e.page
  idle : w.memory.keeps = false → w.memory.entries = []
  balanced : w.trace.opened = w.trace.closed

variable {h : List (Turn τ)}

/-- After a turn in which nothing was loaded, some of what was kept is kept. -/
theorem Sound.of_sublist (hsound : Sound h w) {t : Turn τ} (ht : ∀ url page, ¬ t.Loaded url page)
    {v : World (Cache τ) τ} (hsublist : v.memory.entries.Sublist w.memory.entries)
    (hkeeps : v.memory.keeps = w.memory.keeps) (htrace : v.trace.opened = v.trace.closed) :
    Sound (h ++ [t]) v where
  nodup := hsound.nodup.sublist (hsublist.map _)
  loaded e he := (hsound.loaded e (hsublist.subset he)).append (ht e.url)
  idle hidle := List.sublist_nil.1 (hsound.idle (hkeeps.symm.trans hidle) ▸ hsublist)
  balanced := htrace

/-- A page that was loaded is kept in place of an older one from its address. -/
theorem Sound.put (hsound : Sound h w) {t : Turn τ} {page : Page} (ht : t.Loaded url page)
    (hsublist : cache.entries.Sublist w.memory.entries) (hkeeps : cache.keeps = w.memory.keeps)
    {now : τ} {trace : Trace τ} (htrace : trace.opened = trace.closed) :
    Sound (h ++ [t]) ⟨cache.put now url page, now, trace⟩ := by
  have hother : ∀ other page', other ≠ url → ¬ t.Loaded other page' := by
    rintro other page' hne ⟨-, hvisits, -⟩
    have hsame := List.singleton_inj.1 (ht.2.1.symm.trans hvisits)
    exact hne (congrArg Request.url hsame).symm
  have hnodup : (cache.entries.map Stored.url).Nodup := hsound.nodup.sublist (hsublist.map _)
  by_cases hput : cache.keeps = true
  · have hentries := Cache.put_of_keeps hput now url page
    refine ⟨?_, ?_, ?_, htrace⟩
    · rw [hentries]
      exact (Cache.nodup_filter_append hnodup ⟨url, now, page⟩).sublist ((List.drop_sublist _ _).map _)
    · intro e he
      rw [hentries] at he
      rcases List.mem_append.1 (List.mem_of_mem_drop he) with he | he
      · obtain ⟨hmem, hurl⟩ := List.mem_filter.1 he
        exact (hsound.loaded e (hsublist.subset hmem)).append fun page' =>
          hother e.url page' (by simpa using hurl)
      · obtain rfl := List.mem_singleton.1 he
        exact ⟨h, t, [], rfl, ht, by simp⟩
    · intro hidle
      have hsame : (cache.put now url page).keeps = cache.keeps :=
        Cache.keeps_after [⟨now, .put url page⟩]
      exact nomatch hput.symm.trans (hsame.symm.trans hidle)
  · -- a cache that keeps nothing is empty, and stays so
    have hsame : cache.put now url page = cache := by simp [Cache.put, hput]
    have hnone : cache.entries = [] := by
      have hempty := hsound.idle (hkeeps.symm.trans (Bool.not_eq_true _ ▸ hput))
      exact List.sublist_nil.1 (hempty ▸ hsublist)
    rw [hsame]
    exact ⟨hnodup, by simp [hnone], fun _ => hnone, htrace⟩

/-- What is done with pages next keeps to what was loaded last. -/
theorem Sound.next (hsound : Sound h w) (env : Surroundings τ) (d : Deed τ) :
    Sound (h ++ [turn env w d]) (turn env w d).after := by
  cases d with
  | fetch url fresh =>
      obtain ⟨r, v, hfetched, hturn⟩ := exists_turn_fetched env url fresh w
      rw [hturn]
      have hclosed : (w.trace ++ loading url).opened = (w.trace ++ loading url).closed := by
        rw [Trace.opened_append, Trace.closed_append, hsound.balanced]
        rfl
      cases hfetched with
      | kept =>
          refine hsound.of_sublist (fun other page hloaded => ?_) (List.Sublist.refl _) rfl hsound.balanced
          exact nomatch visits_silent.symm.trans hloaded.2.1
      | came hunkept =>
          exact hsound.put ⟨⟨fresh, rfl⟩, visits_renewed, rfl⟩ hunkept.sublist.1 hunkept.keeps hclosed
      | failed hunkept =>
          refine hsound.of_sublist (fun other page hloaded => ?_) hunkept.sublist.1 hunkept.keeps hclosed
          exact nomatch hloaded.2.2
  | pass amount =>
      refine hsound.of_sublist ?_ (List.Sublist.refl _) rfl hsound.balanced
      exact fun url page ⟨⟨_, hdeed⟩, _⟩ => nomatch hdeed
  | clear =>
      refine hsound.of_sublist ?_ (List.nil_sublist _) rfl hsound.balanced
      exact fun url page ⟨⟨_, hdeed⟩, _⟩ => nomatch hdeed

/-- A fetch that is not served from the cache makes one request, and gives what comes of it. -/
theorem Sound.coherent_asked (hsound : Sound h w) (hunkept : Unkept url fresh w cache)
    {cache' : Cache τ} {r : Except Stop Page} (hr : loadedAfter env w.trace url = r)
    (hstored : ∀ page, r = .ok page → w.memory.keeps = true → ⟨url, w.now, page⟩ ∈ cache'.entries)
    (hfailed : ∀ e, r = .error e → cache'.entries.filter (w.memory.fresh w.now) =
      w.memory.entries.filter (w.memory.fresh w.now)) :
    Coherent env h ⟨.fetch url fresh, w, r.map some, ⟨cache', w.now, w.trace ++ loading url⟩⟩ := by
  have hvisits : (⟨.fetch url fresh, w, r.map some, ⟨cache', w.now, w.trace ++ loading url⟩⟩ :
      Turn τ).steps.visits = [.get url] := visits_renewed
  have hasked := List.ne_nil_of_mem (hvisits ▸ List.mem_singleton_self (Request.get url))
  refine ⟨?_, ?_, ?_, ?_, ?_, ?_, ?_⟩
  · rintro _ _ ⟨rfl, rfl⟩
    exact iff_of_false hasked (hunkept.unheld hsound.nodup)
  · exact fun _ _ _ hnone => absurd hnone hasked
  · rintro _ _ ⟨rfl, rfl⟩ -
    exact ⟨hvisits, congrArg (Except.map some) hr.symm⟩
  · rintro _ _ ⟨rfl, rfl⟩ - hfails
    obtain ⟨message, hlost⟩ := hfails.unreachable url
    obtain rfl := hr.symm.trans hlost
    exact ⟨message, rfl⟩
  · rintro other page ⟨-, hother, hgiven⟩ hkeeps
    obtain rfl := congrArg Request.url (List.singleton_inj.1 (hvisits.symm.trans hother))
    cases r with
    | ok page' =>
        obtain rfl := Option.some.inj (Except.ok.inj hgiven)
        exact hstored page' rfl hkeeps
    | error e => cases hgiven
  · rintro _ _ e ⟨rfl, rfl⟩ hgiven
    cases r with
    | ok page => cases hgiven
    | error e' => exact hfailed e' rfl
  · rw [Trace.opened_append, Trace.closed_append, hsound.balanced]
    rfl

/-- What is done with pages next fits what was done before. -/
theorem Sound.coherent (hsound : Sound h w) (env : Surroundings τ) (d : Deed τ) :
    Coherent env h (turn env w d) := by
  cases d with
  | fetch url fresh =>
      obtain ⟨r, v, hfetched, hturn⟩ := exists_turn_fetched env url fresh w
      rw [hturn]
      cases hfetched with
      | @kept page hfresh hget =>
          have hheld : w.memory.Holds w.now url :=
            (Cache.holds_iff hsound.nodup w.now url).2 ⟨page, congrArg Prod.fst hget⟩
          obtain ⟨-, e, he, rfl, rfl⟩ := Cache.get_some hget
          refine ⟨?_, ?_, ?_, ?_, ?_, ?_, hsound.balanced⟩
          · rintro _ _ ⟨rfl, rfl⟩
            exact iff_of_true visits_silent ⟨hfresh, hheld⟩
          · rintro _ _ ⟨rfl, rfl⟩ -
            exact ⟨e.page, rfl, hsound.loaded e he⟩
          · exact fun _ _ _ hasked => absurd visits_silent hasked
          · exact fun _ _ _ hasked => absurd visits_silent hasked
          · exact fun _ _ hloaded => nomatch visits_silent.symm.trans hloaded.2.1
          · exact fun _ _ _ _ hgiven => nomatch hgiven
      | @came page cache hunkept hpage =>
          refine hsound.coherent_asked hunkept hpage ?_ nofun
          rintro page' ⟨⟩ hkeeps
          exact List.mem_of_find?_eq_some
            (Cache.find?_put cache w.now url page (hunkept.keeps.trans hkeeps))
      | failed hunkept hfail =>
          exact hsound.coherent_asked hunkept hfail nofun fun _ _ => hunkept.filter_fresh hsound.nodup
  | pass amount | clear =>
      refine ⟨nofun, nofun, nofun, nofun, ?_, nofun, hsound.balanced⟩
      exact fun url page ⟨⟨_, hdeed⟩, _⟩ => nomatch hdeed

/-- A page stays where it is kept in a turn that spares it. -/
theorem Cache.Keeps.next {e : Stored τ} {urls : List String} (he : w.memory.Keeps e urls)
    (hsound : Sound h w) (hroom : (urls.length : Int) < w.memory.room) {d : Deed τ}
    (hspares : (turn env w d).Spares e urls) :
    (turn env w d).after.memory.Keeps e urls ∧
      (turn env w d).after.memory.room = w.memory.room := by
  obtain ⟨huncleared, hunreplaced, hunexpired, hfew⟩ := hspares
  cases d with
  | fetch url fresh =>
      obtain ⟨r, v, hfetched, hturn⟩ := exists_turn_fetched env url fresh w
      have hkept : ∀ {cache}, Unkept url fresh w cache → cache.Keeps e urls :=
        fun hunkept => hunkept.keeps_entry hsound.nodup he fun hurl hfresh =>
          hunexpired (by rw [hurl, hfresh]; rfl)
      rw [hturn] at hunreplaced hfew ⊢
      cases hfetched with
      | kept => exact ⟨he, rfl⟩
      | @came page cache hunkept =>
          have hloaded : (⟨.fetch url fresh, w, .ok (some page),
              ⟨cache.put w.now url page, w.now, w.trace ++ loading url⟩⟩ : Turn τ).Loaded url page :=
            ⟨⟨fresh, rfl⟩, visits_renewed, rfl⟩
          have hurl : url ≠ e.url := by
            rintro rfl
            exact hunreplaced page hloaded
          obtain ⟨hsublist, -, hsame⟩ := hunkept.sublist
          have hput := (hkept hunkept).put (hsound.nodup.sublist (hsublist.map _))
            (hsame ▸ hroom) hurl (hfew url page hloaded) w.now page
          exact ⟨hput, (cache.put_bounds w.now url page).2.trans hsame⟩
      | failed hunkept => exact ⟨hkept hunkept, hunkept.sublist.2.2⟩
  | pass amount => exact ⟨he, rfl⟩
  | clear => exact absurd rfl huncleared

/-- A page that was just loaded is kept with nothing behind it, if anything is kept. -/
theorem keeps_loaded {d : Deed τ} {page : Page} (hloaded : (turn env w d).Loaded url page)
    (hkeeps : w.memory.keeps = true) (urls : List String) :
    (turn env w d).after.memory.Keeps ⟨url, w.now, page⟩ urls ∧
      (turn env w d).after.memory.room = w.memory.room := by
  obtain ⟨⟨fresh, hdeed⟩, hvisits, hgiven⟩ := hloaded
  obtain rfl : d = .fetch url fresh := hdeed
  obtain ⟨r, v, hfetched, hturn⟩ := exists_turn_fetched env url fresh w
  rw [hturn] at hvisits hgiven ⊢
  cases hfetched with
  | kept => exact nomatch visits_silent.symm.trans hvisits
  | @came page' cache hunkept =>
      obtain rfl := Option.some.inj (Except.ok.inj hgiven)
      have hentries := Cache.put_of_keeps (hunkept.keeps.trans hkeeps) w.now url page'
      have hroom : cache.room = w.memory.room := hunkept.sublist.2.2
      obtain ⟨n, hn⟩ : ∃ n, cache.room.toNat = n + 1 := by
        simp only [Cache.keeps, Bool.not_eq_true', Bool.or_eq_false_iff,
          decide_eq_false_iff_not] at hkeeps
        exact ⟨cache.room.toNat - 1, by omega⟩
      rw [hn, List.rtake_concat_succ] at hentries
      refine ⟨⟨_, [], hentries, by simp⟩, ?_⟩
      exact (cache.put_bounds w.now url page').2.trans hroom
  | failed => cases hgiven

/-! ## All turns -/

variable {earlier middle later : List (Turn τ)} {t : Turn τ} {ds : List (Deed τ)}

/-- Each turn is done in a world that keeps what was loaded last before it. -/
theorem turns_split (hsound : Sound h w) (hts : turns env w ds = earlier ++ t :: later) :
    ∃ v d ds', t = turn env v d ∧ Sound (h ++ earlier) v ∧ turns env t.after ds' = later := by
  induction earlier generalizing h w ds with
  | nil =>
      cases ds with
      | nil => cases hts
      | cons d ds =>
          obtain ⟨rfl, hrest⟩ := List.cons.inj hts
          exact ⟨w, d, ds, rfl, by rwa [List.append_nil], hrest⟩
  | cons u earlier ih =>
      cases ds with
      | nil => cases hts
      | cons d ds =>
          obtain ⟨rfl, hrest⟩ := List.cons.inj hts
          have hsplit := ih (hsound.next env d) hrest
          rwa [List.append_assoc] at hsplit

/-- A page that is kept is still kept after some turns that spare it. -/
theorem Cache.Keeps.turns {e : Stored τ} {urls : List String} (he : w.memory.Keeps e urls)
    (hsound : Sound h w) (hroom : (urls.length : Int) < w.memory.room)
    (hspares : ∀ u ∈ middle, u.Spares e urls) (hts : turns env w ds = middle ++ t :: later) :
    ∃ h' v d, t = turn env v d ∧ Sound h' v ∧ v.memory.Keeps e urls := by
  induction middle generalizing h w ds with
  | nil =>
      cases ds with
      | nil => cases hts
      | cons d ds =>
          obtain ⟨rfl, -⟩ := List.cons.inj hts
          exact ⟨h, w, d, rfl, hsound, he⟩
  | cons u middle ih =>
      cases ds with
      | nil => cases hts
      | cons d ds =>
          obtain ⟨rfl, hrest⟩ := List.cons.inj hts
          obtain ⟨hspare, hspares⟩ := List.forall_mem_cons.1 hspares
          obtain ⟨hnext, hsame⟩ := he.next hsound hroom hspare
          exact ih hnext (hsound.next env d) (hsame ▸ hroom) hspares hrest

/-- Whatever is done with pages, and whatever is answered, fits what was done before: a page that is kept
is the one that was loaded last and costs no request, a load that succeeds is what later fetches see, and
one that fails takes nothing away. -/
theorem turns_coherent (env : Surroundings τ) (lifetime now : τ) (room : Int) (ds : List (Deed τ)) :
    CoherentTurns env (turns env ⟨.empty lifetime room, now, []⟩ ds) := by
  have hsound : Sound [] (⟨.empty lifetime room, now, []⟩ : World (Cache τ) τ) :=
    ⟨List.nodup_nil, by simp [Cache.empty], fun _ => rfl, rfl⟩
  constructor
  · intro earlier t later hts
    obtain ⟨v, d, -, rfl, hbefore, -⟩ := turns_split hsound hts
    exact hbefore.coherent env d
  · intro earlier t middle t' later url page urls hts hloaded hkeeps hroom hspares hdeed hexpired
    obtain ⟨v, d, ds', rfl, hbefore, hrest⟩ := turns_split hsound hts
    obtain ⟨hput, hsame⟩ := keeps_loaded hloaded hkeeps urls
    obtain ⟨h', v', d', rfl, hsound', he⟩ :=
      hput.turns (hbefore.next env d) (hsame ▸ hroom) hspares hrest
    obtain rfl : d' = .fetch url false := hdeed
    have hheld : (⟨url, v.now, page⟩ : Stored τ) ∈ v'.memory.entries.filter (v'.memory.fresh v'.now) :=
      List.mem_filter.2 ⟨he.mem, congrArg Bool.not hexpired⟩
    have hget := (Cache.get_fst_iff hsound'.nodup v'.now url page).2 ⟨_, hheld, rfl, rfl⟩
    rw [turn_of_get hget]
    exact ⟨visits_silent, rfl⟩

end SparkGateway.Page
