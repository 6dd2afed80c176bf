import Mathlib.Algebra.Order.Group.Unbundled.Basic
import Mathlib.Data.List.DropRight
import Mathlib.Data.List.Dedup
import Mathlib.Data.List.Perm.Lattice
import SparkGateway.Page.Cache
import SparkGateway.Proofs.Timeline

/-!
# The history of a page cache

What a cache gives is told by what was done with it: a page is found exactly if it was the last that was
stored under its address, is not too old, and has not been followed by pages at as many other addresses
as there is room for.

Three things remove a page: a newer page under the same address, the age of the page when it is asked
for, and the lack of room.  They are told apart by comparing the cache with all that was stored last
under any address (`remembered`).  Of what is still fresh at some time, the cache holds as many of the
youngest entries as it has room for (`fresh_after`): the entries that it drops for their age are older
than every fresh one, so they never make room for one that had to go.
-/

namespace SparkGateway.Page.Cache

/-- What can be done with a cache. -/
inductive Use where
  | put (url : String) (page : Page)
  | get (url : String)
  | clear

/-- Something that is done with a cache at a time. -/
structure Act (τ : Type) where
  time : τ
  use : Use

section Histories

variable {τ : Type}

/-- The addresses under which something is stored. -/
def storedUrls (h : List (Act τ)) : List String :=
  h.filterMap fun a => match a.use with
    | .put url _ => some url
    | _ => none

/-- A page was the last to be stored under an address and has not been cleared away; `later` has happened
since. -/
structure LastStored (h : List (Act τ)) (url : String) (since : τ) (page : Page)
    (later : List (Act τ)) : Prop where
  stored : ∃ earlier, h = earlier ++ ⟨since, .put url page⟩ :: later
  kept : ∀ a ∈ later, a.use ≠ .clear
  unreplaced : url ∉ storedUrls later

/-- What is kept of all that was stored, if nothing is ever too old and there is room for everything. -/
def remember (es : List (Stored τ)) (a : Act τ) : List (Stored τ) :=
  match a.use with
  | .put url page => es.filter (fun e => e.url != url) ++ [⟨url, a.time, page⟩]
  | .get _ => es
  | .clear => []

/-- The last entries that were stored under each address, in the order of time. -/
def remembered (h : List (Act τ)) : List (Stored τ) := h.foldl remember []

theorem storedUrls_append (h h' : List (Act τ)) :
    storedUrls (h ++ h') = storedUrls h ++ storedUrls h' :=
  List.filterMap_append

theorem remembered_append (h : List (Act τ)) (a : Act τ) :
    remembered (h ++ [a]) = remember (remembered h) a := by
  simp [remembered]

theorem LastStored.append {h later : List (Act τ)} {url : String} {since : τ} {page : Page}
    (hlast : LastStored h url since page later) {a : Act τ} (hclear : a.use ≠ .clear)
    (hurl : url ∉ storedUrls [a]) :
    LastStored (h ++ [a]) url since page (later ++ [a]) := by
  obtain ⟨earlier, rfl⟩ := hlast.stored
  refine ⟨⟨earlier, by simp⟩, ?_, ?_⟩
  · intro b hb
    rcases List.mem_append.1 hb with hb | hb
    · exact hlast.kept b hb
    · obtain rfl := List.mem_singleton.1 hb
      exact hclear
  · rw [storedUrls_append, List.mem_append]
    exact fun hmem => hmem.elim hlast.unreplaced hurl

/-- A new entry takes the place of the one under its address. -/
theorem nodup_filter_append {es : List (Stored τ)} (hes : (es.map Stored.url).Nodup) (new : Stored τ) :
    ((es.filter (fun e => e.url != new.url) ++ [new]).map Stored.url).Nodup := by
  rw [List.map_append, List.map_singleton]
  refine List.Nodup.append (hes.sublist (List.filter_sublist.map _)) (List.nodup_singleton _) ?_
  simp [List.disjoint_singleton]

theorem nodup_remembered (h : List (Act τ)) : ((remembered h).map Stored.url).Nodup := by
  induction h using List.reverseRecOn with
  | nil => exact List.nodup_nil
  | append_singleton h a ih =>
      rw [remembered_append]
      obtain ⟨time, use⟩ := a
      cases use with
      | put url page => exact nodup_filter_append ih ⟨url, time, page⟩
      | get url => exact ih
      | clear => exact List.nodup_nil

/-- Whatever is remembered was stored last under its address. -/
theorem lastStored_of_mem {h : List (Act τ)} {e : Stored τ} (he : e ∈ remembered h) :
    ∃ later, LastStored h e.url e.since e.page later := by
  induction h using List.reverseRecOn with
  | nil => cases he
  | append_singleton h a ih =>
      rw [remembered_append] at he
      obtain ⟨time, use⟩ := a
      cases use with
      | put url page =>
          rcases List.mem_append.1 he with he | he
          · obtain ⟨hmem, hne⟩ := List.mem_filter.1 he
            obtain ⟨later, hlast⟩ := ih hmem
            exact ⟨_, hlast.append (by simp) (by simpa [storedUrls] using hne)⟩
          · obtain rfl := List.mem_singleton.1 he
            exact ⟨[], ⟨h, rfl⟩, by simp, by simp [storedUrls]⟩
      | get url =>
          obtain ⟨later, hlast⟩ := ih he
          exact ⟨_, hlast.append (by simp) (by simp [storedUrls])⟩
      | clear => cases he

/-- What was stored last under its address is remembered, and behind it stand the addresses under which
something has been stored since. -/
theorem LastStored.remembered_eq {h later : List (Act τ)} {url : String} {since : τ} {page : Page}
    (hlast : LastStored h url since page later) :
    ∃ before behind, remembered h = before ++ ⟨url, since, page⟩ :: behind ∧
      ∀ u, u ∈ behind.map Stored.url ↔ u ∈ storedUrls later := by
  obtain ⟨⟨earlier, rfl⟩, hkept, hunreplaced⟩ := hlast
  induction later using List.reverseRecOn with
  | nil =>
      refine ⟨_, [], remembered_append earlier _, ?_⟩
      simp [storedUrls]
  | append_singleton later a ih =>
      obtain ⟨before, behind, heq, hbehind⟩ := ih (fun b hb => hkept b (by simp [hb])) (by
        rw [storedUrls_append] at hunreplaced
        exact fun hmem => hunreplaced (List.mem_append_left _ hmem))
      rw [← List.cons_append, ← List.append_assoc, remembered_append, heq]
      obtain ⟨time, use⟩ := a
      cases use with
      | put url' page' =>
          have hne : url ≠ url' := by
            rintro rfl
            exact hunreplaced (by simp [storedUrls])
          refine ⟨before.filter (fun e => e.url != url'),
            behind.filter (fun e => e.url != url') ++ [⟨url', time, page'⟩], ?_, ?_⟩
          · simp [remember, hne]
          · intro u
            rw [storedUrls_append, List.mem_append, ← hbehind u]
            by_cases hu : u = url'
            · simp [hu, storedUrls]
            · have hmem : u ∈ (behind.filter fun e => e.url != url').map Stored.url ↔
                  u ∈ behind.map Stored.url := by
                simp only [List.mem_map, List.mem_filter, bne_iff_ne, ne_eq]
                exact ⟨fun ⟨e, he, hurl⟩ => ⟨e, he.1, hurl⟩,
                  fun ⟨e, he, hurl⟩ => ⟨e, ⟨he, hurl ▸ hu⟩, hurl⟩⟩
              simp [hu, storedUrls, ← hmem]
      | get url' =>
          refine ⟨before, behind, rfl, fun u => ?_⟩
          rw [storedUrls_append]
          simpa [storedUrls] using hbehind u
      | clear => exact absurd rfl (hkept ⟨time, .clear⟩ (by simp))

end Histories

/-! ## The youngest entries -/

section Youngest

variable {α : Type}

theorem rtake_of_length_le {l : List α} {n : Nat} (h : l.length ≤ n) : l.rtake n = l := by
  simp [List.rtake, Nat.sub_eq_zero_of_le h]

/-- What holds of all that comes after it can be filtered before or after the last entries are taken. -/
theorem filter_rtake {p : α → Bool} {l : List α} (n : Nat)
    (hp : l.Pairwise fun a b => p a = true → p b = true) :
    (l.rtake n).filter p = (l.filter p).rtake n := by
  induction l using List.reverseRecOn generalizing n with
  | nil => simp
  | append_singleton l a ih =>
      obtain ⟨hl, -, hla⟩ := List.pairwise_append.1 hp
      cases n with
      | zero => simp
      | succ n =>
          cases ha : p a with
          | true => simp [ha, ih n hl]
          | false =>
              have hnone : l.filter p = [] := by
                refine List.filter_eq_nil_iff.2 fun b hb hpb => ?_
                have hpa := hla b hb a (List.mem_singleton_self a) hpb
                simp [ha] at hpa
              have hrest : (l.rtake n).filter p = [] := by rw [ih n hl, hnone, List.rtake_nil]
              simp [ha, hnone, hrest]

theorem mem_rtake_iff {before behind : List α} {a : α} {n : Nat} (ha : a ∉ behind) :
    a ∈ (before ++ a :: behind).rtake n ↔ behind.length < n := by
  have hlength : (before ++ a :: behind).length = before.length + behind.length + 1 := by
    simp [Nat.add_assoc]
  unfold List.rtake
  by_cases hn : behind.length < n
  · have hle : (before ++ a :: behind).length - n ≤ before.length := by omega
    rw [List.drop_append_of_le_length hle]
    simp [hn]
  · obtain ⟨k, hk⟩ : ∃ k, (before ++ a :: behind).length - n = before.length + (k + 1) :=
      ⟨behind.length - n, by omega⟩
    rw [hk, List.drop_length_add_append, List.drop_succ_cons]
    exact iff_of_false (fun hmem => ha (List.mem_of_mem_drop hmem)) hn

variable {τ : Type}

/-- Of the last entries at most one stands under an address, so one more of them is enough if that one is
taken out. -/
theorem rtake_filter_url {es : List (Stored τ)} (url : String) (n : Nat)
    (hes : (es.map Stored.url).Nodup) :
    ((es.rtake (n + 1)).filter fun e => e.url != url).rtake n =
      (es.filter fun e => e.url != url).rtake n := by
  induction es using List.reverseRecOn generalizing n with
  | nil => simp
  | append_singleton es e ih =>
      rw [List.map_append, List.map_singleton] at hes
      obtain ⟨hrest, -, hdisjoint⟩ := List.nodup_append.1 hes
      rw [List.rtake_concat_succ, List.filter_append, List.filter_append]
      by_cases he : e.url = url
      · have hothers : ∀ e' ∈ es, (e'.url != url) = true := by
          intro e' he'
          have hne := hdisjoint e'.url (List.mem_map_of_mem he') e.url (List.mem_singleton_self _)
          simpa [← he] using hne
        have hkept : (es.rtake n).filter (fun e => e.url != url) = es.rtake n :=
          List.filter_eq_self.2 fun e' he' => hothers e' (List.mem_of_mem_drop he')
        have hlength : (es.rtake n).length ≤ n := by
          simp only [List.rtake, List.length_drop]
          omega
        have hall : es.filter (fun e => e.url != url) = es := List.filter_eq_self.2 hothers
        have hlast : [e].filter (fun e => e.url != url) = [] := by simp [he]
        rw [hkept, hall, hlast, List.append_nil, List.append_nil, rtake_of_length_le hlength]
      · have hlast : [e].filter (fun e => e.url != url) = [e] := by simp [he]
        rw [hlast]
        cases n with
        | zero => simp
        | succ n => rw [List.rtake_concat_succ, List.rtake_concat_succ, ih n hrest]

end Youngest

/-! ## Runs of a cache -/

section Runs

variable {τ : Type} [Timeline τ]

/-- What is left of a cache after something was done with it. -/
def apply (c : Cache τ) (a : Act τ) : Cache τ :=
  match a.use with
  | .put url page => c.put a.time url page
  | .get url => (c.get a.time url).2
  | .clear => c.clear

/-- What is left of a cache after some history. -/
def after (c : Cache τ) (h : List (Act τ)) : Cache τ := h.foldl apply c

/-- Whether an entry is not too old at a time. -/
def fresh (c : Cache τ) (now : τ) (e : Stored τ) : Bool := !c.expired now e

variable {c : Cache τ}

theorem after_append (h : List (Act τ)) (a : Act τ) : c.after (h ++ [a]) = (c.after h).apply a := by
  simp [after]

/-- Asking for a page drops its entry if that is too old, and nothing else. -/
theorem get_snd (now : τ) (url : String) :
    (c.get now url).2 = c ∨
      ∃ e, c.find? url = some e ∧ c.expired now e = true ∧ (c.get now url).2 = c.drop url := by
  unfold get
  cases hfind : c.find? url with
  | none => exact .inl rfl
  | some e =>
      cases hexpired : c.expired now e with
      | false => exact .inl (by simp [hexpired])
      | true => exact .inr ⟨e, rfl, hexpired, by simp [hexpired]⟩

theorem put_of_keeps (h : c.keeps = true) (now : τ) (url : String) (page : Page) :
    (c.put now url page).entries =
      (c.entries.filter (fun e => e.url != url) ++ [(⟨url, now, page⟩ : Stored τ)]).rtake
        c.room.toNat := by
  unfold put
  rw [if_pos h]
  rfl

theorem apply_bounds (a : Act τ) :
    (c.apply a).lifetime = c.lifetime ∧ (c.apply a).room = c.room := by
  obtain ⟨time, use⟩ := a
  cases use with
  | put url page =>
      unfold apply put
      dsimp only
      split <;> exact ⟨rfl, rfl⟩
  | get url =>
      have hget := c.get_snd time url
      rcases hget with hget | ⟨e, -, -, hget⟩
      · simp [apply, hget]
      · simp [apply, hget, drop]
  | clear => exact ⟨rfl, rfl⟩

theorem put_bounds (c : Cache τ) (now : τ) (url : String) (page : Page) :
    (c.put now url page).lifetime = c.lifetime ∧ (c.put now url page).room = c.room :=
  apply_bounds (c := c) ⟨now, .put url page⟩

theorem after_bounds (h : List (Act τ)) :
    (c.after h).lifetime = c.lifetime ∧ (c.after h).room = c.room := by
  induction h using List.reverseRecOn with
  | nil => exact ⟨rfl, rfl⟩
  | append_singleton h a ih =>
      rw [after_append]
      have hstep := (c.after h).apply_bounds a
      exact ⟨hstep.1.trans ih.1, hstep.2.trans ih.2⟩

theorem keeps_after (h : List (Act τ)) : (c.after h).keeps = c.keeps := by
  obtain ⟨hlifetime, hroom⟩ := c.after_bounds h
  unfold keeps
  rw [hlifetime, hroom]

theorem fresh_after_eq (h : List (Act τ)) : (c.after h).fresh = c.fresh := by
  funext now e
  unfold fresh expired
  rw [(c.after_bounds h).1]

/-- The cache never outgrows its room. -/
theorem size_after_le (lifetime : τ) (room : Int) (h : List (Act τ)) :
    ((empty lifetime room).after h).size ≤ room.toNat := by
  induction h using List.reverseRecOn with
  | nil => simp [after, empty, size]
  | append_singleton h a ih =>
      rw [after_append]
      have hroom : ((empty lifetime room).after h).room = room := (after_bounds h).2
      obtain ⟨time, use⟩ := a
      cases use with
      | put url page =>
          have hput := length_put_le ((empty lifetime room).after h) time url page (by rwa [hroom])
          rwa [hroom] at hput
      | get url =>
          have hget := ((empty lifetime room).after h).get_snd time url
          rcases hget with hget | ⟨e, -, -, hget⟩
          · simpa [apply, hget] using ih
          · have hdrop := List.length_filter_le (fun e => e.url != url)
              ((empty lifetime room).after h).entries
            simp only [apply, hget]
            exact hdrop.trans ih
      | clear => simp [apply, clear, size]

/-- Nothing is ever in a cache that keeps nothing. -/
theorem entries_of_not_keeps (hc : c.keeps = false) (hempty : c.entries = []) (h : List (Act τ)) :
    (c.after h).entries = [] := by
  induction h using List.reverseRecOn with
  | nil => exact hempty
  | append_singleton h a ih =>
      have hkeeps := (keeps_after h).trans hc
      rw [after_append]
      obtain ⟨time, use⟩ := a
      cases use with
      | put url page => simpa [apply, put, hkeeps] using ih
      | get url =>
          have hget := (c.after h).get_snd time url
          rcases hget with hget | ⟨e, -, -, hget⟩
          · simpa [apply, hget] using ih
          · simp [apply, hget, drop, ih]
      | clear => rfl

/-- The entries of a cache are some of those that are remembered, in their order. -/
theorem entries_sublist (hempty : c.entries = []) (h : List (Act τ)) :
    (c.after h).entries.Sublist (remembered h) := by
  induction h using List.reverseRecOn with
  | nil => simp [after, hempty, remembered]
  | append_singleton h a ih =>
      rw [after_append, remembered_append]
      obtain ⟨time, use⟩ := a
      cases use with
      | put url page =>
          by_cases hkeeps : (c.after h).keeps = true
          · have hput := put_of_keeps hkeeps time url page
            have hrest := (ih.filter fun e => e.url != url).append_right [⟨url, time, page⟩]
            simp only [apply, remember, hput]
            exact (List.drop_sublist _ _).trans hrest
          · have hnone := entries_of_not_keeps
              (by rwa [keeps_after, Bool.not_eq_true] at hkeeps) hempty h
            simp [apply, put, hkeeps, hnone]
      | get url =>
          have hget := (c.after h).get_snd time url
          rcases hget with hget | ⟨e, -, -, hget⟩
          · simpa [apply, hget, remember] using ih
          · simp only [apply, hget, remember]
            exact List.filter_sublist.trans ih
      | clear => exact List.Sublist.refl _

end Runs

/-! ## What is fresh -/

theorem find?_of_mem {τ : Type} {c : Cache τ} {e : Stored τ} (hc : (c.entries.map Stored.url).Nodup)
    (he : e ∈ c.entries) : c.find? e.url = some e := by
  unfold find?
  cases hfind : c.entries.find? fun e' => e'.url == e.url with
  | none => simpa using List.find?_eq_none.1 hfind e he
  | some e' =>
      have hurl : e'.url = e.url := by simpa using List.find?_some hfind
      rw [List.inj_on_of_nodup_map hc (List.mem_of_find?_eq_some hfind) he hurl]

/-- Dropping an entry that a filter leaves out does not change what the filter keeps. -/
theorem filter_drop {τ : Type} {c : Cache τ} (hc : (c.entries.map Stored.url).Nodup) {url : String}
    {e : Stored τ} (hfind : c.find? url = some e) {p : Stored τ → Bool} (hp : p e = false) :
    (c.drop url).entries.filter p = c.entries.filter p := by
  simp only [drop, List.filter_filter]
  refine List.filter_congr fun e' he' => ?_
  by_cases hurl : e'.url = url
  · have hsame := find?_of_mem hc he'
    rw [hurl, hfind] at hsame
    obtain rfl := Option.some.inj hsame
    simp [hp]
  · simp [hurl]

/-- A cache gives the page of a fresh entry. -/
theorem get_fst_iff {τ : Type} [Timeline τ] {c : Cache τ} (hc : (c.entries.map Stored.url).Nodup)
    (now : τ) (url : String) (page : Page) :
    (c.get now url).1 = some page ↔
      ∃ e ∈ c.entries.filter (c.fresh now), e.url = url ∧ e.page = page := by
  constructor
  · intro hget
    unfold get at hget
    cases hfind : c.find? url with
    | none => simp [hfind] at hget
    | some e =>
        cases hexpired : c.expired now e with
        | true => simp [hfind, hexpired] at hget
        | false =>
            have hmem : e ∈ c.entries.filter (c.fresh now) :=
              List.mem_filter.2 ⟨List.mem_of_find?_eq_some hfind, by simp [fresh, hexpired]⟩
            have hurl : e.url = url := by simpa using List.find?_some hfind
            exact ⟨e, hmem, hurl, by simpa [hfind, hexpired] using hget⟩
  · rintro ⟨e, hmem, rfl, rfl⟩
    obtain ⟨he, hfresh⟩ := List.mem_filter.1 hmem
    have hexpired : c.expired now e = false := by simpa [fresh] using hfresh
    simp [get, find?_of_mem hc he, hexpired]

section Ordered

variable {τ : Type} [LinearOrder τ] {h : List (Act τ)}

/-- The clock never goes back in a history. -/
def Chronological (h : List (Act τ)) : Prop := h.Pairwise fun a b => a.time ≤ b.time

theorem since_le_of_mem {e : Stored τ} (he : e ∈ remembered h) {now : τ}
    (hnow : ∀ a ∈ h, a.time ≤ now) : e.since ≤ now := by
  obtain ⟨later, hlast⟩ := lastStored_of_mem he
  obtain ⟨earlier, rfl⟩ := hlast.stored
  exact hnow ⟨e.since, .put e.url e.page⟩ (by simp)

theorem sorted_remembered (hchron : Chronological h) :
    (remembered h).Pairwise fun e e' => e.since ≤ e'.since := by
  induction h using List.reverseRecOn with
  | nil => exact List.Pairwise.nil
  | append_singleton h a ih =>
      obtain ⟨hbefore, -, hlast⟩ := List.pairwise_append.1 hchron
      rw [remembered_append]
      obtain ⟨time, use⟩ := a
      cases use with
      | put url page =>
          refine List.pairwise_append.2 ⟨(ih hbefore).filter _, List.pairwise_singleton _ _, ?_⟩
          intro e he e' he'
          obtain rfl := List.mem_singleton.1 he'
          have hmem := (List.mem_filter.1 he).1
          exact since_le_of_mem hmem fun a ha => hlast a ha _ (List.mem_singleton_self _)
      | get url => exact ih hbefore
      | clear => exact List.Pairwise.nil

end Ordered

section Exact

variable {τ : Type} [AddCommGroup τ] [LinearOrder τ] [Timeline τ] [Timeline.Exact τ] {c : Cache τ}
  {h : List (Act τ)}

theorem fresh_iff {now : τ} {e : Stored τ} : c.fresh now e = true ↔ now - e.since ≤ c.lifetime := by
  have hexpired := Timeline.Exact.lt_iff c.lifetime (now - e.since)
  unfold fresh expired
  rw [Timeline.Exact.minus_eq, Bool.not_eq_true', ← Bool.not_eq_true, hexpired, not_lt]

theorem keeps_iff : c.keeps = true ↔ 0 < c.lifetime ∧ 0 < c.room := by
  have hlifetime := Timeline.Exact.le_iff c.lifetime (Timeline.seconds 0)
  unfold keeps
  rw [Bool.not_eq_true', Bool.or_eq_false_iff, decide_eq_false_iff_not, not_le, ← Bool.not_eq_true,
    hlifetime, not_le, Timeline.Exact.seconds_zero]

variable [IsOrderedAddMonoid τ]

/-- Of two entries the younger is fresh if the older is, and what is fresh later was fresh before. -/
theorem fresh_mono {now now' : τ} {e e' : Stored τ} (hfresh : c.fresh now' e = true)
    (hsince : e.since ≤ e'.since) (hnow : now ≤ now') : c.fresh now e' = true := by
  have hage : now' - e.since ≤ c.lifetime := fresh_iff.1 hfresh
  have hyounger : now - e'.since ≤ now' - e.since := sub_le_sub hnow hsince
  exact fresh_iff.2 (hyounger.trans hage)

theorem fresh_pairwise {es : List (Stored τ)} (hes : es.Pairwise fun e e' => e.since ≤ e'.since)
    (now : τ) : es.Pairwise fun e e' => c.fresh now e = true → c.fresh now e' = true :=
  hes.imp fun hsince hfresh => fresh_mono hfresh hsince le_rfl

/-- Asking for a page drops nothing that is still fresh then or later. -/
theorem filter_get (hc : (c.entries.map Stored.url).Nodup) {time now : τ} (hnow : time ≤ now)
    (url : String) :
    (c.get time url).2.entries.filter (c.fresh now) = c.entries.filter (c.fresh now) := by
  rcases c.get_snd time url with hget | ⟨e, hfind, hexpired, hget⟩
  · rw [hget]
  · have hold : c.fresh now e = false := by
      rw [← Bool.not_eq_true]
      intro hfresh
      have hbefore := fresh_mono hfresh le_rfl hnow
      simp [fresh, hexpired] at hbefore
    rw [hget, filter_drop hc hfind hold]

/-- Storing a page keeps the youngest of what is fresh, if that is what the cache held before. -/
theorem filter_put {es : List (Stored τ)} (hkeeps : c.keeps = true) (hsublist : c.entries.Sublist es)
    (hnodup : (es.map Stored.url).Nodup) (hsorted : es.Pairwise fun e e' => e.since ≤ e'.since)
    (time now : τ) (htime : ∀ e ∈ es, e.since ≤ time)
    (hyoungest : c.entries.filter (c.fresh now) = (es.filter (c.fresh now)).rtake c.room.toNat)
    (url : String) (page : Page) :
    (c.put time url page).entries.filter (c.fresh now) =
      ((es.filter (fun e => e.url != url) ++ [(⟨url, time, page⟩ : Stored τ)]).filter
        (c.fresh now)).rtake c.room.toNat := by
  rw [put_of_keeps hkeeps]
  generalize hnew : (⟨url, time, page⟩ : Stored τ) = new
  have hsince : new.since = time := by rw [← hnew]
  cases hfresh : c.fresh now new with
  | true =>
      obtain ⟨n, hn⟩ : ∃ n, c.room.toNat = n + 1 :=
        ⟨c.room.toNat - 1, by have := (keeps_iff.1 hkeeps).2; omega⟩
      have hother : (c.entries.filter fun e => e.url != url).Pairwise fun e e' =>
          c.fresh now e = true → c.fresh now e' = true :=
        fresh_pairwise ((hsorted.sublist hsublist).filter _) now
      have hurls : ((es.filter (c.fresh now)).map Stored.url).Nodup :=
        hnodup.sublist (List.filter_sublist.map _)
      rw [hn] at hyoungest ⊢
      calc
        ((c.entries.filter (fun e => e.url != url) ++ [new]).rtake (n + 1)).filter (c.fresh now) =
            ((c.entries.filter fun e => e.url != url).filter (c.fresh now)).rtake n ++ [new] := by
          simp [hfresh, filter_rtake n hother]
        _ = ((c.entries.filter (c.fresh now)).filter fun e => e.url != url).rtake n ++ [new] := by
          rw [List.filter_comm]
        _ = ((es.filter (c.fresh now)).filter fun e => e.url != url).rtake n ++ [new] := by
          rw [hyoungest, rtake_filter_url url n hurls]
        _ = ((es.filter (fun e => e.url != url) ++ [new]).filter (c.fresh now)).rtake (n + 1) := by
          rw [List.filter_comm]
          simp [hfresh]
  | false =>
      -- what is older than a page that is not fresh is not fresh either
      have hnone : ∀ e ∈ es.filter (fun e => e.url != url) ++ [new], ¬ c.fresh now e = true := by
        intro e he hold
        rcases List.mem_append.1 he with he | he
        · have hle : e.since ≤ new.since := hsince ▸ htime e (List.mem_filter.1 he).1
          simp [fresh_mono hold hle le_rfl] at hfresh
        · obtain rfl := List.mem_singleton.1 he
          simp [hold] at hfresh
      have hsub : ((c.entries.filter (fun e => e.url != url) ++ [new]).rtake c.room.toNat).Sublist
          (es.filter (fun e => e.url != url) ++ [new]) :=
        (List.drop_sublist _ _).trans ((hsublist.filter _).append_right _)
      rw [List.filter_eq_nil_iff.2 hnone, List.rtake_nil]
      exact List.filter_eq_nil_iff.2 fun e he => hnone e (hsub.subset he)

/-- Of what is still fresh, a cache holds as many of the youngest entries as it has room for. -/
theorem fresh_after (hempty : c.entries = []) (hkeeps : c.keeps = true) (hchron : Chronological h)
    {now : τ} (hnow : ∀ a ∈ h, a.time ≤ now) :
    (c.after h).entries.filter (c.fresh now) =
      ((remembered h).filter (c.fresh now)).rtake c.room.toNat := by
  induction h using List.reverseRecOn with
  | nil => simp [after, hempty, remembered]
  | append_singleton h a ih =>
      obtain ⟨hbefore, -, hlast⟩ := List.pairwise_append.1 hchron
      have ih := ih hbefore fun b hb => hnow b (by simp [hb])
      have htime : a.time ≤ now := hnow a (by simp)
      have hsublist := entries_sublist hempty h
      have hnodup := nodup_remembered h
      have hfresh := c.fresh_after_eq h
      rw [after_append, remembered_append]
      obtain ⟨time, use⟩ := a
      cases use with
      | put url page =>
          have hput := filter_put ((keeps_after h).trans hkeeps) hsublist hnodup
            (sorted_remembered hbefore) time now
            (fun e he => since_le_of_mem he fun b hb => hlast b hb _ (List.mem_singleton_self _))
            (by rw [hfresh, (c.after_bounds h).2]; exact ih) url page
          rw [hfresh, (c.after_bounds h).2] at hput
          exact hput
      | get url =>
          have hget := filter_get (hnodup.sublist (hsublist.map _)) htime url
          rw [hfresh] at hget
          exact hget.trans ih
      | clear => simp [apply, clear, remember]

/-- A page that was stored last is among the youngest fresh entries if it is fresh and few enough other
addresses have been used since. -/
theorem LastStored.mem_youngest_iff {url : String} {since : τ} {page : Page} {later : List (Act τ)}
    (hlast : LastStored h url since page later) (hchron : Chronological h) (now : τ) (n : Nat) :
    ⟨url, since, page⟩ ∈ ((remembered h).filter (c.fresh now)).rtake n ↔
      c.fresh now ⟨url, since, page⟩ = true ∧ (storedUrls later).dedup.length < n := by
  obtain ⟨before, behind, heq, hbehind⟩ := hlast.remembered_eq
  have hnodup := nodup_remembered h
  have hsorted := sorted_remembered hchron
  rw [heq] at hnodup hsorted ⊢
  obtain ⟨-, hyounger, -⟩ := List.pairwise_append.1 hsorted
  have hurls : (url :: behind.map Stored.url).Nodup := by
    simpa using hnodup.sublist ((List.sublist_append_right before _).map Stored.url)
  obtain ⟨hurl, hothers⟩ := List.nodup_cons.1 hurls
  have hlength : behind.length = (storedUrls later).dedup.length := by
    have hperm : (behind.map Stored.url).Perm (storedUrls later).dedup :=
      (List.perm_ext_iff_of_nodup hothers (List.nodup_dedup _)).2 fun u => by
        rw [hbehind u, List.mem_dedup]
    simpa using hperm.length_eq
  cases hfresh : c.fresh now ⟨url, since, page⟩ with
  | false =>
      refine iff_of_false (fun hmem => ?_) (fun hand => Bool.false_ne_true hand.1)
      have hkept := (List.mem_filter.1 (List.mem_of_mem_drop hmem)).2
      simp [hfresh] at hkept
  | true =>
      have hall : behind.filter (c.fresh now) = behind :=
        List.filter_eq_self.2 fun e he => fresh_mono hfresh (List.rel_of_pairwise_cons hyounger he) le_rfl
      have hnotin : (⟨url, since, page⟩ : Stored τ) ∉ behind :=
        fun hmem => hurl (List.mem_map_of_mem hmem)
      rw [List.filter_append, List.filter_cons_of_pos hfresh, hall, mem_rtake_iff hnotin, hlength]
      simp

/-- A cache gives a page exactly if it was the last to be stored under its address, is not too old, and
fewer other addresses have been used since than there is room for.  It never outgrows its room. -/
theorem get_after_iff (lifetime : τ) (room : Int) (hchron : Chronological h) :
    (((empty lifetime room).after h).size : Int) ≤ max room 0 ∧
      ∀ now url page, (∀ a ∈ h, a.time ≤ now) →
        ((((empty lifetime room).after h).get now url).1 = some page ↔
          0 < lifetime ∧ 0 < room ∧ ∃ since later, LastStored h url since page later ∧
            now - since ≤ lifetime ∧ ((storedUrls later).dedup.length : Int) < room) := by
  have hbounds := (empty lifetime room).after_bounds h
  refine ⟨?_, fun now url page hnow => ?_⟩
  · have hsize := size_after_le lifetime room h
    omega
  · have hsublist := entries_sublist (c := empty lifetime room) rfl h
    have hnodup := (nodup_remembered h).sublist (hsublist.map Stored.url)
    have hget := get_fst_iff hnodup now url page
    rw [fresh_after_eq] at hget
    cases hkeeps : (empty lifetime room).keeps with
    | false =>
        have hnone := entries_of_not_keeps hkeeps rfl h
        have hnot : ¬ (0 < lifetime ∧ 0 < room) := fun hpos =>
          Bool.false_ne_true (hkeeps.symm.trans (keeps_iff.2 hpos))
        rw [hget, hnone]
        exact iff_of_false (by simp) fun hpos => hnot ⟨hpos.1, hpos.2.1⟩
    | true =>
        obtain ⟨hlifetime, hroom⟩ := keeps_iff.1 hkeeps
        rw [hget, fresh_after rfl hkeeps hchron hnow]
        constructor
        · rintro ⟨e, hmem, rfl, rfl⟩
          have hremembered : e ∈ remembered h :=
            (List.mem_filter.1 (List.mem_of_mem_drop hmem)).1
          obtain ⟨later, hlast⟩ := lastStored_of_mem hremembered
          obtain ⟨hfresh, hfew⟩ := (hlast.mem_youngest_iff hchron now _).1 hmem
          refine ⟨hlifetime, hroom, e.since, later, hlast, fresh_iff.1 hfresh, ?_⟩
          simp only [empty] at hfew
          omega
        · rintro ⟨-, -, since, later, hlast, hage, hfew⟩
          refine ⟨⟨url, since, page⟩, (hlast.mem_youngest_iff hchron now _).2 ⟨?_, ?_⟩, rfl, rfl⟩
          · exact fresh_iff.2 hage
          · simp only [empty]
            omega

end Exact

/-- A page without tables. -/
def plainPage (text : String) : Page := ⟨"http://rm/page", [], text⟩

/-- Of three addresses in a cache with room for two, the one that was stored again stays. -/
theorem get_after_iff_of_stored_again :
    let h : List (Act Int) := [⟨0, .put "a" (plainPage "old")⟩, ⟨1, .put "b" (plainPage "b")⟩,
      ⟨3, .put "a" (plainPage "new")⟩, ⟨4, .get "b"⟩, ⟨5, .put "c" (plainPage "c")⟩]
    let c : Cache Int := (empty 10 2).after h
    (Chronological h ∧ ∀ a ∈ h, a.time ≤ 13) ∧ (c.size : Int) ≤ max 2 0 ∧
      (c.get 13 "a").1 = some (plainPage "new") ∧ (c.get 13 "b").1 = none := by
  intro h c
  have hchron : Chronological h := by
    unfold Chronological
    decide
  have hnow : ∀ a ∈ h, a.time ≤ 13 := by decide
  obtain ⟨hsize, hget⟩ := get_after_iff 10 2 hchron
  refine ⟨⟨hchron, hnow⟩, hsize, ?_, by decide⟩
  have hlast : LastStored h "a" 3 (plainPage "new")
      [⟨4, .get "b"⟩, ⟨5, .put "c" (plainPage "c")⟩] :=
    ⟨⟨[⟨0, .put "a" (plainPage "old")⟩, ⟨1, .put "b" (plainPage "b")⟩], rfl⟩, by simp, by decide⟩
  exact (hget 13 "a" (plainPage "new") hnow).2
    ⟨by decide, by decide, 3, _, hlast, by decide, by decide⟩

end SparkGateway.Page.Cache
