import Mathlib.Data.List.TakeWhile
import SparkGateway.Proofs.Url.Site

/-!
# The parts of a URL that has been read

Reading a URL cuts its text at delimiters, so no part holds the delimiters that end it: the authority
holds none of a slash, a question mark and a number sign, the path neither of the last two, and none of
them holds a tab or a line break (`parts_of_parseFrom?`).  The host is taken from the authority and put
into lower case, which brings none of these characters in (`host?_plain`).

Conversely the address of a path that keeps to this, on the site of such a URL, is read back as that
(`parse?_onSite`).
-/

namespace SparkGateway.Url

/-- The characters of a path. -/
def isPathChar (c : Char) : Bool := !isDropped c && c != '?' && c != '#'

/-- The characters of an authority. -/
def isAuthorityChar (c : Char) : Bool := isPathChar c && c != '/'

theorem isPathChar_iff {c : Char} :
    isPathChar c = true ↔ isDropped c = false ∧ c ≠ '?' ∧ c ≠ '#' := by
  simp [isPathChar, and_assoc]

theorem isAuthorityChar_iff {c : Char} :
    isAuthorityChar c = true ↔ endsAuthority c = false ∧ isDropped c = false := by
  simp only [isAuthorityChar, isPathChar, endsAuthority, Bool.and_eq_true, Bool.not_eq_true', bne_iff_ne,
    Bool.or_eq_false_iff, beq_eq_false_iff_ne]
  constructor
  · rintro ⟨⟨⟨hdropped, hquery⟩, hfragment⟩, hslash⟩
    exact ⟨⟨⟨hslash, hquery⟩, hfragment⟩, hdropped⟩
  · rintro ⟨⟨⟨hslash, hquery⟩, hfragment⟩, hdropped⟩
    exact ⟨⟨⟨hdropped, hquery⟩, hfragment⟩, hslash⟩

theorem isPathChar_of_isAuthorityChar {c : Char} (h : isAuthorityChar c = true) : isPathChar c = true :=
  (Bool.and_eq_true_iff.1 h).1

/-! ## Cuts -/

theorem cutAt?_eq_some {p : Char → Bool} {s before after : List Char}
    (h : cutAt? p s = some (before, after)) :
    ∃ c, s = before ++ c :: after ∧ (∀ d ∈ before, p d = false) ∧ p c = true := by
  unfold cutAt? at h
  split at h
  · cases h
  · next c rest hrest =>
      obtain ⟨rfl, rfl⟩ := Prod.mk.inj (Option.some.inj h)
      have hc := List.head_dropWhile_not (fun c => !p c) (l := s) (by simp [hrest])
      refine ⟨c, ?_, fun d hd => ?_, ?_⟩
      · rw [← hrest, List.takeWhile_append_dropWhile]
      · simpa using List.mem_takeWhile_imp hd
      · simpa [hrest] using hc

/-- What stands before the first delimiter, or the whole text. -/
theorem fst_cutAt?_getD (p : Char → Bool) (s t : List Char) :
    ((cutAt? p s).getD (s, t)).1 = beforeFirst p s := by
  have hsplit := List.takeWhile_append_dropWhile (p := fun c => !p c) (l := s)
  unfold cutAt? beforeFirst
  split
  · next hnil =>
      rw [hnil, List.append_nil] at hsplit
      exact hsplit.symm
  · rfl

theorem beforeFirst_prefix_self (p : Char → Bool) (s : List Char) : beforeFirst p s <+: s :=
  List.takeWhile_prefix _

theorem not_of_mem_beforeFirst {p : Char → Bool} {s : List Char} {c : Char} (h : c ∈ beforeFirst p s) :
    p c = false := by
  simpa using List.mem_takeWhile_imp h

theorem mem_of_cutScheme? {default s scheme rest : List Char} {c : Char}
    (h : (cutScheme? s).getD (default, s) = (scheme, rest)) (hc : c ∈ rest) : c ∈ s := by
  cases hcut : cutScheme? s with
  | none =>
      rw [hcut] at h
      obtain ⟨-, rfl⟩ := Prod.mk.inj h
      exact hc
  | some cut =>
      rw [hcut] at h
      obtain rfl : cut = (scheme, rest) := h
      unfold cutScheme? at hcut
      split at hcut
      · next before after hat =>
          split at hcut
          · obtain ⟨-, rfl⟩ := Prod.mk.inj (Option.some.inj hcut)
            obtain ⟨colon, rfl, -⟩ := cutAt?_eq_some hat
            exact List.mem_append_right _ (List.mem_cons_of_mem _ hc)
          · cases hcut
      · cases hcut

/-- An authority stands between two slashes and what ends it; without the slashes there is none. -/
theorem cutAuthority_cases {s authority rest : List Char} (h : cutAuthority s = (authority, rest)) :
    (∀ c ∈ authority, c ∈ s ∧ endsAuthority c = false) ∧ (∀ c ∈ rest, c ∈ s) ∧
      (authority ≠ [] → Follows rest) := by
  unfold cutAuthority at h
  split at h
  · next after =>
      obtain ⟨rfl, rfl⟩ := Prod.mk.inj h
      refine ⟨fun c hc => ⟨?_, by simpa using List.mem_takeWhile_imp hc⟩, fun c hc => ?_, fun _ c hc => ?_⟩
      · exact List.mem_cons_of_mem _ (List.mem_cons_of_mem _ ((List.takeWhile_prefix _).subset hc))
      · exact List.mem_cons_of_mem _ (List.mem_cons_of_mem _ ((List.dropWhile_suffix _).subset hc))
      · have hhead := List.head?_dropWhile_not (fun c => !endsAuthority c) after
        rw [hc] at hhead
        simpa using hhead
  · obtain ⟨rfl, rfl⟩ := Prod.mk.inj h
    exact ⟨by simp, fun c hc => hc, fun hne => absurd rfl hne⟩

/-- How the authority and the path of a URL come about when it is read. -/
theorem cuts_of_parseFrom? {default text : List Char} {u : Url} (h : parseFrom? default text = some u) :
    ∃ rest after, (∀ c ∈ rest, isDropped c = false) ∧ cutAuthority rest = (u.authority, after) ∧
      u.path = beforeFirst (· == '?') (beforeFirst (· == '#') after) ∧
      soundAuthority u.authority = true := by
  unfold parseFrom? at h
  obtain ⟨s, hs⟩ : ∃ s, cleaned text = s := ⟨_, rfl⟩
  obtain ⟨scheme, rest, hscheme⟩ : ∃ scheme rest, (cutScheme? s).getD (default, s) = (scheme, rest) :=
    ⟨_, _, rfl⟩
  obtain ⟨authority, after, hauthority⟩ : ∃ authority after, cutAuthority rest = (authority, after) :=
    ⟨_, _, rfl⟩
  simp only [hs, hscheme, hauthority] at h
  split at h
  · next hsound =>
      obtain rfl := Option.some.inj h
      refine ⟨rest, after, fun c hc => ?_, hauthority, ?_, hsound⟩
      · have hmem := mem_of_cutScheme? hscheme hc
        rw [← hs] at hmem
        simpa using (List.mem_filter.1 hmem).2
      · dsimp only
        rw [fst_cutAt?_getD, fst_cutAt?_getD]
  · cases h

/-- The parts of a URL that has been read hold no delimiters that end them, and a path behind an
authority starts at the root. -/
structure Parted (u : Url) : Prop where
  authority : ∀ c ∈ u.authority, isAuthorityChar c = true
  sound : soundAuthority u.authority = true
  path : ∀ c ∈ u.path, isPathChar c = true
  rooted : u.authority ≠ [] → ∀ c, u.path.head? = some c → c = '/'

theorem parts_of_parseFrom? {default text : List Char} {u : Url} (h : parseFrom? default text = some u) :
    Parted u := by
  obtain ⟨rest, after, hkept, hauthority, hpath, hsound⟩ := cuts_of_parseFrom? h
  obtain ⟨hmem, hafter, hfollows⟩ := cutAuthority_cases hauthority
  have hbegins : u.path <+: after :=
    hpath ▸ (beforeFirst_prefix_self _ _).trans (beforeFirst_prefix_self _ _)
  have hchars : ∀ c ∈ u.path, isPathChar c = true := by
    intro c hc
    have hquery := not_of_mem_beforeFirst (hpath ▸ hc)
    have hfragment := not_of_mem_beforeFirst ((beforeFirst_prefix_self _ _).subset (hpath ▸ hc))
    refine isPathChar_iff.2 ⟨hkept c (hafter c (hbegins.subset hc)), ?_, ?_⟩
    · simpa using hquery
    · simpa using hfragment
  refine ⟨fun c hc => ?_, hsound, hchars, fun hne c hc => ?_⟩
  · exact isAuthorityChar_iff.2 ⟨(hmem c hc).2, hkept c (hmem c hc).1⟩
  · obtain ⟨path, hcons⟩ := List.head?_eq_some_iff.1 hc
    obtain ⟨hdropped, hquery, hfragment⟩ := isPathChar_iff.1 (hchars c (List.mem_of_mem_head? hc))
    obtain ⟨t, ht⟩ := hbegins
    have hends := hfollows hne c (by rw [← ht, hcons]; rfl)
    simpa [endsAuthority, hquery, hfragment] using hends

/-! ## The host -/

theorem isAuthorityChar_of_toNat {c : Char} (h : 64 ≤ c.toNat ∨ c.toNat = 0) :
    isAuthorityChar c = true := by
  have hne : ∀ d : Char, 0 < d.toNat → d.toNat < 64 → c ≠ d := by
    rintro d hpos hlt rfl
    omega
  simp [isAuthorityChar, isPathChar, isDropped, hne '\t', hne '\n', hne '\r', hne '?', hne '#', hne '/']

theorem isAuthorityChar_ofNat {n : Nat} (h : 64 ≤ n) : isAuthorityChar (Char.ofNat n) = true := by
  refine isAuthorityChar_of_toNat ?_
  by_cases hvalid : n.isValidChar
  · left
    rwa [Char.ofNat, dif_pos hvalid]
  · right
    rw [Char.ofNat, dif_neg hvalid]
    rfl

/-- Lower case brings no delimiter in: beyond ASCII it comes from a table in which none occurs. -/
theorem isAuthorityChar_lowerChar {c : Char} (h : isAuthorityChar c = true) :
    ∀ d ∈ Text.lowerChar c, isAuthorityChar d = true := by
  have hascii : ∀ n < 128, isAuthorityChar (Char.ofNat n) = true →
      isAuthorityChar (Char.ofNat n).toLower = true := by decide +kernel
  have hmany : ∀ row ∈ Text.CaseTable.lowerMany, ∀ n ∈ row.2, 64 ≤ n := by decide
  have hone : ∀ row ∈ Text.CaseTable.lower, (64 : Int) ≤ row.1 + row.2.2.2 := by decide +kernel
  intro d hd
  unfold Text.lowerChar at hd
  split at hd
  · next hsmall =>
      rw [List.mem_singleton.1 hd]
      have hlower := hascii c.toNat hsmall
      rw [Char.ofNat_toNat] at hlower
      exact hlower h
  · split at hd
    · next ns hrow =>
        obtain ⟨n, hn, rfl⟩ := List.mem_map.1 hd
        obtain ⟨before, after, htable, -⟩ := List.lookup_eq_some_iff.1 hrow
        exact isAuthorityChar_ofNat (hmany _ (htable ▸ List.mem_append_right _ List.mem_cons_self) n hn)
    · rw [List.mem_singleton.1 hd]
      cases hshift : Text.shifted Text.CaseTable.lower c.toNat with
      | none => exact h
      | some n =>
          obtain ⟨⟨first, last, step, shift⟩, hrow, hn⟩ := List.exists_of_findSome?_eq_some hshift
          have hfirst := hone _ hrow
          dsimp only at hfirst hn
          split at hn
          · next hrange =>
              obtain rfl := Option.some.inj hn
              simp only [Bool.and_eq_true, decide_eq_true_eq] at hrange
              exact isAuthorityChar_ofNat (by omega)
          · cases hn

theorem isAuthorityChar_lowerAfter {before s : List Char} (h : ∀ c ∈ s, isAuthorityChar c = true) :
    ∀ d ∈ Text.lowerAfter before s, isAuthorityChar d = true := by
  induction s generalizing before with
  | nil => simp [Text.lowerAfter]
  | cons c cs ih =>
      intro d hd
      rcases List.mem_append.1 hd with hd | hd
      · split at hd
        · split at hd <;> rw [List.mem_singleton.1 hd] <;> decide
        · exact isAuthorityChar_lowerChar (h c List.mem_cons_self) d hd
      · exact ih (fun c hc => h c (List.mem_cons_of_mem _ hc)) d hd

theorem lowerChar_ne_nil (c : Char) : Text.lowerChar c ≠ [] := by
  have hmany : ∀ row ∈ Text.CaseTable.lowerMany, row.2 ≠ [] := by decide
  unfold Text.lowerChar
  split
  · exact List.cons_ne_nil _ _
  · split
    · next ns hrow =>
        obtain ⟨before, after, htable, -⟩ := List.lookup_eq_some_iff.1 hrow
        simpa using hmany _ (htable ▸ List.mem_append_right _ List.mem_cons_self)
    · exact List.cons_ne_nil _ _

theorem lowerChars_ne_nil {s : List Char} (h : s ≠ []) : Text.lowerChars s ≠ [] := by
  obtain ⟨c, cs, rfl⟩ := List.exists_cons_of_ne_nil h
  unfold Text.lowerChars Text.lowerAfter
  refine List.append_ne_nil_of_left_ne_nil ?_ _
  split
  · split <;> exact List.cons_ne_nil _ _
  · exact lowerChar_ne_nil c

/-- The host in an authority, as it is written there. -/
def writtenHost (authority : List Char) : List Char :=
  match cutAt? (· == '[') (afterLast (· == '@') authority) with
  | some (_, inside) => beforeFirst (· == ']') inside
  | none => beforeFirst (· == ':') (afterLast (· == '@') authority)

theorem host?_eq (u : Url) :
    u.host? =
      if writtenHost u.authority = [] then none
      else
        let name := beforeFirst (· == '%') (writtenHost u.authority)
        some (Text.lowerChars name ++ (writtenHost u.authority).drop name.length) :=
  rfl

theorem mem_of_mem_writtenHost {authority : List Char} {c : Char} (h : c ∈ writtenHost authority) :
    c ∈ authority := by
  have hplace : ∀ d ∈ afterLast (· == '@') authority, d ∈ authority := by
    intro d hd
    exact List.mem_reverse.1 ((List.takeWhile_prefix _).subset (List.mem_reverse.1 hd))
  unfold writtenHost at h
  split at h
  · next before inside hcut =>
      obtain ⟨bracket, heq, -⟩ := cutAt?_eq_some hcut
      refine hplace c (heq ▸ List.mem_append_right _ (List.mem_cons_of_mem _ ?_))
      exact (beforeFirst_prefix_self _ _).subset h
  · exact hplace c ((beforeFirst_prefix_self _ _).subset h)

/-- A host is taken from the authority, and no delimiter gets into it. -/
theorem host?_plain {u : Url} {host : List Char} (h : ∀ c ∈ u.authority, isAuthorityChar c = true)
    (hhost : u.host? = some host) :
    u.authority ≠ [] ∧ host ≠ [] ∧ ∀ c ∈ host, isAuthorityChar c = true := by
  rw [host?_eq] at hhost
  split at hhost
  · cases hhost
  · next hne =>
      obtain rfl := Option.some.inj hhost
      refine ⟨?_, ?_, fun c hc => ?_⟩
      · intro hnil
        obtain ⟨c, hc⟩ := List.exists_mem_of_ne_nil _ hne
        exact List.ne_nil_of_mem (mem_of_mem_writtenHost hc) hnil
      · by_cases hname : beforeFirst (· == '%') (writtenHost u.authority) = []
        · rw [hname]
          exact hne
        · exact List.append_ne_nil_of_left_ne_nil (lowerChars_ne_nil hname) _
      · rcases List.mem_append.1 hc with hc | hc
        · refine isAuthorityChar_lowerAfter (fun d hd => ?_) c hc
          exact h d (mem_of_mem_writtenHost ((beforeFirst_prefix_self _ _).subset hd))
        · exact h c (mem_of_mem_writtenHost (List.mem_of_mem_drop hc))

/-! ## Reading what is kept apart -/

theorem filter_not_isDropped_of_path {path : List Char} (h : ∀ c ∈ path, isPathChar c = true) :
    path.filter (fun c => !isDropped c) = path :=
  filter_not_isDropped fun c hc => (isPathChar_iff.1 (h c hc)).1

theorem parseFrom?_of_cuts {default text s scheme rest authority path : List Char}
    (hcleaned : cleaned text = s)
    (hscheme : (cutScheme? s).getD (default, s) = (scheme, rest))
    (hauthority : cutAuthority rest = (authority, path)) (hsound : soundAuthority authority = true)
    (hpath : ∀ c ∈ path, isPathChar c = true) :
    parseFrom? default text = some ⟨scheme, authority, path, [], []⟩ := by
  have hnone : ∀ d, isPathChar d = false → cutAt? (· == d) path = none := by
    intro d hd
    refine cutAt?_eq_none fun c hc => ?_
    rw [beq_eq_false_iff_ne]
    rintro rfl
    exact Bool.false_ne_true (hd.symm.trans (hpath c hc))
  simp only [parseFrom?, hcleaned, hscheme, hauthority, hnone '#' rfl, hnone '?' rfl, Option.getD_none,
    hsound, if_true]

/-- A path from the root is read as a path and nothing else, if it does not start with two slashes. -/
theorem parseFrom?_path {rest : List Char} {c : Char} (default : List Char) (hslash : c ≠ '/')
    (hpath : ∀ d ∈ '/' :: c :: rest, isPathChar d = true) :
    parseFrom? default ('/' :: c :: rest) = some ⟨default, [], '/' :: c :: rest, [], []⟩ := by
  have hcleaned : cleaned ('/' :: c :: rest) = '/' :: c :: rest := by
    rw [cleaned_of_head _ (by decide), filter_not_isDropped_of_path hpath]
  refine parseFrom?_of_cuts hcleaned ?_ (cutAuthority_of_slash _ hslash) rfl hpath
  rw [cutScheme?_slash]
  rfl

/-- The address of a path on the site of a URL. -/
def onSite (u : Url) (path : List Char) : List Char :=
  u.scheme ++ ':' :: '/' :: '/' :: (u.authority ++ path)

/-- The address of a path on the site of a URL that has been read is read as that. -/
theorem parse?_onSite {u : Url} {path : List Char} (hweb : isWeb u.scheme = true) (hparts : Parted u)
    (hpath : ∀ c ∈ path, isPathChar c = true) (hrooted : ∀ c, path.head? = some c → c = '/') :
    parse? (u.onSite path) = some ⟨u.scheme, u.authority, path, [], []⟩ := by
  have hchars : ∀ c ∈ u.authority ++ path, isPathChar c = true := by
    intro c hc
    rcases List.mem_append.1 hc with hc | hc
    · exact isPathChar_of_isAuthorityChar (hparts.authority c hc)
    · exact hpath c hc
  have hcleaned : cleaned (u.onSite path) = u.onSite path := by
    unfold onSite
    rw [cleaned_web _ hweb, List.filter_cons_of_pos rfl, List.filter_cons_of_pos rfl,
      List.filter_cons_of_pos rfl, filter_not_isDropped_of_path hchars]
  have hfollows : Follows path := by
    intro c hc
    rw [hrooted c hc]
    rfl
  have hends : ∀ c ∈ u.authority, endsAuthority c = false := fun c hc =>
    (isAuthorityChar_iff.1 (hparts.authority c hc)).1
  refine parseFrom?_of_cuts hcleaned ?_ (cutAuthority_append hends hfollows) hparts.sound hpath
  rw [onSite, cutScheme?_web hweb]
  rfl

end SparkGateway.Url
