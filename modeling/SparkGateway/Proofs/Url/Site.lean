import SparkGateway.Url.Join

/-!
# Sites

The scheme and the authority of an address name the site to which a request for it goes.  Whatever
stands behind the authority has no say in them (`namesSite_placed`), and a link that is read relative to
an address stays on its site exactly if it names no authority of its own (`namesSite_join`).
-/

namespace SparkGateway.Url

/-- The characters that stand for themselves in an authority: they neither end it nor open or close a
bracket nor stand for a delimiter.  Letters, digits, dots, hyphens and colons are among them. -/
def isPlain (c : Char) : Bool :=
  !endsAuthority c && !isDropped c && c != '[' && c != ']' && !delimiterLike.contains c.toNat

/-- The schemes of the web. -/
def isWeb (scheme : List Char) : Bool := scheme == "http".toList || scheme == "https".toList

/-- A text reads as a URL with this scheme and this authority; `default` is the scheme of a text that
names none. -/
def NamesSite (default text scheme authority : List Char) : Prop :=
  ∃ u, parseFrom? default text = some u ∧ u.scheme = scheme ∧ u.authority = authority

/-- Two addresses have the same scheme and the same authority. -/
def SameSite (a b : String) : Prop :=
  ∃ scheme authority, NamesSite [] a.toList scheme authority ∧ NamesSite [] b.toList scheme authority

/-- An address is on one site only. -/
theorem NamesSite.unique {default text scheme scheme' authority authority' : List Char}
    (h : NamesSite default text scheme authority) (h' : NamesSite default text scheme' authority') :
    scheme = scheme' ∧ authority = authority' := by
  obtain ⟨u, hu, rfl, rfl⟩ := h
  obtain ⟨v, hv, rfl, rfl⟩ := h'
  obtain rfl := Option.some.inj (hu.symm.trans hv)
  exact ⟨rfl, rfl⟩

/-- What is on the same site as an address is on the site of that address. -/
theorem SameSite.namesSite {a b : String} {scheme authority : List Char} (h : SameSite a b)
    (ha : NamesSite [] a.toList scheme authority) : NamesSite [] b.toList scheme authority := by
  obtain ⟨scheme', authority', ha', hb⟩ := h
  obtain ⟨rfl, rfl⟩ := ha.unique ha'
  exact hb

theorem isPlain_iff {c : Char} :
    isPlain c = true ↔ endsAuthority c = false ∧ isDropped c = false ∧ c ≠ '[' ∧ c ≠ ']' ∧
      delimiterLike.contains c.toNat = false := by
  simp [isPlain, and_assoc]

example : ∀ n < 128, (Char.ofNat n).isAlphanum = true ∨ Char.ofNat n ∈ ['.', '-', ':'] →
    isPlain (Char.ofNat n) = true := by decide +kernel

theorem isDropped_of_endsAuthority {c : Char} (h : endsAuthority c = true) : isDropped c = false := by
  simp only [endsAuthority, Bool.or_eq_true, beq_iff_eq] at h
  rcases h with (rfl | rfl) | rfl <;> rfl

theorem isWeb_iff {scheme : List Char} :
    isWeb scheme = true ↔ scheme = "http".toList ∨ scheme = "https".toList := by
  simp [isWeb]

theorem soundAuthority_of_plain {a : List Char} (ha : ∀ c ∈ a, isPlain c = true) :
    soundAuthority a = true := by
  have hopening : cutAt? (· == '[') a = none :=
    cutAt?_eq_none fun c hc => beq_eq_false_iff_ne.2 (isPlain_iff.1 (ha c hc)).2.2.1
  have hclosing : ']' ∉ a := fun hmem => (isPlain_iff.1 (ha _ hmem)).2.2.2.1 rfl
  have hlike : a.all (fun c => !delimiterLike.contains c.toNat) = true := by
    refine List.all_eq_true.2 fun c hc => ?_
    rw [(isPlain_iff.1 (ha c hc)).2.2.2.2]
    rfl
  simp only [soundAuthority, soundBrackets, hopening, hlike, Bool.and_true]
  simpa using hclosing

theorem filter_not_isDropped {s : List Char} (h : ∀ c ∈ s, isDropped c = false) :
    s.filter (fun c => !isDropped c) = s := by
  refine List.filter_eq_self.2 fun c hc => ?_
  rw [h c hc]
  rfl

theorem filter_not_isDropped_of_plain {a : List Char} (ha : ∀ c ∈ a, isPlain c = true) :
    a.filter (fun c => !isDropped c) = a :=
  filter_not_isDropped fun c hc => (isPlain_iff.1 (ha c hc)).2.1

/-- Nothing in front of a text goes unless it is a control character or a blank. -/
theorem cleaned_of_head {c : Char} (rest : List Char) (h : isLeading c = false) :
    cleaned (c :: rest) = (c :: rest).filter fun c => !isDropped c := by
  rw [cleaned, List.dropWhile_cons_of_neg (by simp [h])]

theorem cleaned_web {scheme : List Char} (rest : List Char) (h : isWeb scheme = true) :
    cleaned (scheme ++ rest) = scheme ++ rest.filter fun c => !isDropped c := by
  have hscheme : scheme.filter (fun c => !isDropped c) = scheme := by
    rcases isWeb_iff.1 h with rfl | rfl <;> rfl
  have hhead : ∃ cs, scheme = 'h' :: cs := by
    rcases isWeb_iff.1 h with rfl | rfl <;> exact ⟨_, rfl⟩
  obtain ⟨cs, rfl⟩ := hhead
  rw [List.cons_append, cleaned_of_head _ (by decide), ← List.cons_append, List.filter_append, hscheme]

/-- What follows an authority: nothing, or a character that ends it. -/
def Follows (rest : List Char) : Prop := ∀ c, rest.head? = some c → endsAuthority c = true

theorem Follows.filter {rest : List Char} (h : Follows rest) :
    Follows (rest.filter fun c => !isDropped c) := by
  cases rest with
  | nil => exact h
  | cons c cs =>
      have hc := h c rfl
      rw [List.filter_cons_of_pos (by simp [isDropped_of_endsAuthority hc])]
      intro d hd
      obtain rfl : c = d := by simpa using hd
      exact hc

theorem follows_slash (rest : List Char) : Follows ('/' :: rest) := by
  intro c hc
  obtain rfl : '/' = c := by simpa using hc
  rfl

theorem cutAuthority_append {a rest : List Char} (ha : ∀ c ∈ a, endsAuthority c = false)
    (hrest : Follows rest) :
    cutAuthority ('/' :: '/' :: (a ++ rest)) = (a, rest) := by
  have hends : ∀ c ∈ a, (!endsAuthority c) = true := by
    intro c hc
    rw [ha c hc]
    rfl
  have hhead : rest.takeWhile (fun c => !endsAuthority c) = [] ∧
      rest.dropWhile (fun c => !endsAuthority c) = rest := by
    cases rest with
    | nil => exact ⟨rfl, rfl⟩
    | cons c cs => simp [hrest c rfl]
  simp only [cutAuthority]
  rw [List.takeWhile_append_of_pos hends, List.dropWhile_append_of_pos hends, hhead.1, hhead.2,
    List.append_nil]

/-- A path that starts with one slash has no authority in front of it. -/
theorem cutAuthority_of_slash {c : Char} (rest : List Char) (hslash : c ≠ '/') :
    cutAuthority ('/' :: c :: rest) = ([], '/' :: c :: rest) := by
  unfold cutAuthority
  split
  · next h => exact absurd (by simpa using h : c = '/' ∧ _).1 hslash
  · rfl

theorem cutScheme?_web {scheme : List Char} (h : isWeb scheme = true) (rest : List Char) :
    cutScheme? (scheme ++ ':' :: rest) = some (scheme, rest) := by
  have hcut : cutAt? (· == ':') (scheme ++ ':' :: rest) = some (scheme, rest) := by
    refine cutAt?_append ?_ rfl
    rcases isWeb_iff.1 h with rfl | rfl <;> simp
  unfold cutScheme?
  rw [hcut]
  rcases isWeb_iff.1 h with rfl | rfl <;> rfl

/-- What starts at the root names no scheme. -/
theorem cutScheme?_slash (rest : List Char) : cutScheme? ('/' :: rest) = none := by
  unfold cutScheme? cutAt?
  rw [List.dropWhile_cons_of_pos rfl, List.takeWhile_cons_of_pos rfl]
  cases rest.dropWhile (fun c => !(c == ':')) <;> rfl

theorem namesSite_of_cut {default text s scheme r a r' : List Char}
    (hcleaned : cleaned text = s)
    (hscheme : (cutScheme? s).getD (default, s) = (scheme, r))
    (hauthority : cutAuthority r = (a, r'))
    (hsound : soundAuthority a = true) :
    NamesSite default text scheme a := by
  unfold NamesSite
  simp only [parseFrom?, hcleaned, hscheme, hauthority, hsound, if_true]
  exact ⟨_, rfl, rfl, rfl⟩

/-- A scheme of the web, two slashes and an authority name a site, whatever path follows. -/
theorem namesSite_placed {scheme a rest : List Char} (default : List Char)
    (hweb : isWeb scheme = true) (ha : ∀ c ∈ a, isPlain c = true) (hrest : Follows rest) :
    NamesSite default (scheme ++ ':' :: '/' :: '/' :: (a ++ rest)) scheme a := by
  have hcleaned : cleaned (scheme ++ ':' :: '/' :: '/' :: (a ++ rest)) =
      scheme ++ ':' :: '/' :: '/' :: (a ++ rest.filter fun c => !isDropped c) := by
    rw [cleaned_web _ hweb, List.filter_cons_of_pos rfl, List.filter_cons_of_pos rfl,
      List.filter_cons_of_pos rfl, List.filter_append, filter_not_isDropped_of_plain ha]
  have hends : ∀ c ∈ a, endsAuthority c = false := fun c hc => (isPlain_iff.1 (ha c hc)).1
  refine namesSite_of_cut hcleaned ?_ (cutAuthority_append hends hrest.filter) (soundAuthority_of_plain ha)
  rw [cutScheme?_web hweb]
  rfl

/-- Two slashes and an authority name a site of whatever scheme is given. -/
theorem namesSite_of_slashes {a rest : List Char} (default : List Char)
    (ha : ∀ c ∈ a, isPlain c = true) (hrest : Follows rest) :
    NamesSite default ('/' :: '/' :: (a ++ rest)) default a := by
  have hcleaned : cleaned ('/' :: '/' :: (a ++ rest)) =
      '/' :: '/' :: (a ++ rest.filter fun c => !isDropped c) := by
    rw [cleaned_of_head _ (by decide), List.filter_cons_of_pos rfl, List.filter_cons_of_pos rfl, List.filter_append,
      filter_not_isDropped_of_plain ha]
  have hends : ∀ c ∈ a, endsAuthority c = false := fun c hc => (isPlain_iff.1 (ha c hc)).1
  refine namesSite_of_cut hcleaned ?_ (cutAuthority_append hends hrest.filter) (soundAuthority_of_plain ha)
  rw [cutScheme?_slash]
  rfl

/-- A path that starts with one slash names no authority. -/
theorem namesSite_of_slash {c : Char} (default rest : List Char) (hslash : c ≠ '/')
    (hkept : isDropped c = false) :
    NamesSite default ('/' :: c :: rest) default [] := by
  have hcleaned : cleaned ('/' :: c :: rest) = '/' :: c :: rest.filter fun c => !isDropped c := by
    rw [cleaned_of_head _ (by decide), List.filter_cons_of_pos rfl,
      List.filter_cons_of_pos (by simp [hkept])]
  refine namesSite_of_cut hcleaned ?_
    (cutAuthority_of_slash (rest.filter fun c => !isDropped c) hslash) rfl
  rw [cutScheme?_slash]
  rfl

theorem Follows.append {rest more : List Char} (hrest : Follows rest) (hmore : Follows more) :
    Follows (rest ++ more) := by
  cases rest with
  | nil => exact hmore
  | cons c cs => exact hrest

/-- What the text of a URL with an authority consists of. -/
theorem text_of_authority {u : Url} (hscheme : u.scheme ≠ []) (hauthority : u.authority ≠ []) :
    ∃ rest, text u = u.scheme ++ ':' :: '/' :: '/' :: (u.authority ++ rest) ∧ Follows rest := by
  let path := if u.path ≠ [] ∧ u.path.head? ≠ some '/' then '/' :: u.path else u.path
  let query := if u.query = [] then [] else '?' :: u.query
  let fragment := if u.fragment = [] then [] else '#' :: u.fragment
  have hpath : Follows path := by
    intro c hc
    simp only [path] at hc
    split at hc
    · obtain rfl : '/' = c := by simpa using hc
      rfl
    · next h =>
        have hne : u.path ≠ [] := by
          rintro hnil
          simp [hnil] at hc
        have hslash : u.path.head? = some '/' := Decidable.not_not.1 fun hhead => h ⟨hne, hhead⟩
        obtain rfl : '/' = c := by simpa [hslash] using hc
        rfl
  have hquery : Follows query := by
    intro c hc
    simp only [query] at hc
    split at hc
    · simp at hc
    · obtain rfl : '?' = c := by simpa using hc
      rfl
  have hfragment : Follows fragment := by
    intro c hc
    simp only [fragment] at hc
    split at hc
    · simp at hc
    · obtain rfl : '#' = c := by simpa using hc
      rfl
  refine ⟨path ++ query ++ fragment, ?_, (hpath.append hquery).append hfragment⟩
  simp only [text, hscheme, hauthority, ne_eq, not_false_eq_true, true_or, if_true, if_false]
  simp only [query, fragment]
  split <;> split <;> simp [path]

/-- A URL of the web as text names its own site. -/
theorem namesSite_text {u : Url} (hweb : isWeb u.scheme = true)
    (hplain : ∀ c ∈ u.authority, isPlain c = true) (hne : u.authority ≠ []) :
    NamesSite [] (text u) u.scheme u.authority := by
  have hscheme : u.scheme ≠ [] := by
    intro hnil
    exact absurd (hnil ▸ hweb) (by decide)
  obtain ⟨rest, htext, hrest⟩ := text_of_authority hscheme hne
  rw [htext]
  exact namesSite_placed [] hweb hplain hrest

/-- A link is on the site of its own authority, or on that of the base if it has none. -/
theorem joinChars?_of_namesSite {base link scheme authority own : List Char}
    (hweb : isWeb scheme = true) (hbase : NamesSite [] base scheme authority)
    (hlink : NamesSite scheme link scheme own) (hne : link ≠ []) :
    ∃ u, joinChars? base link = some (text u) ∧ u.scheme = scheme ∧
      u.authority = if own = [] then authority else own := by
  obtain ⟨b, hb, rfl, rfl⟩ := hbase
  obtain ⟨l, hl, hscheme, rfl⟩ := hlink
  have hbasene : base ≠ [] := by
    rintro rfl
    exact absurd (hb.symm.trans rfl) fun h => by
      obtain rfl := Option.some.inj h
      exact absurd hweb (by decide)
  have hrelative : schemeIn relativeSchemes b.scheme = true := by
    rcases isWeb_iff.1 hweb with h | h <;> rw [h] <;> decide
  have hplaced : schemeIn authoritySchemes b.scheme = true := by
    rcases isWeb_iff.1 hweb with h | h <;> rw [h] <;> decide
  have hsame : ¬ (b.scheme ≠ b.scheme ∨ (!true) = true) := by simp
  unfold joinChars?
  simp only [parse?, if_neg hbasene, if_neg hne, hb, hl, Option.bind_eq_bind, Option.bind_some,
    hscheme, hrelative, hplaced, if_neg hsame, if_true, true_and]
  by_cases hown : l.authority = []
  · rw [if_neg (not_not_intro hown), if_pos hown]
    split <;> exact ⟨_, rfl, rfl, rfl⟩
  · rw [if_pos hown, if_neg hown]
    exact ⟨_, rfl, rfl, rfl⟩

/-- A link that is read relative to an address leads to the site of its own authority, or stays on the
site of that address if it has none. -/
theorem namesSite_join {base link scheme authority own : List Char}
    (hweb : isWeb scheme = true) (hbase : NamesSite [] base scheme authority)
    (hlink : NamesSite scheme link scheme own) (hne : link ≠ [])
    (hplain : ∀ c ∈ if own = [] then authority else own, isPlain c = true) (hplaced : authority ≠ []) :
    ∃ url, joinChars? base link = some url ∧
      NamesSite [] url scheme (if own = [] then authority else own) := by
  obtain ⟨u, hjoin, rfl, hauthority⟩ := joinChars?_of_namesSite hweb hbase hlink hne
  refine ⟨text u, hjoin, ?_⟩
  rw [← hauthority] at hplain ⊢
  refine namesSite_text hweb hplain ?_
  rw [hauthority]
  split
  · exact hplaced
  · next hown => exact hown

end SparkGateway.Url
