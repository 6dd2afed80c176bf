import SparkGateway.Proofs.Cluster.Addresses
import SparkGateway.Proofs.Url.Rooted

/-!
# The addresses of the resource manager, letter by letter

An address of the resource manager is read as a link from the root of the gateway, so it goes through
everything that reading a link does.  With names for segments nothing of this shows: the address consists
of the site of the gateway, the names of the root, and the names of the place below it
(`address_of_names`).  Neither the path nor the query of the gateway has a part in it, and what is asked
for can be read off the address (`addresses_spelled`).
-/

namespace SparkGateway.Cluster

open Url

variable {τ : Type} {gateway root : String} {g : Url} {names : List (List Char)}

/-- The characters of a name.  Letters, digits, underscores and hyphens are among them. -/
def isNameChar (c : Char) : Bool := isAuthorityChar c && c != ';'

/-- A text that can stand between two slashes without being read as anything but a name. -/
structure IsWord (s : List Char) : Prop where
  chars : ∀ c ∈ s, isNameChar c = true
  name : IsName s

/-- A root of some names, with any number of slashes around them. -/
structure RootOf (root : List Char) (names : List (List Char)) : Prop where
  some : names ≠ []
  words : ∀ name ∈ names, name ≠ [] ∧ IsWord name
  slashes : ∃ n m, root =
    List.replicate n '/' ++ List.intercalate ['/'] names ++ List.replicate m '/'

theorem isNameChar_iff {c : Char} :
    isNameChar c = true ↔ isAuthorityChar c = true ∧ c ≠ ';' := by
  simp [isNameChar]

theorem ne_slash_of_isNameChar {c : Char} (h : isNameChar c = true) : c ≠ '/' := by
  rintro rfl
  cases h

theorem IsWord.slash_notMem {s : List Char} (h : IsWord s) : '/' ∉ s := fun hmem =>
  ne_slash_of_isNameChar (h.chars _ hmem) rfl

theorem IsWord.semicolon_notMem {s : List Char} (h : IsWord s) : ';' ∉ s := fun hmem =>
  (isNameChar_iff.1 (h.chars _ hmem)).2 rfl

/-- The letters and digits of ASCII, underscores and hyphens. -/
def isWordChar (c : Char) : Bool := c.isAlphanum || c == '_' || c == '-'

theorem toNat_lt_of_isAlphanum {c : Char} (h : c.isAlphanum = true) : c.toNat < 128 := by
  have hranges : (decide (c.val ≥ 'A'.val ∧ c.val ≤ 'Z'.val) ||
      decide (c.val ≥ 'a'.val) && decide (c.val ≤ 'z'.val) ||
      decide (c.val ≥ '0'.val) && decide (c.val ≤ '9'.val)) = true := h
  simp only [Bool.or_eq_true, Bool.and_eq_true, decide_eq_true_eq, UInt32.le_iff_toNat_le] at hranges
  have hlast : 'Z'.val.toNat = 90 ∧ 'z'.val.toNat = 122 ∧ '9'.val.toNat = 57 := ⟨rfl, rfl, rfl⟩
  have hval : c.toNat = c.val.toNat := rfl
  omega

theorem isNameChar_of_isWordChar {c : Char} (h : isWordChar c = true) : isNameChar c = true := by
  have hascii : ∀ n < 128, isWordChar (Char.ofNat n) = true → isNameChar (Char.ofNat n) = true := by
    decide +kernel
  have hsmall : c.toNat < 128 := by
    simp only [isWordChar, Bool.or_eq_true, beq_iff_eq] at h
    rcases h with (halphanum | rfl) | rfl
    · exact toNat_lt_of_isAlphanum halphanum
    · decide
    · decide
  have hname := hascii c.toNat hsmall
  rw [Char.ofNat_toNat] at hname
  exact hname h

/-- Letters, digits, underscores and hyphens make words. -/
theorem isWord_of_isWordChar {s : List Char} (h : ∀ c ∈ s, isWordChar c = true) : IsWord s := by
  have hdot : '.' ∉ s := fun hmem => absurd (h '.' hmem) (by decide)
  refine ⟨fun c hc => isNameChar_of_isWordChar (h c hc), ?_, ?_⟩
  · rintro rfl
    exact hdot List.mem_cons_self
  · rintro rfl
    exact hdot List.mem_cons_self

theorem mem_rootPath {names : List (List Char)} {c : Char} (h : c ∈ rootPath names) :
    c = '/' ∨ ∃ name ∈ names, c ∈ name := by
  obtain ⟨name, hname, hc⟩ := List.mem_flatMap.1 h
  exact (List.mem_cons.1 hc).imp_right fun hc => ⟨name, hname, hc⟩

theorem getLast?_rootPath {names : List (List Char)} (hne : names ≠ []) (h : ∀ name ∈ names, name ≠ []) :
    ∃ name ∈ names, (rootPath names).getLast? = name.getLast? := by
  obtain ⟨init, last, rfl⟩ := (List.eq_nil_or_concat names).resolve_left hne
  rw [List.concat_eq_append] at h ⊢
  have hlast := h last (List.mem_append_right _ List.mem_cons_self)
  refine ⟨last, List.mem_append_right _ List.mem_cons_self, ?_⟩
  rw [rootPath_append, List.getLast?_append, List.getLast?_eq_some_getLast hlast]
  simp [rootPath, List.getLast?_cons, List.getLast?_eq_some_getLast hlast]

/-- The slashes around a root go, and one is put in front. -/
theorem rootOf_of_names {path : List Char} (h : RootOf path names) : rootOf path = rootPath names := by
  obtain ⟨n, m, rfl⟩ := h.slashes
  have hends : ∀ name ∈ names, name ≠ [] ∧ '/' ∉ name := fun name hname =>
    ⟨(h.words name hname).1, (h.words name hname).2.slash_notMem⟩
  obtain ⟨name, rest, rfl⟩ := List.exists_cons_of_ne_nil h.some
  rw [rootOf_slashes n m, intercalate_slash, rootPath_cons]
  · intro c hc
    obtain ⟨hne, hslash⟩ := hends name List.mem_cons_self
    obtain ⟨d, ds, rfl⟩ := List.exists_cons_of_ne_nil hne
    obtain rfl : d = c := by simpa [intercalate_slash] using hc
    rintro rfl
    exact hslash List.mem_cons_self
  · intro c hc
    obtain ⟨last, hlast, hgetLast⟩ :=
      getLast?_rootPath (List.cons_ne_nil name rest) fun name hname => (hends name hname).1
    have hne : name ++ rootPath rest ≠ [] :=
      List.append_ne_nil_of_left_ne_nil (hends name List.mem_cons_self).1 _
    rw [rootPath_cons, List.getLast?_cons_of_ne_nil hne, ← intercalate_slash, hc] at hgetLast
    rintro rfl
    exact (hends last hlast).2 (List.mem_of_mem_getLast? hgetLast.symm)

theorem RootOf.isPathChar {path : List Char} (h : RootOf path names) :
    ∀ c ∈ rootPath names, isPathChar c = true := by
  intro c hc
  rcases mem_rootPath hc with rfl | ⟨name, hname, hc⟩
  · rfl
  · exact isPathChar_of_isAuthorityChar (isNameChar_iff.1 ((h.words name hname).2.chars c hc)).1

theorem RootOf.semicolon_notMem {path : List Char} (h : RootOf path names) : ';' ∉ rootPath names := by
  intro hmem
  rcases mem_rootPath hmem with hslash | ⟨name, hname, hc⟩
  · cases hslash
  · exact (h.words name hname).2.semicolon_notMem hc

/-- A link below a root of names leads to a path on the site of the gateway. -/
theorem address_of_names {path : String} (settle : τ) (hgateway : parse? gateway.toList = some g)
    (hweb : isWeb g.scheme = true) (hroot : RootOf root.toList names)
    (hpath : ∀ c ∈ path.toList, isPathChar c = true) {below : List Char}
    (hbelow : path.toList.dropWhile (· == '/') = below) :
    (on gateway root settle).address path =
      .ok (String.ofList (g.onSite (landing g.scheme (rootPath names ++ '/' :: below)))) := by
  have hchars : ∀ c ∈ rootPath names ++ '/' :: below, isPathChar c = true := by
    intro c hc
    rcases List.mem_append.1 hc with hc | hc
    · exact hroot.isPathChar c hc
    · rcases List.mem_cons.1 hc with rfl | hc
      · rfl
      · exact hpath c ((List.dropWhile_suffix _).subset (hbelow ▸ hc))
  obtain ⟨name, rest, rfl⟩ := List.exists_cons_of_ne_nil hroot.some
  obtain ⟨hne, hword⟩ := hroot.words name List.mem_cons_self
  obtain ⟨c, cs, rfl⟩ := List.exists_cons_of_ne_nil hne
  have hslash : c ≠ '/' := ne_slash_of_isNameChar (hword.chars c List.mem_cons_self)
  refine address_of_join ?_
  simp only [on, String.toList_ofList, rootOf_of_names hroot, hbelow]
  exact joinChars?_rooted hgateway hweb hslash hchars

/-- A link of words below a root of names is an address in which nothing is changed. -/
theorem address_of_words {path : String} {words : List (List Char)} {first : List Char} (settle : τ)
    (hgateway : parse? gateway.toList = some g) (hweb : isWeb g.scheme = true)
    (hroot : RootOf root.toList names) (hpath : path.toList = List.intercalate ['/'] (first :: words))
    (hfirst : first ≠ []) (hwords : ∀ word ∈ first :: words, IsWord word) :
    (on gateway root settle).address path =
      .ok (String.ofList (g.onSite (rootPath (names ++ first :: words)))) := by
  have hall : ∀ word ∈ names ++ first :: words, IsWord word := fun word hword =>
    (List.mem_append.1 hword).elim (fun hname => (hroot.words word hname).2) (hwords word)
  have hchars : ∀ c ∈ rootPath (names ++ first :: words), isPathChar c = true ∧ c ≠ ';' := by
    intro c hc
    rcases mem_rootPath hc with rfl | ⟨word, hword, hc⟩
    · decide
    · obtain ⟨hchar, hsemicolon⟩ := isNameChar_iff.1 ((hall word hword).chars c hc)
      exact ⟨isPathChar_of_isAuthorityChar hchar, hsemicolon⟩
  rw [intercalate_slash] at hpath
  have hbelow : path.toList.dropWhile (· == '/') = first ++ rootPath words := by
    obtain ⟨d, ds, rfl⟩ := List.exists_cons_of_ne_nil hfirst
    have hd := ne_slash_of_isNameChar ((hwords _ List.mem_cons_self).chars d List.mem_cons_self)
    rw [hpath]
    exact List.dropWhile_cons_of_neg (by simpa using hd)
  have hjoined : rootPath names ++ '/' :: (first ++ rootPath words) =
      rootPath (names ++ first :: words) := by
    rw [rootPath_append, rootPath_cons]
  obtain ⟨name, rest, hnames⟩ := List.exists_cons_of_ne_nil hroot.some
  obtain ⟨hne, hword⟩ := hroot.words name (hnames ▸ List.mem_cons_self)
  obtain ⟨d, ds, rfl⟩ := List.exists_cons_of_ne_nil hne
  obtain ⟨tail, htail⟩ : ∃ tail, rootPath (names ++ first :: words) = '/' :: d :: tail := by
    rw [hnames]
    exact ⟨_, rfl⟩
  have hslash : d ≠ '/' := ne_slash_of_isNameChar (hword.chars d List.mem_cons_self)
  have hlanding : landing g.scheme (rootPath (names ++ first :: words)) =
      rootPath (names ++ first :: words) := by
    have hsegments := segments_rootPath fun word hword => (hall word hword).slash_notMem
    rw [htail] at hsegments hchars ⊢
    refine landing_plain hweb (fun hmem => (hchars ';' (List.mem_cons_of_mem _ hmem)).2 rfl) ?_
    rw [hsegments]
    rintro word (_ | ⟨_, hword⟩)
    · exact ⟨by simp, by simp⟩
    · exact (hall word hword).name
  have hbelowChars : ∀ c ∈ path.toList, isPathChar c = true := by
    intro c hc
    refine (hchars c ?_).1
    rw [← hjoined, ← hpath]
    exact List.mem_append_right _ (List.mem_cons_of_mem _ hc)
  rw [address_of_names settle hgateway hweb hroot hbelowChars hbelow, hjoined, hlanding]

/-- What is asked of the resource manager about an application or an attempt. -/
inductive Place where
  | application
  | attempts
  | page

/-- Where the answer is found below the root. -/
def Place.words (id : List Char) : Place → List (List Char)
  | application => ["ws".toList, "v1".toList, "cluster".toList, "apps".toList, id]
  | attempts => ["ws".toList, "v1".toList, "cluster".toList, "apps".toList, id, "appattempts".toList]
  | page => ["hn".toList, "cluster".toList, "appattempt".toList, id]

/-- The address at which it is asked. -/
def Place.url (c : Cluster τ) (id : String) : Place → Except Misfit String
  | application => c.applicationUrl id
  | attempts => c.attemptsUrl id
  | page => c.attemptPageUrl id

/-- The words that stand for themselves in an address. -/
theorem isWord_of_fixed : ∀ word ∈ ["ws", "v1", "cluster", "apps", "appattempts", "hn", "appattempt"],
    IsWord word.toList := by
  have hletters : ["ws", "v1", "cluster", "apps", "appattempts", "hn", "appattempt"].all
      (fun word => word.toList.all isWordChar) = true := rfl
  exact fun word hword => isWord_of_isWordChar (List.all_eq_true.1 (List.all_eq_true.1 hletters word hword))

theorem Place.isWord {id : List Char} (hid : IsWord id) (place : Place) :
    ∀ word ∈ place.words id, IsWord word := by
  have hfixed := isWord_of_fixed
  simp only [List.forall_mem_cons] at hfixed
  obtain ⟨hws, hv1, hcluster, happs, hattempts, hhn, hattempt, -⟩ := hfixed
  cases place with
  | application =>
      simp only [words, List.forall_mem_cons]
      exact ⟨hws, hv1, hcluster, happs, hid, by simp⟩
  | attempts =>
      simp only [words, List.forall_mem_cons]
      exact ⟨hws, hv1, hcluster, happs, hid, hattempts, by simp⟩
  | page =>
      simp only [words, List.forall_mem_cons]
      exact ⟨hhn, hcluster, hattempt, hid, by simp⟩

theorem Place.url_of_names {id : String} (place : Place) (settle : τ)
    (hgateway : parse? gateway.toList = some g) (hweb : isWeb g.scheme = true)
    (hroot : RootOf root.toList names) (hid : IsWord id.toList) :
    place.url (on gateway root settle) id =
      .ok (String.ofList (g.onSite (rootPath (names ++ place.words id.toList)))) := by
  have hwords := place.isWord hid
  cases place with
  | application =>
      refine address_of_words settle hgateway hweb hroot ?_ (by decide) hwords
      simp [ToString.toString]
  | attempts =>
      refine address_of_words settle hgateway hweb hroot ?_ (by decide) hwords
      simp [ToString.toString]
  | page =>
      refine address_of_words settle hgateway hweb hroot ?_ (by decide) hwords
      simp [ToString.toString]

/-- Words in their places tell what the places are. -/
theorem Place.words_inj {id other : List Char} {place place' : Place}
    (h : place.words id = place'.words other) : id = other ∧ place = place' := by
  cases place <;> cases place' <;> simp_all [words]

/-- Names with a slash between each two of them. -/
def joined (names : List (List Char)) : String := String.ofList (List.intercalate ['/'] names)

/-- What the addresses of the resource manager are, and that they tell what is asked for. -/
structure Spelled (c : Cluster τ) (base : String) : Prop where
  application : ∀ id : String, IsWord id.toList →
    c.applicationUrl id = .ok s!"{base}/ws/v1/cluster/apps/{id}"
  attempts : ∀ id : String, IsWord id.toList →
    c.attemptsUrl id = .ok s!"{base}/ws/v1/cluster/apps/{id}/appattempts"
  page : ∀ id : String, IsWord id.toList →
    c.attemptPageUrl id = .ok s!"{base}/hn/cluster/appattempt/{id}"
  apart : ∀ (id other : String) (place place' : Place), IsWord id.toList → IsWord other.toList →
    place.url c id = place'.url c other → id = other ∧ place = place'

theorem addresses_spelled {scheme authority place root : String} (settle : τ)
    (hweb : isWeb scheme.toList = true) (hplain : ∀ d ∈ authority.toList, isPlain d = true)
    (hplace : Follows place.toList) (hroot : RootOf root.toList names) :
    Spelled (on s!"{scheme}://{authority}{place}" root settle)
      s!"{scheme}://{authority}/{joined names}" := by
  obtain ⟨g, hgateway, hscheme, hauthority⟩ := namesSite_placed [] hweb hplain hplace
  have hread : parse? s!"{scheme}://{authority}{place}".toList = some g := by
    rw [← hgateway]
    simp [ToString.toString, parse?]
  have hurl (place' : Place) (id : String) (hid : IsWord id.toList) :=
    place'.url_of_names settle hread (hscheme ▸ hweb) hroot hid
  simp only [onSite, hscheme, hauthority] at hurl
  obtain ⟨name, rest, rfl⟩ := List.exists_cons_of_ne_nil hroot.some
  refine ⟨fun id hid => ?_, fun id hid => ?_, fun id hid => ?_, ?_⟩
  · refine (hurl .application id hid).trans (congrArg Except.ok (String.toList_inj.1 ?_))
    simp [ToString.toString, Place.words, joined, rootPath, intercalate_slash]
  · refine (hurl .attempts id hid).trans (congrArg Except.ok (String.toList_inj.1 ?_))
    simp [ToString.toString, Place.words, joined, rootPath, intercalate_slash]
  · refine (hurl .page id hid).trans (congrArg Except.ok (String.toList_inj.1 ?_))
    simp [ToString.toString, Place.words, joined, rootPath, intercalate_slash]
  · intro id other place' place'' hid hother heq
    rw [hurl place' id hid, hurl place'' other hother] at heq
    have hpaths : rootPath (name :: rest ++ place'.words id.toList) =
        rootPath (name :: rest ++ place''.words other.toList) := by
      simpa [String.ofList_inj] using heq
    have hslashes (place : Place) {id : List Char} (hid : IsWord id) :
        ∀ word ∈ name :: rest ++ place.words id, '/' ∉ word := by
      intro word hword
      rcases List.mem_append.1 hword with hname | hword
      · exact (hroot.words word hname).2.slash_notMem
      · exact (place.isWord hid word hword).slash_notMem
    have hsegments := congrArg segments hpaths
    rw [segments_rootPath (hslashes place' hid), segments_rootPath (hslashes place'' hother),
      List.cons_inj_right, List.append_cancel_left_eq] at hsegments
    obtain ⟨hsame, rfl⟩ := Place.words_inj hsegments
    exact ⟨String.toList_inj.1 hsame, rfl⟩

theorem addresses_spelled_of_twoNames :
    let c : Cluster Nat := on "https://gw.example.com:8443/livy/../batches;x?from=0" "//rm/yarn-ui//" 3
    (isWeb "https".toList = true ∧ (∀ d ∈ "gw.example.com:8443".toList, isPlain d = true) ∧
      Follows "/livy/../batches;x?from=0".toList ∧
      RootOf "//rm/yarn-ui//".toList ["rm".toList, "yarn-ui".toList]) ∧
    Spelled c "https://gw.example.com:8443/rm/yarn-ui" ∧
    c.attemptsUrl "application_1_0001" =
      .ok "https://gw.example.com:8443/rm/yarn-ui/ws/v1/cluster/apps/application_1_0001/appattempts" := by
  intro c
  have hweb : isWeb "https".toList = true := by decide
  have hplain : ∀ d ∈ "gw.example.com:8443".toList, isPlain d = true := List.all_eq_true.1 rfl
  have hplace : Follows "/livy/../batches;x?from=0".toList := follows_slash "livy/../batches;x?from=0".toList
  have hnames : ∀ name ∈ ["rm".toList, "yarn-ui".toList], name ≠ [] ∧ IsWord name := by
    simp only [List.forall_mem_cons]
    exact ⟨⟨by decide, isWord_of_isWordChar (List.all_eq_true.1 rfl)⟩,
      ⟨by decide, isWord_of_isWordChar (List.all_eq_true.1 rfl)⟩, by simp⟩
  have hroot : RootOf "//rm/yarn-ui//".toList ["rm".toList, "yarn-ui".toList] :=
    ⟨by decide, hnames, 2, 2, rfl⟩
  have hspelled : Spelled c "https://gw.example.com:8443/rm/yarn-ui" :=
    addresses_spelled 3 hweb hplain hplace hroot
  refine ⟨⟨hweb, hplain, hplace, hroot⟩, hspelled, ?_⟩
  exact hspelled.attempts "application_1_0001" (isWord_of_isWordChar (List.all_eq_true.1 rfl))

end SparkGateway.Cluster
