import SparkGateway.Proofs.Url.Parts

/-!
# Links from the root

A link that starts with one slash is read from the root of a site.  What it leads to has the scheme and
the authority of the base and, of the path, what is left when its dots are resolved; the path and the
query of the base have no say (`joinChars?_rooted`).

A path without dots and semicolons stays as it is (`landing_plain`).  A semicolon in the last segment cuts
off parameters, which are put back once the dots are resolved (`landing_eq`).
-/

namespace SparkGateway.Url

/-! ## Segments -/

/-- The path of some segments from the root. -/
def rootPath (names : List (List Char)) : List Char := names.flatMap fun name => '/' :: name

theorem rootPath_append (names others : List (List Char)) :
    rootPath (names ++ others) = rootPath names ++ rootPath others :=
  List.flatMap_append

theorem rootPath_cons (name : List Char) (names : List (List Char)) :
    rootPath (name :: names) = '/' :: (name ++ rootPath names) :=
  rfl

theorem intercalate_slash (name : List Char) (names : List (List Char)) :
    List.intercalate ['/'] (name :: names) = name ++ rootPath names := by
  induction names generalizing name with
  | nil => simp [rootPath]
  | cons other names ih => rw [List.intercalate_cons_cons, ih, List.append_assoc]; rfl

theorem segments_slash (before after : List Char) :
    segments (before ++ '/' :: after) = segments before ++ segments after :=
  List.splitOn_append_cons_self before after

theorem segments_eq_singleton {name : List Char} (h : '/' ∉ name) : segments name = [name] :=
  List.splitOn_eq_singleton h

theorem segments_rootPath {names : List (List Char)} (h : ∀ name ∈ names, '/' ∉ name) :
    segments (rootPath names) = [] :: names := by
  have hsplit : segments (List.intercalate ['/'] ([] :: names)) = [] :: names :=
    List.splitOn_intercalate '/' (by simpa using h) (List.cons_ne_nil _ _)
  rwa [intercalate_slash] at hsplit

theorem slash_notMem_of_mem_segments {path segment : List Char} (h : segment ∈ segments path) :
    '/' ∉ segment := by
  induction path generalizing segment with
  | nil =>
      obtain rfl := List.mem_singleton.1 h
      exact List.not_mem_nil
  | cons c path ih =>
      rw [segments, List.splitOn_cons_eq_if_modifyHead] at h
      split at h
      · rcases List.mem_cons.1 h with rfl | h
        · exact List.not_mem_nil
        · exact ih h
      · next hc =>
          obtain ⟨name, names, hnames⟩ := List.exists_cons_of_ne_nil (List.splitOn_ne_nil '/' path)
          rw [segments, hnames] at ih
          rw [hnames, List.modifyHead_cons] at h
          rcases List.mem_cons.1 h with rfl | h
          · rintro (_ | ⟨_, hmem⟩)
            · exact hc rfl
            · exact ih List.mem_cons_self hmem
          · exact ih (List.mem_cons_of_mem _ h)

/-- A text without slashes is where the first segment begins. -/
theorem segments_append {name : List Char} (more : List Char) (h : '/' ∉ name) :
    ∃ segment others, segments (name ++ more) = segment :: others ∧ name <+: segment := by
  by_cases hmore : '/' ∈ more
  · obtain ⟨before, after, rfl, hbefore⟩ := List.eq_append_cons_of_mem hmore
    refine ⟨name ++ before, segments after, ?_, List.prefix_append _ _⟩
    rw [← List.append_assoc, segments_slash, segments_eq_singleton (by simp [h, hbefore])]
    rfl
  · exact ⟨name ++ more, [], segments_eq_singleton (by simp [h, hmore]), List.prefix_append _ _⟩

theorem mem_of_mem_segments {path segment : List Char} {c : Char} (hs : segment ∈ segments path)
    (hc : c ∈ segment) : c ∈ path := by
  have hpath : List.intercalate ['/'] (segments path) = path := List.intercalate_splitOn '/'
  obtain ⟨name, names, hnames⟩ := List.exists_cons_of_ne_nil (List.splitOn_ne_nil '/' path)
  rw [segments, hnames] at hs hpath
  rw [← hpath, intercalate_slash]
  rcases List.mem_cons.1 hs with rfl | hs
  · exact List.mem_append_left _ hc
  · exact List.mem_append_right _ (List.mem_flatMap.2 ⟨segment, hs, List.mem_cons_of_mem _ hc⟩)

/-! ## Parameters -/

/-- A text before its first semicolon, and its parameters behind it. -/
def cutSemicolon (last : List Char) : List Char × List Char := (cutAt? (· == ';') last).getD (last, [])

theorem exists_last_segment {path : List Char} (h : '/' ∈ path) :
    ∃ before last, path = before ++ '/' :: last ∧ '/' ∉ last := by
  induction path with
  | nil => cases h
  | cons c path ih =>
      by_cases hpath : '/' ∈ path
      · obtain ⟨before, last, rfl, hlast⟩ := ih hpath
        exact ⟨c :: before, last, rfl, hlast⟩
      · rcases List.mem_cons.1 h with rfl | hmem
        · exact ⟨[], path, rfl, hpath⟩
        · exact absurd hmem hpath

theorem afterLast_slash {before last : List Char} (h : '/' ∉ last) :
    afterLast (· == '/') (before ++ '/' :: last) = last := by
  have hrev : ∀ c ∈ last.reverse, (c == '/') = false := by
    intro c hc
    rw [beq_eq_false_iff_ne]
    rintro rfl
    exact h (List.mem_reverse.1 hc)
  unfold afterLast
  rw [List.reverse_append, List.reverse_cons, List.append_assoc, List.singleton_append,
    List.takeWhile_append_of_pos (fun c hc => by simpa using hrev c hc),
    List.takeWhile_cons_of_neg (by simp), List.append_nil, List.reverse_reverse]

/-- Only the last segment of a path is cut. -/
theorem cutParameters_slash {scheme before last : List Char} (hweb : isWeb scheme = true)
    (h : '/' ∉ last) :
    cutParameters scheme (before ++ '/' :: last) =
      (before ++ '/' :: (cutSemicolon last).1, (cutSemicolon last).2) := by
  have hscheme : schemeIn parameterSchemes scheme = true := by
    rcases isWeb_iff.1 hweb with rfl | rfl <;> decide
  unfold cutParameters cutSemicolon
  rw [if_pos hscheme]
  simp only [afterLast_slash h]
  cases hcut : cutAt? (· == ';') last with
  | none => rfl
  | some cut =>
      obtain ⟨name, parameters⟩ := cut
      obtain ⟨semicolon, rfl, -⟩ := cutAt?_eq_some hcut
      have htake : (before ++ '/' :: (name ++ semicolon :: parameters)).length - parameters.length - 1 =
          (before ++ '/' :: name).length := by
        simp only [List.length_append, List.length_cons]
        omega
      have hsplit : before ++ '/' :: (name ++ semicolon :: parameters) =
          before ++ '/' :: name ++ semicolon :: parameters := by
        simp
      dsimp only
      rw [htake, hsplit, List.take_left]
      rfl

theorem cutParameters_append {scheme path : List Char} (before : List Char) (hweb : isWeb scheme = true)
    (h : '/' ∈ path) :
    cutParameters scheme (before ++ path) =
      (before ++ (cutParameters scheme path).1, (cutParameters scheme path).2) := by
  obtain ⟨x, last, rfl, hlast⟩ := exists_last_segment h
  rw [← List.append_assoc, cutParameters_slash hweb hlast, cutParameters_slash hweb hlast,
    List.append_assoc]

theorem cutParameters_of_slash {scheme : List Char} (rest : List Char) (hweb : isWeb scheme = true) :
    ∃ rest', (cutParameters scheme ('/' :: rest)).1 = '/' :: rest' := by
  obtain ⟨before, last, hpath, hlast⟩ := exists_last_segment (List.mem_cons_self : '/' ∈ '/' :: rest)
  rw [hpath, cutParameters_slash hweb hlast]
  cases before with
  | nil => exact ⟨_, rfl⟩
  | cons c before =>
      obtain rfl : '/' = c := (List.cons.inj hpath).1
      exact ⟨_, rfl⟩

theorem cutSemicolon_of_notMem {last : List Char} (h : ';' ∉ last) : cutSemicolon last = (last, []) := by
  unfold cutSemicolon
  rw [cutAt?_eq_none fun c hc => ?_]
  · rfl
  · rw [beq_eq_false_iff_ne]
    rintro rfl
    exact h hc

theorem cutParameters_eq_self {scheme path : List Char} (hweb : isWeb scheme = true) (hslash : '/' ∈ path)
    (h : ';' ∉ path) : cutParameters scheme path = (path, []) := by
  obtain ⟨before, last, rfl, hlast⟩ := exists_last_segment hslash
  have hsemicolon : ';' ∉ last := fun hmem =>
    h (List.mem_append_right _ (List.mem_cons_of_mem _ hmem))
  rw [cutParameters_slash hweb hlast, cutSemicolon_of_notMem hsemicolon]

/-! ## Where a path leads -/

/-- A path with the slash of the root in front of it. -/
def fromRoot (path : List Char) : List Char :=
  if path ≠ [] ∧ path.head? ≠ some '/' then '/' :: path else path

/-- What a path without parameters becomes when its dots are resolved. -/
def resolvedPath (path : List Char) : List Char :=
  let joined := List.intercalate ['/'] (resolve (segments path))
  if joined = [] then ['/'] else joined

/-- What a path becomes when its dots are resolved; the parameters of its last segment do not count as
part of that segment. -/
def undotted (scheme path : List Char) : List Char :=
  withParameters (resolvedPath (cutParameters scheme path).1) (cutParameters scheme path).2

/-- Where a path from the root of a site leads. -/
def landing (scheme path : List Char) : List Char := fromRoot (undotted scheme path)

theorem fromRoot_head {path : List Char} {c : Char} (h : (fromRoot path).head? = some c) : c = '/' := by
  unfold fromRoot at h
  split at h
  · simpa using h.symm
  · next hrooted =>
      by_contra hc
      refine hrooted ⟨?_, ?_⟩
      · rintro rfl
        cases h
      · rw [h]
        simpa using hc

theorem fromRoot_of_slash (path : List Char) : fromRoot ('/' :: path) = '/' :: path :=
  if_neg fun h => h.2 rfl

theorem fromRoot_rootPath (names : List (List Char)) : fromRoot (rootPath names) = rootPath names := by
  cases names with
  | nil => rfl
  | cons name names => exact fromRoot_of_slash _

theorem resolvedPath_ne_nil (path : List Char) : resolvedPath path ≠ [] := by
  unfold resolvedPath
  dsimp only
  split
  · exact List.cons_ne_nil _ _
  · next hne => exact hne

theorem resolvedPath_of_names {path : List Char} {names : List (List Char)}
    (hresolve : resolve (segments path) = [] :: names) (hnames : names ≠ []) :
    resolvedPath path = rootPath names := by
  obtain ⟨name, others, rfl⟩ := List.exists_cons_of_ne_nil hnames
  unfold resolvedPath
  rw [hresolve, intercalate_slash, List.nil_append, rootPath_cons]
  rfl

/-- Only parameters follow the path in which dots are resolved. -/
theorem landing_eq (scheme path : List Char) :
    ∃ parameters, landing scheme path = fromRoot (resolvedPath (cutParameters scheme path).1) ++ parameters ∧
      ∀ c, parameters.head? = some c → c = ';' := by
  obtain ⟨c, rest, hcons⟩ :=
    List.exists_cons_of_ne_nil (resolvedPath_ne_nil (cutParameters scheme path).1)
  have hfront (more : List Char) : fromRoot (c :: rest ++ more) = fromRoot (c :: rest) ++ more := by
    unfold fromRoot
    simp only [List.cons_append, List.head?_cons, ne_eq, List.cons_ne_nil, not_false_eq_true, true_and]
    split <;> rfl
  unfold landing undotted withParameters
  rw [hcons]
  split
  · exact ⟨[], (List.append_nil _).symm, nofun⟩
  · refine ⟨_, hfront _, fun d hd => ?_⟩
    simpa using hd.symm

/-- The text of a URL of the web. -/
theorem text_of_web {scheme : List Char} (authority path : List Char) (hweb : isWeb scheme = true) :
    text ⟨scheme, authority, path, [], []⟩ =
      scheme ++ ':' :: '/' :: '/' :: (authority ++ fromRoot path) := by
  have hscheme : scheme ≠ [] := by
    rintro rfl
    cases hweb
  have hwritten : schemeIn authoritySchemes scheme = true := by
    rcases isWeb_iff.1 hweb with rfl | rfl <;> decide
  have hcond : authority ≠ [] ∨ (scheme ≠ [] ∧ schemeIn authoritySchemes scheme = true) ∨
      path.take 2 = ['/', '/'] := .inr (.inl ⟨hscheme, hwritten⟩)
  unfold text
  simp only [if_pos hcond, if_neg hscheme, if_true]
  rfl

/-- A link that starts with one slash leads to a path on the site of the base. -/
theorem joinChars?_rooted {base rest : List Char} {b : Url} {c : Char} (hbase : parse? base = some b)
    (hweb : isWeb b.scheme = true) (hslash : c ≠ '/')
    (hlink : ∀ d ∈ '/' :: c :: rest, isPathChar d = true) :
    joinChars? base ('/' :: c :: rest) =
      some (b.onSite (landing b.scheme ('/' :: c :: rest))) := by
  have hne : base ≠ [] := by
    rintro rfl
    obtain rfl := Option.some.inj (hbase.symm.trans rfl)
    cases hweb
  have hrelative : schemeIn relativeSchemes b.scheme = true := by
    rcases isWeb_iff.1 hweb with h | h <;> rw [h] <;> decide
  have hwritten : schemeIn authoritySchemes b.scheme = true := by
    rcases isWeb_iff.1 hweb with h | h <;> rw [h] <;> decide
  obtain ⟨rest', hcut⟩ := cutParameters_of_slash (c :: rest) hweb
  unfold joinChars?
  simp only [if_neg hne, hbase, parseFrom?_path b.scheme hslash hlink, Option.bind_eq_bind,
    Option.bind_some, hrelative, hwritten, hcut, if_true, List.head?_cons, ne_eq, not_true_eq_false,
    Bool.not_true, Bool.false_eq_true, or_false, and_false, if_false, List.cons_ne_nil, false_and]
  rw [onSite, landing, ← text_of_web _ _ hweb, undotted, hcut]
  rfl

/-- A segment that leads from a directory to something in it. -/
def IsName (segment : List Char) : Prop := segment ≠ ['.'] ∧ segment ≠ ['.', '.']

instance (segment : List Char) : Decidable (IsName segment) := inferInstanceAs (Decidable (_ ∧ _))

/-- A path without dots and semicolons leads to itself. -/
theorem landing_plain {scheme path : List Char} (hweb : isWeb scheme = true) (hsemicolon : ';' ∉ path)
    (hdots : ∀ s ∈ segments ('/' :: path), IsName s) :
    landing scheme ('/' :: path) = '/' :: path := by
  have hcut : cutParameters scheme ('/' :: path) = ('/' :: path, []) :=
    cutParameters_eq_self hweb List.mem_cons_self (by simpa using hsemicolon)
  have hjoined : List.intercalate ['/'] (segments ('/' :: path)) = '/' :: path :=
    List.intercalate_splitOn '/'
  unfold landing undotted resolvedPath
  rw [hcut, resolve_plain hdots]
  simp only [hjoined, if_neg (List.cons_ne_nil '/' path)]
  exact fromRoot_of_slash path

/-! ## Characters -/

theorem mem_of_mem_cutParameters {scheme path : List Char} {c : Char}
    (h : c ∈ (cutParameters scheme path).1 ∨ c ∈ (cutParameters scheme path).2) : c ∈ path := by
  unfold cutParameters at h
  dsimp only at h
  split at h
  · split at h
    · next before parameters hcut =>
        obtain ⟨semicolon, hlast, -⟩ := cutAt?_eq_some hcut
        refine h.elim List.mem_of_mem_take fun hmem => ?_
        have hc : c ∈ afterLast (· == '/') path :=
          hlast ▸ List.mem_append_right _ (List.mem_cons_of_mem _ hmem)
        exact List.mem_reverse.1 ((List.takeWhile_prefix _).subset (List.mem_reverse.1 hc))
    · simpa using h
  · simpa using h

theorem mem_foldl_step {segs base : List (List Char)} {s : List Char} (h : s ∈ segs.foldl step base) :
    s ∈ base ∨ s ∈ segs := by
  induction segs generalizing base with
  | nil => exact .inl h
  | cons segment segs ih =>
      rcases ih h with h | h
      · unfold step at h
        split at h
        · exact .inl (List.mem_of_mem_drop h)
        · split at h
          · exact .inl h
          · rcases List.mem_cons.1 h with rfl | h
            · exact .inr List.mem_cons_self
            · exact .inl h
      · exact .inr (List.mem_cons_of_mem _ h)

theorem mem_of_mem_resolve {path : List (List Char)} {s : List Char} (h : s ∈ resolve path) :
    s = [] ∨ s ∈ path := by
  have hdone : ∀ s ∈ (path.foldl step []).reverse, s ∈ path := by
    intro s hs
    simpa using mem_foldl_step (List.mem_reverse.1 hs)
  unfold resolve at h
  split at h
  · dsimp only at h
    split at h
    · rcases List.mem_append.1 h with h | h
      · exact .inr (hdone s h)
      · exact .inl (List.mem_singleton.1 h)
    · exact .inr (hdone s h)
  · exact .inr (hdone s h)

theorem mem_of_mem_intercalate {names : List (List Char)} {c : Char}
    (h : c ∈ List.intercalate ['/'] names) : c = '/' ∨ ∃ name ∈ names, c ∈ name := by
  cases names with
  | nil => cases h
  | cons name names =>
      rw [intercalate_slash] at h
      rcases List.mem_append.1 h with h | h
      · exact .inr ⟨name, List.mem_cons_self, h⟩
      · obtain ⟨other, hother, h⟩ := List.mem_flatMap.1 h
        rcases List.mem_cons.1 h with rfl | h
        · exact .inl rfl
        · exact .inr ⟨other, List.mem_cons_of_mem _ hother, h⟩

theorem mem_of_mem_resolvedPath {path : List Char} {c : Char} (h : c ∈ resolvedPath path) :
    c ∈ path ∨ c = '/' := by
  unfold resolvedPath at h
  dsimp only at h
  split at h
  · exact .inr (List.mem_singleton.1 h)
  · rcases mem_of_mem_intercalate h with rfl | ⟨name, hname, hc⟩
    · exact .inr rfl
    · rcases mem_of_mem_resolve hname with rfl | hname
      · cases hc
      · exact .inl (mem_of_mem_segments hname hc)

/-- Where a path leads, there are no characters but its own, slashes and semicolons. -/
theorem mem_of_mem_landing {scheme path : List Char} {c : Char} (h : c ∈ landing scheme path) :
    c ∈ path ∨ c = '/' ∨ c = ';' := by
  have hundotted : c ∈ undotted scheme path → c ∈ path ∨ c = '/' ∨ c = ';' := by
    intro h
    have hresolved : c ∈ resolvedPath (cutParameters scheme path).1 → c ∈ path ∨ c = '/' ∨ c = ';' :=
      fun h => (mem_of_mem_resolvedPath h).imp (fun h => mem_of_mem_cutParameters (.inl h)) .inl
    unfold undotted withParameters at h
    split at h
    · exact hresolved h
    · rcases List.mem_append.1 h with h | h
      · exact hresolved h
      · rcases List.mem_cons.1 h with rfl | h
        · exact .inr (.inr rfl)
        · exact .inl (mem_of_mem_cutParameters (.inr h))
  unfold landing fromRoot at h
  split at h
  · rcases List.mem_cons.1 h with rfl | h
    · exact .inr (.inl rfl)
    · exact hundotted h
  · exact hundotted h

end SparkGateway.Url
