import SparkGateway.Proofs.Url.Rooted

/-!
# Steps up

A path may go up with two dots in the place of a name.  Behind a directory it stays below it as long as,
read from there on, it never has more steps up than names before them (`below_landing`).  If it ever has,
it leaves the directory, and where it leads is there again only if it names the directory itself
(`above_landing`).
-/

namespace SparkGateway.Url

/-- Read from `depth` levels below a directory, some segments never go up past it. -/
def StaysBelow (depth : Nat) (segs : List (List Char)) : Prop :=
  ∀ before, before <+: segs →
    before.count ['.', '.'] ≤ (before.countP fun s => decide (IsName s)) + depth

theorem staysBelow_cons_iff {depth : Nat} {segment : List Char} {segs : List (List Char)} :
    StaysBelow depth (segment :: segs) ↔ ∀ before, before <+: segs →
      (segment :: before).count ['.', '.'] ≤
        ((segment :: before).countP fun s => decide (IsName s)) + depth := by
  constructor
  · exact fun h before hbefore => h _ (List.cons_prefix_cons.2 ⟨rfl, hbefore⟩)
  · intro h before hbefore
    rcases List.prefix_cons_iff.1 hbefore with rfl | ⟨rest, rfl, hrest⟩
    · exact Nat.zero_le _
    · exact h rest hrest

theorem not_staysBelow_up (segs : List (List Char)) : ¬ StaysBelow 0 (['.', '.'] :: segs) := fun h =>
  absurd (h [['.', '.']] ⟨segs, rfl⟩) (by decide)

theorem staysBelow_up_iff {depth : Nat} {segs : List (List Char)} :
    StaysBelow (depth + 1) (['.', '.'] :: segs) ↔ StaysBelow depth segs := by
  rw [staysBelow_cons_iff]
  refine forall₂_congr fun before _ => ?_
  rw [List.count_cons_self, List.countP_cons_of_neg (by decide)]
  omega

theorem staysBelow_here_iff {depth : Nat} {segs : List (List Char)} :
    StaysBelow depth (['.'] :: segs) ↔ StaysBelow depth segs := by
  rw [staysBelow_cons_iff]
  refine forall₂_congr fun before _ => ?_
  rw [List.count_cons_of_ne (by decide), List.countP_cons_of_neg (by decide)]

theorem staysBelow_name_iff {depth : Nat} {name : List Char} {segs : List (List Char)} (h : IsName name) :
    StaysBelow depth (name :: segs) ↔ StaysBelow (depth + 1) segs := by
  rw [staysBelow_cons_iff]
  refine forall₂_congr fun before _ => ?_
  rw [List.count_cons_of_ne h.2, List.countP_cons_of_pos (by simpa using h)]
  omega

theorem step_of_isName {name : List Char} (before : List (List Char)) (h : IsName name) :
    step before name = name :: before := by
  unfold step
  rw [if_neg h.2, if_neg h.1]

/-- A segment is a step up, a step on the spot, or a name. -/
theorem segment_cases (segment : List Char) : segment = ['.', '.'] ∨ segment = ['.'] ∨ IsName segment := by
  by_cases hup : segment = ['.', '.']
  · exact .inl hup
  · by_cases hhere : segment = ['.']
    · exact .inr (.inl hhere)
    · exact .inr (.inr ⟨hhere, hup⟩)

/-! ## What is there before -/

/-- What was there before is still there behind segments that never go up past it. -/
theorem foldl_step_below {segs top : List (List Char)} (base : List (List Char))
    (h : StaysBelow top.length segs) : ∃ top', segs.foldl step (top ++ base) = top' ++ base := by
  induction segs generalizing top with
  | nil => exact ⟨top, rfl⟩
  | cons segment segs ih =>
      rcases segment_cases segment with rfl | rfl | hname
      · cases top with
        | nil => exact absurd h (not_staysBelow_up segs)
        | cons name top => exact ih (staysBelow_up_iff.1 h)
      · exact ih (staysBelow_here_iff.1 h)
      · rw [List.foldl_cons, step_of_isName _ hname]
        have hbelow : StaysBelow (segment :: top).length segs := (staysBelow_name_iff hname).1 h
        exact ih hbelow

/-- A stack of which some of the base is left, and on top of that only what stood there before or is one of
the segments. -/
def Leaves (segs top base stack : List (List Char)) : Prop :=
  ∃ k top', stack = top' ++ base.drop k ∧ ∀ s ∈ top', s ∈ top ∨ s ∈ segs

theorem Leaves.cons {segs top top' base stack : List (List Char)} {segment : List Char}
    (h : Leaves segs top base stack) (htop : ∀ s ∈ top, s = segment ∨ s ∈ top') :
    Leaves (segment :: segs) top' base stack := by
  obtain ⟨k, rest, hstack, hmem⟩ := h
  refine ⟨k, rest, hstack, fun s hs => ?_⟩
  rcases hmem s hs with hold | hsegs
  · exact (htop s hold).elim (fun heq => .inr (heq ▸ List.mem_cons_self)) .inl
  · exact .inr (List.mem_cons_of_mem _ hsegs)

/-- All that is there in the end was there before or is one of the segments. -/
theorem foldl_step_drop (segs top base : List (List Char)) :
    Leaves segs top base (segs.foldl step (top ++ base)) := by
  induction segs generalizing top base with
  | nil => exact ⟨0, top, rfl, fun s hs => .inl hs⟩
  | cons segment segs ih =>
      rcases segment_cases segment with rfl | rfl | hname
      · cases top with
        | nil =>
            obtain ⟨k, rest, hrest, hmem⟩ := ih [] (base.drop 1)
            refine ⟨1 + k, rest, by rw [← List.drop_drop, ← hrest]; rfl, fun s hs => ?_⟩
            exact (hmem s hs).imp_right (List.mem_cons_of_mem _)
        | cons name top => exact (ih top base).cons fun s hs => .inr (List.mem_cons_of_mem _ hs)
      · exact (ih top base).cons fun s hs => .inr hs
      · rw [List.foldl_cons, step_of_isName _ hname]
        exact (ih (segment :: top) base).cons fun s hs => List.mem_cons.1 hs

/-- Behind segments that do go up past it, the last of what was there before is gone. -/
theorem foldl_step_above {segs top : List (List Char)} (name : List Char) (base : List (List Char))
    (h : ¬ StaysBelow top.length segs) : Leaves segs top base (segs.foldl step (top ++ name :: base)) := by
  induction segs generalizing top with
  | nil =>
      refine absurd (fun before hbefore => ?_) h
      rw [List.prefix_nil.1 hbefore]
      exact Nat.zero_le _
  | cons segment segs ih =>
      rcases segment_cases segment with rfl | rfl | hname
      · cases top with
        | nil => exact (foldl_step_drop segs [] base).cons nofun
        | cons other top =>
            exact (ih (mt staysBelow_up_iff.2 h)).cons fun s hs => .inr (List.mem_cons_of_mem _ hs)
      · exact (ih (mt staysBelow_here_iff.2 h)).cons fun s hs => .inr hs
      · have habove : ¬ StaysBelow (segment :: top).length segs := mt (staysBelow_name_iff hname).2 h
        rw [List.foldl_cons, step_of_isName _ hname]
        exact (ih habove).cons fun s hs => List.mem_cons.1 hs

/-! ## What stays of names -/

/-- What is left when dots are resolved, up to an empty segment behind it. -/
theorem resolve_eq (path : List (List Char)) :
    ∃ more, resolve path = (path.foldl step []).reverse ++ more ∧ ∀ s ∈ more, s = [] := by
  unfold resolve
  split
  · dsimp only
    split
    · exact ⟨[[]], rfl, by simp⟩
    · exact ⟨[], (List.append_nil _).symm, by simp⟩
  · exact ⟨[], (List.append_nil _).symm, by simp⟩

theorem foldl_step_names {names : List (List Char)} (segs : List (List Char))
    (h : ∀ name ∈ names, IsName name) :
    (names ++ segs).foldl step [] = segs.foldl step names.reverse := by
  rw [List.foldl_append, foldl_step_plain [] h, List.append_nil]

/-- Names stay before segments that never go up past them. -/
theorem resolve_below {names segs : List (List Char)} (hnames : ∀ name ∈ names, IsName name)
    (hsegs : StaysBelow 0 segs) : names <+: resolve (names ++ segs) := by
  obtain ⟨more, hresolve, -⟩ := resolve_eq (names ++ segs)
  have hbelow : StaysBelow ([] : List (List Char)).length segs := hsegs
  obtain ⟨top, htop⟩ := foldl_step_below names.reverse hbelow
  rw [List.nil_append] at htop
  rw [hresolve, foldl_step_names segs hnames, htop, List.reverse_append, List.reverse_reverse,
    List.append_assoc]
  exact List.prefix_append _ _

/-- A name before segments that go up past it is gone. -/
theorem resolve_above {names segs : List (List Char)} {name : List Char}
    (hnames : ∀ other ∈ names ++ [name], IsName other) (hsegs : ¬ StaysBelow 0 segs) :
    ∃ kept later, resolve (names ++ [name] ++ segs) = kept ++ later ∧ kept <+: names ∧
      ∀ s ∈ later, s = [] ∨ s ∈ segs := by
  obtain ⟨more, hresolve, hmore⟩ := resolve_eq (names ++ [name] ++ segs)
  have habove : ¬ StaysBelow ([] : List (List Char)).length segs := hsegs
  obtain ⟨k, top, htop, hmem⟩ := foldl_step_above name names.reverse habove
  rw [List.nil_append] at htop
  refine ⟨names.take (names.length - k), top.reverse ++ more, ?_, List.take_prefix _ _, fun s hs => ?_⟩
  · rw [hresolve, foldl_step_names segs hnames, List.reverse_append, List.reverse_singleton,
      List.singleton_append, htop, List.reverse_append, List.drop_reverse, List.reverse_reverse,
      List.append_assoc]
  · rcases List.mem_append.1 hs with hs | hs
    · exact .inr ((hmem s (List.mem_reverse.1 hs)).resolve_left (List.not_mem_nil))
    · exact .inl (hmore s hs)

/-! ## Where a path leads -/

/-- A path that never goes up past a directory leads to something below it. -/
theorem below_landing {scheme path : List Char} {names segs : List (List Char)}
    (hsegments : segments (cutParameters scheme path).1 = ([] :: names) ++ segs)
    (hnames : ∀ name ∈ names, IsName name) (hne : names ≠ []) (hsegs : StaysBelow 0 segs) :
    rootPath names <+: landing scheme path := by
  have hplain : ∀ name ∈ [] :: names, IsName name := by
    rintro name (_ | ⟨_, hname⟩)
    · exact ⟨by simp, by simp⟩
    · exact hnames name hname
  obtain ⟨others, hothers⟩ := resolve_below hplain hsegs
  have hresolve : resolve (segments (cutParameters scheme path).1) = [] :: (names ++ others) := by
    rw [hsegments, ← hothers, List.cons_append]
  obtain ⟨parameters, hlanding, -⟩ := landing_eq scheme path
  rw [hlanding, resolvedPath_of_names hresolve (by simp [hne]), fromRoot_rootPath, rootPath_append,
    List.append_assoc]
  exact List.prefix_append _ _

/-- The segments of a path in which dots are resolved are those that are left. -/
theorem segments_resolvedPath (path : List Char) :
    segments (fromRoot (resolvedPath path)) = [[], []] ∨
      segments (fromRoot (resolvedPath path)) = resolve (segments path) ∨
      segments (fromRoot (resolvedPath path)) = [] :: resolve (segments path) := by
  have hslashes : ∀ segment ∈ resolve (segments path), '/' ∉ segment := by
    intro segment hsegment
    rcases mem_of_mem_resolve hsegment with rfl | hmem
    · exact List.not_mem_nil
    · exact slash_notMem_of_mem_segments hmem
  unfold resolvedPath
  dsimp only
  split
  · exact .inl rfl
  · next hjoined =>
      have hne : resolve (segments path) ≠ [] := fun hnil => hjoined (by rw [hnil]; rfl)
      have hsplit : segments (List.intercalate ['/'] (resolve (segments path))) = resolve (segments path) :=
        List.splitOn_intercalate '/' hslashes hne
      unfold fromRoot
      split
      · exact .inr (.inr (congrArg (List.cons []) hsplit))
      · exact .inr (.inl hsplit)

theorem prefix_of_notMem {c : Char} {s before after : List Char} (hc : c ∉ s)
    (hafter : ∀ d, after.head? = some d → d = c) (h : s <+: before ++ after) : s <+: before := by
  rcases List.prefix_or_prefix_of_prefix h (List.prefix_append before after) with h' | ⟨more, rfl⟩
  · exact h'
  · rw [List.prefix_append_right_inj] at h
    cases more with
    | nil => simp
    | cons d more =>
        obtain ⟨rest, rfl⟩ := h
        obtain rfl := hafter d rfl
        exact absurd (List.mem_append_right _ List.mem_cons_self) hc

theorem mem_of_append_eq {α : Type} {kept later before after : List α} {a : α}
    (h : kept ++ later = before ++ a :: after) (hlength : kept.length ≤ before.length) : a ∈ later := by
  rcases List.append_eq_append_iff.1 h with ⟨more, rfl, rfl⟩ | ⟨more, rfl, hmore⟩
  · simp
  · obtain rfl : more = [] := by
      rw [List.length_append] at hlength
      exact List.eq_nil_of_length_eq_zero (by omega)
    rw [List.nil_append] at hmore
    exact hmore ▸ List.mem_cons_self

/-- A path that goes up past a directory leads to something below it only if it names the directory
again. -/
theorem above_landing {scheme path name : List Char} {names segs : List (List Char)}
    (hsegments : segments (cutParameters scheme path).1 = ([] :: (names ++ [name])) ++ segs)
    (hnames : ∀ other ∈ names ++ [name], IsName other ∧ other ≠ [] ∧ ';' ∉ other) (hne : names ≠ [])
    (hsegs : ¬ StaysBelow 0 segs) (h : rootPath (names ++ [name]) <+: landing scheme path) :
    ∃ segment ∈ segs, name <+: segment := by
  have hslash : ∀ other ∈ names ++ [name], '/' ∉ other := fun other hother =>
    slash_notMem_of_mem_segments (hsegments ▸ List.mem_append_left _ (List.mem_cons_of_mem _ hother))
  have hplain : ∀ other ∈ ([] :: names) ++ [name], IsName other := by
    rintro other (_ | ⟨_, hother⟩)
    · exact ⟨by simp, by simp⟩
    · exact (hnames other hother).1
  have hsemicolon : ';' ∉ rootPath (names ++ [name]) := by
    intro hmem
    obtain ⟨other, hother, hc⟩ := List.mem_flatMap.1 hmem
    rcases List.mem_cons.1 hc with hc | hc
    · cases hc
    · exact (hnames other hother).2.2 hc
  obtain ⟨parameters, hlanding, hparameters⟩ := landing_eq scheme path
  rw [hlanding] at h
  obtain ⟨more, hmore⟩ := prefix_of_notMem hsemicolon hparameters h
  have hname : name ≠ [] := (hnames name (by simp)).2.1
  obtain ⟨segment, others, hsegment, hbegins⟩ := segments_append more (hslash name (by simp))
  -- The segments of the path that is reached, once read off the text and once off what is left.
  have hreached : segments (fromRoot (resolvedPath (cutParameters scheme path).1)) =
      ([] :: names) ++ segment :: others := by
    have htext : rootPath (names ++ [name]) ++ more = rootPath names ++ '/' :: (name ++ more) := by
      simp [rootPath]
    rw [← hmore, htext, segments_slash, hsegment,
      segments_rootPath fun other hother => hslash other (List.mem_append_left _ hother)]
  obtain ⟨kept, later, hresolve, hkept, hlater⟩ := resolve_above hplain hsegs
  have hfound : segment ∈ later → ∃ segment ∈ segs, name <+: segment := by
    intro hmem
    rcases hlater segment hmem with rfl | hmem
    · exact absurd (List.prefix_nil.1 hbegins) hname
    · exact ⟨segment, hmem, hbegins⟩
  rw [← List.cons_append] at hsegments
  have hends := segments_resolvedPath (cutParameters scheme path).1
  rw [hreached, hsegments, hresolve] at hends
  rcases hends with hroot | hwhole | hcut
  · have hlength := congrArg List.length hroot
    simp only [List.length_append, List.length_cons, List.length_nil] at hlength
    exact absurd (List.eq_nil_of_length_eq_zero (by omega)) hne
  · exact hfound (mem_of_append_eq hwhole.symm hkept.length_le)
  · obtain ⟨other, rest, rfl⟩ := List.exists_cons_of_ne_nil hne
    cases kept with
    | nil => exact hfound (mem_of_append_eq (List.cons.inj hcut).2.symm (Nat.zero_le _))
    | cons first kept =>
        obtain rfl : first = [] := (List.cons_prefix_cons.1 hkept).1
        exact absurd (List.cons.inj (List.cons.inj hcut).2).1 (hnames other (by simp)).2.1

end SparkGateway.Url
