import Mathlib.Order.Bounds.Basic
import SparkGateway.Proofs.Terminal.Rows

/-!
# The labels of batches

A batch that is waited for is called by its name, if it has one that is not just its number.  A long name
is cut, short names are filled up with spaces, and so the numbers behind them all stand in one column, as
far left as the longest of the names leaves room (`LinedUp`).

The width of that column is found before any label is built.  That every name keeps to it needs that both
go by the same names, cut in the same way: `shownName?_eq_some_iff` and `shownAs_iff` say which these are.
No end of a batch changes a label (`Board.labels_finish`).

Main statement: `labels_linedUp`.
-/

namespace SparkGateway.Terminal

variable {names : List (Int × String)} {ids : List Int} {id : Int} {column : Nat} {name shown : String}

/-! ## Names -/

/-- A batch has a name of its own, which is not just its number. -/
def HasName (names : List (Int × String)) (id : Int) (name : String) : Prop :=
  names.lookup id = some name ∧ name ≠ id.repr

/-- What is shown of a name: all of it if it has at most 56 characters, and otherwise its first 53
characters and three points. -/
inductive ShownAs (name : String) : String → Prop where
  | whole : name.length ≤ 56 → ShownAs name name
  | cut {first rest : String} :
      56 < name.length → name = first ++ rest → first.length = 53 → ShownAs name (first ++ "...")

theorem truncatedChars_of_le {s : List Char} (h : s.length ≤ 56) : truncatedChars s nameWidth = s := by
  unfold truncatedChars nameWidth firstChars
  rw [if_pos (by omega), if_neg (by omega)]
  exact List.take_of_length_le h

theorem truncatedChars_of_lt {s : List Char} (h : 56 < s.length) :
    truncatedChars s nameWidth = s.take 53 ++ ['.', '.', '.'] := by
  unfold truncatedChars nameWidth firstChars
  rw [if_neg (by omega), if_neg (by omega)]
  rfl

theorem shownAs_iff : ShownAs name shown ↔ truncated name nameWidth = shown := by
  unfold truncated
  constructor
  · intro h
    cases h with
    | whole hle =>
        rw [truncatedChars_of_le (by rwa [String.length_toList]), String.ofList_toList]
    | @cut first rest hlt hname hfirst =>
        have htake : name.toList.take 53 = first.toList := by
          rw [hname, String.toList_append, ← hfirst, ← String.length_toList, List.take_left]
        rw [truncatedChars_of_lt (by rwa [String.length_toList]), htake, String.ofList_append,
          String.ofList_toList]
  · rintro rfl
    by_cases hle : name.length ≤ 56
    · rw [truncatedChars_of_le (by rwa [String.length_toList]), String.ofList_toList]
      exact .whole hle
    · have hlt : 56 < name.length := by omega
      have hname : name = String.ofList (name.toList.take 53) ++ String.ofList (name.toList.drop 53) := by
        rw [← String.ofList_append, List.take_append_drop, String.ofList_toList]
      have hfirst : (String.ofList (name.toList.take 53)).length = 53 := by
        rw [String.length_ofList, List.length_take, String.length_toList]
        omega
      rw [truncatedChars_of_lt (by rwa [String.length_toList]), String.ofList_append]
      exact .cut hlt hname hfirst

theorem shownName?_eq_some_iff :
    shownName? names id = some shown ↔ ∃ name, HasName names id name ∧ ShownAs name shown := by
  unfold shownName? HasName
  cases names.lookup id with
  | none => simp
  | some name =>
      by_cases hid : name = id.repr
      · simp [hid]
      · simp [hid, shownAs_iff]

theorem shownName?_eq_none_iff : shownName? names id = none ↔ ∀ name, ¬ HasName names id name := by
  rw [Option.eq_none_iff_forall_ne_some]
  simp only [Ne, shownName?_eq_some_iff, not_exists, not_and]
  constructor
  · exact fun h name hname => h _ name hname (shownAs_iff.2 rfl)
  · exact fun h shown name hname => absurd hname (h name)

/-! ## The column -/

/-- The widths of the names that are shown for some batches. -/
def shownWidths (names : List (Int × String)) (ids : List Int) : Set Nat :=
  {n | ∃ id ∈ ids, ∃ name shown, HasName names id name ∧ ShownAs name shown ∧ shown.length = n}

theorem isGreatest_foldl_max {xs : List Nat} (h : xs ≠ []) : IsGreatest {n | n ∈ xs} (xs.foldl max 0) := by
  obtain ⟨m, hm⟩ : ∃ m, xs.max? = some m := Option.isSome_iff_exists.1 (List.isSome_max?_of_ne_nil h)
  rw [List.foldl_max, hm, Option.getD_some, Nat.zero_max]
  exact List.max?_eq_some_iff.1 hm

theorem mem_shownWidths_iff {n : Nat} :
    n ∈ shownWidths names ids ↔ n ∈ (ids.filterMap (shownName? names)).map String.length := by
  simp only [shownWidths, Set.mem_ofPred_eq, List.mem_map, List.mem_filterMap, shownName?_eq_some_iff]
  constructor
  · rintro ⟨id, hid, name, shown, hname, hshown, hlength⟩
    exact ⟨shown, ⟨id, hid, name, hname, hshown⟩, hlength⟩
  · rintro ⟨shown, ⟨id, hid, name, hname, hshown⟩, hlength⟩
    exact ⟨id, hid, name, shown, hname, hshown, hlength⟩

/-- The column stands right behind the longest name that is shown. -/
theorem isGreatest_nameColumn (h : (shownWidths names ids).Nonempty) :
    IsGreatest (shownWidths names ids) (nameColumn names ids) := by
  have hwidths : shownWidths names ids = {n | n ∈ (ids.filterMap (shownName? names)).map String.length} :=
    Set.ext fun n => mem_shownWidths_iff
  rw [hwidths] at h ⊢
  obtain ⟨n, hn⟩ := h
  exact isGreatest_foldl_max (List.ne_nil_of_mem hn)

theorem length_le_nameColumn (hid : id ∈ ids) (h : shownName? names id = some shown) :
    shown.length ≤ nameColumn names ids := by
  obtain ⟨name, hname, hshown⟩ := shownName?_eq_some_iff.1 h
  have hwidth : shown.length ∈ shownWidths names ids := ⟨id, hid, name, shown, hname, hshown, rfl⟩
  exact (isGreatest_nameColumn ⟨_, hwidth⟩).2 hwidth

/-! ## Labels -/

/-- The label of a batch, with its number in a column: what is shown of its name, filled up with spaces,
and the number; or the number alone if it has no name of its own. -/
inductive Labels (names : List (Int × String)) (column : Nat) (id : Int) : String → Prop where
  | named {name shown : String} {spaces : Nat} :
      HasName names id name → ShownAs name shown → shown.length + spaces = column →
      Labels names column id
        (shown ++ String.ofList (List.replicate spaces ' ') ++ ("  (id: " ++ id.repr ++ ")"))
  | bare : (∀ name, ¬ HasName names id name) → Labels names column id id.repr

/-- Labels that line up for some batches: one for each of them, with the numbers behind the names all in
one column, which is as wide as the longest name that is shown. -/
def LinedUp (names : List (Int × String)) (ids : List Int) (labels : List String) : Prop :=
  ∃ column, List.Forall₂ (Labels names column) ids labels ∧
    ((shownWidths names ids).Nonempty → IsGreatest (shownWidths names ids) column)

theorem label_labels (h : ∀ shown, shownName? names id = some shown → shown.length ≤ column) :
    Labels names column id (label names column id) := by
  unfold label
  cases hshown : shownName? names id with
  | none => exact .bare (shownName?_eq_none_iff.1 hshown)
  | some shown =>
      obtain ⟨name, hname, hshownAs⟩ := shownName?_eq_some_iff.1 hshown
      have hspaces : shown.length + (column - shown.length) = column := Nat.add_sub_of_le (h shown hshown)
      have hlabel := Labels.named hname hshownAs hspaces
      rwa [← String.append_assoc, ← String.append_assoc] at hlabel

/-- The labels of the rows. -/
def Board.labels (board : Board) : List String := board.tracks.map Track.label

theorem Board.start_linedUp (names : List (Int × String)) (ids : List Int) :
    LinedUp names ids (start names ids).labels := by
  refine ⟨nameColumn names ids, ?_, isGreatest_nameColumn⟩
  unfold labels start
  rw [List.map_map, List.forall₂_map_right_iff, List.forall₂_same]
  intro id hid
  exact label_labels fun shown => length_le_nameColumn hid

theorem Board.labels_finish (ids : List Int) (board : Board) (id : Int) (state : Batch.State) :
    (board.finish ids id state).labels = board.labels := by
  apply List.ext_getElem?
  intro i
  unfold labels
  rw [List.getElem?_map, List.getElem?_map, getElem?_tracks_finish]
  by_cases hrow : rowOf? ids id = some i
  · rw [if_pos hrow, Option.map_map]
    rfl
  · rw [if_neg hrow]

/-! ## The labels that are shown -/

variable {τ : Type} [Timeline τ] {env : Surroundings τ} {batches : List (Batch τ)}
  {w v : World (Page.Cache τ) τ} {boards : List Board} {overs : List Over} {stop : Option Stop}

/-- What the displays of progress show for batches: labels that line up, the same on every display; or
nothing at all, if some batch has no number. -/
inductive LabelsShown (names : List (Int × String)) (batches : List (Batch τ)) (boards : List Board) :
    Prop where
  | unnumbered {f : Fault} :
      batches.mapM Batch.number = .error f → boards = [] → LabelsShown names batches boards
  | numbered {ids : List Int} {labels : List String} :
      batches.mapM Batch.number = .ok ids → LinedUp names ids labels → boards ≠ [] →
      (∀ board ∈ boards, board.labels = labels) → LabelsShown names batches boards

theorem Watches.labelsShown (h : Watches env names batches w boards overs stop v) :
    LabelsShown names batches boards := by
  cases h with
  | unnumbered hids => exact .unnumbered hids rfl
  | @numbered ids overs stop v hids hturns =>
      apply LabelsShown.numbered hids (Board.start_linedUp names ids)
      · exact List.ne_nil_of_length_pos (by simp [Board.course])
      · exact Board.kept_course Board.labels (Board.labels_finish ids) _ overs

omit [Timeline τ] in
theorem watched_labels {waits : List (Wait τ)} {ends : List (Int × Batch.State × String)} {board : Board}
    (h : watched names waits = .ok (ends, board)) :
    board.labels = (Board.start names (waits.map Wait.id)).labels := by
  unfold watched at h
  cases hinOrder : (Wait.inOrder waits).mapM Wait.ending with
  | error e =>
      rw [hinOrder] at h
      cases h
  | ok inOrder =>
      cases hends : waits.mapM Wait.ending with
      | error e =>
          rw [hinOrder, hends] at h
          cases h
      | ok ends =>
          rw [hinOrder, hends] at h
          cases h
          exact Board.kept_afterEnds Board.labels (Board.labels_finish _) _ _

/-- The labels that are built for batches with some names, wherever they are shown. -/
structure LabelsTold (τ : Type) [Timeline τ] (names : List (Int × String)) : Prop where
  /-- The display starts with labels that line up. -/
  built : ∀ ids, LinedUp names ids (Board.start names ids).labels
  /-- Whatever becomes of the batches, every display shows them. -/
  shown : ∀ (env : Surroundings τ) (batches : List (Batch τ)) (w : World (Page.Cache τ) τ),
    ∃ boards, (watch names batches env w).2.trace.displays = w.trace.displays ++ boards.map .board ∧
      LabelsShown names batches boards
  /-- Waits that know nothing of each other end with the same labels. -/
  alone : ∀ (waits : List (Wait τ)) ends board, watched names waits = .ok (ends, board) →
    LinedUp names (waits.map Wait.id) board.labels

/-- Whatever the batches are called, the numbers behind their names stand in one column, right behind the
longest name that is shown. -/
theorem labels_linedUp (names : List (Int × String)) : LabelsTold τ names := by
  constructor
  · exact Board.start_linedUp names
  · intro env batches w
    obtain ⟨boards, overs, stop, v, h⟩ := exists_watches env names batches w
    obtain ⟨r, hwatch, -⟩ := h.watch
    refine ⟨boards, ?_, h.labelsShown⟩
    rw [hwatch]
    exact h.displays
  · intro waits ends board h
    rw [watched_labels h]
    exact Board.start_linedUp names _

/-- A batch without a name and one that is called like its number have bare labels. -/
example :
    let names := [(7, "nightly"), (8, "8"), (9, ""), (10, "".pushn 'x' 57)]
    (Board.start (names.take 3) [7, 8, 9, 11]).labels =
        ["nightly  (id: 7)", "8", "         (id: 9)", "11"] ∧
      (Board.start names [7, 10]).labels = ["nightly" ++ "".pushn ' ' 49 ++ "  (id: 7)",
        "".pushn 'x' 53 ++ "...  (id: 10)"] := by
  decide +kernel

end SparkGateway.Terminal
