import Mathlib.Data.List.Basic
import SparkGateway.Html.Markup
import SparkGateway.Proofs.Page.Content

/-!
# End tags that are left out

A hypertext may leave out the end tags of cells, of rows and of the head.  The builder has no notion of an
end tag that is left out: a cell or a row is recorded when its end tag comes, and the head hides everything
up to its end tag.  So a cell without its end tag is forgotten when the next cell starts (`read_cells`), a
row without its end tag when the next row starts (`LooseRow.finish_read`), and without the end tag of the
head nothing on the page is visible (`LoosePage.ofEvents_events`).

What stands between the parts of a table, and in its cells, is arbitrary: texts, links and any elements
that neither make up a table nor hide anything, closed or not, and invisible elements with texts in them
(`Filler`).  Each part of a document has its events, its visible texts, what the open table reads of it
(`read`, with `reads` to say that it does), and the same part with all end tags (`complete`).

Main statement: `LoosePage.ofHtml_eq_complete_iff`.
-/

namespace SparkGateway.Page

open Html Text

namespace Builder.Reads

/-- The end tag of an element that is no table, if it is written. -/
theorem endTag {tag : String} (htable : tag ≠ "table") (hhidden : isHidden tag = false) (ends : Bool) :
    Builder.Reads (if ends then [.closed tag] else []) (fun _ t => if ends then t.closed tag else t)
      (fun _ => []) (fun _ => []) := by
  cases ends with
  | false => exact .nil
  | true => exact .closed htable hhidden

theorem flatMap {α : Type} {events : α → List Event} {read : α → Bool → OpenTable → OpenTable}
    {texts : α → Bool → List String}
    (h : ∀ a, Builder.Reads (events a) (read a) (fun _ => []) (texts a)) (as : List α) :
    Builder.Reads (as.flatMap events) (fun shown t => as.foldl (fun t a => read a shown t) t)
      (fun _ => []) (fun shown => as.flatMap fun a => texts a shown) := by
  induction as with
  | nil => exact .nil
  | cons a as ih => exact (h a).append ih

end Builder.Reads

/-! ## What is no part of a table -/

/-- Whether a tag neither makes up a table nor hides anything. -/
def isInert (tag : String) : Bool := !isHidden tag && tag ∉ ["table", "tr", "td", "th"]

/-- Something that is no part of a table. -/
inductive Inert where
  | text (s : String)
  | opened (tag : String) (attributes : List (String × Option String)) (h : isInert tag = true)
  | closed (tag : String) (h : isInert tag = true)
  /-- An invisible element with some texts in it. -/
  | hidden (tag : String) (attributes : List (String × Option String)) (inside : List String)
      (h : isHidden tag = true)

namespace Inert

def events : Inert → List Event
  | text s => [.text s]
  | opened tag attributes _ => [.opened tag attributes]
  | closed tag _ => [.closed tag]
  | hidden tag attributes inside _ =>
    .opened tag attributes :: inside.flatMap (fun s => [.text s]) ++ [.closed tag]

def texts (i : Inert) (shown : Bool) : List String :=
  match i with
  | text s => if shown then [s] else []
  | _ => []

def links : Inert → List String
  | opened tag attributes _ => if tag = "a" then (attribute? attributes "href").toList else []
  | _ => []

theorem isHidden_of_isInert {tag : String} (h : isInert tag = true) : isHidden tag = false := by
  unfold isInert at h
  simp_all

theorem notMem_of_isInert {tag : String} (h : isInert tag = true) :
    tag ∉ ["table", "tr", "td", "th"] := by
  unfold isInert at h
  simp_all

theorem reads (i : Inert) :
    Builder.Reads i.events (fun shown => OpenTable.more (i.texts shown) i.links) (fun _ => []) i.texts := by
  have htable {tag : String} (h : isInert tag = true) : tag ≠ "table" :=
    fun heq => notMem_of_isInert h (by simp [heq])
  cases i with
  | text s =>
      refine (Builder.Reads.text s).congr (fun shown t => ?_) (fun _ => rfl) fun _ => rfl
      cases shown with
      | false => exact t.more_nil.symm
      | true => exact t.addText_eq s
  | opened tag attributes h =>
      exact (Builder.Reads.opened (htable h) (isHidden_of_isInert h) attributes).congr
        (fun _ t => t.opened_other (notMem_of_isInert h) attributes) (fun _ => rfl) fun _ => rfl
  | closed tag h =>
      refine (Builder.Reads.closed (htable h) (isHidden_of_isInert h)).congr (fun _ t => ?_)
        (fun _ => rfl) fun _ => rfl
      rw [t.closed_other (notMem_of_isInert h)]
      exact t.more_nil.symm
  | hidden tag attributes inside h =>
      have htags : tag ∉ ["table", "tr", "td", "th"] ∧ tag ≠ "table" ∧ tag ≠ "a" := by
        simp only [isHidden, Bool.or_eq_true, beq_iff_eq] at h
        rcases h with ((rfl | rfl) | rfl) | rfl <;> decide
      have hinside := Builder.Reads.flatMap Builder.Reads.text inside
      refine (hinside.element htags.2.1 attributes).congr (fun shown t => ?_) (fun _ => rfl) ?_
      · simp [h, t.opened_other htags.1, OpenTable.closed_other htags.1, htags.2.2, OpenTable.more_nil,
          texts, links]
      · simp [h, texts]

end Inert

/-- A stretch of a document without any part of a table. -/
abbrev Filler := List Inert

namespace Filler

def events (f : Filler) : List Event := f.flatMap Inert.events

def texts (f : Filler) (shown : Bool) : List String := f.flatMap fun i => i.texts shown

def links (f : Filler) : List String := f.flatMap Inert.links

def read (f : Filler) (shown : Bool) : OpenTable → OpenTable := OpenTable.more (f.texts shown) f.links

theorem reads (f : Filler) : Builder.Reads f.events f.read (fun _ => []) f.texts := by
  refine (Builder.Reads.flatMap Inert.reads f).congr (fun shown t => ?_) (fun _ => rfl) fun _ => rfl
  induction f generalizing t with
  | nil => exact t.more_nil.symm
  | cons i f ih =>
      rw [List.foldl_cons, ih]
      simp [read, OpenTable.more_more, texts, links]

theorem texts_false (f : Filler) : f.texts false = [] := by
  have hnone (i : Inert) : i.texts false = [] := by cases i <;> rfl
  simp [texts, hnone]

end Filler

/-! ## Documents with end tags left out -/

/-- A cell of a table, whose end tag may be left out, and what follows it in its row. -/
structure LooseCell where
  isData : Bool
  attributes : List (String × Option String)
  inside : Filler
  /-- Whether the end tag is written. -/
  ends : Bool
  gap : Filler

/-- A row of a table, whose end tag may be left out, and what follows it in its table. -/
structure LooseRow where
  attributes : List (String × Option String)
  start : Filler
  cells : List LooseCell
  /-- Whether the end tag is written. -/
  ends : Bool
  gap : Filler

/-- The head of a document, whose end tag may be left out. -/
structure LooseHead where
  attributes : List (String × Option String)
  inside : Filler
  /-- Whether the end tag is written. -/
  ends : Bool

/-- A document with a table, in which the end tags of cells, of rows and of the head may be left out. -/
structure LoosePage where
  start : Filler
  head : Option LooseHead
  before : Filler
  attributes : List (String × Option String)
  top : Filler
  rows : List LooseRow
  after : Filler

namespace LooseCell

def tag (c : LooseCell) : String := if c.isData then "td" else "th"

def events (c : LooseCell) : List Event :=
  [.opened c.tag c.attributes] ++ c.inside.events ++ (if c.ends then [.closed c.tag] else []) ++
    c.gap.events

def complete (c : LooseCell) : LooseCell := { c with ends := true }

def texts (c : LooseCell) (shown : Bool) : List String := c.inside.texts shown ++ c.gap.texts shown

/-- The cell of the page, if the end tag is written. -/
def cell (shown : Bool) (c : LooseCell) : Cell :=
  ⟨collapse (String.join (c.inside.texts shown)), c.inside.links.head?⟩

def read (c : LooseCell) (shown : Bool) (t : OpenTable) : OpenTable :=
  let t := c.inside.read shown (t.startCell c.isData)
  c.gap.read shown (if c.ends then t.endCell else t)

theorem reads (c : LooseCell) : Builder.Reads c.events c.read (fun _ => []) c.texts := by
  have htag : c.tag = "td" ∨ c.tag = "th" := by
    unfold tag
    cases c.isData <;> simp
  have htable : c.tag ≠ "table" := by rcases htag with h | h <;> rw [h] <;> decide
  have hhidden : isHidden c.tag = false := by rcases htag with h | h <;> rw [h] <;> decide
  have hdata : (c.tag == "td") = c.isData := by
    unfold tag
    cases c.isData <;> decide
  refine ((((Builder.Reads.opened htable hhidden c.attributes).append c.inside.reads).append
    (.endTag htable hhidden c.ends)).append c.gap.reads).congr ?_ (fun _ => rfl) (by simp [texts])
  intro shown t
  rw [OpenTable.opened_cell htag, hdata, OpenTable.closed_cell htag]
  rfl

end LooseCell

namespace LooseRow

def events (r : LooseRow) : List Event :=
  [.opened "tr" r.attributes] ++ r.start.events ++ r.cells.flatMap LooseCell.events ++
    (if r.ends then [.closed "tr"] else []) ++ r.gap.events

def complete (r : LooseRow) : LooseRow :=
  { r with cells := r.cells.map LooseCell.complete, ends := true }

def hasData (r : LooseRow) : Bool := r.cells.any LooseCell.isData

def texts (r : LooseRow) (shown : Bool) : List String :=
  r.start.texts shown ++ r.cells.flatMap (fun c => c.texts shown) ++ r.gap.texts shown

/-- The row of the page, if there is one: it needs its end tag, a data cell, and a cell with its end tag.
It has the cells with their end tags only. -/
def row? (shown : Bool) (r : LooseRow) : Option Row :=
  if r.ends ∧ r.hasData ∧ r.cells.filter LooseCell.ends ≠ [] then
    some ⟨(r.cells.filter LooseCell.ends).map (LooseCell.cell shown)⟩
  else none

def read (r : LooseRow) (shown : Bool) (t : OpenTable) : OpenTable :=
  let t := r.cells.foldl (fun t c => c.read shown t) (r.start.read shown t.startRow)
  r.gap.read shown (if r.ends then t.endRow else t)

theorem reads (r : LooseRow) : Builder.Reads r.events r.read (fun _ => []) r.texts :=
  (((((Builder.Reads.opened (by decide) rfl r.attributes).append r.start.reads).append
    (.flatMap LooseCell.reads r.cells)).append (.endTag (by decide) rfl r.ends)).append
    r.gap.reads).congr (fun _ _ => rfl) (fun _ => rfl) (by simp [texts])

end LooseRow

/-- In a row, the cells with their end tags are read; a cell without its end tag is forgotten when the next
one starts. -/
theorem read_cells (cells : List LooseCell) (shown : Bool) (t : OpenTable) (found : List Cell)
    (cell : Option OpenCell) (hasData : Bool) :
    ∃ cell', cells.foldl (fun t c => c.read shown t)
        { t with row := some found, cell := cell, hasData := hasData } =
      { t with
        row := some (found ++ (cells.filter LooseCell.ends).map (LooseCell.cell shown))
        cell := cell'
        hasData := hasData || cells.any LooseCell.isData } := by
  induction cells generalizing found cell hasData with
  | nil => exact ⟨cell, by simp⟩
  | cons c cells ih =>
      -- A cell without its end tag is left open, and `startCell` puts the next one in its place.
      obtain ⟨open', hread⟩ : ∃ open',
          c.read shown { t with row := some found, cell := cell, hasData := hasData } =
            { t with
              row := some (found ++ if c.ends then [c.cell shown] else [])
              cell := open'
              hasData := hasData || c.isData } := by
        cases hends : c.ends <;>
          simp [LooseCell.read, hends, Filler.read, OpenTable.startCell, OpenTable.more, OpenCell.more,
            OpenTable.endCell, OpenCell.finish, LooseCell.cell]
      obtain ⟨cell', hcells⟩ := ih (found ++ if c.ends then [c.cell shown] else []) open'
        (hasData || c.isData)
      refine ⟨cell', ?_⟩
      rw [List.foldl_cons, hread, hcells]
      cases hends : c.ends <;> simp [hends, Bool.or_assoc]

/-- A row of the page comes from a row with its end tag only; a row without its end tag is forgotten when
the next one starts. -/
theorem LooseRow.finish_read (r : LooseRow) (shown : Bool) (t : OpenTable) :
    (r.read shown t).finish = ⟨t.id, t.classes, t.rows ++ (r.row? shown).toList⟩ := by
  obtain ⟨cell, hcells⟩ := read_cells r.cells shown t []
    (t.cell.map (OpenCell.more (r.start.texts shown) r.start.links)) false
  have hstart : r.start.read shown t.startRow =
      { t with
        row := some []
        cell := t.cell.map (OpenCell.more (r.start.texts shown) r.start.links)
        hasData := false } := rfl
  -- Text between the rows may still go to a cell that was left open, which no row holds.
  have hgap (u : OpenTable) : (r.gap.read shown u).finish = u.finish := rfl
  rw [read, hstart, hcells, hgap]
  cases hends : r.ends with
  | false => simp [row?, hends, OpenTable.finish]
  | true =>
      cases hcommitted : (r.cells.filter LooseCell.ends).map (LooseCell.cell shown) with
      | nil =>
          have hnil : r.cells.filter LooseCell.ends = [] := List.map_eq_nil_iff.1 hcommitted
          simp [row?, hnil, OpenTable.endRow, OpenTable.finish]
      | cons first others =>
          have hnil : r.cells.filter LooseCell.ends ≠ [] := by
            intro heq
            simp [heq] at hcommitted
          cases hdata : r.cells.any LooseCell.isData <;>
            simp [row?, hasData, hends, hdata, hnil, hcommitted, OpenTable.endRow, OpenTable.finish]

theorem finish_read_rows (rows : List LooseRow) (shown : Bool) (t : OpenTable) :
    (rows.foldl (fun t r => r.read shown t) t).finish =
      ⟨t.id, t.classes, t.rows ++ rows.filterMap (LooseRow.row? shown)⟩ := by
  induction rows generalizing t with
  | nil => simp [OpenTable.finish]
  | cons r rows ih =>
      have hrow : (r.read shown t).id = t.id ∧ (r.read shown t).classes = t.classes ∧
          (r.read shown t).rows = t.rows ++ (r.row? shown).toList := by
        simpa [OpenTable.finish] using r.finish_read shown t
      rw [List.foldl_cons, ih, hrow.1, hrow.2.1, hrow.2.2]
      cases hfound : r.row? shown <;> simp [hfound]

namespace LooseHead

def events (h : LooseHead) : List Event :=
  [.opened "head" h.attributes] ++ h.inside.events ++ if h.ends then [.closed "head"] else []

def complete (h : LooseHead) : LooseHead := { h with ends := true }

/-- Nothing in a head is visible; without its end tag, nothing after it is visible either. -/
theorem run_events (h : LooseHead) (pieces : List String) :
    ({ Builder.empty with pieces := pieces } : Builder).run h.events =
      { Builder.empty with pieces := pieces, hidden := if h.ends then 0 else 1 } := by
  have hopened : ({ Builder.empty with pieces := pieces } : Builder).run [.opened "head" h.attributes] =
      { Builder.empty with pieces := pieces, hidden := 1 } := rfl
  have hinside : ({ Builder.empty with pieces := pieces, hidden := 1 } : Builder).run h.inside.events =
      { Builder.empty with pieces := pieces, hidden := 1 } := by
    rw [h.inside.reads { Builder.empty with pieces := pieces, hidden := 1 } false rfl, Filler.texts_false]
    simp [Builder.took, Builder.empty, Builder.onTop]
  rw [events, Builder.run_append, Builder.run_append, hopened, hinside]
  cases h.ends <;> rfl

end LooseHead

namespace LoosePage

def bodyEvents (d : LoosePage) : List Event :=
  d.before.events ++ (.opened "table" d.attributes ::
    (d.top.events ++ d.rows.flatMap LooseRow.events) ++ [.closed "table"]) ++ d.after.events

def events (d : LoosePage) : List Event :=
  d.start.events ++ (d.head.map LooseHead.events).getD [] ++ d.bodyEvents

/-- The document with all end tags. -/
def complete (d : LoosePage) : LoosePage :=
  { d with head := d.head.map LooseHead.complete, rows := d.rows.map LooseRow.complete }

/-- Whether the head, if there is one, ends before what follows it. -/
def headEnds (d : LoosePage) : Bool := d.head.all LooseHead.ends

def texts (d : LoosePage) (shown : Bool) : List String :=
  d.before.texts shown ++ (d.top.texts shown ++ d.rows.flatMap fun r => r.texts shown) ++
    d.after.texts shown

def table (d : LoosePage) (shown : Bool) : Table where
  id := attribute? d.attributes "id"
  classes := (words ((attribute? d.attributes "class").getD "").toList).map String.ofList
  rows := d.rows.filterMap (LooseRow.row? shown)

theorem reads_body (d : LoosePage) :
    Builder.Reads d.bodyEvents (fun shown t => d.after.read shown (d.before.read shown t))
      (fun shown => [d.table shown]) d.texts := by
  have htable := (d.top.reads.append (.flatMap LooseRow.reads d.rows)).table d.attributes
  refine ((d.before.reads.append htable).append d.after.reads).congr
    (fun _ _ => rfl) (fun shown => ?_) (fun _ => rfl)
  simp [finish_read_rows, Filler.read, OpenTable.more, OpenTable.start, table]

/-- The page of a document in which end tags may be left out. -/
theorem ofEvents_events (d : LoosePage) (url : String) :
    ofEvents url d.events =
      ⟨url, [d.table d.headEnds], spoken (d.start.texts true ++ d.texts d.headEnds)⟩ := by
  have hhead : Builder.empty.run (d.start.events ++ (d.head.map LooseHead.events).getD []) =
      { Builder.empty with pieces := d.start.texts true, hidden := if d.headEnds then 0 else 1 } := by
    have hstart : Builder.empty.run d.start.events =
        { Builder.empty with pieces := d.start.texts true } :=
      d.start.reads Builder.empty true rfl
    rw [Builder.run_append, hstart, headEnds]
    cases d.head with
    | none => rfl
    | some h => exact h.run_events (d.start.texts true)
  rw [ofEvents, events, Builder.run_append, hhead,
    d.reads_body { Builder.empty with
      pieces := d.start.texts true, hidden := if d.headEnds then 0 else 1 } d.headEnds
      (by cases d.headEnds <;> rfl)]
  simp [Builder.finish, Builder.took, Builder.empty, Builder.onTop, collapse_intercalate]

end LoosePage

/-! ## Texts without words -/

theorem wordsFrom_eq_nil_iff (cur s : List Char) :
    wordsFrom cur s = [] ↔ cur = [] ∧ ∀ c ∈ s, isBlank c = true := by
  fun_induction wordsFrom cur s with
  | case1 => simp
  | case2 cur hcur => simp [hcur]
  | case3 c cs hc ih => simpa [hc] using ih
  | case4 cur c cs hc hcur ih => simp [hcur]
  | case5 cur c cs hc ih => simp [ih, hc]

theorem words_eq_nil_iff (s : List Char) : words s = [] ↔ ∀ c ∈ s, isBlank c = true := by
  simp [words, wordsFrom_eq_nil_iff]

/-- Texts without words, as they are invisible on a page. -/
def Wordless (texts : List String) : Prop := ∀ s ∈ texts, words s.toList = []

theorem wordsFrom_of_not_blank {cur s : List Char} (hs : ∀ c ∈ s, isBlank c = false)
    (hne : cur ≠ [] ∨ s ≠ []) : wordsFrom cur s = [cur.reverse ++ s] := by
  induction s generalizing cur with
  | nil =>
      have hcur : cur ≠ [] := by simpa using hne
      simp [wordsFrom, hcur]
  | cons c cs ih =>
      have hc : isBlank c = false := hs c List.mem_cons_self
      rw [wordsFrom, hc, if_neg (by decide), ih (fun d hd => hs d (List.mem_cons_of_mem c hd)) (by simp)]
      simp

/-- What is said has the words of the texts. -/
theorem words_spoken (texts : List String) :
    words (spoken texts).toList = texts.flatMap fun s => words s.toList := by
  have hword (s : String) : (words s.toList).flatMap words = words s.toList := by
    have hself : ∀ w ∈ words s.toList, words w = [w] := fun w hw =>
      wordsFrom_of_not_blank (fun _ hc => not_blank_of_mem_words hw hc) (.inr (words_ne_nil hw))
    calc (words s.toList).flatMap words
        = (words s.toList).flatMap fun w => [w] := List.flatMap_congr hself
      _ = words s.toList := by simp
  rw [spoken, String.toList_ofList, words_intercalate, List.flatMap_assoc]
  exact List.flatMap_congr fun s _ => hword s

/-- More texts make no difference exactly if they have no words. -/
theorem spoken_append_eq_iff (texts more : List String) :
    spoken texts = spoken (texts ++ more) ↔ Wordless more := by
  have hwordless : Wordless more ↔ more.flatMap (fun s => words s.toList) = [] := by
    simp [Wordless, List.flatMap_eq_nil_iff]
  rw [hwordless]
  constructor
  · intro h
    have hwords := congrArg (fun s : String => words s.toList) h
    simpa [words_spoken] using hwords
  · intro h
    simp [spoken, h]

theorem collapse_join_of_wordless {texts : List String} (h : Wordless texts) :
    collapse (String.join texts) = "" := by
  have hblank : words (String.join texts).toList = [] := by
    rw [words_eq_nil_iff, String.toList_join]
    intro c hc
    obtain ⟨s, hs, hcs⟩ := List.mem_flatMap.1 hc
    exact (words_eq_nil_iff _).1 (h s hs) c hcs
  rw [collapse, collapseChars, hblank]
  rfl

/-- A cell without words is the same whether it is visible or not. -/
theorem LooseCell.cell_of_wordless {c : LooseCell} (h : Wordless (c.inside.texts true)) (shown : Bool) :
    c.cell shown = c.cell true := by
  cases shown with
  | true => rfl
  | false =>
      have hnone : Wordless (c.inside.texts false) := by simp [Wordless, Filler.texts_false]
      simp [cell, collapse_join_of_wordless h, collapse_join_of_wordless hnone]

/-! ## Which end tags may be left out -/

theorem LooseRow.row?_complete (r : LooseRow) (shown : Bool) :
    r.complete.row? shown =
      if r.hasData then some ⟨r.cells.map (LooseCell.cell shown)⟩ else none := by
  have hends : ∀ c ∈ r.cells.map LooseCell.complete, c.ends = true := by
    simp [LooseCell.complete]
  have hdata : r.complete.hasData = r.hasData := by
    simp only [hasData, complete, List.any_map]
    rfl
  have hcells : (r.cells.map LooseCell.complete).map (LooseCell.cell shown) =
      r.cells.map (LooseCell.cell shown) := by
    rw [List.map_map]
    rfl
  have hne : r.hasData = true → r.cells ≠ [] := by
    rintro hd heq
    simp [hasData, heq] at hd
  unfold row?
  rw [hdata]
  simp only [complete, List.filter_eq_self.2 hends, hcells]
  cases hd : r.hasData with
  | false => simp
  | true => simp [hne hd]

/-- A row comes out as the row with all end tags exactly if it has no data cell, or its own end tag and
those of its cells. -/
theorem LooseRow.row?_eq_complete_iff (r : LooseRow) (shown : Bool) :
    r.row? shown = r.complete.row? true ↔
      (r.hasData = true → r.ends = true ∧ (∀ c ∈ r.cells, c.ends = true) ∧
        ∀ c ∈ r.cells, c.cell shown = c.cell true) := by
  rw [row?_complete]
  cases hdata : r.hasData with
  | false => simp [row?, hdata]
  | true =>
      constructor
      · intro h _
        unfold row? at h
        split at h
        · next hkept =>
            have hcells : (r.cells.filter LooseCell.ends).map (LooseCell.cell shown) =
                r.cells.map (LooseCell.cell true) := by simpa using h
            have hlength : (r.cells.filter LooseCell.ends).length = r.cells.length := by
              simpa using congrArg List.length hcells
            have hall := List.length_filter_eq_length_iff.1 hlength
            rw [List.filter_eq_self.2 hall] at hcells
            exact ⟨hkept.1, hall, List.map_inj_left.1 hcells⟩
        · simp at h
      · intro h
        obtain ⟨hends, hall, hcells⟩ := h rfl
        have hne : r.cells ≠ [] := by
          intro heq
          simp [hasData, heq] at hdata
        simp [row?, hends, hdata, List.filter_eq_self.2 hall, hne, List.map_congr_left hcells]

theorem length_filterMap_le {α β : Type} {f g : α → Option β}
    (h : ∀ a, (f a).isSome = true → (g a).isSome = true) (as : List α) :
    (as.filterMap f).length ≤ (as.filterMap g).length := by
  induction as with
  | nil => exact Nat.le_refl 0
  | cons a as ih =>
      cases hf : f a with
      | none =>
          rw [List.filterMap_cons_none hf]
          exact Nat.le_trans ih ((List.sublist_cons_self a as).filterMap g).length_le
      | some x =>
          obtain ⟨y, hg⟩ := Option.isSome_iff_exists.1 (h a (by simp [hf]))
          rw [List.filterMap_cons_some hf, List.filterMap_cons_some hg]
          exact Nat.succ_le_succ ih

/-- If everything that `f` finds, `g` finds too, then they find the same in a list only if they agree on it. -/
theorem filterMap_eq_filterMap_iff {α β : Type} {f g : α → Option β} {as : List α}
    (h : ∀ a, (f a).isSome = true → (g a).isSome = true) :
    as.filterMap f = as.filterMap g ↔ ∀ a ∈ as, f a = g a := by
  refine ⟨fun heq => ?_, List.filterMap_congr⟩
  induction as with
  | nil => simp
  | cons a as ih =>
      have hlength := length_filterMap_le h as
      have ha := h a
      cases hf : f a with
      | none =>
          cases hg : g a with
          | none => simp_all
          | some y =>
              have hmore := congrArg List.length heq
              simp [hf, hg] at hmore
              omega
      | some x =>
          obtain ⟨y, hg⟩ := Option.isSome_iff_exists.1 (ha (by simp [hf]))
          simp_all

namespace LoosePage

theorem texts_complete (d : LoosePage) (shown : Bool) : d.complete.texts shown = d.texts shown := by
  have hcells (r : LooseRow) : r.complete.texts shown = r.texts shown := by
    simp only [LooseRow.texts, LooseRow.complete, List.flatMap_map]
    rfl
  simp [texts, complete, List.flatMap_map, hcells]

theorem headEnds_complete (d : LoosePage) : d.complete.headEnds = true := by
  simp only [headEnds, complete]
  cases d.head <;> rfl

theorem texts_false (d : LoosePage) : d.texts false = [] := by
  simp [texts, LooseRow.texts, LooseCell.texts, Filler.texts_false]

theorem mem_texts {d : LoosePage} {r : LooseRow} {c : LooseCell} (hr : r ∈ d.rows) (hc : c ∈ r.cells)
    {s : String} {shown : Bool} (hs : s ∈ c.inside.texts shown) : s ∈ d.texts shown := by
  have hcell : s ∈ c.texts shown := List.mem_append_left _ hs
  have hcells : s ∈ r.cells.flatMap fun c => c.texts shown := List.mem_flatMap.2 ⟨c, hc, hcell⟩
  have hrow : s ∈ r.texts shown := List.mem_append_left _ (List.mem_append_right _ hcells)
  have hrows : s ∈ d.rows.flatMap fun r => r.texts shown := List.mem_flatMap.2 ⟨r, hr, hrow⟩
  exact List.mem_append_left _ (List.mem_append_right _ (List.mem_append_right _ hrows))

/-- The table is that of the document with all end tags exactly if the rows are. -/
theorem table_eq_complete_iff (d : LoosePage) (shown : Bool) :
    d.table shown = d.complete.table true ↔
      ∀ r ∈ d.rows, r.row? shown = r.complete.row? true := by
  have hfound (r : LooseRow) (h : (r.row? shown).isSome = true) :
      (r.complete.row? true).isSome = true := by
    rw [LooseRow.row?_complete]
    unfold LooseRow.row? at h
    split at h
    · next hkept => simp [hkept.2.1]
    · cases h
  rw [← filterMap_eq_filterMap_iff hfound]
  simp [table, complete, List.filterMap_map]

/-- The page of a document in which end tags are left out is that of the document with all end tags exactly
if every row with a data cell has its own end tag and those of its cells, and the head has its end tag or
there is no word to be seen after it. -/
theorem ofHtml_eq_complete_iff (d : LoosePage) {html full : String}
    (hread : Event.read html.toList = .ok d.events)
    (hfull : Event.read full.toList = .ok d.complete.events) (url : String) :
    ofHtml url html = ofHtml url full ↔
      (∀ r ∈ d.rows, r.hasData = true → r.ends = true ∧ ∀ c ∈ r.cells, c.ends = true) ∧
        (d.headEnds = true ∨ Wordless (d.texts true)) := by
  have hpage : ofHtml url html =
      .ok ⟨url, [d.table d.headEnds], spoken (d.start.texts true ++ d.texts d.headEnds)⟩ := by
    rw [← d.ofEvents_events, ofHtml, hread]
    rfl
  have hcomplete : ofHtml url full =
      .ok ⟨url, [d.complete.table true], spoken (d.start.texts true ++ d.texts true)⟩ := by
    have hevents := d.complete.ofEvents_events url
    rw [texts_complete, headEnds_complete] at hevents
    rw [ofHtml, hfull]
    exact congrArg Except.ok hevents
  rw [hpage, hcomplete]
  simp only [Except.ok.injEq, Page.mk.injEq, true_and, List.cons.injEq, and_true,
    table_eq_complete_iff, LooseRow.row?_eq_complete_iff]
  cases hhead : d.headEnds with
  | true => simp
  | false =>
      have htext : spoken (d.start.texts true ++ d.texts false) =
          spoken (d.start.texts true ++ d.texts true) ↔ Wordless (d.texts true) := by
        rw [texts_false, List.append_nil, spoken_append_eq_iff]
      simp only [htext, Bool.false_eq_true, false_or]
      refine and_congr_left fun hwordless => forall₂_congr fun r hr => imp_congr_right fun _ => ?_
      have hcells : ∀ c ∈ r.cells, c.cell false = c.cell true := fun c hc =>
        LooseCell.cell_of_wordless (fun s hs => hwordless s (mem_texts hr hc hs)) false
      exact ⟨fun h => ⟨h.1, h.2.1⟩, fun h => ⟨h.1, h.2, hcells⟩⟩

/-- A table whose first row holds a header cell; the end tags of that cell and of its row are left out. -/
def looseHeader : LoosePage where
  start := []
  head := some ⟨[], [], true⟩
  before := [.opened "body" [] rfl]
  attributes := []
  top := []
  rows := [⟨[], [], [⟨false, [], [.text "H"], false, []⟩], false, []⟩,
    ⟨[], [], [⟨true, [], [.text "a"], true, []⟩], true, []⟩]
  after := []

theorem ofHtml_eq_complete_of_looseHeader :
    ofHtml "http://rm/page" "<head></head><body><table><tr><th>H<tr><td>a</td></tr></table>" =
      ofHtml "http://rm/page"
        "<head></head><body><table><tr><th>H</th></tr><tr><td>a</td></tr></table>" := by
  have hread : Event.read "<head></head><body><table><tr><th>H<tr><td>a</td></tr></table>".toList =
      .ok looseHeader.events := by
    decide +kernel
  have hfull : Event.read
      "<head></head><body><table><tr><th>H</th></tr><tr><td>a</td></tr></table>".toList =
      .ok looseHeader.complete.events := by
    decide +kernel
  refine (looseHeader.ofHtml_eq_complete_iff hread hfull "http://rm/page").2 ⟨?_, .inl rfl⟩
  simp [looseHeader, LooseRow.hasData]

/-- Without the end tag of its first cell a row comes out as one with the second cell alone. -/
theorem ofHtml_of_missing_endTag :
    ofHtml "http://rm/page" "<table><tr><td>a<td>b</td></tr></table>" =
        .ok ⟨"http://rm/page", [⟨none, [], [⟨[⟨"b", none⟩]⟩]⟩], "a b"⟩ ∧
      ofHtml "http://rm/page" "<table><tr><td>a</td><td>b</td></tr></table>" =
        .ok ⟨"http://rm/page", [⟨none, [], [⟨[⟨"a", none⟩, ⟨"b", none⟩]⟩]⟩], "a b"⟩ := by
  decide +kernel

end LoosePage

end SparkGateway.Page
