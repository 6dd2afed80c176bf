import Mathlib.Tactic.SplitIfs
import SparkGateway.Page.Builder

/-!
# Well-nested documents

A document of properly closed elements and text, to any depth (`Content`), and what its page should hold:
the tables in the order of their ends, each with its own rows, their own cells, and the text and the links
of each cell.  The own parts of an element are those that stand in no table inside it.

The events of such a document leave the stack of open tables as they found it, except that the innermost
open table has read what is not inside another table (`Placed.reads`).  What an open table reads is told
for each place where the document may stand: the texts and the links of a cell (`read_flow`), the cells of
a row (`read_row`), the rows of a table (`read_table`).

Main statement: `ofEvents_content`.
-/

namespace SparkGateway.Text

theorem wordsFrom_append_blank (cur s t : List Char) :
    wordsFrom cur (s ++ ' ' :: t) = wordsFrom cur s ++ words t := by
  fun_induction wordsFrom cur s with
  | case1 => simp [wordsFrom, words, isBlank]
  | case2 cur hcur => simp [wordsFrom, words, isBlank, hcur]
  | case3 c cs hc ih => simpa [wordsFrom, hc] using ih
  | case4 cur c cs hc hcur ih => simpa [wordsFrom, hc, hcur] using ih
  | case5 cur c cs hc ih => simpa [wordsFrom, hc] using ih

/-- The words of texts with blanks between them are the words of the texts. -/
theorem words_intercalate (texts : List (List Char)) :
    words (List.intercalate [' '] texts) = texts.flatMap words := by
  induction texts with
  | nil => rfl
  | cons s texts ih =>
      cases texts with
      | nil => simp
      | cons t texts =>
          rw [List.intercalate_cons_cons, List.append_assoc, List.singleton_append, words,
            wordsFrom_append_blank, ih, List.flatMap_cons]
          rfl

end SparkGateway.Text

namespace SparkGateway.Page

open Html Text

/-- Properly closed elements and texts, one after the other. -/
inductive Content where
  | nil
  | text (s : String) (rest : Content)
  | element (tag : String) (attributes : List (String × Option String)) (inside rest : Content)

namespace Content

def events : Content → List Event
  | nil => []
  | text s rest => .text s :: rest.events
  | element tag attributes inside rest =>
    .opened tag attributes :: inside.events ++ .closed tag :: rest.events

/-! ## Where elements may stand -/

/-- Where something stands: in a table but in none of its rows, in a row but in none of its cells, or in a
cell or outside of all tables. -/
inductive Place where
  | table
  | row
  | flow

/-- Every row stands in a table and every cell in a row.  Tables may stand anywhere, and so may all other
elements, which have no bearing on what may stand inside: the rows of a table may stand in its `tbody`. -/
inductive Placed : Place → Content → Prop where
  | nil {place : Place} : Placed place .nil
  | text {place : Place} {s : String} {rest : Content} :
      Placed place rest → Placed place (.text s rest)
  | table {place : Place} {attributes : List (String × Option String)} {inside rest : Content} :
      Placed .table inside → Placed place rest → Placed place (.element "table" attributes inside rest)
  | row {attributes : List (String × Option String)} {inside rest : Content} :
      Placed .row inside → Placed .table rest → Placed .table (.element "tr" attributes inside rest)
  | cell {tag : String} {attributes : List (String × Option String)} {inside rest : Content} :
      tag = "td" ∨ tag = "th" → Placed .flow inside → Placed .row rest →
      Placed .row (.element tag attributes inside rest)
  | other {place : Place} {tag : String} {attributes : List (String × Option String)}
      {inside rest : Content} :
      tag ∉ ["table", "tr", "td", "th"] → Placed place inside → Placed place rest →
      Placed place (.element tag attributes inside rest)

/-! ## What the page should hold -/

/-- The visible texts, in order.  Here and below, `shown` tells whether the document itself is visible. -/
def texts (shown : Bool) : Content → List String
  | nil => []
  | text s rest => (if shown then [s] else []) ++ rest.texts shown
  | element tag _ inside rest => inside.texts (shown && !isHidden tag) ++ rest.texts shown

/-- The visible texts outside of tables. -/
def ownTexts (shown : Bool) : Content → List String
  | nil => []
  | text s rest => (if shown then [s] else []) ++ rest.ownTexts shown
  | element tag _ inside rest =>
    (if tag = "table" then [] else inside.ownTexts (shown && !isHidden tag)) ++ rest.ownTexts shown

/-- The targets of the links outside of tables. -/
def ownLinks : Content → List String
  | nil => []
  | text _ rest => rest.ownLinks
  | element tag attributes inside rest =>
    (if tag = "table" then []
      else (if tag = "a" then (attribute? attributes "href").toList else []) ++ inside.ownLinks) ++
      rest.ownLinks

def cell (shown : Bool) (c : Content) : Cell :=
  ⟨collapse (String.join (c.ownTexts shown)), c.ownLinks.head?⟩

/-- The cells outside of inner tables, each with whether it is a data cell. -/
def ownCells (shown : Bool) : Content → List (Bool × Cell)
  | nil => []
  | text _ rest => rest.ownCells shown
  | element tag _ inside rest =>
    (if tag = "table" then []
      else if tag = "td" ∨ tag = "th" then [(tag == "td", inside.cell shown)]
      else inside.ownCells (shown && !isHidden tag)) ++ rest.ownCells shown

/-- A row of cells, if one of them is a data cell. -/
def rowOf? (cells : List (Bool × Cell)) : Option Row :=
  if cells.any Prod.fst then some ⟨cells.map Prod.snd⟩ else none

/-- The rows outside of inner tables that have a data cell. -/
def ownRows (shown : Bool) : Content → List Row
  | nil => []
  | text _ rest => rest.ownRows shown
  | element tag _ inside rest =>
    (if tag = "table" then []
      else if tag = "tr" then (rowOf? (inside.ownCells shown)).toList
      else inside.ownRows (shown && !isHidden tag)) ++ rest.ownRows shown

/-- A table with these attributes and this content. -/
def table (shown : Bool) (attributes : List (String × Option String)) (c : Content) : Table where
  id := attribute? attributes "id"
  classes := (words ((attribute? attributes "class").getD "").toList).map String.ofList
  rows := c.ownRows shown

/-- The tables, in the order of their ends. -/
def tables (shown : Bool) : Content → List Table
  | nil => []
  | text _ rest => rest.tables shown
  | element tag attributes inside rest =>
    inside.tables (shown && !isHidden tag) ++
      (if tag = "table" then [inside.table shown attributes] else []) ++ rest.tables shown

end Content

/-! ## What an open table reads -/

/-- An element that is no table starts inside an open table. -/
def OpenTable.opened (tag : String) (attributes : List (String × Option String)) (t : OpenTable) :
    OpenTable :=
  if tag = "tr" then t.startRow
  else if tag = "td" then t.startCell true
  else if tag = "th" then t.startCell false
  else if tag = "a" then t.link (attribute? attributes "href")
  else t

/-- An element that is no table ends inside an open table. -/
def OpenTable.closed (tag : String) (t : OpenTable) : OpenTable :=
  if tag = "td" ∨ tag = "th" then t.endCell else if tag = "tr" then t.endRow else t

/-- What a document changes in the table that is open around it. -/
def Content.read (shown : Bool) : Content → OpenTable → OpenTable
  | .nil, t => t
  | .text s rest, t => rest.read shown (if shown then t.addText s else t)
  | .element tag attributes inside rest, t =>
    rest.read shown (if tag = "table" then t
      else (inside.read (shown && !isHidden tag) (t.opened tag attributes)).closed tag)

namespace OpenCell

/-- More text and more links are read in a cell. -/
def more (texts links : List String) (c : OpenCell) : OpenCell :=
  ⟨c.pieces ++ texts, c.href.or links.head?⟩

theorem more_nil (c : OpenCell) : c.more [] [] = c := by
  simp [more]

theorem more_more (texts links texts' links' : List String) (c : OpenCell) :
    (c.more texts links).more texts' links' = c.more (texts ++ texts') (links ++ links') := by
  simp [more, List.head?_append, Option.or_assoc]

end OpenCell

namespace OpenTable

/-- More text and more links are read in the open cell, if there is one. -/
def more (texts links : List String) (t : OpenTable) : OpenTable :=
  { t with cell := t.cell.map (OpenCell.more texts links) }

theorem more_nil (t : OpenTable) : t.more [] [] = t := by
  have hcell : OpenCell.more [] [] = fun c => c := funext OpenCell.more_nil
  simp [more, hcell]

theorem more_more (texts links texts' links' : List String) (t : OpenTable) :
    (t.more texts links).more texts' links' = t.more (texts ++ texts') (links ++ links') := by
  have hcell : OpenCell.more texts' links' ∘ OpenCell.more texts links =
      OpenCell.more (texts ++ texts') (links ++ links') :=
    funext (OpenCell.more_more texts links texts' links')
  simp [more, hcell]

theorem addText_eq (s : String) (t : OpenTable) : t.addText s = t.more [s] [] := by
  have hcell : (fun c : OpenCell => { c with pieces := c.pieces ++ [s] }) = OpenCell.more [s] [] := by
    funext c
    simp [OpenCell.more]
  simp [addText, more, hcell]

theorem link_eq (target : Option String) (t : OpenTable) : t.link target = t.more [] target.toList := by
  have hcell : (fun c : OpenCell => if c.href = none then { c with href := target } else c) =
      OpenCell.more [] target.toList := by
    funext ⟨pieces, href⟩
    cases href <;> cases target <;> simp [OpenCell.more]
  simp [link, more, hcell]

theorem opened_other {tag : String} (h : tag ∉ ["table", "tr", "td", "th"])
    (attributes : List (String × Option String)) (t : OpenTable) :
    t.opened tag attributes =
      t.more [] (if tag = "a" then (attribute? attributes "href").toList else []) := by
  simp only [List.mem_cons, List.not_mem_nil, or_false, not_or] at h
  simp only [opened, h, if_false]
  split
  · exact link_eq _ t
  · exact t.more_nil.symm

theorem opened_cell {tag : String} (h : tag = "td" ∨ tag = "th")
    (attributes : List (String × Option String)) (t : OpenTable) :
    t.opened tag attributes = t.startCell (tag == "td") := by
  rcases h with rfl | rfl <;> rfl

theorem closed_cell {tag : String} (h : tag = "td" ∨ tag = "th") (t : OpenTable) :
    t.closed tag = t.endCell := by
  simp [closed, h]

/-- A table in whose open row there are some cells, none of them open. -/
def inRow (t : OpenTable) (cells : List Cell) (hasData : Bool) : OpenTable :=
  { t with row := some cells, cell := none, hasData := hasData }

/-- A table with some rows, none of them open. -/
def between (t : OpenTable) (rows : List Row) (hasData : Bool) : OpenTable :=
  { t with rows := rows, row := none, cell := none, hasData := hasData }

theorem more_inRow (t : OpenTable) (cells : List Cell) (hasData : Bool) (texts links : List String) :
    (t.inRow cells hasData).more texts links = t.inRow cells hasData := rfl

theorem more_between (t : OpenTable) (rows : List Row) (hasData : Bool) (texts links : List String) :
    (t.between rows hasData).more texts links = t.between rows hasData := rfl

/-- A cell that starts in a row, is read and ends becomes the last cell of the row. -/
theorem endCell_startCell (t : OpenTable) (cells : List Cell) (hasData isData : Bool)
    (texts links : List String) :
    (((t.inRow cells hasData).startCell isData).more texts links).endCell =
      t.inRow (cells ++ [⟨collapse (String.join texts), links.head?⟩]) (hasData || isData) := by
  simp [inRow, startCell, more, endCell, OpenCell.more, OpenCell.finish]

/-- A row that starts between rows, is read and ends becomes the last row, if it has a data cell. -/
theorem endRow_inRow (t : OpenTable) (rows : List Row) (hasData : Bool) (cells : List (Bool × Cell)) :
    ((t.between rows hasData).inRow (cells.map Prod.snd) (cells.any Prod.fst)).endRow =
      t.between (rows ++ (Content.rowOf? cells).toList) (cells.any Prod.fst) := by
  cases cells with
  | nil => simp [between, inRow, endRow, Content.rowOf?]
  | cons cell cells =>
      cases hany : (cell :: cells).any Prod.fst <;>
        simp [between, inRow, endRow, Content.rowOf?, hany]

theorem closed_other {tag : String} (h : tag ∉ ["table", "tr", "td", "th"]) (t : OpenTable) :
    t.closed tag = t := by
  simp only [List.mem_cons, List.not_mem_nil, or_false, not_or] at h
  simp [closed, h]

end OpenTable

open Content

/-- In a cell, or where no cell is open, the texts and the links are read. -/
theorem read_flow {c : Content} (h : Placed .flow c) (shown : Bool) (t : OpenTable) :
    c.read shown t = t.more (c.ownTexts shown) c.ownLinks := by
  induction c generalizing shown t with
  | nil => exact t.more_nil.symm
  | text s rest ih =>
      cases h with
      | text hrest =>
          simp only [Content.read, ih hrest, ownTexts, ownLinks]
          cases shown with
          | false => rfl
          | true =>
              simp only [if_true, OpenTable.addText_eq, OpenTable.more_more, List.nil_append]
  | element tag attributes inside rest ihInside ihRest =>
      cases h with
      | table _ hrest => simp [Content.read, ihRest hrest, ownTexts, ownLinks]
      | other htag hinside hrest =>
          have htable : tag ≠ "table" := fun heq => htag (by simp [heq])
          simp only [Content.read, ihRest hrest, ihInside hinside, ownTexts, ownLinks, htable, if_false,
            OpenTable.closed_other htag, OpenTable.opened_other htag, OpenTable.more_more,
            List.nil_append]

/-- In a row, the cells are read. -/
theorem read_row {c : Content} (h : Placed .row c) (shown : Bool) (t : OpenTable) (cells : List Cell)
    (hasData : Bool) :
    c.read shown (t.inRow cells hasData) =
      t.inRow (cells ++ (c.ownCells shown).map Prod.snd)
        (hasData || (c.ownCells shown).any Prod.fst) := by
  induction c generalizing shown cells hasData with
  | nil => simp [Content.read, ownCells]
  | text s rest ih =>
      cases h with
      | text hrest =>
          simp only [Content.read, OpenTable.addText_eq, OpenTable.more_inRow, ite_self, ih hrest, ownCells]
  | element tag attributes inside rest ihInside ihRest =>
      cases h with
      | table _ hrest => simp [Content.read, ihRest hrest, ownCells]
      | cell htag hinside hrest =>
          have htable : tag ≠ "table" := by rcases htag with rfl | rfl <;> decide
          have hshown : (shown && !isHidden tag) = shown := by
            rcases htag with rfl | rfl <;> simp [isHidden]
          have hcell : (inside.read shown ((t.inRow cells hasData).opened tag attributes)).closed tag =
              t.inRow (cells ++ [inside.cell shown]) (hasData || tag == "td") := by
            rw [OpenTable.opened_cell htag, OpenTable.closed_cell htag, read_flow hinside,
              OpenTable.endCell_startCell]
            rfl
          simp [Content.read, htable, hshown, hcell, ihRest hrest, ownCells, htag, Bool.or_assoc]
      | other htag hinside hrest =>
          have hcells : tag ≠ "table" ∧ ¬(tag = "td" ∨ tag = "th") := by
            simp only [List.mem_cons, List.not_mem_nil, or_false, not_or] at htag ⊢
            exact ⟨htag.1, htag.2.2⟩
          simp [Content.read, hcells, OpenTable.opened_other htag, OpenTable.more_inRow,
            OpenTable.closed_other htag, ihInside hinside, ihRest hrest, ownCells, Bool.or_assoc]

/-- In a table, the rows are read.  That a data cell has started is forgotten when the next row starts, so
nothing needs to be known about it between two rows. -/
theorem read_table {c : Content} (h : Placed .table c) (shown : Bool) (t : OpenTable) (rows : List Row)
    (hasData : Bool) :
    ∃ hasData', c.read shown (t.between rows hasData) =
      t.between (rows ++ c.ownRows shown) hasData' := by
  induction c generalizing shown rows hasData with
  | nil => exact ⟨hasData, by simp [Content.read, ownRows]⟩
  | text s rest ih =>
      cases h with
      | text hrest =>
          simpa only [Content.read, OpenTable.addText_eq, OpenTable.more_between, ite_self, ownRows]
            using ih hrest shown rows hasData
  | element tag attributes inside rest ihInside ihRest =>
      cases h with
      | table _ hrest => simpa [Content.read, ownRows] using ihRest hrest shown rows hasData
      | row hinside hrest =>
          have hrow : (inside.read shown ((t.between rows hasData).opened "tr" attributes)).closed "tr" =
              t.between (rows ++ (rowOf? (inside.ownCells shown)).toList)
                ((inside.ownCells shown).any Prod.fst) := by
            rw [show (t.between rows hasData).opened "tr" attributes =
              (t.between rows hasData).inRow [] false from rfl, read_row hinside]
            exact t.endRow_inRow rows hasData (inside.ownCells shown)
          obtain ⟨hasData', hread⟩ := ihRest hrest shown
            (rows ++ (rowOf? (inside.ownCells shown)).toList) ((inside.ownCells shown).any Prod.fst)
          refine ⟨hasData', ?_⟩
          simp [Content.read, isHidden, hrow, hread, ownRows]
      | other htag hinside hrest =>
          have hrows : tag ≠ "table" ∧ tag ≠ "tr" := by
            simp only [List.mem_cons, List.not_mem_nil, or_false, not_or] at htag
            exact ⟨htag.1, htag.2.1⟩
          obtain ⟨between, hinner⟩ := ihInside hinside (shown && !isHidden tag) rows hasData
          obtain ⟨hasData', hread⟩ := ihRest hrest shown
            (rows ++ inside.ownRows (shown && !isHidden tag)) between
          refine ⟨hasData', ?_⟩
          simp [Content.read, hrows, OpenTable.opened_other htag, OpenTable.more_between,
            OpenTable.closed_other htag, hinner, hread, ownRows]

/-! ## What the builder reads -/

namespace Builder

/-- What a document changes: the innermost open table reads it, tables have ended, and there are more
texts. -/
def took (b : Builder) (read : OpenTable → OpenTable) (tables : List Table) (texts : List String) :
    Builder where
  tables := b.tables ++ tables
  stack := (b.onTop read).stack
  pieces := b.pieces ++ texts
  hidden := b.hidden

variable (b : Builder)

theorem stack_onTop_id : (b.onTop fun t => t).stack = b.stack := by
  unfold onTop
  split
  · rfl
  · next hstack => exact hstack.symm

theorem took_nothing : b.took (fun t => t) [] [] = b := by
  simp [took, stack_onTop_id]

theorem took_took (f g : OpenTable → OpenTable) (tables tables' : List Table)
    (texts texts' : List String) :
    (b.took f tables texts).took g tables' texts' =
      b.took (fun t => g (f t)) (tables ++ tables') (texts ++ texts') := by
  obtain ⟨ended, stack, pieces, hidden⟩ := b
  cases stack <;> simp [took, onTop]

theorem text_eq (s : String) :
    b.text s = b.took (fun t => if b.hidden == 0 then t.addText s else t) []
      (if b.hidden == 0 then [s] else []) := by
  obtain ⟨tables, stack, pieces, hidden⟩ := b
  cases stack <;> by_cases hhidden : hidden = 0 <;> simp [text, took, onTop, hhidden]

theorem opened_inside {tag : String} (htable : tag ≠ "table")
    (attributes : List (String × Option String)) :
    b.opened tag attributes =
      { b.took (OpenTable.opened tag attributes) [] [] with
        hidden := b.hidden + (isHidden tag).toNat } := by
  cases hhidden : isHidden tag with
  | true =>
      have hread : OpenTable.opened tag attributes = fun t => t := by
        simp only [isHidden, Bool.or_eq_true, beq_iff_eq] at hhidden
        rcases hhidden with ((rfl | rfl) | rfl) | rfl <;> rfl
      simp [opened, hhidden, hread, took, stack_onTop_id]
  | false =>
      obtain ⟨tables, stack, pieces, hidden⟩ := b
      cases stack <;>
        simp only [opened, OpenTable.opened, hhidden, htable, took, onTop, List.append_nil, Bool.toNat_false,
          Nat.add_zero, Bool.false_eq_true, if_false] <;>
        split_ifs <;> rfl

theorem closed_inside {tag : String} (htable : tag ≠ "table") :
    b.closed tag =
      { b.took (OpenTable.closed tag) [] [] with hidden := b.hidden - (isHidden tag).toNat } := by
  cases hhidden : isHidden tag with
  | true =>
      have hread : OpenTable.closed tag = fun t => t := by
        simp only [isHidden, Bool.or_eq_true, beq_iff_eq] at hhidden
        rcases hhidden with ((rfl | rfl) | rfl) | rfl <;> rfl
      simp [closed, hhidden, hread, took, stack_onTop_id]
  | false =>
      obtain ⟨tables, stack, pieces, hidden⟩ := b
      cases stack <;>
        simp only [closed, OpenTable.closed, hhidden, htable, took, onTop, List.append_nil, Bool.toNat_false,
          Nat.sub_zero, Bool.false_eq_true, if_false] <;>
        split_ifs <;> rfl

/-- A table that was opened, is read and ends is the next table that has ended. -/
theorem closed_table (t : OpenTable) (read : OpenTable → OpenTable) (tables : List Table)
    (texts : List String) :
    ({ b with stack := t :: b.stack }.took read tables texts).closed "table" =
      b.took (fun t => t) (tables ++ [(read t).finish]) texts := by
  have hhidden : isHidden "table" = false := rfl
  simp [closed, hhidden, took, onTop]
  exact b.stack_onTop_id.symm

/-- Some events leave the stack as it is, except that the innermost open table reads something.  What it
reads, which tables end and which texts there are may depend on whether the events are visible. -/
def Reads (events : List Event) (read : Bool → OpenTable → OpenTable) (tables : Bool → List Table)
    (texts : Bool → List String) : Prop :=
  ∀ (b : Builder) (shown : Bool), (b.hidden == 0) = shown →
    b.run events = b.took (read shown) (tables shown) (texts shown)

namespace Reads

variable {events events' : List Event} {read read' : Bool → OpenTable → OpenTable}
  {tables tables' : Bool → List Table} {texts texts' : Bool → List String}

theorem nil : Reads [] (fun _ t => t) (fun _ => []) (fun _ => []) :=
  fun b _ _ => b.took_nothing.symm

theorem text (s : String) :
    Reads [.text s] (fun shown t => if shown then t.addText s else t) (fun _ => [])
      (fun shown => if shown then [s] else []) := by
  rintro b shown rfl
  exact b.text_eq s

theorem opened {tag : String} (htable : tag ≠ "table") (hhidden : isHidden tag = false)
    (attributes : List (String × Option String)) :
    Reads [.opened tag attributes] (fun _ => OpenTable.opened tag attributes) (fun _ => [])
      (fun _ => []) := by
  intro b shown _
  show b.opened tag attributes = _
  rw [b.opened_inside htable, hhidden]
  rfl

theorem closed {tag : String} (htable : tag ≠ "table") (hhidden : isHidden tag = false) :
    Reads [.closed tag] (fun _ => OpenTable.closed tag) (fun _ => []) (fun _ => []) := by
  intro b shown _
  show b.closed tag = _
  rw [b.closed_inside htable, hhidden]
  rfl

theorem congr (h : Reads events read tables texts) (hread : ∀ shown t, read shown t = read' shown t)
    (htables : ∀ shown, tables shown = tables' shown) (htexts : ∀ shown, texts shown = texts' shown) :
    Reads events read' tables' texts' := by
  intro b shown hshown
  rw [h b shown hshown, funext (hread shown), htables, htexts]

theorem append (h : Reads events read tables texts) (h' : Reads events' read' tables' texts') :
    Reads (events ++ events') (fun shown t => read' shown (read shown t))
      (fun shown => tables shown ++ tables' shown) (fun shown => texts shown ++ texts' shown) := by
  intro b shown hshown
  rw [run_append, h b shown hshown, h' (b.took _ _ _) shown hshown, took_took]

/-- The events inside an element that is no table are read inside the innermost open table. -/
theorem element {tag : String} (htable : tag ≠ "table") (h : Reads events read tables texts)
    (attributes : List (String × Option String)) :
    Reads (.opened tag attributes :: events ++ [.closed tag])
      (fun shown t => (read (shown && !isHidden tag) (t.opened tag attributes)).closed tag)
      (fun shown => tables (shown && !isHidden tag)) (fun shown => texts (shown && !isHidden tag)) := by
  intro b shown hshown
  have hrun : b.run (.opened tag attributes :: events ++ [.closed tag]) =
      ((b.opened tag attributes).run events).closed tag := by
    rw [run_append]
    rfl
  have hinner : ((b.opened tag attributes).hidden == 0) = (shown && !isHidden tag) := by
    rw [opened_inside _ htable, ← hshown]
    cases isHidden tag <;> simp
  rw [hrun, h _ _ hinner, closed_inside _ htable, opened_inside _ htable]
  obtain ⟨ended, stack, pieces, hidden⟩ := b
  cases stack <;> simp [took, onTop]

/-- The events of a table leave all tables that are open as they are; what was read of it is the next table
that has ended. -/
theorem table (h : Reads events read tables texts) (attributes : List (String × Option String)) :
    Reads (.opened "table" attributes :: events ++ [.closed "table"]) (fun _ t => t)
      (fun shown => tables shown ++ [(read shown (OpenTable.start attributes)).finish]) texts := by
  intro b shown hshown
  have hrun : b.run (.opened "table" attributes :: events ++ [.closed "table"]) =
      ({ b with stack := OpenTable.start attributes :: b.stack }.run events).closed "table" := by
    rw [run_append]
    rfl
  rw [hrun, h { b with stack := OpenTable.start attributes :: b.stack } shown hshown]
  exact b.closed_table _ _ _ _

end Reads

end Builder

theorem Content.Placed.finish_read {c : Content} (h : Placed .table c) (shown : Bool)
    (attributes : List (String × Option String)) :
    (c.read shown (OpenTable.start attributes)).finish = c.table shown attributes := by
  have hstart : OpenTable.start attributes = (OpenTable.start attributes).between [] false := rfl
  obtain ⟨hasData, hread⟩ := read_table h shown (OpenTable.start attributes) [] false
  rw [hstart, hread, List.nil_append]
  rfl

/-- Every document whose rows and cells are in their places is read: whatever is open around it, the
builder is left as it is found, but for what the document itself holds. -/
theorem Content.Placed.reads {c : Content} {place : Place} (h : Placed place c) :
    Builder.Reads c.events c.read c.tables c.texts := by
  have helement {tag : String} {attributes : List (String × Option String)} {inside rest : Content} :
      (Content.element tag attributes inside rest).events =
        (.opened tag attributes :: inside.events ++ [.closed tag]) ++ rest.events := by
    simp [events]
  induction h with
  | nil => exact .nil
  | @text place s rest hrest ih => exact (Builder.Reads.text s).append ih
  | table hinside hrest ihInside ihRest =>
      rw [helement]
      exact ((ihInside.table _).append ihRest).congr (by simp [Content.read])
        (by simp [tables, isHidden, hinside.finish_read]) (by simp [texts, isHidden])
  | row hinside hrest ihInside ihRest =>
      rw [helement]
      exact ((ihInside.element (by decide) _).append ihRest).congr (by simp [Content.read])
        (by simp [tables]) (by simp [texts])
  | @cell tag attributes inside rest htag hinside hrest ihInside ihRest =>
      have htable : tag ≠ "table" := by rcases htag with rfl | rfl <;> decide
      rw [helement]
      exact ((ihInside.element htable _).append ihRest).congr (by simp [Content.read, htable])
        (by simp [tables, htable]) (by simp [texts])
  | @other place tag attributes inside rest htag hinside hrest ihInside ihRest =>
      have htable : tag ≠ "table" := fun heq => htag (by simp [heq])
      rw [helement]
      exact ((ihInside.element htable _).append ihRest).congr (by simp [Content.read, htable])
        (by simp [tables, htable]) (by simp [texts])

/-- The texts of a document with their words separated by single spaces. -/
def spoken (texts : List String) : String :=
  String.ofList (List.intercalate [' '] (texts.flatMap fun s => words s.toList))

theorem collapse_intercalate (texts : List String) : collapse (" ".intercalate texts) = spoken texts := by
  have hblank : " ".toList = [' '] := rfl
  rw [collapse, collapseChars, String.toList_intercalate, hblank, words_intercalate, spoken,
    List.flatMap_map]

/-- The page of a well-nested document holds its tables, each with its own rows, and its visible text. -/
theorem ofEvents_content (url : String) {c : Content} (h : Placed .flow c) :
    ofEvents url c.events = ⟨url, c.tables true, spoken (c.texts true)⟩ ∧
      ∀ (b : Builder) (attributes : List (String × Option String)) (inside : Content),
        Placed .table inside →
        (b.run (Content.element "table" attributes inside .nil).events).stack = b.stack := by
  constructor
  · rw [ofEvents, h.reads .empty true rfl]
    simp only [Builder.finish, Builder.took, Builder.empty, Builder.onTop,
      List.nil_append, List.map_nil, List.append_nil, collapse_intercalate]
  · intro b attributes inside hinside
    have hplaced : Placed .flow (Content.element "table" attributes inside .nil) := .table hinside .nil
    rw [hplaced.reads b _ rfl]
    exact b.stack_onTop_id

/-- Cells with a table in one of them. -/
def innerCells : Content :=
  .element "th" [] (.text " a\n b" .nil) <|
    .element "td" [] (.text "c" <|
      .element "table" [("id", some "inner")]
        (.element "tbody" []
          (.element "tr" [] (.element "td" [] (.element "a" [("href", some "/inner")] (.text "i" .nil)
            .nil) .nil) .nil) .nil) <|
      .element "a" [] (.text "d" .nil) <| .element "a" [("href", some "/outer")] .nil .nil) .nil

/-- A document with these cells in the second row of a table, and a head that is not visible. -/
def tableInCell : Content :=
  .element "head" [] (.element "title" [] (.text "none" .nil) .nil) <|
    .element "table" [("class", some "x y")]
      (.element "tr" [] (.element "th" [] (.text "only" .nil) .nil) (.element "tr" [] innerCells .nil))
      (.text "e" .nil)

theorem ofEvents_content_of_tableInCell :
    Placed .flow tableInCell ∧
      ofEvents "http://rm/page" tableInCell.events = ⟨"http://rm/page",
        [⟨some "inner", [], [⟨[⟨"i", some "/inner"⟩]⟩]⟩,
          ⟨none, ["x", "y"], [⟨[⟨"a b", none⟩, ⟨"cd", some "/outer"⟩]⟩]⟩],
        "only a b c i d e"⟩ := by
  have hcells : Placed .row innerCells := by
    refine .cell (.inr rfl) (.text .nil) (.cell (.inl rfl) (.text (.table ?_ ?_)) .nil)
    · exact .other (by decide) (.row (.cell (.inl rfl) (.other (by decide) (.text .nil) .nil) .nil) .nil) .nil
    · exact .other (by decide) (.text .nil) (.other (by decide) .nil .nil)
  have hplaced : Placed .flow tableInCell :=
    .other (by decide) (.other (by decide) (.text .nil) .nil) <|
      .table (.row (.cell (.inr rfl) (.text .nil) .nil) (.row hcells .nil)) (.text .nil)
  exact ⟨hplaced, (ofEvents_content "http://rm/page" hplaced).1.trans (by decide +kernel)⟩

end SparkGateway.Page
