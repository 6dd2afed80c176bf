import SparkGateway.Html.Markup
import SparkGateway.Page.Basic

/-!
# Building pages

A page is built from the events of a hypertext, whatever their nesting.  The builder holds the tables
that have been closed, the tables that are open, innermost first, and the visible text so far.  The
content of scripts, style sheets, the head and the title is not visible.

Only rows with a data cell are kept.  A cell is recorded when it ends, a row when it ends, and a table
when it ends or the text does.

Main statements: `tables_step` (a table that has been closed stays as it is) and `run_append`.
-/

namespace SparkGateway.Page

open Html Text

/-- A cell that is being read: its pieces of text and the first link in it. -/
structure OpenCell where
  /-- The pieces of text, in order. -/
  pieces : List String
  /-- The target of the first link that has one. -/
  href : Option String
  deriving DecidableEq, Repr

/-- A table that is being read. -/
structure OpenTable where
  /-- The identifier. -/
  id : Option String
  /-- The style classes. -/
  classes : List String
  /-- The rows that have ended. -/
  rows : List Row
  /-- The cells of the row that is being read. -/
  row : Option (List Cell)
  /-- The cell that is being read. -/
  cell : Option OpenCell
  /-- Whether a data cell has started since the last row started. -/
  hasData : Bool
  deriving DecidableEq, Repr

/-- What has been read of a page. -/
structure Builder where
  /-- The tables that have ended, in the order of their ends. -/
  tables : List Table
  /-- The open tables, innermost first. -/
  stack : List OpenTable
  /-- The pieces of visible text, in order. -/
  pieces : List String
  /-- How many invisible elements are open. -/
  hidden : Nat
  deriving DecidableEq, Repr

/-- The elements whose content is not visible. -/
def isHidden (tag : String) : Bool :=
  tag == "script" || tag == "style" || tag == "head" || tag == "title"

/-- A cell that has ended. -/
def OpenCell.finish (c : OpenCell) : Cell := ⟨collapse (String.join c.pieces), c.href⟩

/-- A table that has ended. -/
def OpenTable.finish (t : OpenTable) : Table := ⟨t.id, t.classes, t.rows⟩

/-- A table as it starts. -/
def OpenTable.start (attributes : List (String × Option String)) : OpenTable where
  id := attribute? attributes "id"
  classes :=
    (words ((attribute? attributes "class").getD "").toList).map String.ofList
  rows := []
  row := none
  cell := none
  hasData := false

/-- A row starts. -/
def OpenTable.startRow (t : OpenTable) : OpenTable := { t with row := some [], hasData := false }

/-- A cell starts; without a row it starts one.  A cell that has not ended is given up. -/
def OpenTable.startCell (isData : Bool) (t : OpenTable) : OpenTable :=
  { t with
    row := some (t.row.getD [])
    cell := some ⟨[], none⟩
    hasData := t.hasData || isData }

/-- A link starts; it counts if it is the first in its cell that has a target. -/
def OpenTable.link (target : Option String) (t : OpenTable) : OpenTable :=
  { t with cell := t.cell.map fun c => if c.href = none then { c with href := target } else c }

/-- A cell ends. -/
def OpenTable.endCell (t : OpenTable) : OpenTable :=
  match t.cell, t.row with
  | some c, some cells => { t with row := some (cells ++ [c.finish]), cell := none }
  | _, _ => { t with cell := none }

/-- A row ends; it is kept if it has cells and a data cell among them. -/
def OpenTable.endRow (t : OpenTable) : OpenTable :=
  match t.row with
  | some (c :: cs) =>
    { t with rows := if t.hasData then t.rows ++ [⟨c :: cs⟩] else t.rows, row := none }
  | _ => { t with row := none }

/-- There is text, which belongs to the cell that is being read. -/
def OpenTable.addText (s : String) (t : OpenTable) : OpenTable :=
  { t with cell := t.cell.map fun c => { c with pieces := c.pieces ++ [s] } }

namespace Builder

/-- Nothing has been read. -/
def empty : Builder := ⟨[], [], [], 0⟩

/-- Changes the innermost open table, if there is one. -/
def onTop (f : OpenTable → OpenTable) (b : Builder) : Builder :=
  match b.stack with
  | [] => b
  | t :: ts => { b with stack := f t :: ts }

/-- An element starts. -/
def opened (tag : String) (attributes : List (String × Option String)) (b : Builder) : Builder :=
  if isHidden tag then { b with hidden := b.hidden + 1 }
  else if tag = "table" then { b with stack := OpenTable.start attributes :: b.stack }
  else if tag = "tr" then b.onTop OpenTable.startRow
  else if tag = "td" then b.onTop (OpenTable.startCell true)
  else if tag = "th" then b.onTop (OpenTable.startCell false)
  else if tag = "a" then b.onTop (OpenTable.link (attribute? attributes "href"))
  else b

/-- An element ends. -/
def closed (tag : String) (b : Builder) : Builder :=
  if isHidden tag then { b with hidden := b.hidden - 1 }
  else if tag = "table" then
    match b.stack with
    | [] => b
    | t :: ts => { b with tables := b.tables ++ [t.finish], stack := ts }
  else if tag = "td" ∨ tag = "th" then b.onTop OpenTable.endCell
  else if tag = "tr" then b.onTop OpenTable.endRow
  else b

/-- There is text; it counts if it is visible. -/
def text (s : String) (b : Builder) : Builder :=
  if b.hidden = 0 then { b with pieces := b.pieces ++ [s] }.onTop (OpenTable.addText s) else b

/-- What an event changes. -/
def step (b : Builder) : Event → Builder
  | .opened tag attributes => b.opened tag attributes
  | .closed tag => b.closed tag
  | .text s => b.text s

/-- What some events change. -/
def run (b : Builder) (events : List Event) : Builder := events.foldl step b

/-- The page at the end: open tables end, innermost first. -/
def finish (url : String) (b : Builder) : Page where
  url := url
  tables := b.tables ++ b.stack.map OpenTable.finish
  text := collapse (" ".intercalate b.pieces)

theorem run_append (b : Builder) (events more : List Event) :
    b.run (events ++ more) = (b.run events).run more := by
  simp [run, List.foldl_append]

@[simp] theorem tables_onTop (f : OpenTable → OpenTable) (b : Builder) :
    (b.onTop f).tables = b.tables := by
  unfold onTop
  split <;> rfl

/-- A table that has ended stays where and as it is. -/
theorem tables_step (b : Builder) (e : Event) : ∃ more, (b.step e).tables = b.tables ++ more := by
  cases e with
  | opened tag attributes =>
    refine ⟨[], ?_⟩
    simp only [step, opened]
    repeat' split
    all_goals simp
  | closed tag =>
    simp only [step, closed]
    split
    · exact ⟨[], by simp⟩
    · split
      · split
        · exact ⟨[], by simp⟩
        · exact ⟨_, rfl⟩
      · repeat' split
        all_goals exact ⟨[], by simp⟩
  | text s =>
    refine ⟨[], ?_⟩
    simp only [step, text]
    split <;> simp

end Builder

/-- The page that some events describe. -/
def ofEvents (url : String) (events : List Event) : Page := (Builder.empty.run events).finish url

/-- The page that a hypertext describes. -/
def ofHtml (url html : String) : Except Misfit Page := do
  return ofEvents url (← Event.read html.toList)

end SparkGateway.Page
