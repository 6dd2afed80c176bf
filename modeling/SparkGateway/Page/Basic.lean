/-!
# Pages

What is kept of a rendered page: its tables with their rows and cells, and its visible text.

Main statements: `table?_eq_some_iff` (which table a key names) and `cellAt?_eq_none_iff`.
-/

namespace SparkGateway

/-- A cell of a table: its visible text and the first link in it. -/
structure Cell where
  /-- The text, its words separated by single spaces. -/
  text : String
  /-- The target of the first link that has one. -/
  href : Option String
  deriving DecidableEq, Repr

/-- A row of a table. -/
structure Row where
  /-- The cells, from left to right. -/
  cells : List Cell
  deriving DecidableEq, Repr

/-- A table of a page. -/
structure Table where
  /-- The identifier, if the page gives one. -/
  id : Option String
  /-- The style classes. -/
  classes : List String
  /-- The rows that hold data. -/
  rows : List Row
  deriving DecidableEq, Repr

/-- A rendered page. -/
structure Page where
  /-- Where the page was loaded from. -/
  url : String
  /-- The tables. -/
  tables : List Table
  /-- The whole visible text, its words separated by single spaces. -/
  text : String
  deriving DecidableEq, Repr

namespace Row

/-- The cell in a column, counted from zero, if the row is long enough. -/
def cellAt? (r : Row) (column : Nat) : Option Cell := r.cells[column]?

theorem cellAt?_eq_none_iff (r : Row) (column : Nat) :
    r.cellAt? column = none ↔ r.cells.length ≤ column := by
  simp [cellAt?]

end Row

namespace Table

/-- Whether a key names a table: it is its identifier or one of its classes. -/
def named (key : String) (t : Table) : Bool := t.id == some key || t.classes.contains key

end Table

namespace Page

/-- The first table that a key names. -/
def table? (p : Page) (key : String) : Option Table := p.tables.find? (Table.named key)

/-- A key finds a table if it names it and names none before it. -/
theorem table?_eq_some_iff (p : Page) (key : String) (t : Table) :
    p.table? key = some t ↔
      t.named key = true ∧ ∃ before after, p.tables = before ++ t :: after ∧
        ∀ u ∈ before, u.named key = false := by
  simp [table?, List.find?_eq_some_iff_append]

end Page

end SparkGateway
