import SparkGateway.Terminal.Display

/-!
# Plain display

What the terminal shows, as lines of text: markup as it is written, tables with a bar between the cells
of a row, and questions with the answers that they take.
-/

namespace SparkGateway.Terminal

/-- The cells of a row on one line. -/
def rowLine (cells : List String) : String := " | ".intercalate cells

/-- The word for the answer that is taken if none is entered. -/
def defaultWord (default : Bool) : String := if default then "yes" else "no"

/-- A row of the display of progress on one line. -/
def trackLine (t : Track) : String := rowLine [t.label, t.status]

/-- What is shown, as lines of text. -/
def Display.lines : Display → List String
  | .line markup => [markup]
  | .status message => [message]
  | .table title columns rows => title :: rowLine columns :: rows.map rowLine
  | .confirm message default _ =>
    let word := defaultWord default
    [s!"{message} (yes or no, default {word})"]
  | .choose message entries =>
    message :: entries.mapIdx fun i entry =>
      let number := i.repr
      s!"{number}: {entry}"
  | .board b =>
    let done := b.completed.repr
    let total := b.total.repr
    let failures := b.failures.repr
    s!"Overall {done}/{total} failures={failures}" :: b.tracks.map trackLine

end SparkGateway.Terminal
