/-!
# What the terminal shows

Everything that a command shows or asks, as a value: lines of markup, tables, a spinner, and the two
kinds of question.  How these look on a screen is left to the terminal.
-/

namespace SparkGateway.Terminal

/-- The state of a row in the display of progress that stands for one batch. -/
structure Track where
  /-- The label of the batch. -/
  label : String
  /-- The word for its state. -/
  status : String
  /-- The style of that word. -/
  style : String
  /-- How much of it is done, of one. -/
  completed : Nat
  deriving DecidableEq, Repr

/-- The display of progress: how many batches there are, how many are done and how many of those have
failed, and one row for each. -/
structure Board where
  /-- How many batches there are; at least one, so that the bar can be drawn. -/
  total : Nat
  /-- How many batches are done. -/
  completed : Nat
  /-- How many batches have failed. -/
  failures : Nat
  /-- The rows. -/
  tracks : List Track
  deriving DecidableEq, Repr

/-- Something that is shown or asked. -/
inductive Display where
  /-- A line of markup. -/
  | line (markup : String)
  /-- A spinner with a message while work goes on. -/
  | status (message : String)
  /-- A table with a title, the heads of its columns and its rows of markup. -/
  | table (title : String) (columns : List String) (rows : List (List String))
  /-- A question for yes or no; `waits` says whether the answer has to be entered. -/
  | confirm (message : String) (default : Bool) (waits : Bool)
  /-- A question for a choice of some entries. -/
  | choose (message : String) (entries : List String)
  /-- The display of progress. -/
  | board (b : Board)
  deriving DecidableEq, Repr

end SparkGateway.Terminal
