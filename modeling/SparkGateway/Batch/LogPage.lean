import SparkGateway.Json.Whole
import SparkGateway.Reply

/-!
# Pages of a log

The log of a batch comes in pages.  A page says where it starts, and holds lines of any kind, which are
taken as they read.
-/

namespace SparkGateway.Batch

/-- A page of a log. -/
structure LogPage where
  /-- The number of lines before the page. -/
  offset : Int
  /-- The lines. -/
  lines : List String
  /-- How many lines the gateway says that there are. -/
  total : Json

namespace LogPage

/-- How many lines are asked for when a log is followed. -/
def size : Nat := 128

/-- How many lines are asked for when the whole log is wanted: as many as the gateway can count. -/
def wholeSize : Nat := 2147483647

/-- The lines in a document, where nothing stands for no lines. -/
def linesOf? : Json → Option (List Json)
  | .null => some []
  | .arr items => some items
  | _ => none

/-- The page in a reply. -/
def ofReply (r : Reply) : Except Stop LogPage := do
  let fields ← (r.fields "log" (← r.document.mapError .fault)).mapError .fault
  match linesOf? (fields.get "log") with
  | some lines =>
    let offset ← ((fields.get "from").orElse (.int 0)).toWhole.mapError .misfit
    return ⟨offset, lines.map Json.display, fields.get "total"⟩
  | none => throw (.fault (r.malformed "Bad log response"))

end LogPage

end SparkGateway.Batch
