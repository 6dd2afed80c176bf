import SparkGateway.Json.Basic
import SparkGateway.Text.Quoted

/-!
# Written documents

How a value of a document reads inside a message: texts are quoted, fields stand in braces, and
nothing, true and false have their words.  A text by itself is shown without quotation marks.
-/

namespace SparkGateway.Json

open Text

mutual

/-- A value as it reads inside a list or a message that quotes it. -/
def written : Json → String
  | .null => "None"
  | .bool true => "True"
  | .bool false => "False"
  | .num n => n.written
  | .str s => quoted s
  | .arr items => "[" ++ writtenItems items ++ "]"
  | .obj fields => "\x7b" ++ writtenFields fields ++ "\x7d"

/-- The items of a list, separated by commas. -/
def writtenItems : List Json → String
  | [] => ""
  | [v] => written v
  | v :: vs => written v ++ ", " ++ writtenItems vs

/-- Named fields, separated by commas. -/
def writtenFields : List (String × Json) → String
  | [] => ""
  | [(name, v)] => quoted name ++ ": " ++ written v
  | (name, v) :: rest => quoted name ++ ": " ++ written v ++ ", " ++ writtenFields rest

end

/-- A value as it reads in running text: like `written`, but a text stands for itself. -/
def display : Json → String
  | .str s => s
  | v => v.written

/-- Items that are texts, each as it reads in running text, put together with `sep` between them;
an item that is no text does not fit. -/
def joinTexts (sep : String) (items : List Json) : Except Misfit String := do
  let texts ← items.mapM fun
    | .str s => .ok s
    | _ => .error Misfit.wrongKind
  return sep.intercalate texts

example : written (.arr [int 1, .str "it's", .null, .bool true]) = "[1, \"it's\", None, True]" := by
  decide +kernel

end SparkGateway.Json
