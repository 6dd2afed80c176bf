import SparkGateway.Json.Reader

/-!
# Compact text of documents

A document as a text that a reader of documents takes: on one line and in seven-bit characters, with
other characters escaped by the units of their two-byte form.  What cannot be a finite number has the
word that `Json.Reader` knows for it.
-/

namespace SparkGateway.Json

/-- Four hexadecimal digits. -/
def fourDigits (n : Nat) : String :=
  String.ofList ([n / 4096, n / 256 % 16, n / 16 % 16, n % 16].map Nat.digitChar)

/-- A character inside a text. -/
def compactChar (c : Char) : String :=
  let n := c.toNat
  if c = '"' then "\\\""
  else if c = '\\' then "\\\\"
  else if 32 ≤ n ∧ n < 127 then String.singleton c
  else if n < 0x10000 then "\\u" ++ fourDigits n
  else
    let rest := n - 0x10000
    "\\u" ++ fourDigits (0xD800 + rest / 0x400) ++ "\\u" ++ fourDigits (0xDC00 + rest % 0x400)

/-- A text with its quotation marks. -/
def compactText (s : String) : String :=
  "\"" ++ String.join (s.toList.map compactChar) ++ "\""

/-- A number. -/
def compactNumber (n : Number) : String :=
  match n.value with
  | .nan => "NaN"
  | .infinite false => "Infinity"
  | .infinite true => "-Infinity"
  | .finite _ _ _ => n.written

mutual

/-- The compact text of a document. -/
def compact : Json → String
  | .null => "null"
  | .bool true => "true"
  | .bool false => "false"
  | .num n => compactNumber n
  | .str s => compactText s
  | .arr items => "[" ++ compactItems items ++ "]"
  | .obj fields => "\x7b" ++ compactFields fields ++ "\x7d"

/-- The items of a list, separated by commas. -/
def compactItems : List Json → String
  | [] => ""
  | [v] => compact v
  | v :: vs => compact v ++ "," ++ compactItems vs

/-- Named fields, separated by commas. -/
def compactFields : List (String × Json) → String
  | [] => ""
  | [(name, v)] => compactText name ++ ":" ++ compact v
  | (name, v) :: rest => compactText name ++ ":" ++ compact v ++ "," ++ compactFields rest

end

example : compact (.obj [("a", .arr [int 1, .null]), ("b", .str "é\n")]) =
    "\x7b\"a\":[1,null],\"b\":\"\\u00e9\\u000a\"\x7d" := by
  decide +kernel

end SparkGateway.Json
