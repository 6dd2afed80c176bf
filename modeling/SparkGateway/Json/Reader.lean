import SparkGateway.Json.Basic
import SparkGateway.Number.Numeral

/-!
# Reading documents

The text format of documents.  A reader takes a list of characters and gives the value at its start
with the characters that are left.  Beyond the standard format the words `NaN`, `Infinity` and
`-Infinity` are numbers; a whole number may have at most `Numeral.mostDigits` digits.  Lists and fields
may be nested to any depth: the limit that an interpreter sets to the depth of its own calls is left out.

Main statement: `readDigits_split` (what is taken and what is left are the text again).
-/

namespace SparkGateway.Json

open Decimal

/-- The four characters that may stand between the parts of a document. -/
def isGap (c : Char) : Bool := c == ' ' || c == '\t' || c == '\n' || c == '\r'

/-- The text after the gap at its start. -/
def skipGap (cs : List Char) : List Char := cs.dropWhile isGap

/-- The value of a hexadecimal digit. -/
def hexDigit? (c : Char) : Option Nat :=
  if c.isDigit then some (c.toNat - 48)
  else if 'a' ≤ c ∧ c ≤ 'f' then some (c.toNat - 87)
  else if 'A' ≤ c ∧ c ≤ 'F' then some (c.toNat - 55)
  else none

/-- The number that four hexadecimal digits stand for. -/
def hex4? (a b c d : Char) : Option Nat := do
  return (← hexDigit? a) * 4096 + (← hexDigit? b) * 256 + (← hexDigit? c) * 16 + (← hexDigit? d)

/-- What the letter after a backslash stands for, apart from `u`. -/
def escape? (c : Char) : Option Char :=
  match c with
  | '"' => some '"'
  | '\\' => some '\\'
  | '/' => some '/'
  | 'b' => some '\x08'
  | 'f' => some '\x0c'
  | 'n' => some '\n'
  | 'r' => some '\r'
  | 't' => some '\t'
  | _ => none

/-- Whether a code is the first half of a surrogate pair. -/
def isHigh (n : Nat) : Bool := 0xD800 ≤ n && n ≤ 0xDBFF

/-- Whether a code is the second half of a surrogate pair. -/
def isLow (n : Nat) : Bool := 0xDC00 ≤ n && n ≤ 0xDFFF

/-- What is read so far when a text goes on with the code `n` after the first half `high` of a pair,
if there is one: the characters that are now complete, and the half that waits for its partner.  A
half without partner is the replacement character. -/
def addCode (high : Option Nat) (n : Nat) : List Char × Option Nat :=
  match high with
  | some h =>
    if isLow n then ([Char.ofNat (0x10000 + (h - 0xD800) * 0x400 + (n - 0xDC00))], none)
    else if isHigh n then (['\uFFFD'], some n)
    else (['\uFFFD', Char.ofNat n], none)
  | none =>
    if isHigh n then ([], some n)
    else if isLow n then (['\uFFFD'], none)
    else ([Char.ofNat n], none)

/-- The replacement character for a half that has found no partner. -/
def alone (high : Option Nat) : List Char := if high.isSome then ['\uFFFD'] else []

/-- Reads a text after its opening quotation mark, up to and including the closing one.  The first
argument is the half of a surrogate pair that was read last, if it waits for its partner. -/
def readText (high : Option Nat) : List Char → Option (List Char × List Char)
  | [] => none
  | '"' :: rest => some (alone high, rest)
  | '\\' :: 'u' :: a :: b :: c :: d :: rest => do
    let n ← hex4? a b c d
    let (done, high) := addCode high n
    let (s, rest) ← readText high rest
    return (done ++ s, rest)
  | '\\' :: c :: rest => do
    let e ← escape? c
    let (s, rest) ← readText none rest
    return (alone high ++ e :: s, rest)
  | c :: rest => do
    if c.toNat < 0x20 || c = '\\' then none
    else
      let (s, rest) ← readText none rest
      return (alone high ++ c :: s, rest)

/-- The digits at the start of a text and the text after them. -/
def readDigits (cs : List Char) : List Char × List Char :=
  (cs.takeWhile Char.isDigit, cs.dropWhile Char.isDigit)

/-- The part after the point: a point with at least one digit, or nothing. -/
def readPart (cs : List Char) : List Char × List Char :=
  match cs with
  | '.' :: rest =>
    let (ds, left) := readDigits rest
    if ds = [] then ([], cs) else (ds, left)
  | _ => ([], cs)

/-- The exponent: the letter `e` with a sign or none and at least one digit, or nothing. -/
def readExponent (cs : List Char) : Option Int × List Char :=
  match cs with
  | c :: rest =>
    if c = 'e' ∨ c = 'E' then
      let (negative, rest) := Numeral.sign rest
      let (ds, left) := readDigits rest
      if ds = [] then (none, cs)
      else
        let n : Int := Numeral.digitsValue ds
        (some (if negative then -n else n), left)
    else (none, cs)
  | [] => (none, cs)

/-- Reads a number whose sign has been read.  Without a part after the point and without an exponent
it is a whole number. -/
def readNumber (negative : Bool) (cs : List Char) : Option (Number × List Char) :=
  let (whole, rest) := match cs with
    | '0' :: rest => (['0'], rest)
    | _ => readDigits cs
  if whole = [] then none
  else
    let (part, rest) := readPart rest
    let (exponent, rest) := readExponent rest
    if part = [] ∧ exponent = none then
      if whole.length ≤ Numeral.mostDigits then
        let n : Int := Numeral.digitsValue whole
        some (.whole (if negative then -n else n), rest)
      else none
    else
      let power := exponent.getD 0 - part.length
      some (.real (nearestDecimal negative (Numeral.digitsValue (whole ++ part)) power), rest)

mutual

/-- Reads a value.  The first argument bounds the nesting; the length of the text is enough. -/
def readValue : Nat → List Char → Option (Json × List Char)
  | 0, _ => none
  | depth + 1, cs =>
    match cs with
    | '"' :: rest => (readText none rest).map fun (s, rest) => (.str (String.ofList s), rest)
    | '[' :: rest =>
      match skipGap rest with
      | ']' :: rest => some (.arr [], rest)
      | rest => (readItems depth rest).map fun (xs, rest) => (.arr xs, rest)
    | '\x7b' :: rest =>
      match skipGap rest with
      | '\x7d' :: rest => some (.obj [], rest)
      | rest => (readFields depth [] rest).map fun (fs, rest) => (.obj fs, rest)
    | 'n' :: 'u' :: 'l' :: 'l' :: rest => some (.null, rest)
    | 't' :: 'r' :: 'u' :: 'e' :: rest => some (.bool true, rest)
    | 'f' :: 'a' :: 'l' :: 's' :: 'e' :: rest => some (.bool false, rest)
    | 'N' :: 'a' :: 'N' :: rest => some (.num (.real (Float.ofBits 0x7FF8000000000000)), rest)
    | 'I' :: 'n' :: 'f' :: 'i' :: 'n' :: 'i' :: 't' :: 'y' :: rest =>
      some (.num (.real (nearest false (twoTo 1024) 1)), rest)
    | '-' :: 'I' :: 'n' :: 'f' :: 'i' :: 'n' :: 'i' :: 't' :: 'y' :: rest =>
      some (.num (.real (nearest true (twoTo 1024) 1)), rest)
    | '-' :: rest => (readNumber true rest).map fun (n, rest) => (.num n, rest)
    | rest => (readNumber false rest).map fun (n, rest) => (.num n, rest)

/-- Reads the items of a list, at least one, and the bracket after them. -/
def readItems : Nat → List Char → Option (List Json × List Char)
  | 0, _ => none
  | depth + 1, cs => do
    let (v, rest) ← readValue depth cs
    match skipGap rest with
    | ']' :: rest => return ([v], rest)
    | ',' :: rest =>
      let (vs, rest) ← readItems depth (skipGap rest)
      return (v :: vs, rest)
    | _ => none

/-- Reads named fields, at least one, and the brace after them; `before` holds the fields that were
read already. -/
def readFields : Nat → Fields → List Char → Option (Fields × List Char)
  | 0, _, _ => none
  | depth + 1, before, cs => do
    match cs with
    | '"' :: rest =>
      let (name, rest) ← readText none rest
      match skipGap rest with
      | ':' :: rest =>
        let (v, rest) ← readValue depth (skipGap rest)
        let fields := before.put (String.ofList name) v
        match skipGap rest with
        | '\x7d' :: rest => return (fields, rest)
        | ',' :: rest => readFields depth fields (skipGap rest)
        | _ => none
      | _ => none
    | _ => none

end

/-- Reads a whole text as one document. -/
def parse? (text : String) : Option Json := do
  let cs := text.toList
  let (v, rest) ← readValue (cs.length + 1) (skipGap cs)
  if skipGap rest = [] then some v else none

/-- The digits that are taken and the text that is left are the text again. -/
theorem readDigits_split (cs : List Char) : (readDigits cs).1 ++ (readDigits cs).2 = cs :=
  List.takeWhile_append_dropWhile

example : (parse? "[1, \"a\\u0041\", \x7b\x7d]").map Json.given = some true := by decide +kernel

end SparkGateway.Json
