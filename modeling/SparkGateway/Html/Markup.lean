import SparkGateway.Html.Entity
import SparkGateway.Html.Event
import SparkGateway.Text.Casing
import SparkGateway.Text.Blank

/-!
# Reading hypertext

Turns a hypertext into events.  The reading is lenient: whatever is no complete tag, comment or
declaration is text.  Scripts and style sheets hold raw text up to their end tag.  The only texts
that cannot be read at all hold a marked section with an unknown keyword, or a character reference
with too many digits.

Main statement: `Event.read_plain` (text without markup and references is one event).
-/

namespace SparkGateway.Html

open Text

/-- What reading the construct at the start of a text gives: the events and the text after it. -/
abbrev Read := List Event × List Char

/-- Whether a character ends the name of a tag. -/
def endsTagName (c : Char) : Bool :=
  c == '\t' || c == '\n' || c == '\r' || c == '\x0c' || c == ' ' || c == '/' || c == '>' || c == '\x00'

/-- The text after blanks. -/
def dropBlanks (s : List Char) : List Char := s.dropWhile isBlank

/-- The text after blanks and slashes, where a slash before `>` is kept. -/
def dropFiller : List Char → List Char
  | '/' :: '>' :: rest => '/' :: '>' :: rest
  | c :: rest => if c = '/' || isBlank c then dropFiller rest else c :: rest
  | [] => []

/-- A text up to and including the first `>`, and the text after it. -/
def cutTagEnd? (s : List Char) : Option (List Char) :=
  match s.dropWhile (· != '>') with
  | _ :: rest => some rest
  | [] => none

/-- The value of an attribute after the equals signs, and the text after it. -/
def quotedValue? (s : List Char) : Option (List Char × List Char) :=
  match s with
  | q :: rest =>
    if q = '\'' ∨ q = '"' then
      match rest.dropWhile (· != q) with
      | _ :: after => some (rest.takeWhile (· != q), after)
      | [] => none
    else none
  | [] => none

/-- Whether a character belongs to a value without quotation marks. -/
def isBareChar (c : Char) : Bool := c != '>' && !isBlank c

/-- Reads an equals sign with the value after it, at the start of a text that may begin with blanks.
Several equals signs count as one.  Where a quotation mark is never closed, the value is empty if
blanks stand before the mark, and begins with the last of several equals signs otherwise. -/
def readValue? (s : List Char) : Option (List Char × List Char) :=
  let fromSign := dropBlanks s
  let signs := fromSign.takeWhile (· == '=')
  let afterSigns := fromSign.drop signs.length
  let rest := dropBlanks afterSigns
  if signs = [] then none
  else match quotedValue? rest with
    | some found => some found
    | none =>
      if rest.head? = some '\'' ∨ rest.head? = some '"' then
        if rest.length < afterSigns.length then some ([], rest)
        else if 2 ≤ signs.length then
          let bare := '=' :: rest
          some (bare.takeWhile isBareChar, bare.dropWhile isBareChar)
        else none
      else some (rest.takeWhile isBareChar, rest.dropWhile isBareChar)

/-- Whether a character can start the name of an attribute. -/
def startsAttribute (c : Char) : Bool := !isBlank c && c != '/' && c != '>'

/-- Whether a character can go on with the name of an attribute. -/
def isAttributeChar (c : Char) : Bool := startsAttribute c && c != '='

/-- Whether an attribute may stand after a character. -/
def separates (c : Char) : Bool := isBlank c || c == '/' || c == '\'' || c == '"'

/-- The last character of what was taken of a text to leave the text `after`. -/
def lastTaken? (before after : List Char) : Option Char :=
  (before.take (before.length - after.length)).getLast?

/-- Reads attributes; the second argument is the character before them, and the first bounds their
number. -/
def readAttributes : Nat → Option Char → List Char →
    List (List Char × Option (List Char)) × List Char
  | 0, _, s => ([], s)
  | bound + 1, before, s =>
    match s with
    | c :: cs =>
      if startsAttribute c && (before.map separates).getD false then
        let name := c :: cs.takeWhile isAttributeChar
        let afterName := cs.dropWhile isAttributeChar
        let (value, afterValue) := match readValue? afterName with
          | some (v, rest) => (some v, rest)
          | none => (none, afterName)
        let rest := dropFiller afterValue
        let (others, rest') := readAttributes bound (lastTaken? s rest) rest
        ((name, value) :: others, rest')
      else ([], s)
    | [] => ([], s)

/-- The text that cannot be read as markup at the start of `s`, and the text after it: up to the next
`>`, else up to the next `<`, else one character. -/
def looseText (s : List Char) : List Char × List Char :=
  match cutTagEnd? (s.drop 1) with
  | some rest => (s.take (s.length - rest.length), rest)
  | none =>
    let rest := (s.drop 1).dropWhile (· != '<')
    if rest = [] then (s.take 1, s.drop 1) else (s.take (s.length - rest.length), rest)

/-- The attributes of a tag as an event holds them: names in lower case, references in values
replaced. -/
def finishAttributes (as : List (List Char × Option (List Char))) :
    Except Misfit (List (String × Option String)) :=
  as.mapM fun (name, value) => do
    let name := String.ofList (lowerChars name)
    match value with
    | none => return (name, none)
    | some v => return (name, some (String.ofList (← expand v)))

/-- The elements whose content is raw text. -/
def isRaw (tag : String) : Bool := tag == "script" || tag == "style"

/-- What a tag at the start of a text is. -/
inductive StartTag where
  /-- The text ends, or goes astray, inside the tag. -/
  | incomplete
  /-- The tag is spoilt by a stray character before which the text `rest` begins. -/
  | spoilt (rest : List Char)
  /-- A tag, and whether it closes its element at once. -/
  | whole (name : List Char) (attributes : List (List Char × Option (List Char))) (closed : Bool)
      (rest : List Char)

/-- Reads a start tag; `s` begins with `<` and a letter. -/
def readStartTag (s : List Char) : StartTag :=
  let named := s.drop 1
  let name := named.takeWhile fun c => !endsTagName c
  let afterName := named.dropWhile fun c => !endsTagName c
  let inside := afterName.dropWhile fun c => isBlank c || c == '/'
  let (attributes, rest) := readAttributes s.length (lastTaken? s inside) inside
  let rest := dropBlanks rest
  match rest with
  | '>' :: after =>
    let slash := attributes.isEmpty && (dropFiller afterName).head? = some '/'
    .whole name attributes slash after
  | '/' :: '>' :: after => .whole name attributes true after
  | [] => .incomplete
  | c :: _ => if c.isAlpha || c == '=' || c == '/' then .incomplete else .spoilt rest

/-- Whether a character may stand in the name of an end tag after its first letter. -/
def isEndTagChar (c : Char) : Bool :=
  c.isAlphanum || c == '-' || c == '.' || c == ':' || c == '_'

/-- Reads an end tag after `</`; there is none if no `>` follows.  What starts with no letter is
skipped. -/
def readEndTag (s : List Char) : Option Read := do
  let rest ← cutTagEnd? s
  let afterBlanks := dropBlanks s
  let name := afterBlanks.takeWhile isEndTagChar
  let closes := (dropBlanks (afterBlanks.drop name.length)).head? == some '>'
  if (name.head?.map Char.isAlpha).getD false && closes then
    return ([.closed (String.ofList (lowerChars name))], rest)
  else if (s.head?.map Char.isAlpha).getD false then
    let name := s.takeWhile fun c => !endsTagName c
    return ([.closed (String.ofList (lowerChars name))], rest)
  else return ([], rest)

/-- The text after the first place where characters follow one after the other, each with blanks
before it except the first. -/
def cutSpaced? (first : Char) (others : List Char) : List Char → Option (List Char)
  | [] => none
  | c :: rest =>
    let follow (acc : Option (List Char)) (d : Char) : Option (List Char) :=
      acc.bind fun t => match dropBlanks t with
        | e :: more => if e = d then some more else none
        | [] => none
    if c = first then
      match others.foldl follow (some rest) with
      | some after => some after
      | none => cutSpaced? first others rest
    else cutSpaced? first others rest

/-- The text after the end of a comment. -/
def cutCommentEnd? : List Char → Option (List Char)
  | '-' :: rest =>
    let closed : Option (List Char) := match rest with
      | '-' :: more => match dropBlanks more with
        | '>' :: after => some after
        | _ => none
      | _ => none
    match closed with
    | some after => some after
    | none => cutCommentEnd? rest
  | _ :: rest => cutCommentEnd? rest
  | [] => none

/-- Whether a character may stand in a keyword after its first letter. -/
def isKeywordChar (c : Char) : Bool := c.isAlphanum || c == '-' || c == '_' || c == '.'

/-- The text after a marked section, whose opening bracket has been read; `none` if it does not end.
A section with an unknown keyword, or none, cannot be read. -/
def cutSection? (s : List Char) : Except Misfit (Option (List Char)) :=
  let keyword := s.takeWhile isKeywordChar
  let rest := dropBlanks (s.drop keyword.length)
  let word := String.ofList (keyword.map Char.toLower)
  if s = [] then .ok none
  else if !(s.head?.map Char.isAlpha).getD false then .error .badMarkup
  else if rest = [] then .ok none
  else if ["temp", "cdata", "ignore", "include", "rcdata"].contains word then
    .ok (cutSpaced? ']' [']', '>'] s)
  else if ["if", "else", "endif"].contains word then .ok (cutSpaced? ']' ['>'] s)
  else .error .badMarkup

/-- The raw text before the end tag of an element and the text after that tag, if it ends at all. -/
def cutRaw? (tag : List Char) : List Char → Option (List Char × List Char)
  | [] => none
  | c :: rest =>
    let closed : Option (List Char) := match c, rest with
      | '<', '/' :: more =>
        let more := dropBlanks more
        if (more.take tag.length).map Char.toLower = tag then
          match dropBlanks (more.drop tag.length) with
          | '>' :: after => some after
          | _ => none
        else none
      | _, _ => none
    match closed with
    | some after => some ([], after)
    | none => (cutRaw? tag rest).map fun (raw, after) => (c :: raw, after)

/-- Reads what starts with `<` and is no start tag: an end tag, a comment, a declaration or an
instruction.  The result is `none` if it does not end, and no events and the whole text if it is just
the character. -/
def readOther (s : List Char) : Except Misfit (Option Read) :=
  match s with
  | '<' :: '/' :: rest => .ok (readEndTag rest)
  | '<' :: '!' :: '-' :: '-' :: rest => .ok ((cutCommentEnd? rest).map fun after => ([], after))
  | '<' :: '!' :: '[' :: rest => do return (← cutSection? rest).map fun after => ([], after)
  | '<' :: '!' :: rest => .ok ((cutTagEnd? rest).map fun after => ([], after))
  | '<' :: '?' :: rest => .ok ((cutTagEnd? rest).map fun after => ([], after))
  | _ => .ok (some ([.text "<"], s.drop 1))

/-- Text as an event, with its references replaced. -/
def textEvent (s : List Char) : Except Misfit (List Event) := do
  if s = [] then return []
  return [.text (String.ofList (← expand s))]

/-- Reads what starts with `<`, up to where text or the next construct starts. -/
def readMarkup (s : List Char) : Except Misfit Read := do
  let loose : Except Misfit Read := do
    let (t, rest) := looseText s
    return (← textEvent t, rest)
  if ((s.drop 1).head?.map Char.isAlpha).getD false then
    match readStartTag s with
    | .incomplete => loose
    | .spoilt rest => return ([.text (String.ofList (s.take (s.length - rest.length)))], rest)
    | .whole name attributes closed rest =>
      let tag := String.ofList (lowerChars name)
      let start := Event.opened tag (← finishAttributes attributes)
      if closed then return ([start, .closed tag], rest)
      else if isRaw tag then
        match cutRaw? tag.toList rest with
        | some (raw, after) =>
          let inside := if raw = [] then [] else [Event.text (String.ofList raw)]
          return (start :: inside ++ [.closed tag], after)
        | none => return ([start], [])
      else return ([start], rest)
  else
    match ← readOther s with
    | some read => return read
    | none => loose

/-- Reads a hypertext; the first argument bounds the number of constructs. -/
def readUpTo : Nat → List Char → Except Misfit (List Event)
  | 0, _ => .ok []
  | bound + 1, s => do
    let before ← textEvent (s.takeWhile (· != '<'))
    match s.dropWhile (· != '<') with
    | [] => return before
    | rest => do
      let (here, rest) ← readMarkup rest
      return before ++ here ++ (← readUpTo bound rest)

/-- The events of a hypertext. -/
def Event.read (s : List Char) : Except Misfit (List Event) := readUpTo (s.length + 1) s

/-- Text without markup and references is one event. -/
theorem Event.read_plain {s : List Char} (hne : s ≠ [])
    (hmarkup : ∀ c ∈ s, c ≠ '<') (hreference : '&' ∉ s) :
    Event.read s = .ok [.text (String.ofList s)] := by
  have hmark : ∀ c ∈ s, (c != '<') = true := fun c hc => by simpa using hmarkup c hc
  have hall : s.takeWhile (· != '<') = s := by
    rw [← List.append_nil s, List.takeWhile_append_of_pos hmark]
    rfl
  have hrest : s.dropWhile (· != '<') = [] := by
    rw [← List.append_nil s, List.dropWhile_append_of_pos hmark]
    rfl
  have htext : textEvent s = .ok [.text (String.ofList s)] := by
    simp [textEvent, hne, expand_plain hreference, bind, Except.bind, pure, Except.pure]
  simp [Event.read, readUpTo, hall, hrest, htext, bind, Except.bind, pure, Except.pure]

end SparkGateway.Html
