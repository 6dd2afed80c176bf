import SparkGateway.Url.Basic

/-!
# Relative URLs

A link is read relative to the URL of the page or service that holds it.  A link with a scheme of its
own stands for itself, one with an authority keeps only the scheme, one that starts at the root keeps
scheme and authority, and any other path goes on from the directory of the base.  The segments `.`
and `..` are resolved.

Main statements: `resolve_plain` (segments without dots stay as they are).
-/

namespace SparkGateway.Url

/-- The schemes with relative links. -/
def relativeSchemes : List String :=
  ["", "ftp", "http", "gopher", "nntp", "imap", "wais", "file", "https", "shttp", "mms", "prospero",
    "rtsp", "rtsps", "rtspu", "sftp", "svn", "svn+ssh", "ws", "wss"]

/-- The schemes whose last path segment may carry parameters after a semicolon. -/
def parameterSchemes : List String :=
  ["", "ftp", "hdl", "prospero", "http", "imap", "https", "shttp", "rtsp", "rtsps", "rtspu", "sip",
    "sips", "mms", "sftp", "tel"]

/-- The pieces of a text between the slashes. -/
def segments (s : List Char) : List (List Char) := s.splitOn '/'

/-- A path without the parameters of its last segment, and the parameters. -/
def cutParameters (scheme path : List Char) : List Char × List Char :=
  if schemeIn parameterSchemes scheme then
    let last := afterLast (· == '/') path
    match cutAt? (· == ';') last with
    | some (_, parameters) => (path.take (path.length - parameters.length - 1), parameters)
    | none => (path, [])
  else (path, [])

/-- A path followed by parameters, if there are any. -/
def withParameters (path parameters : List Char) : List Char :=
  if parameters = [] then path else path ++ ';' :: parameters

/-- Adds a segment to the resolved ones before it, of which the last stands first: `.` adds nothing,
and `..` takes the last one away. -/
def step (before : List (List Char)) (segment : List Char) : List (List Char) :=
  if segment = ['.', '.'] then before.drop 1
  else if segment = ['.'] then before
  else segment :: before

/-- Resolves the segments `.` and `..`; a path that ends in one of them ends in a slash. -/
def resolve (path : List (List Char)) : List (List Char) :=
  let done := (path.foldl step []).reverse
  match path.getLast? with
  | some last => if last = ['.'] ∨ last = ['.', '.'] then done ++ [[]] else done
  | none => done

/-- The segments of a path that is read from the directory of `base`: empty ones between the first
and the last are dropped. -/
def fromDirectory (base path : List (List Char)) : List (List Char) :=
  let directory := if base.getLast? = some [] then base else base.dropLast
  let all := directory ++ path
  all.take 1 ++ ((all.drop 1).dropLast.filter fun s => s ≠ []) ++ (all.drop 1).getLast?.toList

/-- A link read relative to a URL; `none` if one of the two cannot be read. -/
def joinChars? (base link : List Char) : Option (List Char) := do
  if base = [] then return link
  if link = [] then return base
  let b ← parse? base
  let l ← parseFrom? b.scheme link
  let (basePath, baseParameters) := cutParameters b.scheme b.path
  let (path, parameters) := cutParameters l.scheme l.path
  if l.scheme ≠ b.scheme ∨ !schemeIn relativeSchemes l.scheme then return link
  let placed := schemeIn authoritySchemes l.scheme
  if placed ∧ l.authority ≠ [] then
    return text { l with path := withParameters path parameters }
  let l := if placed then { l with authority := b.authority } else l
  if path = [] ∧ parameters = [] then
    let query := if l.query = [] then b.query else l.query
    return text { l with path := withParameters basePath baseParameters, query := query }
  let all :=
    if path.head? = some '/' then segments path
    else fromDirectory (segments basePath) (segments path)
  let joined := List.intercalate ['/'] (resolve all)
  let joined := if joined = [] then ['/'] else joined
  return text { l with path := withParameters joined parameters }

/-- A link read relative to a URL; `none` if one of the two cannot be read. -/
def join? (base link : String) : Option String :=
  (joinChars? base.toList link.toList).map String.ofList

theorem foldl_step_plain {path : List (List Char)} (before : List (List Char))
    (h : ∀ s ∈ path, s ≠ ['.'] ∧ s ≠ ['.', '.']) :
    path.foldl step before = path.reverse ++ before := by
  induction path generalizing before with
  | nil => simp
  | cons s rest ih =>
    have hs := h s (by simp)
    simp [step, hs.1, hs.2, ih _ fun t ht => h t (by simp [ht])]

/-- Segments other than `.` and `..` stay as they are. -/
theorem resolve_plain {path : List (List Char)}
    (h : ∀ s ∈ path, s ≠ ['.'] ∧ s ≠ ['.', '.']) :
    resolve path = path := by
  have hlast : ∀ last, path.getLast? = some last → ¬ (last = ['.'] ∨ last = ['.', '.']) := by
    intro last hl
    have := h last (List.mem_of_getLast? hl)
    simp [this.1, this.2]
  unfold resolve
  simp only [foldl_step_plain [] h, List.append_nil, List.reverse_reverse]
  cases hl : path.getLast? with
  | none => rfl
  | some last => simp only [if_neg (hlast last hl)]

end SparkGateway.Url
