import SparkGateway.Text.Casing
import SparkGateway.Url.Literal

/-!
# The parts of a URL

A URL is a scheme, an authority, a path, a query and a fragment, each possibly empty.  Control
characters and blanks in front of it do not count, nor do tabs and line breaks anywhere.  Reading one
never rejects an unknown scheme or an odd path; it fails only if the authority has one bracket without
the other, or brackets around something that is no address, or a character that stands for one of the
delimiters.

Main statements: `cutAt?_append` and `cutAt?_eq_none` (where a text is cut).
-/

namespace SparkGateway

/-- The parts of a URL. -/
structure Url where
  /-- What stands before the first colon, in lower case. -/
  scheme : List Char
  /-- What stands between two slashes and the path. -/
  authority : List Char
  /-- The path. -/
  path : List Char
  /-- What follows the first question mark. -/
  query : List Char
  /-- What follows the first number sign. -/
  fragment : List Char
  deriving DecidableEq, Repr

namespace Url

/-- The characters that do not count in front of a URL: control characters and blanks. -/
def isLeading (c : Char) : Bool := c.toNat ≤ 32

/-- The characters that line breaks and tabs leave behind in a URL; they are dropped. -/
def isDropped (c : Char) : Bool := c == '\t' || c == '\n' || c == '\r'

/-- A text without the characters that do not count. -/
def cleaned (text : List Char) : List Char :=
  (text.dropWhile isLeading).filter fun c => !isDropped c

/-- The characters of a scheme. -/
def isSchemeChar (c : Char) : Bool := c.isAlphanum || c == '+' || c == '-' || c == '.'

/-- The characters that end an authority. -/
def endsAuthority (c : Char) : Bool := c == '/' || c == '?' || c == '#'

/-- The characters that compatibility decomposition turns into text with a delimiter of URLs. -/
def delimiterLike : List Nat :=
  [0x2047, 0x2048, 0x2049, 0x2100, 0x2101, 0x2105, 0x2106, 0x2A74, 0xFE13, 0xFE16, 0xFE55, 0xFE56,
    0xFE5F, 0xFE6B, 0xFF03, 0xFF0F, 0xFF1A, 0xFF1F, 0xFF20]

/-- The text before the first character that satisfies `p` and the text after it, if there is one. -/
def cutAt? (p : Char → Bool) (s : List Char) : Option (List Char × List Char) :=
  match s.dropWhile fun c => !p c with
  | [] => none
  | _ :: rest => some (s.takeWhile fun c => !p c, rest)

/-- The text before the first character that satisfies `p`, or the whole text. -/
def beforeFirst (p : Char → Bool) (s : List Char) : List Char := s.takeWhile fun c => !p c

/-- The scheme of a URL and the text after its colon, if there is a scheme. -/
def cutScheme? (s : List Char) : Option (List Char × List Char) :=
  match cutAt? (· == ':') s with
  | some (c :: cs, rest) =>
    if c.isAlpha && (c :: cs).all isSchemeChar then some ((c :: cs).map Char.toLower, rest) else none
  | _ => none

/-- The authority of a URL without scheme, and the text after it. -/
def cutAuthority : List Char → List Char × List Char
  | '/' :: '/' :: rest =>
    (rest.takeWhile fun c => !endsAuthority c, rest.dropWhile fun c => !endsAuthority c)
  | s => ([], s)

/-- Whether an authority has no brackets, or both and an address behind the first one that opens. -/
def soundBrackets (a : List Char) : Bool :=
  match cutAt? (· == '[') a with
  | some (_, inside) => a.contains ']' && isLiteral (beforeFirst (· == ']') inside)
  | none => !a.contains ']'

/-- Whether an authority is fit to be read: its brackets are, and nothing in it stands for a
delimiter. -/
def soundAuthority (a : List Char) : Bool :=
  soundBrackets a && a.all fun c => !delimiterLike.contains c.toNat

/-- Reads a URL whose scheme is `default` if it names none. -/
def parseFrom? (default : List Char) (text : List Char) : Option Url :=
  let s := cleaned text
  let (scheme, s) := (cutScheme? s).getD (default, s)
  let (authority, s) := cutAuthority s
  let (s, fragment) := (cutAt? (· == '#') s).getD (s, [])
  let (path, query) := (cutAt? (· == '?') s).getD (s, [])
  if soundAuthority authority then some ⟨scheme, authority, path, query, fragment⟩ else none

/-- Reads a URL. -/
def parse? (text : List Char) : Option Url := parseFrom? [] text

/-- The schemes after which the slashes of an authority are written even if it is empty. -/
def authoritySchemes : List String :=
  ["", "ftp", "http", "gopher", "nntp", "telnet", "imap", "wais", "file", "mms", "https", "shttp",
    "snews", "prospero", "rtsp", "rtsps", "rtspu", "rsync", "svn", "svn+ssh", "sftp", "nfs", "git",
    "git+ssh", "ws", "wss"]

/-- Whether a scheme is one of a list. -/
def schemeIn (schemes : List String) (scheme : List Char) : Bool :=
  schemes.any fun s => s.toList == scheme

/-- A URL as text.  The slashes of an authority stand also in front of a path that would be read as one
without them. -/
def text (u : Url) : List Char :=
  let body :=
    if u.authority ≠ [] ∨ (u.scheme ≠ [] ∧ schemeIn authoritySchemes u.scheme) ∨
        u.path.take 2 = ['/', '/'] then
      let path := if u.path ≠ [] ∧ u.path.head? ≠ some '/' then '/' :: u.path else u.path
      '/' :: '/' :: u.authority ++ path
    else u.path
  let body := if u.scheme = [] then body else u.scheme ++ ':' :: body
  let body := if u.query = [] then body else body ++ '?' :: u.query
  if u.fragment = [] then body else body ++ '#' :: u.fragment

/-- The text after the last character that satisfies `p`, or the whole text. -/
def afterLast (p : Char → Bool) (s : List Char) : List Char :=
  (s.reverse.takeWhile fun c => !p c).reverse

/-- The host of a URL, if it names one: what the authority holds after the user and before the port,
or between brackets.  It is in lower case up to the zone of an address, which follows a percent
sign. -/
def host? (u : Url) : Option (List Char) :=
  let place := afterLast (· == '@') u.authority
  let host := match cutAt? (· == '[') place with
    | some (_, inside) => beforeFirst (· == ']') inside
    | none => beforeFirst (· == ':') place
  if host = [] then none
  else
    let name := beforeFirst (· == '%') host
    some (Text.lowerChars name ++ host.drop name.length)

theorem cutAt?_eq_none {p : Char → Bool} {s : List Char} (h : ∀ c ∈ s, p c = false) :
    cutAt? p s = none := by
  have hdrop : (s.dropWhile fun c => !p c) = [] := by
    induction s with
    | nil => rfl
    | cons c cs ih =>
      simp [List.dropWhile, h c (by simp), ih fun d hd => h d (by simp [hd])]
  simp [cutAt?, hdrop]

theorem cutAt?_append {p : Char → Bool} {s t : List Char} {c : Char}
    (hs : ∀ d ∈ s, p d = false)
    (hc : p c = true) :
    cutAt? p (s ++ c :: t) = some (s, t) := by
  induction s with
  | nil => simp [cutAt?, hc]
  | cons d ds ih =>
    have hd := hs d (by simp)
    have := ih fun e he => hs e (by simp [he])
    simp only [cutAt?] at this ⊢
    simp only [List.cons_append, List.dropWhile, List.takeWhile, hd, Bool.not_false]
    revert this
    split <;> simp_all

end Url

end SparkGateway
