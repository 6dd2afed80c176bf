import SparkGateway.Json.Reader

/-!
# Addresses in brackets

Between brackets an authority holds no name but an address.  It is written as eight groups of
hexadecimal digits with colons between them, of which two may be written as four numbers with dots, and
a run of zeros may be left out once; a zone may follow a percent sign.  What starts with the letter `v`
is an address of a later version, of which only the form is looked at.
-/

namespace SparkGateway.Url

/-- A hexadecimal digit. -/
def isHexDigit (c : Char) : Bool := (Json.hexDigit? c).isSome

/-- A group of an address: up to four hexadecimal digits. -/
def isGroup (s : List Char) : Bool := 0 < s.length && s.length ≤ 4 && s.all isHexDigit

/-- A number up to 255 in decimal, without zeros in front. -/
def isOctet (s : List Char) : Bool :=
  0 < s.length && s.length ≤ 3 && s.all Char.isDigit && (s == ['0'] || s.head? != some '0') &&
    s.foldl (fun n d => 10 * n + (d.toNat - '0'.toNat)) 0 ≤ 255

/-- Four such numbers with dots between them. -/
def isDotted (s : List Char) : Bool := (s.splitOn '.').length == 4 && (s.splitOn '.').all isOctet

/-- The number of groups that some pieces stand for, if they stand for any: the last of them may stand
for two. -/
def groups? : List (List Char) → Option Nat
  | [] => none
  | [last] => if isGroup last then some 1 else if isDotted last then some 2 else none
  | piece :: pieces => if isGroup piece then (groups? pieces).map (· + 1) else none

/-- Whether groups are left out between the pieces `front` and what follows two colons. -/
def hasGap (front back : List (List Char)) : Bool :=
  front.all isGroup &&
    match back with
    | [[]] => front.length ≤ 7
    | back => (groups? back).any fun n => front.length + n ≤ 7

/-- Whether a text is an address without a zone. -/
def isAddress (s : List Char) : Bool :=
  match s.splitOn ':' with
  | [] :: [] :: back => hasGap [] back
  | pieces =>
    let front := pieces.takeWhile (· ≠ [])
    match front, pieces.drop front.length with
    | _, [] => groups? front == some 8
    | [], _ => false
    | _, _ :: back => hasGap front back

/-- Whether a text is the zone of an address, if it has one, and the percent sign before it. -/
def isZone : List Char → Bool
  | [] => true
  | _ :: zone => zone ≠ [] && !zone.contains '%'

/-- Whether a text is the version and the form of an address of a later version. -/
def isVersioned (s : List Char) : Bool :=
  s.takeWhile isHexDigit ≠ [] &&
    match s.dropWhile isHexDigit with
    | '.' :: _ :: _ => true
    | _ => false

/-- Whether a text can stand between the brackets of an authority. -/
def isLiteral : List Char → Bool
  | 'v' :: s => isVersioned s
  | s => isAddress (s.takeWhile (· ≠ '%')) && isZone (s.dropWhile (· ≠ '%'))

end SparkGateway.Url
