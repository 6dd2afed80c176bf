import Std.Data.HashMap
import SparkGateway.Html.EntityNames
import SparkGateway.Json.Reader

/-!
# Character references

In hypertext an ampersand may start a reference to a character, by name or by number.  This module
replaces the references in a text by what they stand for.  A name may run into the text after it, in
which case its longest known beginning counts; an ampersand that starts no reference stands for
itself.

Main statement: `expand_plain` (text without an ampersand is left alone).
-/

namespace SparkGateway.Html

/-- Reads one entry of the table of names: the name, with its semicolon and, where the standard
allows it, also without. -/
def entityEntries (cs : List Char) : List (String × String) :=
  let name := cs.takeWhile fun c => c != ':' && c != '!'
  let rest := cs.dropWhile fun c => c != ':' && c != '!'
  let number (ds : List Char) : Nat := ds.foldl (fun n d => 16 * n + (Json.hexDigit? d).getD 0) 0
  let text := String.ofList (((rest.drop 1).splitOn '+').map fun ds => Char.ofNat (number ds))
  let closed := (String.ofList (name ++ [';']), text)
  if rest.head? = some '!' then [closed, (String.ofList name, text)] else [closed]

/-- What each name stands for. -/
def entities : Std.HashMap String String :=
  Std.HashMap.ofList ((Text.words entityNames.toList).flatMap entityEntries)

/-- What the numbers of an old western code page stand for, from `0x80` on. -/
def westernPage : List Nat :=
  [0x20AC, 0x81, 0x201A, 0x192, 0x201E, 0x2026, 0x2020, 0x2021, 0x2C6, 0x2030, 0x160, 0x2039, 0x152,
    0x8D, 0x17D, 0x8F, 0x90, 0x2018, 0x2019, 0x201C, 0x201D, 0x2022, 0x2013, 0x2014, 0x2DC, 0x2122,
    0x161, 0x203A, 0x153, 0x9D, 0x17E, 0x178]

/-- Whether a number is no character of hypertext and leaves nothing behind. -/
def isVoid (n : Nat) : Bool :=
  (1 ≤ n && n ≤ 8) || n == 0xB || (0xE ≤ n && n ≤ 0x1F) || (0x7F ≤ n && n ≤ 0x9F) ||
    (0xFDD0 ≤ n && n ≤ 0xFDEF) || (n % 0x10000 == 0xFFFE || n % 0x10000 == 0xFFFF)

/-- What a reference by number stands for. -/
def numbered (n : Nat) : List Char :=
  if n = 0 then ['\uFFFD']
  else if n = 0xD then ['\r']
  else if 0x80 ≤ n ∧ n ≤ 0x9F then [Char.ofNat (westernPage.getD (n - 0x80) 0)]
  else if (0xD800 ≤ n ∧ n ≤ 0xDFFF) ∨ 0x10FFFF < n then ['\uFFFD']
  else if isVoid n then []
  else [Char.ofNat n]

/-- The longest beginning of a name, of at least two characters, that is known, with what it stands
for. -/
def knownStart? (name : List Char) : Option (List Char × Nat) :=
  ((List.range (name.length - 2)).map fun k => name.length - 1 - k).findSome? fun n =>
    (entities[String.ofList (name.take n)]?).map fun text => (text.toList, n)

/-- What a reference by name stands for. -/
def named (name : List Char) : List Char :=
  match entities[String.ofList name]? with
  | some text => text.toList
  | none =>
    match knownStart? name with
    | some (text, n) => text ++ name.drop n
    | none => '&' :: name

/-- The greatest count of characters in a name. -/
def longestName : Nat := 32

/-- Whether a character may stand in a name. -/
def isNameChar (c : Char) : Bool :=
  !(c == '\t' || c == '\n' || c == '\x0c' || c == ' ' || c == '<' || c == '&' || c == '#' || c == ';')

/-- A semicolon at the start of a text is taken. -/
def dropSemicolon : List Char → List Char
  | ';' :: rest => rest
  | rest => rest

/-- What follows an ampersand: a number in decimal or hexadecimal, or a name.  The result is the
replacement and the text after the reference; there is none if no reference starts here.  A decimal
number with more digits than a numeral may have is refused. -/
def reference? (cs : List Char) : Except Misfit (Option (List Char × List Char)) :=
  match cs with
  | '#' :: rest =>
    let ds := rest.takeWhile Char.isDigit
    if ds ≠ [] then
      if ds.length ≤ Numeral.mostDigits then
        .ok (some (numbered (Numeral.digitsValue ds), dropSemicolon (rest.drop ds.length)))
      else .error .badValue
    else match rest with
      | x :: more =>
        let hs := more.takeWhile fun c => (Json.hexDigit? c).isSome
        if (x = 'x' ∨ x = 'X') ∧ hs ≠ [] then
          let n := hs.foldl (fun n d => 16 * n + (Json.hexDigit? d).getD 0) 0
          .ok (some (numbered n, dropSemicolon (more.drop hs.length)))
        else .ok none
      | [] => .ok none
  | _ =>
    let name := (cs.takeWhile isNameChar).take longestName
    if name = [] then .ok none
    else
      let rest := cs.drop name.length
      let closed := if rest.head? = some ';' then name ++ [';'] else name
      .ok (some (named closed, dropSemicolon rest))

/-- Replaces references; the first argument bounds their number, and the length of the text is
enough. -/
def expandUpTo : Nat → List Char → Except Misfit (List Char)
  | 0, s => .ok s
  | bound + 1, s =>
    let plain := s.takeWhile (· != '&')
    match s.dropWhile (· != '&') with
    | [] => .ok plain
    | _ :: rest => do
      match ← reference? rest with
      | some (text, rest) => return plain ++ text ++ (← expandUpTo bound rest)
      | none => return plain ++ '&' :: (← expandUpTo bound rest)

/-- A text with its references replaced. -/
def expand (s : List Char) : Except Misfit (List Char) := expandUpTo s.length s

theorem expand_plain {s : List Char} (h : '&' ∉ s) : expand s = .ok s := by
  have hall : ∀ t : List Char, '&' ∉ t →
      t.takeWhile (· != '&') = t ∧ t.dropWhile (· != '&') = [] := by
    intro t ht
    induction t with
    | nil => exact ⟨rfl, rfl⟩
    | cons c cs ih =>
      have hc : (c != '&') = true := by simpa using fun e : c = '&' => ht (by simp [e])
      have := ih fun hm => ht (by simp [hm])
      simp [List.takeWhile, List.dropWhile, hc, this.1, this.2]
  obtain ⟨htake, hdrop⟩ := hall s h
  unfold expand
  cases hl : s.length with
  | zero => rfl
  | succ n => simp [expandUpTo, hdrop, htake]

end SparkGateway.Html
