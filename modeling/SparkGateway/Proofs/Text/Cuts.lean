import Mathlib.Data.List.TakeWhile
import SparkGateway.Text.Blank

/-!
# Cut texts

A text is cut where its characters change from one kind to the other.  The parts are told by the text
itself: one of them consists of characters of the kind, and the other one has none where they meet
(`takeWhile_eq_iff`, `dropWhile_eq_iff`, `dropEndWhile_eq_iff`).  So trimming gives the only trimmed text
that stands between blanks (`trimChars_eq_iff`).
-/

namespace SparkGateway.Text

variable {p : Char → Bool} {s t : List Char}

theorem takeWhile_eq_iff :
    s.takeWhile p = t ↔
      ∃ rest, s = t ++ rest ∧ (∀ c ∈ t, p c = true) ∧ ∀ c, rest.head? = some c → p c = false := by
  constructor
  · rintro rfl
    refine ⟨s.dropWhile p, List.takeWhile_append_dropWhile.symm, fun c => List.mem_takeWhile_imp, ?_⟩
    intro c hc
    have hne : s.dropWhile p ≠ [] := fun hnil => by simp [hnil] at hc
    have hhead := List.head_dropWhile_not p hne
    rw [List.head?_eq_some_head hne, Option.some_inj] at hc
    rwa [hc] at hhead
  · rintro ⟨rest, rfl, ht, hhead⟩
    rw [List.takeWhile_append_of_pos ht]
    cases rest with
    | nil => simp
    | cons c rest => rw [List.takeWhile_cons_of_neg (by simp [hhead c rfl]), List.append_nil]

theorem dropWhile_eq_iff :
    s.dropWhile p = t ↔
      ∃ front, s = front ++ t ∧ (∀ c ∈ front, p c = true) ∧ ∀ c, t.head? = some c → p c = false := by
  constructor
  · rintro rfl
    obtain ⟨rest, hs, hfront, hhead⟩ := takeWhile_eq_iff.1 (rfl : s.takeWhile p = _)
    have hrest : s.dropWhile p = rest :=
      List.append_cancel_left (List.takeWhile_append_dropWhile.trans hs)
    exact ⟨s.takeWhile p, hrest ▸ hs, hfront, hrest ▸ hhead⟩
  · rintro ⟨front, rfl, hfront, hhead⟩
    have htake : (front ++ t).takeWhile p = front := takeWhile_eq_iff.2 ⟨t, rfl, hfront, hhead⟩
    have hsplit := List.takeWhile_append_dropWhile (p := p) (l := front ++ t)
    rw [htake] at hsplit
    exact List.append_cancel_left hsplit

theorem dropEndWhile_eq_iff :
    dropEndWhile p s = t ↔
      ∃ rest, s = t ++ rest ∧ (∀ c ∈ rest, p c = true) ∧ ∀ c, t.getLast? = some c → p c = false := by
  have hreverse : dropEndWhile p s = t ↔ s.reverse.dropWhile p = t.reverse := List.reverse_eq_iff
  rw [hreverse, dropWhile_eq_iff]
  simp only [List.head?_reverse]
  constructor
  · rintro ⟨front, hs, hfront, hlast⟩
    refine ⟨front.reverse, ?_, fun c hc => hfront c (List.mem_reverse.1 hc), hlast⟩
    rw [← List.reverse_reverse s, hs, List.reverse_append, List.reverse_reverse]
  · rintro ⟨rest, rfl, hrest, hlast⟩
    exact ⟨rest.reverse, List.reverse_append, fun c hc => hrest c (List.mem_reverse.1 hc), hlast⟩

/-! ## Trimming -/

/-- No blank stands at an end of a text. -/
def IsTrimmed (s : List Char) : Prop :=
  (∀ c, s.head? = some c → isBlank c = false) ∧ ∀ c, s.getLast? = some c → isBlank c = false

/-- A trimmed text stands between blanks in another one. -/
def TrimsTo (s t : List Char) : Prop :=
  ∃ before after, s = before ++ t ++ after ∧ (∀ c ∈ before, isBlank c = true) ∧
    (∀ c ∈ after, isBlank c = true) ∧ IsTrimmed t

theorem trimChars_of_blank (h : ∀ c ∈ s, isBlank c = true) : trimChars s = [] := by
  have hdrop : s.dropWhile isBlank = [] := List.dropWhile_eq_nil_iff.2 h
  rw [trimChars, hdrop]
  rfl

theorem trimsTo_trimChars (s : List Char) : TrimsTo s (trimChars s) := by
  obtain ⟨before, hbefore, hblank, hhead⟩ := dropWhile_eq_iff.1 (rfl : s.dropWhile isBlank = _)
  obtain ⟨after, hafter, hblank', hlast⟩ :=
    dropEndWhile_eq_iff.1 (rfl : dropEndWhile isBlank (s.dropWhile isBlank) = _)
  refine ⟨before, after, ?_, hblank, hblank', fun c hc => hhead c ?_, hlast⟩
  · rw [List.append_assoc]
    exact hbefore.trans (congrArg _ hafter)
  · rw [hafter, List.head?_append]
    exact Option.or_eq_some_iff.2 (.inl hc)

/-- Trimming finds the trimmed text that stands between blanks. -/
theorem trimChars_eq_iff : trimChars s = t ↔ TrimsTo s t := by
  constructor
  · rintro rfl
    exact trimsTo_trimChars s
  · rintro ⟨before, after, rfl, hbefore, hafter, hhead, hlast⟩
    cases t with
    | nil =>
        refine trimChars_of_blank fun c hc => ?_
        rw [List.append_nil] at hc
        exact (List.mem_append.1 hc).elim (hbefore c) (hafter c)
    | cons c t =>
        have hdrop : (before ++ (c :: t) ++ after).dropWhile isBlank = c :: t ++ after :=
          dropWhile_eq_iff.2 ⟨before, List.append_assoc .., hbefore, hhead⟩
        rw [trimChars, hdrop]
        exact dropEndWhile_eq_iff.2 ⟨after, rfl, hafter, hlast⟩

end SparkGateway.Text
