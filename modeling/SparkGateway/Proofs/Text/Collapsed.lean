import Mathlib.Data.List.Chain
import SparkGateway.Proofs.Text.Cuts

/-!
# Collapsed texts

In a collapsed text every blank is a single space between two other characters.  The words of a text with
one space between two of them make such a text (`isCollapsed_collapse`), since no word is empty or holds a
blank.
-/

namespace SparkGateway.Text

/-- A text without blanks at its ends and without two blanks in a row, whose blanks are spaces. -/
structure IsCollapsed (s : List Char) : Prop where
  trimmed : IsTrimmed s
  spaces : ∀ c ∈ s, isBlank c = true → c = ' '
  single : s.IsChain fun c d => isBlank c = false ∨ isBlank d = false

theorem isCollapsed_nil : IsCollapsed [] :=
  ⟨⟨nofun, nofun⟩, nofun, .nil⟩

/-- A text without blanks is collapsed. -/
theorem isCollapsed_of_not_blank {s : List Char} (h : ∀ c ∈ s, isBlank c = false) : IsCollapsed s where
  trimmed := ⟨fun c hc => h c (List.mem_of_head? hc), fun c hc => h c (List.mem_of_getLast? hc)⟩
  spaces c hc hblank := absurd hblank (by simp [h c hc])
  single := by
    refine List.isChain_iff_forall_rel_of_append_cons_cons.2 ?_
    rintro c d before after rfl
    exact .inl (h c (by simp))

/-- One space may stand between two collapsed texts that are not empty. -/
theorem IsCollapsed.append {s t : List Char} (hs : IsCollapsed s) (ht : IsCollapsed t) (hsne : s ≠ [])
    (htne : t ≠ []) : IsCollapsed (s ++ ' ' :: t) where
  trimmed := by
    constructor
    · intro c hc
      rw [List.head?_append_of_ne_nil _ hsne] at hc
      exact hs.trimmed.1 c hc
    · intro c hc
      rw [List.getLast?_append_of_ne_nil _ (List.cons_ne_nil _ _), List.getLast?_cons_of_ne_nil htne] at hc
      exact ht.trimmed.2 c hc
  spaces c hc hblank := by
    rcases List.mem_append.1 hc with hmem | hmem
    · exact hs.spaces c hmem hblank
    · rcases List.mem_cons.1 hmem with rfl | hmem
      · rfl
      · exact ht.spaces c hmem hblank
  single := by
    refine List.isChain_append.2 ⟨hs.single, List.isChain_cons.2 ⟨fun d hd => ?_, ht.single⟩, ?_⟩
    · exact .inr (ht.trimmed.1 d hd)
    · exact fun c hc _ _ => .inl (hs.trimmed.2 c hc)

theorem isCollapsed_intercalate {texts : List (List Char)}
    (h : ∀ w ∈ texts, w ≠ [] ∧ ∀ c ∈ w, isBlank c = false) :
    IsCollapsed (List.intercalate [' '] texts) ∧ (texts ≠ [] → List.intercalate [' '] texts ≠ []) := by
  induction texts with
  | nil => exact ⟨isCollapsed_nil, absurd rfl⟩
  | cons w texts ih =>
      obtain ⟨⟨hne, hblank⟩, hothers⟩ := List.forall_mem_cons.1 h
      have hw := isCollapsed_of_not_blank hblank
      cases texts with
      | nil => simpa using ⟨hw, hne⟩
      | cons v texts =>
          obtain ⟨hrest, hrestne⟩ := ih hothers
          rw [List.intercalate_cons_cons, List.append_assoc, List.singleton_append]
          exact ⟨hw.append hrest hne (hrestne (List.cons_ne_nil v texts)), by simp⟩

theorem isCollapsed_collapse (s : String) : IsCollapsed (collapse s).toList := by
  rw [collapse, String.toList_ofList, collapseChars]
  exact (isCollapsed_intercalate fun w hw => ⟨words_ne_nil hw, fun c => not_blank_of_mem_words hw⟩).1

end SparkGateway.Text
