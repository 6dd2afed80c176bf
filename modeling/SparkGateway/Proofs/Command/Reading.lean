import SparkGateway.Command.Words
import SparkGateway.Proofs.Outcome

/-!
# What a command line says

Nothing is made up when a command line is read: its arguments are words of it, in their order there, and
its options are options that the command has.

Main statements: `arguments_sublist` and `options_declared`.
-/

namespace SparkGateway.Command

/-- Arguments are words of the command line, in their order there. -/
theorem arguments_sublist {flags : List Flag} {mixed : Bool} {words : List String} {r : Reading}
    (h : read flags mixed words = .ok r) : r.arguments.Sublist words := by
  fun_induction read flags mixed words generalizing r with
  | case1 =>
    cases h
    exact List.nil_sublist _
  | case2 rest =>
    cases h
    exact List.sublist_cons_self _ _
  | case3 => cases h
  | case4 word rest _ _ _ used _ ih =>
    obtain ⟨inner, hinner, hr⟩ := bind_eq_ok_iff.1 h
    cases hr
    -- the words that hold values of the option are skipped
    exact ((ih hinner).trans (List.drop_sublist used rest)).cons word
  | case5 word rest _ _ _ ih =>
    obtain ⟨inner, hinner, hr⟩ := bind_eq_ok_iff.1 h
    cases hr
    exact (ih hinner).cons_cons word
  | case6 =>
    cases h
    exact List.Sublist.refl _

theorem valueFrom_name {name : String} {inWord : Option String} {following : List String} {g : Given}
    {used : Nat} (h : valueFrom name inWord following = .ok (g, used)) : g.name = name := by
  unfold valueFrom at h
  split at h <;> cases h <;> rfl

/-- The option of a flag that takes a value has the name of the flag. -/
theorem valued_declared {flags : List Flag} {f : Flag} (hf : f ∈ flags) {inWord : Option String}
    {following : List String} {given : List Given} {used : Nat}
    (h : (do
      let (g, used) ← valueFrom f.name inWord following
      return ([g], used)) = Except.ok (given, used)) :
    ∀ g ∈ given, ∃ f ∈ flags, f.name = g.name := by
  obtain ⟨⟨value, n⟩, hvalue, hgiven⟩ := bind_eq_ok_iff.1 h
  cases hgiven
  intro g hg
  rw [List.mem_singleton.1 hg]
  exact ⟨f, hf, (valueFrom_name hvalue).symm⟩

theorem readLetters_declared {flags : List Flag} {following : List String} {letters : List Char}
    {given : List Given} {used : Nat}
    (h : readLetters flags following letters = .ok (given, used)) :
    ∀ g ∈ given, ∃ f ∈ flags, f.name = g.name := by
  fun_induction readLetters flags following letters generalizing given used with
  | case1 =>
    cases h
    simp
  | case2 => cases h
  | case3 c cs f hf => exact valued_declared (List.mem_of_find?_eq_some hf) h
  | case4 c cs f hf _ ih =>
    obtain ⟨⟨rest, n⟩, hrest, hgiven⟩ := bind_eq_ok_iff.1 h
    cases hgiven
    intro g hg
    cases hg with
    | head => exact ⟨f, List.mem_of_find?_eq_some hf, rfl⟩
    | tail _ hg => exact ih hrest g hg

theorem readOption_declared {flags : List Flag} {word : String} {following : List String}
    {given : List Given} {used : Nat}
    (h : readOption flags word following = .ok (given, used)) :
    ∀ g ∈ given, ∃ f ∈ flags, f.name = g.name := by
  simp only [readOption] at h
  split at h
  · next f hf =>
    have hmem : f ∈ flags := List.mem_of_find?_eq_some hf
    split at h
    · exact valued_declared hmem h
    · split at h
      · cases h
      · cases h
        intro g hg
        rw [List.mem_singleton.1 hg]
        exact ⟨f, hmem, rfl⟩
  · split at h
    · cases h
    · exact readLetters_declared h
    · cases h

theorem read_declared {flags : List Flag} {mixed : Bool} {words : List String} {r : Reading}
    (h : read flags mixed words = .ok r) : ∀ g ∈ r.options, ∃ f ∈ flags, f.name = g.name := by
  fun_induction read flags mixed words generalizing r with
  | case1 | case2 | case6 =>
    cases h
    simp
  | case3 => cases h
  | case4 word rest _ _ given used hgiven ih =>
    obtain ⟨inner, hinner, hr⟩ := bind_eq_ok_iff.1 h
    cases hr
    intro g hg
    exact (List.mem_append.1 hg).elim (readOption_declared hgiven g) (ih hinner g)
  | case5 word rest _ _ _ ih =>
    obtain ⟨inner, hinner, hr⟩ := bind_eq_ok_iff.1 h
    cases hr
    intro g hg
    exact ih hinner g hg

/-- A command line that is carried out has only options of its command: one that asks for help is not
carried out. -/
theorem options_declared {flags : List Flag} {mixed : Bool} {words : List String} {r : Reading}
    (h : readOrHelp flags mixed words = .ok r) : ∀ g ∈ r.options, ∃ f ∈ flags, f.name = g.name := by
  obtain ⟨inner, hinner, hr⟩ := bind_eq_ok_iff.1 h
  split at hr
  · cases hr
  · next hhelp =>
    cases hr
    intro g hg
    obtain ⟨f, hf, hname⟩ := read_declared hinner g hg
    cases hf with
    | head =>
      refine absurd ?_ hhelp
      exact List.any_eq_true.2 ⟨g, hg, by simpa [helpFlag] using hname.symm⟩
    | tail _ hf => exact ⟨f, hf, hname⟩

end SparkGateway.Command
