import SparkGateway.Proofs.Text.Cuts
import SparkGateway.Settings

/-!
# Checked settings

Of the address of the gateway the query is cut away, and then the slashes at the end.  What is left
(`BaresTo`) has neither, so nothing more is cut away from it.

Settings are accepted exactly if what is left is an address of the web and no password is missing.  They
keep all else, and checking them once more changes nothing.  An address of the web has two slashes behind
its scheme, and something behind these that is no slash; where there is nothing but slashes behind the
scheme, they are stripped and the address is refused.

Main statement: `checked_told`.
-/

namespace SparkGateway.Settings

open Text

/-- An address without a query and without a slash at its end. -/
structure IsBare (address : String) : Prop where
  noQuery : '?' ∉ address.toList
  noSlash : address.toList.getLast? ≠ some '/'

/-- What is left of an address that is cut at its first question mark and stripped of the slashes at its
end. -/
def BaresTo (address left : String) : Prop :=
  ∃ slashes query : String, address = left ++ slashes ++ query ∧ IsBare left ∧
    (∀ c ∈ slashes.toList, c = '/') ∧ (query = "" ∨ ∃ rest, query = "?" ++ rest)

/-- An address of the web. -/
def IsWeb (address : String) : Prop :=
  ∃ rest, address = "http://" ++ rest ∨ address = "https://" ++ rest

/-- There is a user, whose password is missing. -/
def LacksPassword (s : Settings) (user : String) : Prop :=
  s.user = some user ∧ user ≠ "" ∧ s.password = none

/-- Why settings are refused if `left` is what is left of their address. -/
inductive Refused (s : Settings) (left : String) : Problem → Prop where
  | noAddress : left = "" → Refused s left .noAddress
  | badScheme : left ≠ "" → ¬ IsWeb left → Refused s left (.badScheme left)
  | noPassword (user : String) : IsWeb left → s.LacksPassword user → Refused s left (.noPassword user)

/-! ## What is left of an address -/

theorem exists_eq_append_iff {start s : String} :
    (∃ rest, s = start ++ rest) ↔ start.toList <+: s.toList := by
  constructor
  · rintro ⟨rest, rfl⟩
    exact ⟨rest.toList, String.toList_append.symm⟩
  · rintro ⟨rest, hrest⟩
    refine ⟨String.ofList rest, String.toList_injective ?_⟩
    rw [String.toList_append, String.toList_ofList, hrest]

theorem isWebAddress_iff {address : String} : isWebAddress address = true ↔ IsWeb address := by
  rw [isWebAddress, Bool.or_eq_true, List.isPrefixOf_iff_prefix, List.isPrefixOf_iff_prefix,
    ← exists_eq_append_iff, ← exists_eq_append_iff, ← exists_or]
  exact Iff.rfl

theorem isQuery_iff {query : String} :
    (query = "" ∨ ∃ rest, query = "?" ++ rest) ↔ ∀ c, query.toList.head? = some c → c = '?' := by
  rw [exists_eq_append_iff, ← String.toList_inj]
  cases query.toList with
  | nil => simp
  | cons c cs => simp [eq_comm]

/-- Cutting and stripping finds what is left. -/
theorem bare_eq_iff {address left : String} : bare address = left ↔ BaresTo address left := by
  constructor
  · rintro rfl
    obtain ⟨query, hquery, hpath, hmark⟩ :=
      takeWhile_eq_iff.1 (rfl : (address.toList.takeWhile fun c => c ≠ '?') = _)
    obtain ⟨slashes, hslashes, hall, hlast⟩ := dropEndWhile_eq_iff.1
      (rfl : dropEndWhile (· == '/') (address.toList.takeWhile fun c => c ≠ '?') = _)
    have hleft : (bare address).toList = bareChars address.toList := String.toList_ofList
    refine ⟨String.ofList slashes, String.ofList query, String.toList_injective ?_, ⟨?_, ?_⟩, ?_, ?_⟩
    · rw [String.toList_append, String.toList_append, hleft, String.toList_ofList, String.toList_ofList]
      exact hquery.trans (congrArg (· ++ query) hslashes)
    · rw [hleft]
      exact bare_noQuery address.toList
    · rw [hleft]
      exact fun h => by simpa using hlast '/' h
    · simpa using hall
    · rw [isQuery_iff, String.toList_ofList]
      simpa using hmark
  · rintro ⟨slashes, query, rfl, hleft, hall, hquery⟩
    rw [isQuery_iff] at hquery
    have hpath : ((left ++ slashes ++ query).toList.takeWhile fun c => c ≠ '?') =
        left.toList ++ slashes.toList := by
      refine takeWhile_eq_iff.2 ⟨query.toList, by simp, fun c hc => decide_eq_true ?_, by simpa using hquery⟩
      rintro rfl
      rcases List.mem_append.1 hc with hmem | hmem
      · exact hleft.noQuery hmem
      · exact absurd (hall _ hmem) (by decide)
    have hbare : bareChars (left ++ slashes ++ query).toList = left.toList := by
      rw [bareChars, hpath]
      refine dropEndWhile_eq_iff.2 ⟨slashes.toList, rfl, by simpa using hall, fun c hc => beq_false_of_ne ?_⟩
      rintro rfl
      exact hleft.noSlash hc
    rw [bare, hbare, String.ofList_toList]

theorem IsBare.bare_eq {address : String} (h : IsBare address) : bare address = address :=
  bare_eq_iff.2 ⟨"", "", by simp, h, by simp, .inl rfl⟩

theorem isBare_bare (address : String) : IsBare (bare address) := by
  obtain ⟨_, _, -, h, -⟩ := bare_eq_iff.1 (rfl : bare address = _)
  exact h

theorem IsBare.trimEndWhere_eq {address : String} (h : IsBare address) :
    trimEndWhere (· == '/') address = address := by
  have hchars : dropEndWhile (· == '/') address.toList = address.toList :=
    dropEndWhile_eq_iff.2 ⟨[], by simp, nofun, fun c hc => beq_false_of_ne fun heq => h.noSlash (heq ▸ hc)⟩
  rw [trimEndWhere, hchars, String.ofList_toList]

theorem IsWeb.slash_mem {address : String} (h : IsWeb address) : '/' ∈ address.toList := by
  obtain ⟨rest, rfl | rfl⟩ := h <;> simp

theorem not_isWeb_empty : ¬ IsWeb "" := fun h => nomatch h.slash_mem

/-! ## The check -/

theorem userWithoutPassword?_eq_some_iff {s : Settings} {user : String} :
    s.userWithoutPassword? = some user ↔ s.LacksPassword user := by
  unfold userWithoutPassword? LacksPassword
  cases s.user with
  | none => simp
  | some name =>
      cases s.password with
      | some _ => simp
      | none =>
          simp only [String.isEmpty_iff, Option.ite_none_left_eq_some, Option.some_inj, and_true]
          constructor
          · rintro ⟨hname, rfl⟩
            exact ⟨rfl, hname⟩
          · rintro ⟨rfl, hname⟩
            exact ⟨hname, rfl⟩

theorem userWithoutPassword?_eq_none_iff {s : Settings} :
    s.userWithoutPassword? = none ↔ ∀ user, ¬ s.LacksPassword user := by
  simp only [Option.eq_none_iff_forall_ne_some, Ne, userWithoutPassword?_eq_some_iff]

/-- What the check comes to, with a case for each way through it. -/
theorem checked_cases (s : Settings) :
    (∃ p, s.checked = .error p ∧ s.Refused (bare s.address) p) ∨
      s.checked = .ok { s with address := bare s.address } ∧ IsWeb (bare s.address) ∧
        ∀ user, ¬ s.LacksPassword user := by
  unfold checked
  dsimp only
  split_ifs with hempty hweb
  · exact .inl ⟨_, rfl, .noAddress (String.isEmpty_iff.1 hempty)⟩
  · rw [isWebAddress_iff] at hweb
    cases huser : s.userWithoutPassword? with
    | some user => exact .inl ⟨_, rfl, .noPassword user hweb (userWithoutPassword?_eq_some_iff.1 huser)⟩
    | none => exact .inr ⟨rfl, hweb, userWithoutPassword?_eq_none_iff.1 huser⟩
  · exact .inl ⟨_, rfl, .badScheme (mt String.isEmpty_iff.2 hempty) (mt isWebAddress_iff.2 hweb)⟩

/-- Settings are refused for one reason only, and what is refused is not accepted. -/
theorem Refused.unique {s : Settings} {left : String} {p p' : Problem} (h : s.Refused left p)
    (h' : s.Refused left p') : p = p' := by
  cases h with
  | noAddress hempty =>
      subst hempty
      cases h' with
      | noAddress => rfl
      | badScheme hne => exact absurd rfl hne
      | noPassword _ hweb => exact absurd hweb not_isWeb_empty
  | badScheme hne hweb =>
      cases h' with
      | noAddress hempty => exact absurd hempty hne
      | badScheme => rfl
      | noPassword _ hweb' => exact absurd hweb' hweb
  | noPassword user hweb hlacks =>
      cases h' with
      | noAddress hempty => exact absurd (hempty ▸ hweb) not_isWeb_empty
      | badScheme _ hweb' => exact absurd hweb hweb'
      | noPassword user' _ hlacks' =>
          obtain rfl : user = user' := Option.some_inj.1 (hlacks.1.symm.trans hlacks'.1)
          rfl

theorem Refused.not_accepted {s : Settings} {left : String} {p : Problem} (h : s.Refused left p) :
    ¬ (IsWeb left ∧ ∀ user, ¬ s.LacksPassword user) := by
  rintro ⟨hweb, hpassword⟩
  cases h with
  | noAddress hempty => exact not_isWeb_empty (hempty ▸ hweb)
  | badScheme _ hweb' => exact hweb' hweb
  | noPassword user _ hlacks => exact hpassword user hlacks

theorem checked_eq_error_iff {s : Settings} {p : Problem} :
    s.checked = .error p ↔ s.Refused (bare s.address) p := by
  rcases s.checked_cases with ⟨p', herror, hrefused⟩ | ⟨hok, haccepted⟩
  · rw [herror, Except.error.injEq]
    exact ⟨fun heq => heq ▸ hrefused, fun h => hrefused.unique h⟩
  · rw [hok]
    exact iff_of_false nofun fun h => h.not_accepted haccepted

theorem checked_eq_ok_iff {s t : Settings} :
    s.checked = .ok t ↔ (IsWeb (bare s.address) ∧ ∀ user, ¬ s.LacksPassword user) ∧
      t = { s with address := bare s.address } := by
  rcases s.checked_cases with ⟨p, herror, hrefused⟩ | ⟨hok, haccepted⟩
  · rw [herror]
    exact iff_of_false nofun fun h => hrefused.not_accepted h.1
  · rw [hok, Except.ok.injEq, eq_comm, and_iff_right haccepted]

/-- What the check comes to, where `left` is what is left of the address. -/
structure CheckTold (s : Settings) (left : String) : Prop where
  bare : BaresTo s.address left
  /-- Nothing else is left of the address. -/
  only : ∀ other, BaresTo s.address other → other = left
  accepted_iff : (∃ t, s.checked = .ok t) ↔ IsWeb left ∧ ∀ user, ¬ s.LacksPassword user
  refused_iff : ∀ p, s.checked = .error p ↔ s.Refused left p
  /-- All else is kept, -/
  kept : ∀ t, s.checked = .ok t → t = { s with address := left }
  /-- the address is in its one form, -/
  form : ∀ t, s.checked = .ok t → IsBare t.address ∧ IsWeb t.address
  /-- and there it stays. -/
  again : ∀ t, s.checked = .ok t → t.checked = .ok t
  addresses : ∀ t, s.checked = .ok t → t.batchesUrl = t.address ++ "/batches" ∧ t.sessionsBase = t.address
  /-- A scheme with nothing but slashes behind it is refused. -/
  schemeOnly : ∀ scheme slashes : String, '/' ∉ scheme.toList → '?' ∉ scheme.toList →
    (∀ c ∈ slashes.toList, c = '/') → s.address = scheme ++ slashes → ∀ t, s.checked ≠ .ok t

/-- **What the check lets through, and in which form.** -/
theorem checked_told (s : Settings) : ∃ left, s.CheckTold left := by
  have hleft : BaresTo s.address (Settings.bare s.address) := bare_eq_iff.1 rfl
  refine ⟨Settings.bare s.address, hleft, fun other hother => (bare_eq_iff.2 hother).symm, ?_,
    fun p => checked_eq_error_iff, fun t ht => (checked_eq_ok_iff.1 ht).2, ?_, ?_, ?_, ?_⟩
  · simp only [checked_eq_ok_iff, exists_and_left, exists_eq, and_true]
  · intro t ht
    obtain ⟨⟨hweb, -⟩, rfl⟩ := checked_eq_ok_iff.1 ht
    exact ⟨isBare_bare s.address, hweb⟩
  · intro t ht
    obtain ⟨haccepted, rfl⟩ := checked_eq_ok_iff.1 ht
    have hbare := (isBare_bare s.address).bare_eq
    refine checked_eq_ok_iff.2 ⟨?_, ?_⟩
    · dsimp only
      rw [hbare]
      exact haccepted
    · dsimp only
      rw [hbare]
  · intro t ht
    obtain ⟨-, rfl⟩ := checked_eq_ok_iff.1 ht
    have htrim := (isBare_bare s.address).trimEndWhere_eq
    exact ⟨congrArg (· ++ "/batches") htrim, htrim⟩
  · intro scheme slashes hslash hmark hall haddress t ht
    have hscheme : IsBare scheme :=
      ⟨hmark, fun hlast => hslash (List.mem_of_getLast? hlast)⟩
    have hbare : Settings.bare s.address = scheme :=
      bare_eq_iff.2 ⟨slashes, "", by simp [haddress], hscheme, hall, .inl rfl⟩
    obtain ⟨⟨hweb, -⟩, -⟩ := checked_eq_ok_iff.1 ht
    rw [hbare] at hweb
    exact hslash hweb.slash_mem

example : (({ address := "http://livy:8998//?session=1/" } : Settings).checked.map batchesUrl).toOption =
    some "http://livy:8998/batches" := by
  decide +kernel

end SparkGateway.Settings
