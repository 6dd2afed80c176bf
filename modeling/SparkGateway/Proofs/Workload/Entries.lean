import Mathlib.Data.List.Perm.Basic
import SparkGateway.Proofs.Outcome
import SparkGateway.Proofs.Text.Cuts
import SparkGateway.Proofs.Workload.Document

/-!
# Settings written as entries

An entry `name=value` sets a name to a value: the name is what stands before the first equals sign, without
blanks at its ends, and the value is all that stands behind that sign (`Sets`).  An entry without the sign,
or with only blanks before it, sets nothing (`Unfit`).

The first entry that sets nothing is refused and named.  If there is none, the names are those that the
entries set, each with the value from the last entry that sets it.  So settings are read back from their
entries, in whatever order these are given.

Main statement: `confPairs_told`.
-/

namespace SparkGateway.Workload

open Text

/-- An entry sets a name to a value. -/
def Sets (entry name value : String) : Prop :=
  ∃ before : String, entry = before ++ "=" ++ value ∧ '=' ∉ before.toList ∧
    TrimsTo before.toList name.toList ∧ name ≠ ""

/-- An entry sets nothing, which is a misuse. -/
inductive Unfit (entry : String) : Misuse → Prop where
  | noSign : '=' ∉ entry.toList → Unfit entry (.pairWithoutValue entry)
  | noName (before value : String) : entry = before ++ "=" ++ value →
      (∀ c ∈ before.toList, isBlank c = true) → Unfit entry (.pairWithoutKey entry)

/-- The entry for a name and a value. -/
def entryOf (p : String × String) : String := p.1 ++ "=" ++ p.2

/-- Settings with one value for each name, where the names can be told from the values. -/
structure Writable (conf : List (String × String)) : Prop where
  once : (conf.map Prod.fst).Nodup
  named : ∀ p ∈ conf, p.1 ≠ ""
  trimmed : ∀ p ∈ conf, IsTrimmed p.1.toList
  unsigned : ∀ p ∈ conf, '=' ∉ p.1.toList

/-! ## One entry -/

theorem exists_first_sign {entry : String} (h : '=' ∈ entry.toList) :
    ∃ before value : String, entry = before ++ "=" ++ value ∧ '=' ∉ before.toList := by
  obtain ⟨before, value, hentry, hbefore⟩ := List.eq_append_cons_of_mem h
  refine ⟨String.ofList before, String.ofList value, String.toList_injective ?_, ?_⟩
  · simpa using hentry
  · simpa using hbefore

theorem confPair_of_noSign {entry : String} (h : '=' ∉ entry.toList) :
    confPair entry = .error (.pairWithoutValue entry) := by
  have hrest : (entry.toList.dropWhile fun c => c ≠ '=') = [] :=
    List.dropWhile_eq_nil_iff.2 fun c hc => decide_eq_true fun heq => h (heq ▸ hc)
  simp only [confPair, hrest]

theorem confPair_of_sign {before : String} (value : String) (h : '=' ∉ before.toList) :
    confPair (before ++ "=" ++ value) =
      if before.toList.all isBlank then .error (.pairWithoutKey (before ++ "=" ++ value))
      else .ok (trim before, value) := by
  have hentry : (before ++ "=" ++ value).toList = before.toList ++ '=' :: value.toList := by simp
  have hkinds : ∀ c ∈ before.toList, decide (c ≠ '=') = true :=
    fun c hc => decide_eq_true fun heq => h (heq ▸ hc)
  have htake : ((before ++ "=" ++ value).toList.takeWhile fun c => c ≠ '=') = before.toList :=
    takeWhile_eq_iff.2 ⟨'=' :: value.toList, hentry, hkinds, by simp⟩
  have hdrop : ((before ++ "=" ++ value).toList.dropWhile fun c => c ≠ '=') = '=' :: value.toList :=
    dropWhile_eq_iff.2 ⟨before.toList, hentry, hkinds, by simp⟩
  simp only [confPair, htake, hdrop, String.ofList_toList]
  rfl

theorem trim_eq_iff {s t : String} : trim s = t ↔ TrimsTo s.toList t.toList := by
  rw [← trimChars_eq_iff, trim, ← String.toList_inj, String.toList_ofList]

theorem trim_eq_empty_iff {s : String} : trim s = "" ↔ s.toList.all isBlank = true := by
  rw [List.all_eq_true]
  constructor
  · intro h c hc
    obtain ⟨before, after, hs, hbefore, hafter, -⟩ := trim_eq_iff.1 h
    rw [hs] at hc
    simp only [String.toList_empty, List.append_nil, List.mem_append] at hc
    exact hc.elim (hbefore c) (hafter c)
  · intro h
    rw [trim, trimChars_of_blank h, String.ofList_nil]

/-- What an entry comes to, with a case for each way through it. -/
theorem confPair_cases (entry : String) :
    (∃ m, confPair entry = .error m ∧ Unfit entry m) ∨
      ∃ name value, confPair entry = .ok (name, value) ∧ Sets entry name value := by
  by_cases hsign : '=' ∈ entry.toList
  · obtain ⟨before, value, rfl, hbefore⟩ := exists_first_sign hsign
    rw [confPair_of_sign value hbefore]
    split_ifs with hblank
    · exact .inl ⟨_, rfl, .noName before value rfl (List.all_eq_true.1 hblank)⟩
    · exact .inr ⟨_, value, rfl, before, rfl, hbefore, trim_eq_iff.1 rfl, mt trim_eq_empty_iff.1 hblank⟩
  · exact .inl ⟨_, confPair_of_noSign hsign, .noSign hsign⟩

theorem confPair_eq_ok_iff {entry name value : String} :
    confPair entry = .ok (name, value) ↔ Sets entry name value := by
  constructor
  · intro h
    rcases confPair_cases entry with ⟨m, herror, -⟩ | ⟨name', value', hok, hsets⟩
    · cases herror.symm.trans h
    · obtain ⟨rfl, rfl⟩ := Prod.mk.inj (Except.ok.inj (hok.symm.trans h))
      exact hsets
  · rintro ⟨before, rfl, hbefore, htrim, hname⟩
    obtain rfl := trim_eq_iff.2 htrim
    rw [confPair_of_sign value hbefore, if_neg (mt trim_eq_empty_iff.2 hname)]

theorem confPair_eq_error_iff {entry : String} {m : Misuse} :
    confPair entry = .error m ↔ Unfit entry m := by
  constructor
  · intro h
    rcases confPair_cases entry with ⟨m', herror, hunfit⟩ | ⟨name, value, hok, -⟩
    · obtain rfl := Except.error.inj (herror.symm.trans h)
      exact hunfit
    · cases hok.symm.trans h
  · rintro (hsign | ⟨before, value, rfl, hblank⟩)
    · exact confPair_of_noSign hsign
    · have hbefore : '=' ∉ before.toList := fun hmem => absurd (hblank _ hmem) (by decide)
      rw [confPair_of_sign value hbefore, if_pos (List.all_eq_true.2 hblank)]

theorem Sets.unique {entry name name' value value' : String} (h : Sets entry name value)
    (h' : Sets entry name' value') : name = name' ∧ value = value' := by
  rw [← confPair_eq_ok_iff] at h h'
  exact Prod.mk.inj (Except.ok.inj (h.symm.trans h'))

theorem Unfit.not_sets {entry name value : String} {m : Misuse} (h : Unfit entry m) :
    ¬ Sets entry name value := by
  rw [← confPair_eq_ok_iff, confPair_eq_error_iff.2 h]
  nofun

/-- The misuse names the entry. -/
theorem Unfit.message_eq {entry : String} {m : Misuse} (h : Unfit entry m) :
    m.message = "Invalid conf entry: '" ++ entry ++ "' (expected key=value)" ∨
      m.message = "Invalid conf entry: '" ++ entry ++ "' (empty key)" := by
  cases h with
  | noSign => exact .inl rfl
  | noName => exact .inr rfl

/-! ## All entries -/

/-- Settings after more of them are made. -/
def settled (conf pairs : List (String × String)) : List (String × String) :=
  pairs.foldl (fun conf p => putConf conf p.1 p.2) conf

theorem confPairs_eq (entries : List String) :
    confPairs entries = (entries.mapM confPair).map (settled []) := by
  unfold confPairs
  generalize ([] : List (String × String)) = conf
  induction entries generalizing conf with
  | nil => rfl
  | cons entry entries ih =>
      rw [List.foldlM_cons, List.mapM_cons]
      cases confPair entry with
      | error m => rfl
      | ok p =>
          refine (ih (putConf conf p.1 p.2)).trans ?_
          cases entries.mapM confPair <;> rfl

theorem confPairs_eq_ok_iff {entries : List String} {conf : List (String × String)} :
    confPairs entries = .ok conf ↔
      ∃ pairs, List.Forall₂ (fun entry p => Sets entry p.1 p.2) entries pairs ∧ settled [] pairs = conf := by
  simp only [← confPair_eq_ok_iff, ← mapM_eq_ok_iff, confPairs_eq]
  cases entries.mapM confPair with
  | error m => exact iff_of_false nofun (by simp)
  | ok pairs => simp [Except.map]

theorem confPairs_eq_error_iff {entries : List String} {m : Misuse} :
    confPairs entries = .error m ↔
      ∃ earlier entry later, entries = earlier ++ entry :: later ∧
        (∀ e ∈ earlier, ∃ name value, Sets e name value) ∧ Unfit entry m := by
  have hread (e : String) : (∃ name value, Sets e name value) ↔ ∃ p, confPair e = .ok p := by
    simp only [← confPair_eq_ok_iff, Prod.exists]
  simp only [hread, ← confPair_eq_error_iff, ← mapM_eq_error_iff, confPairs_eq]
  cases entries.mapM confPair with
  | error m' => simp [Except.map]
  | ok pairs => exact iff_of_false (fun h => nomatch h) (fun h => nomatch h)

/-- Making a setting writes a field. -/
theorem named_putConf (conf : List (String × String)) (name value : String) :
    (putConf conf name value).map (fun p => (p.1, Json.str p.2)) =
      Json.Fields.put (conf.map fun p => (p.1, Json.str p.2)) name (.str value) := by
  induction conf with
  | nil => rfl
  | cons p conf ih =>
      rw [putConf, List.map_cons, Json.Fields.put]
      split_ifs <;> simp [ih]

theorem lookup_putConf (conf : List (String × String)) (name value other : String) :
    (putConf conf name value).lookup other = if other = name then some value else conf.lookup other := by
  have hfield := Json.Fields.get?_put (conf.map fun p => (p.1, Json.str p.2)) name other (.str value)
  rw [← named_putConf, Json.get?_named, Json.get?_named] at hfield
  refine Option.map_injective (fun _ _ => Json.str.inj) (hfield.trans ?_)
  split_ifs <;> rfl

theorem names_putConf (conf : List (String × String)) (name value : String) :
    (putConf conf name value).map Prod.fst =
      if name ∈ conf.map Prod.fst then conf.map Prod.fst else conf.map Prod.fst ++ [name] := by
  have hnames := Json.Fields.names_put (conf.map fun p => (p.1, Json.str p.2)) name (.str value)
  rw [← named_putConf, List.map_map, List.map_map] at hnames
  exact hnames

theorem nodup_putConf {conf : List (String × String)} (h : (conf.map Prod.fst).Nodup) (name value : String) :
    ((putConf conf name value).map Prod.fst).Nodup := by
  rw [names_putConf]
  split_ifs with hname
  · exact h
  · exact List.nodup_append.2 ⟨h, List.nodup_singleton _, by
      rintro a ha _ hb rfl
      exact hname (List.mem_singleton.1 hb ▸ ha)⟩

theorem nodup_settled {conf : List (String × String)} (h : (conf.map Prod.fst).Nodup)
    (pairs : List (String × String)) : ((settled conf pairs).map Prod.fst).Nodup := by
  induction pairs generalizing conf with
  | nil => exact h
  | cons p pairs ih => exact ih (nodup_putConf h p.1 p.2)

theorem mem_names_settled {conf pairs : List (String × String)} {name : String} :
    name ∈ (settled conf pairs).map Prod.fst ↔
      name ∈ conf.map Prod.fst ∨ name ∈ pairs.map Prod.fst := by
  induction pairs generalizing conf with
  | nil => simp [settled]
  | cons p pairs ih =>
      refine ih.trans ?_
      rw [names_putConf, List.map_cons, List.mem_cons]
      split_ifs with hname
      · have hold : name = p.1 → name ∈ conf.map Prod.fst := fun heq => heq ▸ hname
        tauto
      · rw [List.mem_append, List.mem_singleton, or_assoc]

/-- The setting that is made last counts. -/
theorem lookup_settled (conf pairs : List (String × String)) (name : String) :
    (settled conf pairs).lookup name = (pairs.reverse.lookup name).or (conf.lookup name) := by
  induction pairs generalizing conf with
  | nil => rfl
  | cons p pairs ih =>
      refine (ih (putConf conf p.1 p.2)).trans ?_
      rw [lookup_putConf, List.reverse_cons, List.lookup_append, List.lookup_singleton, Option.or_assoc]
      by_cases hname : name = p.1 <;> simp [hname]

theorem lookup_settled_eq_some_iff {pairs : List (String × String)} {name value : String} :
    (settled [] pairs).lookup name = some value ↔
      ∃ earlier later, pairs = earlier ++ (name, value) :: later ∧ ∀ p ∈ later, p.1 ≠ name := by
  rw [lookup_settled, List.lookup_nil, Option.or_none, List.lookup_eq_some_iff]
  constructor
  · rintro ⟨later, earlier, hpairs, hlater⟩
    refine ⟨earlier.reverse, later.reverse, ?_, fun p hp => ?_⟩
    · rw [← List.reverse_reverse pairs, hpairs]
      simp
    · have := hlater p (List.mem_reverse.1 hp)
      exact fun heq => by simp [heq] at this
  · rintro ⟨earlier, later, rfl, hlater⟩
    refine ⟨later.reverse, earlier.reverse, by simp, fun p hp => ?_⟩
    simpa using Ne.symm (hlater p (List.mem_reverse.1 hp))

theorem putConf_of_notMem {conf : List (String × String)} {name : String} (value : String)
    (h : name ∉ conf.map Prod.fst) : putConf conf name value = conf ++ [(name, value)] := by
  induction conf with
  | nil => rfl
  | cons p conf ih =>
      rw [List.map_cons, List.mem_cons, not_or] at h
      rw [putConf, if_neg (Ne.symm h.1), ih h.2, List.cons_append]

/-- Settings with different names are made one after the other. -/
theorem settled_of_nodup {conf pairs : List (String × String)} (h : ((conf ++ pairs).map Prod.fst).Nodup) :
    settled conf pairs = conf ++ pairs := by
  induction pairs generalizing conf with
  | nil => exact (List.append_nil conf).symm
  | cons p pairs ih =>
      have hnew : p.1 ∉ conf.map Prod.fst := by
        rw [List.map_append, List.map_cons, List.nodup_append] at h
        exact fun hmem => h.2.2 p.1 hmem p.1 List.mem_cons_self rfl
      rw [List.append_cons] at h ⊢
      rw [← ih h, ← putConf_of_notMem p.2 hnew]
      rfl

theorem lookup_eq_some_iff_mem {conf : List (String × String)} (h : (conf.map Prod.fst).Nodup)
    {name value : String} : conf.lookup name = some value ↔ (name, value) ∈ conf := by
  constructor
  · intro hlookup
    obtain ⟨before, after, rfl, -⟩ := List.lookup_eq_some_iff.1 hlookup
    exact List.mem_append_right before List.mem_cons_self
  · exact lookup_of_mem h

theorem lookup_eq_of_perm {conf conf' : List (String × String)} (hperm : conf'.Perm conf)
    (h : (conf.map Prod.fst).Nodup) (name : String) : conf'.lookup name = conf.lookup name := by
  have h' : (conf'.map Prod.fst).Nodup := (hperm.map Prod.fst).nodup_iff.2 h
  refine Option.ext fun value => ?_
  rw [lookup_eq_some_iff_mem h', lookup_eq_some_iff_mem h, hperm.mem_iff]

/-- A name is set to a value by an entry, and by none after it. -/
def SetLast (entries : List String) (name value : String) : Prop :=
  ∃ earlier entry later, entries = earlier ++ entry :: later ∧ Sets entry name value ∧
    ∀ e ∈ later, ∀ other, ¬ Sets e name other

theorem setLast_iff {entries : List String} {pairs : List (String × String)}
    (h : List.Forall₂ (fun entry p => Sets entry p.1 p.2) entries pairs) {name value : String} :
    SetLast entries name value ↔
      ∃ earlier later, pairs = earlier ++ (name, value) :: later ∧ ∀ p ∈ later, p.1 ≠ name := by
  constructor
  · rintro ⟨earlier, entry, later, rfl, hsets, hlater⟩
    obtain ⟨before, p, after, rfl, -, hp, hafter⟩ := exists_forall₂_of_append h.flip
    obtain ⟨hname, hvalue⟩ := Sets.unique hp hsets
    refine ⟨before, after, by rw [← hname, ← hvalue], ?_⟩
    rintro q hq rfl
    obtain ⟨e, he, hsets'⟩ := exists_of_mem_left hafter hq
    exact hlater e he q.2 hsets'
  · rintro ⟨earlier, later, rfl, hlater⟩
    obtain ⟨before, entry, after, rfl, -, hsets, hafter⟩ := exists_forall₂_of_append h
    refine ⟨before, entry, after, rfl, hsets, fun e he other hother => ?_⟩
    obtain ⟨p, hp, hsets'⟩ := exists_of_mem_left hafter he
    exact hlater p hp (hsets'.unique hother).1

theorem sets_entryOf {conf : List (String × String)} (h : Writable conf) {p : String × String}
    (hp : p ∈ conf) : Sets (entryOf p) p.1 p.2 :=
  ⟨p.1, rfl, h.unsigned p hp, ⟨[], [], by simp, nofun, nofun, h.trimmed p hp⟩, h.named p hp⟩

/-- What some entries set, or the misuse that one of them sets nothing. -/
structure ConfTold (entries : List String) : Prop where
  refused_iff : (∃ m, confPairs entries = .error m) ↔ ∃ entry ∈ entries, ∃ m, Unfit entry m
  /-- The first entry that sets nothing is named. -/
  first : ∀ m, confPairs entries = .error m → ∃ earlier entry later, entries = earlier ++ entry :: later ∧
    (∀ e ∈ earlier, ∃ name value, Sets e name value) ∧ Unfit entry m ∧
    (m.message = "Invalid conf entry: '" ++ entry ++ "' (expected key=value)" ∨
      m.message = "Invalid conf entry: '" ++ entry ++ "' (empty key)")
  names : ∀ conf, confPairs entries = .ok conf →
    ∀ name, name ∈ conf.map Prod.fst ↔ ∃ entry ∈ entries, ∃ value, Sets entry name value
  once : ∀ conf, confPairs entries = .ok conf → (conf.map Prod.fst).Nodup
  values : ∀ conf, confPairs entries = .ok conf →
    ∀ name value, conf.lookup name = some value ↔ SetLast entries name value
  /-- Settings that are written as these entries, in some order, are read back. -/
  readBack : ∀ conf, Writable conf → entries.Perm (conf.map entryOf) →
    ∃ conf', confPairs entries = .ok conf' ∧ conf'.Perm conf ∧ ∀ name, conf'.lookup name = conf.lookup name

/-- **What settings are made by entries.** -/
theorem confPairs_told (entries : List String) : ConfTold entries where
  refused_iff := by
    constructor
    · rintro ⟨m, h⟩
      obtain ⟨earlier, entry, later, rfl, -, hunfit⟩ := confPairs_eq_error_iff.1 h
      exact ⟨entry, by simp, m, hunfit⟩
    · rintro ⟨entry, hentry, m, hunfit⟩
      cases h : confPairs entries with
      | error m' => exact ⟨m', rfl⟩
      | ok conf =>
          obtain ⟨pairs, hpairs, -⟩ := confPairs_eq_ok_iff.1 h
          obtain ⟨p, -, hsets⟩ := exists_of_mem_left hpairs hentry
          exact absurd hsets hunfit.not_sets
  first m h := by
    obtain ⟨earlier, entry, later, hentries, hearlier, hunfit⟩ := confPairs_eq_error_iff.1 h
    exact ⟨earlier, entry, later, hentries, hearlier, hunfit, hunfit.message_eq⟩
  names conf h name := by
    obtain ⟨pairs, hpairs, rfl⟩ := confPairs_eq_ok_iff.1 h
    rw [mem_names_settled, List.map_nil, List.mem_nil_iff, false_or, List.mem_map]
    constructor
    · rintro ⟨p, hp, rfl⟩
      obtain ⟨entry, hentry, hsets⟩ := exists_of_mem_left hpairs.flip hp
      exact ⟨entry, hentry, p.2, hsets⟩
    · rintro ⟨entry, hentry, value, hsets⟩
      obtain ⟨p, hp, hsets'⟩ := exists_of_mem_left hpairs hentry
      exact ⟨p, hp, (hsets'.unique hsets).1⟩
  once conf h := by
    obtain ⟨pairs, -, rfl⟩ := confPairs_eq_ok_iff.1 h
    have hempty : (([] : List (String × String)).map Prod.fst).Nodup := List.nodup_nil
    exact nodup_settled hempty pairs
  values conf h name value := by
    obtain ⟨pairs, hpairs, rfl⟩ := confPairs_eq_ok_iff.1 h
    rw [lookup_settled_eq_some_iff, setLast_iff hpairs]
  readBack conf hconf hperm := by
    have hsets : List.Forall₂ (fun entry p => Sets entry p.1 p.2) (conf.map entryOf) conf := by
      rw [List.forall₂_map_left_iff, List.forall₂_same]
      exact fun p hp => sets_entryOf hconf hp
    obtain ⟨pairs, hpairs, hperm'⟩ := List.perm_comp_forall₂ hperm hsets
    have hnodup : (pairs.map Prod.fst).Nodup := (hperm'.map Prod.fst).nodup_iff.2 hconf.once
    refine ⟨pairs, confPairs_eq_ok_iff.2 ⟨pairs, hpairs, settled_of_nodup hnodup⟩, hperm', ?_⟩
    exact lookup_eq_of_perm hperm' hconf.once

/-- Two settings are read back from their entries in another order. -/
theorem confPairs_told_of_reordered :
    let conf := [("spark.driver.extraJavaOptions", "-Da=b"), ("x", " 1\t")]
    let entries := ["x= 1\t", "spark.driver.extraJavaOptions=-Da=b"]
    Writable conf ∧ entries.Perm (conf.map entryOf) ∧
      ∃ conf', confPairs entries = .ok conf' ∧ conf'.Perm conf ∧ conf'.lookup "x" = some " 1\t" := by
  intro conf entries
  have hconf : Writable conf := by
    constructor
    · decide
    · decide
    · simp [conf, IsTrimmed, isBlank]
    · decide
  have hperm : entries.Perm (conf.map entryOf) := by decide
  obtain ⟨conf', hread, hperm', hlookup⟩ := (confPairs_told entries).readBack conf hconf hperm
  exact ⟨hconf, hperm, conf', hread, hperm', hlookup "x"⟩

example : (confPairs [" x =1", "y==", "x=2"]).toOption = some [("x", "2"), ("y", "=")] := by
  decide +kernel

end SparkGateway.Workload
