import SparkGateway.Statement.Result
import SparkGateway.Proofs.Exchange.Answers

/-!
# Outputs

An output holds the result of a statement in its fields.  Only the status has to be there, as a text.  The
count, the name and the message of an error are taken as they are, also if they are missing; data that
say nothing are no data, and a trace that says nothing has no lines (`Holds`).  A trace need not be a list,
but it must have items.

Main statement: `ofFields_eq_iff` (what becomes of an output is told by its fields).
-/

namespace SparkGateway.Statement

/-- A value that says nothing: there is none, or it is false, zero or empty. -/
inductive SaysNothing : Json → Prop where
  | none : SaysNothing .null
  | false : SaysNothing (.bool false)
  | zero {n : Number} : n.isZero = true → SaysNothing (.num n)
  | text : SaysNothing (.str "")
  | list : SaysNothing (.arr [])
  | fields : SaysNothing (.obj [])

/-- The lines that a value stands for: the items of a list, the characters of a text, the names of
fields. -/
inductive HasLines : Json → List Json → Prop where
  | nothing {v : Json} : SaysNothing v → HasLines v []
  | list (items : List Json) : HasLines (.arr items) items
  | text (s : String) : HasLines (.str s) (s.toList.map fun c => .str (String.singleton c))
  | fields (fields : Json.Fields) : HasLines (.obj fields) (fields.map fun f => .str f.1)

/-- The fields of an output hold a result. -/
structure Holds (fields : Json.Fields) (r : Result) : Prop where
  status : fields.get "status" = .str r.status
  data : ¬ SaysNothing (fields.get "data") ∧ r.data = fields.get "data" ∨
    SaysNothing (fields.get "data") ∧ r.data = .obj []
  executionCount : r.executionCount = fields.get "execution_count"
  errorName : r.errorName = fields.get "ename"
  errorValue : r.errorValue = fields.get "evalue"
  traceback : HasLines (fields.get "traceback") r.traceback

/-- What becomes of an output that came with a reply. -/
inductive Decodes (found : Reply) (fields : Json.Fields) : Except Stop Result → Prop where
  | result {r : Result} : Holds fields r → Decodes found fields (.ok r)
  | lineless {status : String} : fields.get "status" = .str status →
      (fields.get "traceback").Unlistable → Decodes found fields (.error (.misfit .wrongKind))
  | statusless : (∀ status, fields.get "status" ≠ .str status) →
      Decodes found fields (.error (.fault (found.malformed "Statement output has no status")))

theorem saysNothing_iff {v : Json} : SaysNothing v ↔ v.given = false := by
  constructor
  · rintro (_ | _ | hzero | _ | _ | _) <;> simp [Json.given, *]
  · intro h
    cases v with
    | null => exact .none
    | bool b =>
        obtain rfl : b = false := h
        exact .false
    | num n => exact .zero (by simpa [Json.given] using h)
    | str s =>
        obtain rfl : s = "" := by simpa [Json.given] using h
        exact .text
    | arr items =>
        obtain rfl : items = [] := by simpa [Json.given] using h
        exact .list
    | obj fields =>
        obtain rfl : fields = [] := by simpa [Json.given] using h
        exact .fields

/-- A value without lines is one that has no items where it counts as given. -/
theorem hasLines_iff {v : Json} {lines : List Json} : HasLines v lines ↔ v.itemsIfGiven = .ok lines := by
  unfold Json.itemsIfGiven
  constructor
  · intro h
    cases h with
    | nothing hnothing => rw [if_neg (by simp [saysNothing_iff.1 hnothing])]
    | list => cases lines <;> rfl
    | text s =>
        by_cases hs : s = ""
        · subst hs
          rfl
        · rw [if_pos (by simpa [Json.given] using hs)]
          rfl
    | fields fields => cases fields <;> rfl
  · intro h
    split at h
    · cases v with
      | arr items =>
          obtain rfl := Except.ok.inj h
          exact .list items
      | str s =>
          obtain rfl := Except.ok.inj h
          exact .text s
      | obj fields =>
          obtain rfl := Except.ok.inj h
          exact .fields fields
      | _ => cases h
    · next hgiven =>
        obtain rfl := Except.ok.inj h
        exact .nothing (saysNothing_iff.2 (by simpa using hgiven))

theorem orElse_eq_iff {v default w : Json} :
    v.orElse default = w ↔ ¬ SaysNothing v ∧ w = v ∨ SaysNothing v ∧ w = default := by
  unfold Json.orElse
  rw [saysNothing_iff]
  cases v.given <;> simp [eq_comm]

theorem ofFields_of_status {found : Reply} {fields : Json.Fields} {status : String}
    (h : fields.get "status" = .str status) :
    Result.ofFields found fields =
      ((fields.get "traceback").itemsIfGiven.mapError Stop.misfit).map fun lines =>
        ⟨status, (fields.get "data").orElse (.obj []), fields.get "execution_count", fields.get "ename",
          fields.get "evalue", lines⟩ := by
  unfold Result.ofFields
  rw [h]
  rfl

theorem ofFields_of_statusless {found : Reply} {fields : Json.Fields}
    (h : ∀ status, fields.get "status" ≠ .str status) :
    Result.ofFields found fields =
      .error (.fault (found.malformed "Statement output has no status")) := by
  unfold Result.ofFields
  split
  · next status hstatus => exact absurd hstatus (h status)
  · rfl

theorem Holds.ofFields {found : Reply} {fields : Json.Fields} {r : Result} (h : Holds fields r) :
    Result.ofFields found fields = .ok r := by
  obtain ⟨status, data, executionCount, errorName, errorValue, traceback⟩ := r
  obtain ⟨hstatus, hdata, rfl, rfl, rfl, hlines⟩ := h
  rw [ofFields_of_status hstatus, hasLines_iff.1 hlines, orElse_eq_iff.2 hdata]
  rfl

/-- What becomes of an output is told by its fields. -/
theorem ofFields_eq_iff {found : Reply} {fields : Json.Fields} {r : Except Stop Result} :
    Result.ofFields found fields = r ↔ Decodes found fields r := by
  constructor
  · rintro rfl
    by_cases hstatus : ∃ status, fields.get "status" = .str status
    · obtain ⟨status, hstatus⟩ := hstatus
      rw [ofFields_of_status hstatus]
      by_cases hlines : (fields.get "traceback").Unlistable
      · rw [Json.itemsIfGiven_of_unlistable hlines]
        exact .lineless hstatus hlines
      · obtain ⟨lines, hlines⟩ := Json.itemsIfGiven_of_not_unlistable hlines
        rw [hlines]
        exact .result ⟨hstatus, orElse_eq_iff.1 rfl, rfl, rfl, rfl, hasLines_iff.2 hlines⟩
    · have hnone : ∀ status, fields.get "status" ≠ .str status := fun status h => hstatus ⟨status, h⟩
      rw [ofFields_of_statusless hnone]
      exact .statusless hnone
  · rintro (hholds | ⟨hstatus, hlines⟩ | hnone)
    · exact hholds.ofFields
    · rw [ofFields_of_status hstatus, Json.itemsIfGiven_of_unlistable hlines]
      rfl
    · exact ofFields_of_statusless hnone

end SparkGateway.Statement
