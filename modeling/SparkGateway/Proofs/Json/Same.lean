import SparkGateway.Json.Reader

/-!
# Sameness of documents

Two documents that hold binary fractions cannot be told to be equal by computing, since a fraction that
is no number differs from itself.  Of documents without fractions it can be told (`same`), which shows
what document a given text holds (`parse?_of_same`).
-/

namespace SparkGateway.Json

mutual

/-- Whether two documents are the same and hold no binary fractions. -/
def same : Json → Json → Bool
  | .null, .null => true
  | .bool a, .bool b => a == b
  | .num (.whole a), .num (.whole b) => a == b
  | .str a, .str b => a == b
  | .arr vs, .arr ws => sameItems vs ws
  | .obj fs, .obj gs => sameFields fs gs
  | _, _ => false

/-- Whether two lists hold the same items in the same order. -/
def sameItems : List Json → List Json → Bool
  | [], [] => true
  | v :: vs, w :: ws => same v w && sameItems vs ws
  | _, _ => false

/-- Whether two lists of fields have the same names and values in the same order. -/
def sameFields : List (String × Json) → List (String × Json) → Bool
  | [], [] => true
  | (n, v) :: fs, (k, w) :: gs => n == k && same v w && sameFields fs gs
  | _, _ => false

end

mutual

theorem eq_of_same : ∀ {v w : Json}, same v w = true → v = w
  | .null, w, h => by
      cases w <;> simp [same] at h ⊢
  | .bool a, w, h => by
      cases w <;> simp [same] at h
      rw [h]
  | .num (.whole a), w, h => by
      cases w with
      | num n =>
          cases n <;> simp [same] at h
          rw [h]
      | _ => simp [same] at h
  | .num (.real x), w, h => by
      cases w <;> simp [same] at h
  | .str a, w, h => by
      cases w <;> simp [same] at h
      rw [h]
  | .arr vs, w, h => by
      cases w with
      | arr ws =>
          simp only [same] at h
          rw [eq_of_sameItems h]
      | _ => simp [same] at h
  | .obj fs, w, h => by
      cases w with
      | obj gs =>
          simp only [same] at h
          rw [eq_of_sameFields h]
      | _ => simp [same] at h

theorem eq_of_sameItems : ∀ {vs ws : List Json}, sameItems vs ws = true → vs = ws
  | [], ws, h => by
      cases ws <;> simp [sameItems] at h ⊢
  | v :: vs, ws, h => by
      cases ws with
      | nil => simp [sameItems] at h
      | cons w ws =>
          simp only [sameItems, Bool.and_eq_true] at h
          rw [eq_of_same h.1, eq_of_sameItems h.2]

theorem eq_of_sameFields : ∀ {fs gs : List (String × Json)}, sameFields fs gs = true → fs = gs
  | [], gs, h => by
      cases gs <;> simp [sameFields] at h ⊢
  | (n, v) :: fs, gs, h => by
      cases gs with
      | nil => simp [sameFields] at h
      | cons g gs =>
          simp only [sameFields, Bool.and_eq_true, beq_iff_eq] at h
          rw [h.1.1, eq_of_same h.1.2, eq_of_sameFields h.2]

end

/-- A text holds a document if reading it gives the same. -/
theorem parse?_of_same {text : String} {v : Json} (h : (parse? text).any (same v) = true) :
    parse? text = some v := by
  cases hread : parse? text with
  | none =>
      rw [hread] at h
      cases h
  | some w =>
      rw [hread] at h
      rw [eq_of_same h]

end SparkGateway.Json
