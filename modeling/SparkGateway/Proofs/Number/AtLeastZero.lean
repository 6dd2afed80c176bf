import SparkGateway.Number.Numeral
import SparkGateway.Proofs.Decimal.Unpacked

/-!
# Numbers at least zero

A number is at least zero if it can be compared with zero and is not below it (`le_zero_iff`).  What is
no number cannot be compared at all, so it is neither below zero nor at least zero.

The only numerals that stand for no number are those that say so: the word `nan` in any case, with or
without a sign (`isNaN_float?_iff`).
-/

namespace SparkGateway

open Decimal Float.Model

/-- Whether a value is below zero. -/
def Decimal.Value.isBelowZero : Value → Bool
  | .nan => false
  | .infinite negative => negative
  | .finite negative m _ => negative && m != 0

namespace Number

/-- A number can be compared with zero and is not below it. -/
def AtLeastZero (a : Number) : Prop := le (.whole 0) a = true

/-! ## Comparisons with zero -/

theorem unpack_zero : (0.0 : Float).toModel.unpack = .zero .positive := rfl

theorem lt_zero_iff (x : Float) : x < 0.0 ↔ (Value.ofFloat x).isBelowZero = true := by
  have hlt : x < 0.0 ↔ x.toModel.unpack.lt (0.0 : Float).toModel.unpack = true := by
    show decide (x.toModel < (0.0 : Float).toModel) = true ↔ _
    rw [decide_eq_true_iff]
    rfl
  rw [hlt, unpack_zero, ofFloat_eq]
  cases x.toModel.unpack with
  | notANumber => decide
  | infinity s => cases s <;> decide
  | zero s => cases s <;> decide
  | finite s m e hm =>
      cases s <;> simp [Value.ofUnpacked, Value.isBelowZero, isMinus, UnpackedFloat.lt,
        UnpackedFloat.compare, hm.ne']

/-- What is no number is not below zero. -/
theorem isNaN_of_lt_zero {x : Float} (h : x < 0.0) : x.isNaN = false := by
  rw [Bool.eq_false_iff, Ne, ← ofFloat_eq_nan_iff]
  intro hnan
  rw [lt_zero_iff, hnan] at h
  cases h

theorem order_zero_finite (negative : Bool) (m : Nat) (e : Int) :
    Value.order (.finite false 0 0) (.finite negative m e) =
      some (compare 0 (if negative then -((m * twoTo (e - min 0 e).toNat : Nat) : Int)
        else (m * twoTo (e - min 0 e).toNat : Nat))) := by
  simp [Value.order]

theorem atLeastZero_iff (a : Number) :
    a.AtLeastZero ↔ a.value ≠ .nan ∧ a.value.isBelowZero = false := by
  show (Value.order (.finite false 0 0) a.value == some .lt ||
    Value.order (.finite false 0 0) a.value == some .eq) = true ↔ _
  cases a.value with
  | nan => decide
  | infinite negative => cases negative <;> decide
  | finite negative m e =>
      have hunit : 0 < twoTo (e - min 0 e).toNat := Nat.two_pow_pos _
      have hzero : m * twoTo (e - min 0 e).toNat = 0 ↔ m = 0 := by
        rw [Nat.mul_eq_zero, or_iff_left hunit.ne']
      rw [order_zero_finite]
      generalize m * twoTo (e - min 0 e).toNat = units at *
      rw [Bool.or_eq_true, beq_iff_eq, beq_iff_eq, Option.some_inj, Option.some_inj, compare_lt_iff_lt,
        compare_eq_iff_eq]
      cases negative
      · simp [Value.isBelowZero]
        omega
      · simp [Value.isBelowZero, ← hzero]

theorem atLeastZero_whole_iff (n : Int) : (whole n).AtLeastZero ↔ 0 ≤ n := by
  rw [AtLeastZero, le, order_whole, Bool.or_eq_true, beq_iff_eq, beq_iff_eq, Option.some_inj,
    Option.some_inj, compare_lt_iff_lt, compare_eq_iff_eq]
  exact Int.le_iff_lt_or_eq.symm

theorem atLeastZero_real_iff (x : Float) : (real x).AtLeastZero ↔ x.isNaN = false ∧ ¬ x < 0.0 := by
  rw [atLeastZero_iff, lt_zero_iff, Bool.not_eq_true, ← Bool.not_eq_true x.isNaN, ← ofFloat_eq_nan_iff]
  rfl

end Number

/-! ## Numerals that stand for no number -/

namespace Numeral

/-- A text without its sign, in lower case. -/
def word (cs : List Char) : String := String.ofList ((sign cs).2.map Char.toLower)

/-- A numeral is the word `nan` in any case, with or without a sign. -/
def SaysNaN (s : String) : Prop := word (normal s) = "nan"

instance (s : String) : Decidable (SaysNaN s) := inferInstanceAs (Decidable (_ = _))

theorem isNaN_fraction? {negative : Bool} {cs : List Char} {x : Float}
    (h : fraction? negative cs = some x) : x.isNaN = false := by
  unfold fraction? at h
  simp only at h
  split_ifs at h
  obtain ⟨e, -, rfl⟩ := Option.map_eq_some_iff.1 h
  exact isNaN_nearestDecimal _ _ _

theorem isNaN_signed?_iff {cs : List Char} {x : Float} (h : signed? cs = some x) :
    x.isNaN = true ↔ word cs = "nan" := by
  unfold signed? at h
  simp only at h
  split_ifs at h with hinf hnan
  · refine iff_of_false ?_ ?_
    · rw [← Option.some.inj h, isNaN_nearest _ _ Nat.one_pos]
      exact Bool.false_ne_true
    · rcases hinf with hinf | hinf <;> rw [word, hinf] <;> decide
  · rw [← Option.some.inj h]
    exact iff_of_true rfl hnan
  · exact iff_of_false (by rw [isNaN_fraction? h]; exact Bool.false_ne_true) hnan

theorem isNaN_of_signed? {cs : List Char} (h : word cs = "nan") :
    ∃ x, signed? cs = some x ∧ x.isNaN = true := by
  refine ⟨Float.ofBits 0x7FF8000000000000, ?_, rfl⟩
  rw [word] at h
  simp [signed?, h]

/-- The characters that may stand in a numeral which says that it is no number. -/
theorem mem_of_saysNaN {cs : List Char} (h : word cs = "nan") {c : Char}
    (hc : c ∈ cs) : c = '-' ∨ c = '+' ∨ c.toLower = 'n' ∨ c.toLower = 'a' := by
  have hword : (sign cs).2.map Char.toLower = ['n', 'a', 'n'] := by
    rw [← String.toList_ofList (l := (sign cs).2.map Char.toLower), ← word, h]
    rfl
  have hbody (hmem : c ∈ (sign cs).2) : c.toLower = 'n' ∨ c.toLower = 'a' := by
    have := List.mem_map_of_mem (f := Char.toLower) hmem
    rw [hword] at this
    simp only [List.mem_cons, List.not_mem_nil, or_false] at this
    tauto
  unfold sign at hbody
  split at hbody
  · rcases List.mem_cons.1 hc with rfl | hc
    · exact .inl rfl
    · exact .inr (.inr (hbody hc))
  · rcases List.mem_cons.1 hc with rfl | hc
    · exact .inr (.inl rfl)
    · exact .inr (.inr (hbody hc))
  · exact .inr (.inr (hbody hc))

theorem toLower_of_isDigit {c : Char} (h : c.isDigit = true) : c.toLower = c := by
  have hrange : 48 ≤ c.toNat ∧ c.toNat ≤ 57 := Char.isDigit_iff_toNat.1 h
  refine dif_neg fun hupper => ?_
  have hA : 65 ≤ c.toNat := UInt32.le_iff_toNat_le.1 hupper.1
  omega

/-- What is a letter in lower case is no digit. -/
theorem isDigit_of_toLower {c d : Char} (h : c.toLower = d) (hd : d.isDigit = false) :
    c.isDigit = false := by
  rw [Bool.eq_false_iff]
  intro hc
  rw [toLower_of_isDigit hc] at h
  rw [h, hd] at hc
  cases hc

/-- A text without underscores is left alone. -/
theorem dropUnderscores_eq_some (afterDigit : Bool) {cs : List Char} (h : '_' ∉ cs) :
    dropUnderscores afterDigit cs = some cs := by
  fun_induction dropUnderscores afterDigit cs with
  | case1 => rfl
  | case2 => simp at h
  | case3 => simp at h
  | case4 => simp at h
  | case5 afterDigit c cs hc ih => simp_all

/-- Underscores are only dropped after digits, so without digits nothing is. -/
theorem eq_of_dropUnderscores {cs ds : List Char} (h : dropUnderscores false cs = some ds)
    (hds : ∀ c ∈ ds, c.isDigit = false) : ds = cs := by
  generalize hb : false = afterDigit at h
  fun_induction dropUnderscores afterDigit cs generalizing ds with
  | case1 =>
      cases h
      rfl
  | case2 afterDigit c cs hdigit ih =>
      rw [← hb] at hdigit
      cases hdigit
  | case3 => cases h
  | case4 => cases h
  | case5 afterDigit c cs hunder hc ih =>
      obtain ⟨rest, hrest, rfl⟩ := Option.map_eq_some_iff.1 h
      have hnodigit : c.isDigit = false := hds c List.mem_cons_self
      rw [ih (fun d hd => hds d (List.mem_cons_of_mem c hd)) hnodigit.symm hrest]

/-- A numeral stands for no number exactly if it says so. -/
theorem isNaN_float?_iff (s : String) : (∃ x, float? s = some x ∧ x.isNaN = true) ↔ SaysNaN s := by
  constructor
  · rintro ⟨x, hx, hnan⟩
    obtain ⟨cs, hcs, hx⟩ := Option.bind_eq_some_iff.1 hx
    have hspelled := (isNaN_signed?_iff hx).1 hnan
    have heq : cs = normal s := eq_of_dropUnderscores hcs fun c hc => by
      rcases mem_of_saysNaN hspelled hc with rfl | rfl | hc | hc
      · rfl
      · rfl
      · exact isDigit_of_toLower hc rfl
      · exact isDigit_of_toLower hc rfl
    rwa [heq] at hspelled
  · intro h
    obtain ⟨x, hx, hnan⟩ := isNaN_of_signed? h
    refine ⟨x, ?_, hnan⟩
    have hdrop : dropUnderscores false (normal s) = some (normal s) := by
      refine dropUnderscores_eq_some false fun hmem => ?_
      rcases mem_of_saysNaN h hmem with h | h | h | h <;> exact absurd h (by decide)
    simp [float?, hdrop, hx]

end Numeral

end SparkGateway
