import SparkGateway.Command.Batches
import SparkGateway.Proofs.Number.AtLeastZero

/-!
# Usable settings

The settings of a command can be used if an operation is tried at least once, and if the pause, the time
for one request and the time for which a page is kept are at least zero.

What the environment says is brought into these bounds: a count is raised to one, and an amount of
seconds to zero.  There is one way past the bounds in each source.  A numeral in the environment that
says that it is no number cannot be compared with zero, so it is not raised.  And what is overridden is
taken as it is.  Settings are usable exactly if neither happens (`Effective.usable`).
-/

namespace SparkGateway

namespace Settings

open Number Command

/-- Settings with which every operation is tried, and which hold no negative time. -/
structure Usable (s : Settings) : Prop where
  attempts : 1 ≤ s.attempts
  pause : s.pause.AtLeastZero
  timeout : s.timeout.AtLeastZero
  pageLifetime : s.pageLifetime.AtLeastZero

/-- The environment has a setting that says that it is no number. -/
def SaysNaN (environment : List (String × String)) (name : String) : Prop :=
  ∃ raw, value? environment name = some raw ∧ Numeral.SaysNaN raw

/-- An amount is at least zero if it is overridden, and does not say that it is no number if it is
not. -/
def Sound (environment : List (String × String)) (name : String) : Option Number → Prop
  | some a => a.AtLeastZero
  | none => ¬ SaysNaN environment name

/-- How the numbers among the settings come from the environment and from what overrides it. -/
structure Effective (environment : List (String × String)) (o : Overrides) (s : Settings) : Prop where
  /-- The settings are usable exactly if every number that is overridden is in its bounds, and no other
  amount in the environment says that it is no number. -/
  usable : s.Usable ↔ (∀ n, o.attempts = some n → 1 ≤ n) ∧
    Sound environment "DELAY_SECONDS" o.pause ∧ Sound environment "TIMEOUT" o.timeout ∧
    Sound environment "PAGE_CACHE_TTL" o.pageLifetime
  /-- With at least one attempt an operation is tried, -/
  tried : 1 ≤ s.attempts → ∀ {σ α : Type} (what : String) (operation : Run σ Number (Option α)),
    (pollingOf s).seek what operation = (pollingOf s).tries what operation s.attempts.toNat none
  /-- and without one it is refused. -/
  refused : s.attempts < 1 → ∀ {σ α : Type} (what : String) (operation : Run σ Number (Option α)),
    (pollingOf s).seek what operation = Run.stop (.misuse .noAttempts)
  /-- Numbers in the environment that are missing or cannot be read give way to the defaults. -/
  attempts : o.attempts = none → (value? environment "RETRIES_MAX").bind Numeral.int? = none →
    s.attempts = 3
  pause : o.pause = none → (value? environment "DELAY_SECONDS").bind Numeral.float? = none →
    s.pause = .whole 10
  timeout : o.timeout = none → (value? environment "TIMEOUT").bind Numeral.float? = none →
    s.timeout = .whole 30
  pageLifetime : o.pageLifetime = none →
    (value? environment "PAGE_CACHE_TTL").bind Numeral.float? = none → s.pageLifetime = .whole 300

/-! ## What the environment says -/

/-- A fraction that is raised to zero is at least zero unless it is no number. -/
theorem atLeastZero_atLeastZero_iff (x : Float) : (atLeastZero x).AtLeastZero ↔ x.isNaN = false := by
  unfold atLeastZero
  split_ifs with h
  · exact iff_of_true ((atLeastZero_real_iff 0.0).2 ⟨rfl, by decide⟩) (isNaN_of_lt_zero h)
  · rw [atLeastZero_real_iff, and_iff_left h]

theorem amount_of_unreadable {environment : List (String × String)} {name : String} (default : Number)
    (h : (value? environment name).bind Numeral.float? = none) :
    amount environment name default = default := by
  rw [amount, h]

/-- An amount in the environment is at least zero unless it says that it is no number. -/
theorem atLeastZero_amount_iff (environment : List (String × String)) (name : String) {default : Number}
    (hdefault : default.AtLeastZero) :
    (amount environment name default).AtLeastZero ↔ ¬ SaysNaN environment name := by
  cases hraw : value? environment name with
  | none =>
      rw [amount_of_unreadable default (by rw [hraw]; rfl)]
      refine iff_of_true hdefault ?_
      rintro ⟨raw, h, -⟩
      rw [hraw] at h
      cases h
  | some raw =>
      have hspelled : SaysNaN environment name ↔ Numeral.SaysNaN raw := by
        simp [SaysNaN, hraw]
      rw [hspelled, ← Numeral.isNaN_float?_iff]
      cases hread : Numeral.float? raw with
      | none =>
          rw [amount_of_unreadable default (by rw [hraw]; exact hread)]
          exact iff_of_true hdefault (by simp)
      | some x =>
          have hamount : amount environment name default = atLeastZero x := by
            rw [amount, hraw, Option.bind_some, hread]
          rw [hamount, atLeastZero_atLeastZero_iff]
          simp

theorem sound_iff (environment : List (String × String)) (name : String) {default : Number}
    (hdefault : default.AtLeastZero) (given : Option Number) :
    (given.getD (amount environment name default)).AtLeastZero ↔ Sound environment name given := by
  cases given with
  | none => exact atLeastZero_amount_iff environment name hdefault
  | some a => exact Iff.rfl

/-- The count of attempts is raised to one in the environment, and taken as it is elsewhere. -/
theorem one_le_attempts_iff (count : Int) (given : Option Int) :
    1 ≤ given.getD (max count 1) ↔ ∀ n, given = some n → 1 ≤ n := by
  cases given with
  | none => simp
  | some n => simp

/-- **Where the numbers among the settings come from, and when the settings are usable.** -/
theorem effective_settings (environment : List (String × String)) (o : Overrides) :
    Effective environment o ((ofEnvironment environment).overridden o) where
  usable := by
    have hattempts := one_le_attempts_iff (count environment "RETRIES_MAX" 3) o.attempts
    have hpause := sound_iff environment "DELAY_SECONDS" ((atLeastZero_whole_iff 10).2 (by decide)) o.pause
    have htimeout := sound_iff environment "TIMEOUT" ((atLeastZero_whole_iff 30).2 (by decide)) o.timeout
    have hlifetime := sound_iff environment "PAGE_CACHE_TTL" ((atLeastZero_whole_iff 300).2 (by decide))
      o.pageLifetime
    rw [← hattempts, ← hpause, ← htimeout, ← hlifetime]
    exact ⟨fun h => ⟨h.attempts, h.pause, h.timeout, h.pageLifetime⟩,
      fun ⟨hattempts, hpause, htimeout, hlifetime⟩ => ⟨hattempts, hpause, htimeout, hlifetime⟩⟩
  tried h _ _ what operation := if_neg h.not_gt
  refused h _ _ what operation := Polling.seek_eq_stop _ what operation h
  attempts hgiven hread := by
    simp [overridden, ofEnvironment, hgiven, count, hread]
  pause hgiven hread := by
    rw [overridden, hgiven]
    exact amount_of_unreadable _ hread
  timeout hgiven hread := by
    rw [overridden, hgiven]
    exact amount_of_unreadable _ hread
  pageLifetime hgiven hread := by
    rw [overridden, hgiven]
    exact amount_of_unreadable _ hread

/-- An environment whose pause says that it is no number. -/
def pausedByNaN : List (String × String) :=
  [("LIVYOPS_URL", "http://livy:8998"), ("LIVYOPS_DELAY_SECONDS", "nan")]

/-- Both ways past the bounds at once: no attempt is left by what overrides the environment, and the
pause is not at least zero. -/
theorem unusable_settings :
    ((ofEnvironment pausedByNaN).overridden { attempts := some 0 }).attempts = 0 ∧
      ¬ ((ofEnvironment pausedByNaN).overridden { attempts := some 0 }).pause.AtLeastZero ∧
      ¬ ((ofEnvironment pausedByNaN).overridden { attempts := some 0 }).Usable := by
  have hpause : ¬ ((ofEnvironment pausedByNaN).overridden { attempts := some 0 }).pause.AtLeastZero :=
    fun h => (atLeastZero_amount_iff pausedByNaN "DELAY_SECONDS" ((atLeastZero_whole_iff 10).2 (by decide))).1 h
      ⟨"nan", by decide +kernel, by decide +kernel⟩
  exact ⟨rfl, hpause, fun h => hpause h.pause⟩

end Settings

end SparkGateway
