import SparkGateway.Number

/-!
# Time

Deadlines, pauses and lifetimes are amounts of time in seconds.  What the library needs of them is a
sum, a difference and an order, so it works with any type that has these: the program with numbers
as they are written in settings, a proof with whichever ordered numbers suit it.
-/

namespace SparkGateway

/-- Amounts of time, in seconds, that can be added, subtracted and compared. -/
class Timeline (τ : Type) where
  /-- A whole number of seconds. -/
  seconds : Nat → τ
  /-- The sum of two amounts. -/
  plus : τ → τ → τ
  /-- The difference of two amounts. -/
  minus : τ → τ → τ
  /-- Whether the first amount is smaller. -/
  lt : τ → τ → Bool
  /-- Whether the first amount is smaller or equal. -/
  le : τ → τ → Bool
  /-- How an amount reads in a message. -/
  text : τ → String

/-- Numbers as amounts of time. -/
instance : Timeline Number where
  seconds n := .whole n
  plus := Number.add
  minus := Number.sub
  lt := Number.lt
  le := Number.le
  text := Number.general

end SparkGateway
