import SparkGateway.Exchange.Trace

/-!
# Replies known so far

A program that learns one reply after the other can do its work anew each time, with the replies that it
knows.  The first step to which it knows no reply is what it has to ask for next; all steps before that
one stay what they are.

Main statement: `known_append` (what is known and what is not are the whole trace again).
-/

namespace SparkGateway

namespace Step

variable {τ : Type}

/-- Whether a step asks for yes or no. -/
def isQuestion : Step τ → Bool
  | .shown (.confirm _ _ _) => true
  | _ => false

/-- Whether a step asks for a choice. -/
def isChoice : Step τ → Bool
  | .shown (.choose _ _) => true
  | _ => false

end Step

/-- Replies to the steps of a piece of work, in the order of these steps. -/
structure Replies where
  /-- The answers to requests and to loads of pages. -/
  answers : List Answer := []
  /-- The answers to questions for yes or no. -/
  decisions : List Bool := []
  /-- The picks from choices. -/
  picks : List (List Nat) := []

namespace Replies

variable {τ : Type}

/-- Surroundings that give the known replies; where none is known, the work is cancelled or nothing is
agreed to. -/
def surroundings (r : Replies) (patience : Nat) : Surroundings τ where
  answer t _ := (r.answers[t.visits.length]?).getD (.stop .cancelled)
  page t _ := (r.answers[t.visits.length]?).getD (.stop .cancelled)
  halt _ := none
  confirms t := (r.decisions[t.countP Step.isQuestion - 1]?).getD false
  picks t := (r.picks[t.countP Step.isChoice - 1]?).getD []
  turn _ := 0
  waits := true
  connects := true
  patience := patience

/-- Whether the reply to a step is known, if it wants one. -/
def covers (r : Replies) (before : Trace τ) (s : Step τ) : Bool :=
  if s.visit?.isSome then decide (before.visits.length < r.answers.length)
  else if s.isQuestion then decide (before.countP Step.isQuestion < r.decisions.length)
  else if s.isChoice then decide (before.countP Step.isChoice < r.picks.length)
  else true

/-- The steps up to the first whose reply is not known, and the steps from there on. -/
def knownAfter (r : Replies) (before : Trace τ) : Trace τ → Trace τ × Trace τ
  | [] => ([], [])
  | s :: rest =>
    if r.covers before s then
      let (known, unknown) := knownAfter r (before ++ [s]) rest
      (s :: known, unknown)
    else ([], s :: rest)

/-- The steps up to the first whose reply is not known, and the steps from there on. -/
def known (r : Replies) (t : Trace τ) : Trace τ × Trace τ := r.knownAfter [] t

theorem knownAfter_append (r : Replies) (before t : Trace τ) :
    (r.knownAfter before t).1 ++ (r.knownAfter before t).2 = t := by
  induction t generalizing before with
  | nil => rfl
  | cons s rest ih =>
    unfold knownAfter
    split
    · simp [ih (before ++ [s])]
    · rfl

theorem known_append (r : Replies) (t : Trace τ) : (r.known t).1 ++ (r.known t).2 = t :=
  r.knownAfter_append [] t

end Replies

end SparkGateway
