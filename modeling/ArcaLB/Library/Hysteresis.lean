import Mathlib.Data.List.Basic

/-!
# Hysteresis

Something is judged by a stream of successes and failures.  It becomes up when the streak of
successes reaches a threshold, down when the streak of failures reaches another one, and
keeps its state otherwise; both thresholds may change on the way.  Streaks are read off the
whole history of verdicts, so that this is the meaning of an implementation with counters.
-/

namespace Hysteresis

/-- A result, with the thresholds in force when it arrived. -/
structure Verdict where
  success : Bool
  rise : Int
  fall : Int
  deriving DecidableEq, Repr

/-- A state with the streaks that led to it. -/
@[ext] structure Standing (State : Type) where
  state : State
  successes : Int
  failures : Int
  deriving DecidableEq, Repr

/-- The streak of results of one kind, the latest verdict first; it continues `before` where
there was no other result. -/
def streak (kind : Bool) (before : Int) : List Verdict → Int
  | [] => before
  | latest :: earlier => if latest.success = kind then streak kind before earlier + 1 else 0

/-- At some point the streak of successes among the verdicts themselves reached the threshold. -/
def Earned : List Verdict → Prop
  | [] => False
  | latest :: earlier =>
    (latest.success = true ∧ latest.rise ≤ streak true 0 (latest :: earlier)) ∨ Earned earlier

instance decidableEarned : (verdicts : List Verdict) → Decidable (Earned verdicts)
  | [] => inferInstanceAs (Decidable False)
  | _ :: earlier =>
    have := decidableEarned earlier
    inferInstanceAs (Decidable (_ ∨ _))

/-- What is watched: how it started, and the verdicts since, the latest first. -/
structure Life (State : Type) where
  origin : Standing State
  verdicts : List Verdict
  deriving DecidableEq, Repr

namespace Life

variable {State : Type} (up down : State)

/-- Successes in a row, up to now. -/
def successes (life : Life State) : Int := streak true life.origin.successes life.verdicts

/-- Failures in a row, up to now. -/
def failures (life : Life State) : Int := streak false life.origin.failures life.verdicts

/-- The life one verdict later. -/
def push (life : Life State) (verdict : Verdict) : Life State :=
  { life with verdicts := verdict :: life.verdicts }

/-- The state after the verdicts of a list. -/
def judged (origin : Standing State) : List Verdict → State
  | [] => origin.state
  | latest :: earlier =>
    if latest.success then
      if latest.rise ≤ streak true origin.successes (latest :: earlier) then up
      else judged origin earlier
    else
      if latest.fall ≤ streak false origin.failures (latest :: earlier) then down
      else judged origin earlier

/-- Up since the streak of successes last reached the threshold, down since that of failures
did, or as it was at first. -/
def health (life : Life State) : State := judged up down life.origin life.verdicts

/-- Where the life stands. -/
def standing (life : Life State) : Standing State :=
  ⟨life.health up down, life.successes, life.failures⟩

/-- Without verdicts everything is as it was at first. -/
@[simp] theorem standing_start (origin : Standing State) :
    (Life.mk origin []).standing up down = origin := rfl

variable (life : Life State) (verdict : Verdict)

theorem successes_push :
    (life.push verdict).successes = if verdict.success then life.successes + 1 else 0 := rfl

theorem failures_push :
    (life.push verdict).failures = if verdict.success = false then life.failures + 1 else 0 := rfl

/-- **One verdict.** -/
theorem standing_push :
    (life.push verdict).standing up down =
      if verdict.success then
        { state := if verdict.rise ≤ life.successes + 1 then up else life.health up down
          successes := life.successes + 1
          failures := 0 }
      else
        { state := if verdict.fall ≤ life.failures + 1 then down else life.health up down
          successes := 0
          failures := life.failures + 1 } := by
  have health : (life.push verdict).health up down =
      if verdict.success then
        if verdict.rise ≤ (life.push verdict).successes then up else life.health up down
      else
        if verdict.fall ≤ (life.push verdict).failures then down else life.health up down := rfl
  rw [standing, health, successes_push, failures_push]
  cases verdict.success <;> rfl

variable {life} {verdicts : List Verdict}

/-- The listed verdicts account for the successes of a life and for its being up. -/
structure Backed (life : Life State) (verdicts : List Verdict) : Prop where
  successes : life.successes ≤ streak true 0 verdicts
  earned : life.health up down = up → Earned verdicts

instance [DecidableEq State] : Decidable (life.Backed up down verdicts) :=
  decidable_of_iff
    (life.successes ≤ streak true 0 verdicts ∧ (life.health up down = up → Earned verdicts))
    ⟨fun ⟨successes, earned⟩ => ⟨successes, earned⟩, fun backed => ⟨backed.1, backed.2⟩⟩

theorem Backed.push (distinct : down ≠ up) (backed : life.Backed up down verdicts) :
    (life.push verdict).Backed up down (verdict :: verdicts) := by
  have pushed := standing_push up down life verdict
  have counted := backed.successes
  cases kind : verdict.success with
  | true =>
    rw [kind, if_pos rfl] at pushed
    have successes : (life.push verdict).successes = life.successes + 1 :=
      congrArg Standing.successes pushed
    have health : (life.push verdict).health up down = _ := congrArg Standing.state pushed
    refine ⟨?_, fun risen => ?_⟩
    · rw [successes, streak, if_pos kind]
      omega
    · by_cases reached : verdict.rise ≤ life.successes + 1
      · left
        refine ⟨kind, ?_⟩
        rw [streak, if_pos kind]
        omega
      · rw [health, if_neg reached] at risen
        exact .inr (backed.earned risen)
  | false =>
    rw [kind, if_neg Bool.false_ne_true] at pushed
    have successes : (life.push verdict).successes = 0 := congrArg Standing.successes pushed
    have health : (life.push verdict).health up down = _ := congrArg Standing.state pushed
    refine ⟨?_, fun risen => .inr (backed.earned ?_)⟩
    · simp [successes, streak, kind]
    · rw [health] at risen
      split at risen
      · exact absurd risen distinct
      · exact risen

end Life

end Hysteresis
