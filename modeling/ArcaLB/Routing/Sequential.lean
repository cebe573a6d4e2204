import ArcaLB.Library.Effect
import ArcaLB.Routing.Call

/-!
# Calls that run alone

A call of the coordinator that no other call interleaves with is driven to its end, one
reply of the environment per step.  When the replies are used up, the process is cut
off between two steps.
-/

namespace ArcaLB.Routing

/-- The result of a call that is done. -/
def Pc.result : Pc → Option (Bool × Option String)
  | .done result err => some (result, err)
  | _ => none

/-- The coordinator and the router, with the replies to come. -/
structure Sequential where
  shared : Shared
  replies : List Reply

/-- Take the steps of a call until it is done. -/
def Pc.drive (key : VIPKey) :
    List Reply → Pc → Shared → Outcome Empty (Bool × Option String) × Sequential
  | [], pc, shared =>
    match pc.result with
    | some result => (.ok result, ⟨shared, []⟩)
    | none => (.crashed, ⟨shared, []⟩)
  | reply :: rest, pc, shared =>
    match pc.result with
    | some result => (.ok result, ⟨shared, reply :: rest⟩)
    | none =>
      let (next, moved) := pc.step key reply shared
      Pc.drive key rest next moved

/-- Make a call and wait for its result. -/
def perform (key : VIPKey) (call : Call) : Effect Sequential Empty (Bool × Option String) :=
  fun sequential => Pc.drive key sequential.replies (.start call) sequential.shared

/-- **Driving rule.** What holds at the start and is kept by every step holds where the
call is cut off and, at a control point that is done, at its end. -/
theorem Pc.drive_invariant {key : VIPKey} {holds : Pc → Shared → Prop}
    (kept : ∀ pc shared reply, holds pc shared →
      holds (pc.step key reply shared).1 (pc.step key reply shared).2)
    {replies : List Reply} {pc : Pc} {shared : Shared} (starts : holds pc shared) :
    ∃ last, holds last (Pc.drive key replies pc shared).2.shared ∧
      ∀ result err, (Pc.drive key replies pc shared).1 = .ok (result, err) →
        last = .done result err := by
  induction replies generalizing pc shared with
  | nil =>
    refine ⟨pc, ?_, ?_⟩
    · unfold Pc.drive
      split <;> exact starts
    · intro result err
      cases pc <;> simp [Pc.drive, Pc.result]
  | cons reply rest ih =>
    cases found : pc.result with
    | none =>
      simp only [Pc.drive, found]
      exact ih (kept pc shared reply starts)
    | some result =>
      simp only [Pc.drive, found]
      refine ⟨pc, starts, ?_⟩
      intro value err ended
      cases pc <;> simp_all [Pc.result]

/-- **Call rule.** What holds before a call and is kept by every step holds where the call
is cut off, at some control point, and at its end where it returns. -/
theorem ensures_perform {key : VIPKey} {call : Call} {sequential : Sequential}
    (holds : Pc → Shared → Prop) (kept : ∀ pc shared reply, holds pc shared →
      holds (pc.step key reply shared).1 (pc.step key reply shared).2)
    (starts : holds (.start call) sequential.shared) :
    Effect.Ensures (perform key call) (fun next => ∃ pc, holds pc next.shared)
      (fun returned next => holds (.done returned.1 returned.2) next.shared) sequential := by
  obtain ⟨last, reached, returned⟩ := Pc.drive_invariant kept starts
  unfold Effect.Ensures Effect.wp perform
  cases ended : (Pc.drive key sequential.replies (.start call) sequential.shared).1 with
  | ok result =>
    rw [returned result.1 result.2 ended] at reached
    exact reached
  | error err => exact err.elim
  | crashed => exact ⟨last, reached⟩

end ArcaLB.Routing
