import Mathlib.Logic.Function.Basic

/-!
# Computations that fail or are cut off

A computation changes a state and ends with a value, with an error that its caller
sees, or with a crash of the process, which no caller sees.  The state is kept in all
three cases: what was done before an error or a crash stays done.  The
precondition calculus below has one rule per combinator; an invariant that every
step of a computation keeps holds wherever the computation is cut off.
-/

/-- A result that was computed in two steps had a result of the first. -/
theorem Except.exists_of_bind_eq_ok {ε α β : Type} {first : Except ε α} {rest : α → Except ε β}
    {value : β} (ended : first >>= rest = .ok value) :
    ∃ mid, first = .ok mid ∧ rest mid = .ok value := by
  cases first with
  | error err => cases ended
  | ok mid => exact ⟨mid, rfl, ended⟩

/-- A sequence fails only where a part of it does. -/
theorem Except.bind_ne_error {ε α β : Type} {first : Except ε α} {rest : α → Except ε β} {err : ε}
    (before : first ≠ .error err) (afterwards : ∀ value, rest value ≠ .error err) :
    (first >>= rest) ≠ .error err := by
  cases first with
  | error other => exact fun same => before (congrArg Except.error (Except.error.inj same))
  | ok value => exact afterwards value

/-- How a computation ends. -/
inductive Outcome (ε α : Type) where
  | ok (value : α)
  | error (err : ε)
  | crashed
  deriving DecidableEq, Repr

/-- A computation over states `σ` with errors `ε` and values `α`. -/
def Effect (σ ε α : Type) : Type := σ → Outcome ε α × σ

namespace Effect

variable {σ τ ε φ α β : Type} {body : Effect σ ε α}

/-- How a computation ended and where. -/
theorem eq_of_outcome {state : σ} {outcome : Outcome ε α}
    (ended : (body state).1 = outcome) : body state = (outcome, (body state).2) := by
  rw [← ended]

/-- Continue with the value of the first computation. -/
def andThen (first : Effect σ ε α) (rest : α → Effect σ ε β) : Effect σ ε β := fun state =>
  match first state with
  | (.ok value, next) => rest value next
  | (.error err, next) => (.error err, next)
  | (.crashed, next) => (.crashed, next)

instance : Monad (Effect σ ε) where
  pure value := fun state => (.ok value, state)
  bind := andThen

instance : LawfulMonad (Effect σ ε) := by
  refine LawfulMonad.mk' _ ?_ (fun _ _ => rfl) ?_
  · intro α body
    funext state
    change andThen body (fun value => (pure value : Effect σ ε α)) state = body state
    unfold andThen
    rcases body state with ⟨outcome, next⟩
    cases outcome <;> rfl
  · intro α β γ first second third
    funext state
    change andThen (andThen first second) third state =
      andThen first (fun value => andThen (second value) third) state
    unfold andThen
    rcases first state with ⟨outcome, next⟩
    cases outcome <;> rfl

/-- End with an error. -/
def fail (err : ε) : Effect σ ε α := fun state => (.error err, state)

/-- Read the state. -/
def read : Effect σ ε σ := fun state => (.ok state, state)

/-- Change the state. -/
def modify (change : σ → σ) : Effect σ ε Unit := fun state => (.ok (), change state)

/-- Hand an error to the caller as a value. -/
def attempt (body : Effect σ ε α) : Effect σ φ (Except ε α) := fun state =>
  match body state with
  | (.ok value, next) => (.ok (.ok value), next)
  | (.error err, next) => (.ok (.error err), next)
  | (.crashed, next) => (.crashed, next)

/-- Change the error on its way to the caller. -/
def mapError (wrap : ε → φ) (body : Effect σ ε α) : Effect σ φ α := fun state =>
  match body state with
  | (.ok value, next) => (.ok value, next)
  | (.error err, next) => (.error (wrap err), next)
  | (.crashed, next) => (.crashed, next)

/-- Run a computation on a part of the state. -/
def zoom (part : τ → σ) (replace : τ → σ → τ) (body : Effect σ ε α) : Effect τ ε α :=
  fun state => ((body (part state)).1, replace state (body (part state)).2)

/-- Run a computation where a condition holds. -/
def when (condition : Bool) (body : Effect σ ε Unit) : Effect σ ε Unit :=
  if condition then body else pure ()

/-- Lift a value that may be an error. -/
def ofExcept : Except ε α → Effect σ ε α
  | .ok value => pure value
  | .error err => fail err

/-- The precondition of a computation: run from `state`, it ends as `post` says. -/
def wp (body : Effect σ ε α) (post : Outcome ε α → σ → Prop) (state : σ) : Prop :=
  post (body state).1 (body state).2

section Rules

variable {post : Outcome ε α → σ → Prop} {state : σ}

/-- What is left to show of a bind once its first computation ended. -/
def continues (rest : α → Effect σ ε β) (post : Outcome ε β → σ → Prop) :
    Outcome ε α → σ → Prop
  | .ok value, next => wp (rest value) post next
  | .error err, next => post (.error err) next
  | .crashed, next => post .crashed next

@[simp] theorem wp_read {post : Outcome ε σ → σ → Prop} :
    wp read post state ↔ post (.ok state) state := Iff.rfl

@[simp] theorem wp_read_bind {post : Outcome ε β → σ → Prop} (rest : σ → Effect σ ε β) :
    wp (read >>= rest) post state ↔ wp (rest state) post state := Iff.rfl

/-- **Sequence.** -/
theorem wp_bind {post : Outcome ε β → σ → Prop} (first : Effect σ ε α) (rest : α → Effect σ ε β) :
    wp (first >>= rest) post state ↔ wp first (continues rest post) state := by
  change post (andThen first rest state).1 (andThen first rest state).2 ↔
    continues rest post (first state).1 (first state).2
  unfold andThen
  rcases first state with ⟨outcome, next⟩
  cases outcome <;> exact Iff.rfl

/-- An attempt turns an error into a value. -/
theorem wp_attempt {post : Outcome φ (Except ε α) → σ → Prop} (body : Effect σ ε α) :
    wp (attempt body) post state ↔
      wp body (fun outcome next =>
        match outcome with
        | .ok value => post (.ok (.ok value)) next
        | .error err => post (.ok (.error err)) next
        | .crashed => post .crashed next) state := by
  unfold wp attempt
  rcases body state with ⟨outcome, next⟩
  cases outcome <;> exact Iff.rfl

/-- Continue after an attempt, which never ends with an error itself. -/
theorem wp_attempt_bind {post : Outcome φ β → σ → Prop} (body : Effect σ ε α)
    (rest : Except ε α → Effect σ φ β) :
    wp (attempt body >>= rest) post state ↔
      wp body (fun outcome next =>
        match outcome with
        | .ok value => wp (rest (.ok value)) post next
        | .error err => wp (rest (.error err)) post next
        | .crashed => post .crashed next) state := by
  rw [wp_bind, wp_attempt]
  unfold wp
  rcases body state with ⟨outcome, next⟩
  cases outcome <;> exact Iff.rfl

/-- Only the error is changed. -/
theorem wp_mapError {post : Outcome φ α → σ → Prop} (wrap : ε → φ) (body : Effect σ ε α) :
    wp (mapError wrap body) post state ↔
      wp body (fun outcome next =>
        match outcome with
        | .ok value => post (.ok value) next
        | .error err => post (.error (wrap err)) next
        | .crashed => post .crashed next) state := by
  unfold wp mapError
  rcases body state with ⟨outcome, next⟩
  cases outcome <;> exact Iff.rfl

theorem wp_zoom {part : τ → σ} {replace : τ → σ → τ} {post : Outcome ε α → τ → Prop}
    {whole : τ} (body : Effect σ ε α) :
    wp (zoom part replace body) post whole ↔
      wp body (fun outcome next => post outcome (replace whole next)) (part whole) := Iff.rfl

/-- A given result fails or returns. -/
theorem wp_ofExcept {result : Except ε α}
    (failed : ∀ err, result = .error err → post (.error err) state)
    (given : ∀ value, result = .ok value → post (.ok value) state) :
    wp (ofExcept result) post state := by
  cases result with
  | error err => exact failed err rfl
  | ok value => exact given value rfl

/-- **Consequence.** -/
theorem wp_mono {weaker : Outcome ε α → σ → Prop} (shown : wp body post state)
    (implies : ∀ outcome next, post outcome next → weaker outcome next) : wp body weaker state :=
  implies _ _ shown

/-- Two postconditions hold together. -/
theorem wp_and {other : Outcome ε α → σ → Prop}
    (first : wp body post state) (second : wp body other state) :
    wp body (fun outcome next => post outcome next ∧ other outcome next) state :=
  ⟨first, second⟩

end Rules

/-- A computation that leaves `always` where it fails or is cut off, and `good` where it
returns. -/
def ends (always : σ → Prop) (good : α → σ → Prop) : Outcome ε α → σ → Prop
  | .ok value, state => good value state
  | .error _, state => always state
  | .crashed, state => always state

/-- A computation that did not return leaves `always`. -/
theorem ends_of_stopped {always : σ → Prop} {good : α → σ → Prop} {outcome : Outcome ε α}
    {state : σ} (unfinished : ∀ value, outcome ≠ .ok value) (holds : always state) :
    ends always good outcome state := by
  cases outcome with
  | ok value => exact absurd rfl (unfinished value)
  | error err | crashed => exact holds

/-- The computation, run from `state`, ends with `always` or `good`. -/
def Ensures (body : Effect σ ε α) (always : σ → Prop) (good : α → σ → Prop) (state : σ) : Prop :=
  wp body (ends always good) state

namespace Ensures

variable {always : σ → Prop} {good : α → σ → Prop} {state : σ}

/-- Whatever a computation does, what always holds holds at its end. -/
theorem of_forall (body : Effect σ ε α) (early : ∀ state, always state)
    (ended : ∀ value state, good value state) : Ensures body always good state := by
  unfold Ensures wp
  cases (body state).1 with
  | ok value => exact ended value _
  | error err | crashed => exact early _

theorem read_bind {good : β → σ → Prop} {rest : σ → Effect σ ε β}
    (after : Ensures (rest state) always good state) :
    Ensures (Effect.read >>= rest) always good state :=
  after

theorem bind {good : β → σ → Prop} {mid : α → σ → Prop} {first : Effect σ ε α}
    {rest : α → Effect σ ε β} (before : Ensures first always mid state)
    (after : ∀ value next, mid value next → Ensures (rest value) always good next) :
    Ensures (first >>= rest) always good state := by
  unfold Ensures
  rw [wp_bind]
  apply wp_mono before
  intro outcome next ended
  cases outcome with
  | ok value => exact after value next ended
  | error err | crashed => exact ended

theorem mono {weaker : σ → Prop} {better : α → σ → Prop}
    (shown : Ensures body always good state) (early : ∀ next, always next → weaker next)
    (late : ∀ value next, good value next → better value next) :
    Ensures body weaker better state := by
  apply wp_mono shown
  intro outcome next ended
  cases outcome with
  | ok value => exact late value next ended
  | error err | crashed => exact early next ended

/-- A weaker postcondition, with the same invariant. -/
theorem imp {better : α → σ → Prop} (shown : Ensures body always good state)
    (late : ∀ value next, good value next → better value next) : Ensures body always better state :=
  shown.mono (fun _ holds => holds) late

/-- A weaker postcondition, and nothing of what does not return. -/
theorem forget {better : α → σ → Prop} (shown : Ensures body always good state)
    (late : ∀ value next, good value next → better value next) :
    Ensures body (fun _ => True) better state :=
  shown.mono (fun _ _ => trivial) late

/-- What a computation ensures holds of the state it returned in. -/
theorem returned {value : α} {next : σ}
    (shown : Ensures body always good state) (ended : body state = (.ok value, next)) :
    good value next := by
  unfold Ensures wp at shown
  rw [ended] at shown
  exact shown

/-- What holds however the computation ends holds of its last state. -/
theorem last (shown : Ensures body always (fun _ => always) state) : always (body state).2 := by
  unfold Ensures wp at shown
  revert shown
  rcases body state with ⟨outcome, next⟩
  cases outcome <;> exact fun holds => holds

/-- An attempt returns where the computation failed. -/
theorem attempt (shown : Ensures body always good state) :
    Ensures (Effect.attempt body : Effect σ φ (Except ε α)) always
      (fun result next =>
        match result with
        | .ok value => good value next
        | .error _ => always next) state := by
  unfold Ensures
  rw [wp_attempt]
  apply wp_mono shown
  intro outcome next ended
  cases outcome <;> exact ended

theorem mapError (wrap : ε → φ) (shown : Ensures body always good state) :
    Ensures (Effect.mapError wrap body) always good state := by
  unfold Ensures
  rw [wp_mapError]
  apply wp_mono shown
  intro outcome next ended
  cases outcome <;> exact ended

/-- Run on a part of the state. -/
theorem zoom {part : τ → σ} {replace : τ → σ → τ} {always : τ → Prop} {good : α → τ → Prop}
    {whole : τ} (shown : Ensures body (fun next => always (replace whole next))
      (fun value next => good value (replace whole next)) (part whole)) :
    Ensures (Effect.zoom part replace body) always good whole := by
  unfold Ensures
  rw [wp_zoom]
  apply wp_mono shown
  intro outcome next ended
  cases outcome <;> exact ended

/-- An invariant of the computation holds besides. -/
theorem and_keeps {invariant : σ → Prop} (shown : Ensures body always good state)
    (kept : ∀ state, invariant state → invariant (body state).2) (holds : invariant state) :
    Ensures body (fun next => always next ∧ invariant next)
      (fun value next => good value next ∧ invariant next) state := by
  apply wp_mono (wp_and shown (show wp body (fun _ => invariant) state from kept state holds))
  intro outcome next both
  cases outcome <;> exact both

theorem ofExcept {result : Except ε α} (early : always state)
    (given : ∀ value, result = .ok value → good value state) :
    Ensures (Effect.ofExcept result) always good state :=
  wp_ofExcept (fun _ _ => early) given

end Ensures

/-- Every step of the computation keeps the invariant, wherever it is cut off. -/
def Keeps (invariant : σ → Prop) (body : Effect σ ε α) : Prop :=
  ∀ state, invariant state → invariant (body state).2

namespace Keeps

variable {invariant : σ → Prop}

theorem of_wp (shown : ∀ state, invariant state → wp body (fun _ => invariant) state) :
    Keeps invariant body :=
  shown

theorem pure (value : α) : Keeps invariant (Pure.pure value : Effect σ ε α) :=
  fun _ holds => holds

theorem fail (err : ε) : Keeps invariant (Effect.fail err : Effect σ ε α) :=
  fun _ holds => holds

theorem read : Keeps invariant (Effect.read : Effect σ ε σ) :=
  fun _ holds => holds

theorem modify {change : σ → σ} (kept : ∀ state, invariant state → invariant (change state)) :
    Keeps invariant (Effect.modify change : Effect σ ε Unit) :=
  kept

theorem bind {first : Effect σ ε α} {rest : α → Effect σ ε β} (before : Keeps invariant first)
    (after : ∀ value, Keeps invariant (rest value)) : Keeps invariant (first >>= rest) := by
  intro state holds
  change invariant (andThen first rest state).2
  have kept := before state holds
  unfold andThen
  revert kept
  rcases first state with ⟨outcome, next⟩
  cases outcome with
  | ok value =>
    intro kept
    exact after value next kept
  | error err | crashed =>
    intro kept
    exact kept

/-- A computation that reads the state first may rely on the invariant of what it read. -/
theorem read_bind {rest : σ → Effect σ ε β}
    (after : ∀ state, invariant state → invariant (rest state state).2) :
    Keeps invariant (Effect.read >>= rest) :=
  after

theorem attempt (kept : Keeps invariant body) :
    Keeps invariant (Effect.attempt body : Effect σ φ (Except ε α)) := by
  intro state holds
  have after := kept state holds
  unfold Effect.attempt
  revert after
  rcases body state with ⟨outcome, next⟩
  cases outcome <;> exact fun after => after

theorem mapError (wrap : ε → φ) (kept : Keeps invariant body) :
    Keeps invariant (Effect.mapError wrap body) := by
  intro state holds
  have after := kept state holds
  unfold Effect.mapError
  revert after
  rcases body state with ⟨outcome, next⟩
  cases outcome <;> exact fun after => after

theorem ofExcept (result : Except ε α) : Keeps invariant (Effect.ofExcept result) := by
  cases result with
  | ok value => exact Keeps.pure value
  | error err => exact Keeps.fail err

theorem ite {condition : Prop} [Decidable condition] {yes no : Effect σ ε α}
    (first : Keeps invariant yes) (second : Keeps invariant no) :
    Keeps invariant (if condition then yes else no) := by
  split
  · exact first
  · exact second

theorem when {condition : Bool} {body : Effect σ ε Unit} (kept : Keeps invariant body) :
    Keeps invariant (Effect.when condition body) :=
  ite kept (pure ())

/-- A computation that keeps `invariant` ensures what follows from it. -/
theorem ensures {weaker : σ → Prop} {state : σ} (invariant : σ → Prop)
    (holds : invariant state) (implies : ∀ next, invariant next → weaker next)
    (kept : Keeps invariant body) : Ensures body weaker (fun _ => weaker) state := by
  apply wp_mono (show wp body (fun _ => invariant) state from kept state holds)
  intro outcome next after
  cases outcome <;> exact implies next after

/-- The same with different consequences where the computation stops and where it returns. -/
theorem ensures_both {always good : σ → Prop} {state : σ}
    (invariant : σ → Prop) (holds : invariant state) (kept : Keeps invariant body)
    (early : ∀ next, invariant next → always next) (late : ∀ next, invariant next → good next) :
    Ensures body always (fun _ => good) state :=
  (ensures invariant holds (fun _ still => still) kept).mono early fun _ => late

end Keeps

end Effect
