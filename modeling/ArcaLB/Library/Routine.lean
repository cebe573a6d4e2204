import ArcaLB.Library.Effect

/-!
# Routines that make requests

A routine computes in atomic sections on a state it shares with others and makes requests
between them; whoever schedules it decides what happens until a request is answered.  Run
alone, with a computation that carries the requests out, it is an `Effect`, and `Ends` says
what it returns.  `among` is what a routine returns that runs among others, on whatever states
they leave.  What routines may ask for and what they may expect is written as a protocol, and
a routine that follows it does so at every request, whatever the answers are.
-/

/-- A routine over states `σ` that returns an `α`. -/
inductive Routine (σ Request Response α : Type) where
  | done (value : α)
  | crashed
  | locked (change : σ → σ) (rest : σ → Routine σ Request Response α)
  | request (query : Request) (rest : Response → Routine σ Request Response α)

namespace Routine

variable {σ Request Response α β : Type}

/-- Continue with the value of the first routine. -/
def andThen (next : α → Routine σ Request Response β) :
    Routine σ Request Response α → Routine σ Request Response β
  | .done value => next value
  | .crashed => .crashed
  | .locked change rest => .locked change fun state => (rest state).andThen next
  | .request query rest => .request query fun answer => (rest answer).andThen next

instance : Monad (Routine σ Request Response) where
  pure := .done
  bind routine next := routine.andThen next

theorem andThen_done (routine : Routine σ Request Response α) :
    routine.andThen .done = routine := by
  induction routine with
  | done value | crashed => rfl
  | locked change rest ih => exact congrArg (Routine.locked change) (funext ih)
  | request query rest ih => exact congrArg (Routine.request query) (funext ih)

theorem andThen_andThen {γ : Type} (routine : Routine σ Request Response α)
    (next : α → Routine σ Request Response β) (last : β → Routine σ Request Response γ) :
    (routine.andThen next).andThen last =
      routine.andThen fun value => (next value).andThen last := by
  induction routine with
  | done value | crashed => rfl
  | locked change rest ih => exact congrArg (Routine.locked change) (funext ih)
  | request query rest ih => exact congrArg (Routine.request query) (funext ih)

instance : LawfulMonad (Routine σ Request Response) :=
  LawfulMonad.mk' _ andThen_done (fun _ _ => rfl) andThen_andThen

/-- Make a request. -/
def ask (query : Request) : Routine σ Request Response Response :=
  .request query .done

/-- What is left of a routine after a section with this outcome. -/
def ofOutcome : Outcome Empty α → Routine σ Request Response α
  | .ok value => .done value
  | .error err => err.elim
  | .crashed => .crashed

/-- Run a computation in one section. -/
def atomic (body : Effect σ Empty α) : Routine σ Request Response α :=
  .locked (fun state => (body state).2) fun state => ofOutcome (body state).1

section Run

variable (perform : Request → Effect σ Empty Response)

/-- The routine run alone, with its requests carried out by `perform`. -/
def run : Routine σ Request Response α → Effect σ Empty α
  | .done value => pure value
  | .crashed => fun state => (.crashed, state)
  | .locked change rest => fun state => (rest state).run (change state)
  | .request query rest => perform query >>= fun answer => (rest answer).run

@[simp] theorem run_pure (value : α) :
    (pure value : Routine σ Request Response α).run perform = pure value := rfl

@[simp] theorem run_ask (query : Request) :
    (ask query : Routine σ Request Response Response).run perform = perform query :=
  bind_pure _

@[simp] theorem run_atomic (body : Effect σ Empty α) :
    (atomic body : Routine σ Request Response α).run perform = body := by
  funext state
  change (ofOutcome (body state).1).run perform (body state).2 = body state
  rcases body state with ⟨outcome, next⟩
  cases outcome with
  | error err => exact err.elim
  | ok value | crashed => rfl

@[simp] theorem run_bind (routine : Routine σ Request Response α)
    (next : α → Routine σ Request Response β) :
    (routine >>= next).run perform =
      routine.run perform >>= fun value => (next value).run perform := by
  induction routine with
  | done value | crashed => rfl
  | locked change rest ih =>
    funext state
    exact congrFun (ih state) (change state)
  | request query rest ih =>
    change (perform query >>= fun answer => (rest answer >>= next).run perform) = _
    simp only [ih]
    exact (bind_assoc ..).symm

@[simp] theorem run_map (f : α → β) (routine : Routine σ Request Response α) :
    (f <$> routine).run perform = f <$> routine.run perform := by
  rw [map_eq_pure_bind, run_bind, map_eq_pure_bind]
  rfl

end Run

section Among

variable (serve : Request → σ → Response × σ)

/-- What a routine returns whose sections and requests are done on the listed states, one after
another, and the states that are left; `none` where it crashes or is not done with them. -/
def among : Routine σ Request Response α → List σ → Option (α × List σ)
  | .done value, states => some (value, states)
  | .crashed, _ => none
  | .locked _ _, [] => none
  | .request _ _, [] => none
  | .locked _ rest, state :: states => (rest state).among states
  | .request query rest, state :: states => (rest (serve query state).1).among states

theorem among_bind (routine : Routine σ Request Response α)
    (next : α → Routine σ Request Response β) (states : List σ) :
    (routine >>= next).among serve states =
      (routine.among serve states).bind fun returned =>
        (next returned.1).among serve returned.2 := by
  induction routine generalizing states with
  | done value | crashed => rfl
  | locked change rest ih =>
    cases states with
    | nil => rfl
    | cons state states => exact ih state states
  | request query rest ih =>
    cases states with
    | nil => rfl
    | cons state states => exact ih _ states

end Among

section Protocols

/-- What may be asked for in a phase, and which phases an answer may lead to. -/
structure Protocol (Phase Request Response : Type) where
  legal : Phase → Request → Prop
  answers : Phase → Request → Response → Phase → Prop

variable {Phase : Type} {protocol : Protocol Phase Request Response}
  {quiet : (σ → σ) → Prop} {post : α → Phase → Prop} {phase : Phase}

/-- From `phase` on, every request of the routine is legal, every section changes the state
quietly, and the routine returns with `post`. -/
def Follows (protocol : Protocol Phase Request Response) (quiet : (σ → σ) → Prop)
    (post : α → Phase → Prop) : Routine σ Request Response α → Phase → Prop
  | .done value, phase => post value phase
  | .crashed, _ => True
  | .locked change rest, phase =>
    quiet change ∧ ∀ state, (rest state).Follows protocol quiet post phase
  | .request query rest, phase =>
    protocol.legal phase query ∧ ∀ answer next, protocol.answers phase query answer next →
      (rest answer).Follows protocol quiet post next

namespace Follows

theorem pure {value : α} (holds : post value phase) :
    (Pure.pure value : Routine σ Request Response α).Follows protocol quiet post phase :=
  holds

variable {routine : Routine σ Request Response α}

/-- **Sequence.** -/
theorem bind {post : β → Phase → Prop} {mid : α → Phase → Prop}
    {next : α → Routine σ Request Response β} (first : routine.Follows protocol quiet mid phase)
    (second : ∀ value phase, mid value phase → (next value).Follows protocol quiet post phase) :
    (routine >>= next).Follows protocol quiet post phase := by
  induction routine generalizing phase with
  | done value => exact second value phase first
  | crashed => trivial
  | locked change rest ih => exact ⟨first.1, fun state => ih state (first.2 state)⟩
  | request query rest ih =>
    exact ⟨first.1, fun answer later leads => ih answer (first.2 answer later leads)⟩

theorem mono {weaker : α → Phase → Prop} (shown : routine.Follows protocol quiet post phase)
    (implies : ∀ value phase, post value phase → weaker value phase) :
    routine.Follows protocol quiet weaker phase := by
  induction routine generalizing phase with
  | done value => exact implies value phase shown
  | crashed => trivial
  | locked change rest ih => exact ⟨shown.1, fun state => ih state (shown.2 state)⟩
  | request query rest ih =>
    exact ⟨shown.1, fun answer later leads => ih answer (shown.2 answer later leads)⟩

/-- A request is legal, and the routine goes on in every phase its answer may lead to. -/
theorem ask {post : Response → Phase → Prop} {query : Request} (legal : protocol.legal phase query)
    (answered : ∀ answer next, protocol.answers phase query answer next → post answer next) :
    (Routine.ask query : Routine σ Request Response Response).Follows protocol quiet post phase :=
  ⟨legal, answered⟩

/-- A section leaves the phase as it is. -/
theorem atomic {body : Effect σ Empty α} (quietly : quiet fun state => (body state).2)
    (holds : ∀ value, post value phase) :
    (Routine.atomic body : Routine σ Request Response α).Follows protocol quiet post phase := by
  refine ⟨quietly, fun state => ?_⟩
  change (ofOutcome (body state).1).Follows protocol quiet post phase
  cases (body state).1 with
  | ok value => exact holds value
  | error err => exact err.elim
  | crashed => trivial

end Follows

end Protocols

end Routine
