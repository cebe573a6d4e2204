import Mathlib.Logic.Function.Basic

/-!
# Labelled transition systems

A system is a set of initial states and a partial step function on labels.  A
run is *guarded* when each of its steps meets a condition on the state it leaves
and the label it takes; the unguarded runs are those of the condition that
always holds.  The invariant rule below is the only induction over runs: an
invariant is established by its initial and its step obligation.
-/

/-- A transition system: `step state label` is `none` where `label` is not
enabled in `state`. -/
structure TransitionSystem (State Label : Type) where
  initial : State → Prop
  step : State → Label → Option State

namespace TransitionSystem

variable {State Label : Type} {system : TransitionSystem State Label}

/-- Every step of every run is allowed. -/
def unguarded (_ : State) (_ : Label) : Prop := True

/-- The states reached by runs whose steps all meet `guard`. -/
inductive Reachable (system : TransitionSystem State Label)
    (guard : State → Label → Prop) : State → Prop where
  | initial {state : State} (starts : system.initial state) :
      Reachable system guard state
  | step {state next : State} {label : Label}
      (reached : Reachable system guard state) (meets : guard state label)
      (moves : system.step state label = some next) :
      Reachable system guard next

variable {guard : State → Label → Prop}

/-- **Invariant rule.** A property of the initial states that every guarded step
preserves holds in every state reached by a guarded run. -/
theorem Reachable.invariant {holds : State → Prop}
    (starts : ∀ state, system.initial state → holds state)
    (preserved : ∀ state label next, holds state → guard state label →
      system.step state label = some next → holds next)
    {state : State} (reached : system.Reachable guard state) : holds state := by
  induction reached with
  | initial initially => exact starts _ initially
  | step _ meets moves ih => exact preserved _ _ _ ih meets moves

/-- A run that meets a guard meets every weaker one. -/
theorem Reachable.mono {guard weaker : State → Label → Prop}
    (weakens : ∀ state label, guard state label → weaker state label) {state : State}
    (reached : system.Reachable guard state) : system.Reachable weaker state := by
  induction reached with
  | initial starts => exact .initial starts
  | step _ meets moves ih => exact ih.step (weakens _ _ meets) moves

/-- Take the listed labels one after another. -/
def run (system : TransitionSystem State Label) : State → List Label → Option State
  | state, [] => some state
  | state, label :: rest => (system.step state label).bind (system.run · rest)

/-- The last state of a closed run is checked by evaluation. -/
theorem exists_run_of_check (system : TransitionSystem State Label) (state : State)
    (labels : List Label) (holds : State → Prop) [DecidablePred holds]
    (checked : ((system.run state labels).any fun final => decide (holds final)) = true) :
    ∃ final, system.run state labels = some final ∧ holds final := by
  cases runs : system.run state labels with
  | none => simp [runs] at checked
  | some final =>
    refine ⟨final, rfl, ?_⟩
    simpa [runs] using checked

/-- Every step of the listed run meets `guard`. -/
def Meets (system : TransitionSystem State Label) (guard : State → Label → Prop) :
    State → List Label → Prop
  | _, [] => True
  | state, label :: rest =>
    guard state label ∧
      match system.step state label with
      | none => True
      | some next => system.Meets guard next rest

instance decidableMeets (system : TransitionSystem State Label) (guard : State → Label → Prop)
    [∀ state label, Decidable (guard state label)] (state : State) (labels : List Label) :
    Decidable (system.Meets guard state labels) :=
  match labels with
  | [] => inferInstanceAs (Decidable True)
  | label :: rest =>
    match moves : system.step state label with
    | none => decidable_of_iff (guard state label) (by simp [Meets, moves])
    | some next =>
      have := decidableMeets system guard next rest
      decidable_of_iff (guard state label ∧ system.Meets guard next rest)
        (by simp [Meets, moves])

theorem meets_unguarded (system : TransitionSystem State Label) (state : State)
    (labels : List Label) : system.Meets unguarded state labels := by
  induction labels generalizing state with
  | nil => trivial
  | cons label rest ih =>
    refine ⟨trivial, ?_⟩
    split
    · trivial
    · exact ih _

/-- A guarded run from a reachable state reaches its last state. -/
theorem Reachable.run {labels : List Label} {state final : State}
    (reached : system.Reachable guard state) (meets : system.Meets guard state labels)
    (runs : system.run state labels = some final) : system.Reachable guard final := by
  induction labels generalizing state with
  | nil =>
    cases runs
    exact reached
  | cons label rest ih =>
    obtain ⟨next, moves, continues⟩ := Option.bind_eq_some_iff.mp runs
    obtain ⟨allowed, remaining⟩ := meets
    rw [moves] at remaining
    exact ih (reached.step allowed moves) remaining continues

/-- A state with the run that led to it: the states it passed and the labels it took there,
the latest first. -/
structure Recorded (State Label : Type) where
  now : State
  past : List (State × Label)

/-- All moments of the run, the present one included. -/
def Recorded.moments (recorded : Recorded State Label) : List State :=
  recorded.now :: recorded.past.map Prod.fst

/-- The system that remembers its run. -/
def recorded (system : TransitionSystem State Label) :
    TransitionSystem (Recorded State Label) Label where
  initial := fun recorded => system.initial recorded.now ∧ recorded.past = []
  step := fun recorded label =>
    (system.step recorded.now label).map fun next =>
      ⟨next, (recorded.now, label) :: recorded.past⟩

/-- Independent copies of a system, one per index: a step moves one of them. -/
def product (Index : Type) [DecidableEq Index] (system : TransitionSystem State Label) :
    TransitionSystem (Index → State) (Index × Label) where
  initial := fun states => ∀ index, system.initial (states index)
  step := fun states label =>
    (system.step (states label.1) label.2).map fun next =>
      Function.update states label.1 next

/-- Every component of a state reached by a product is reached by the component, and
a guard on the moving component carries over. -/
theorem Reachable.component {Index : Type} [DecidableEq Index] {states : Index → State}
    (reached : (system.product Index).Reachable
      (fun states label => guard (states label.1) label.2) states) (index : Index) :
    system.Reachable guard (states index) := by
  induction reached with
  | initial starts => exact .initial (starts index)
  | @step states _ label _ meets moves ih =>
    obtain ⟨next, moved, rfl⟩ := Option.map_eq_some_iff.mp moves
    by_cases same : index = label.1
    · subst same
      rw [Function.update_self]
      exact ih.step meets moved
    · rw [Function.update_of_ne same]
      exact ih

end TransitionSystem
