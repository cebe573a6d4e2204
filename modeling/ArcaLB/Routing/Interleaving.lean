import ArcaLB.Library.Transition
import ArcaLB.Routing.Flags

/-!
# Interleaved coordinator calls

One goroutine per VIP key calls the coordinator; the steps of their calls
interleave freely.  The advertised flag of an address is what the coordinator
believes about the router.  The belief is right between calls as long as router
operations of one address are recorded in the order in which they reached the
router; nothing in the source enforces that order.
-/

namespace ArcaLB.Routing

namespace Interleaving

/-- A call in progress. -/
structure Thread where
  call : Call
  pc : Pc
  deriving DecidableEq, Repr

/-- The coordinator with its calls in progress.  `granted` is history: the drains
that `beginDrain` granted and whose owner did not call `FinishDrain` since. -/
structure State where
  shared : Shared
  threads : VIPKey → Option Thread
  granted : VIPKey → String → Bool

/-- A call is made, takes a step, or ends. -/
inductive Label where
  | call (key : VIPKey) (call : Call)
  | step (key : VIPKey) (reply : Reply)
  | finish (key : VIPKey)
  deriving DecidableEq, Repr

/-- The address that a returning call was granted to drain. -/
def drainedBy : Call → Bool → Option String → Option String
  | .beginDrain address _, true, none => if address = "" then none else some address
  | _, _, _ => none

/-- The address whose drain a call is about to release. -/
def releasedBy : Call → Option String
  | .finishDrain address => some address
  | _ => none

/-- Set or clear the grant of an address, where there is one to set or clear. -/
def setGranted (granted : VIPKey → String → Bool) (key : VIPKey) (value : Bool) :
    Option String → VIPKey → String → Bool
  | none => granted
  | some address => Function.update granted key (Function.update (granted key) address value)

/-- The state after one step of the call that `key` has in progress. -/
def State.advance (state : State) (key : VIPKey) (reply : Reply) (thread : Thread) : State :=
  { state with
    shared := (thread.pc.step key reply state.shared).2
    threads := Function.update state.threads key
      (some { thread with pc := (thread.pc.step key reply state.shared).1 }) }

/-- One step of the interleaving: a goroutine without a call starts one, a call
takes a step, or a finished call returns. -/
def step (state : State) : Label → Option State
  | .call key call =>
    match state.threads key with
    | some _ => none
    | none =>
      some { state with
        threads := Function.update state.threads key (some ⟨call, .start call⟩)
        granted := setGranted state.granted key false (releasedBy call) }
  | .step key reply =>
    match state.threads key with
    | none => none
    | some thread => some (state.advance key reply thread)
  | .finish key =>
    match state.threads key with
    | some ⟨call, .done result err⟩ =>
      some { state with
        threads := Function.update state.threads key none
        granted := setGranted state.granted key true (drainedBy call result err) }
    | _ => none

/-- A new process: an empty coordinator, no calls, and the routes it finds. -/
def boot (interval : Int) (routes : String → Bool) : State where
  shared := { coordinator := newRouteCoordinator interval, routes }
  threads := fun _ => none
  granted := fun _ _ => false

/-- The interleavings of coordinator calls, over any router content at the start. -/
def system (interval : Int) : TransitionSystem State Label where
  initial := fun state => ∃ routes, state = boot interval routes
  step := step

/-- No call is in progress. -/
def Quiescent (state : State) : Prop :=
  ∀ key, state.threads key = none

/-- The operation of a goroutine that reached the router and is not recorded yet. -/
def State.unrecorded (state : State) (key : VIPKey) : Option (String × RouteOperation) :=
  (state.threads key).bind fun thread => thread.pc.unrecorded

/-- The operation of a goroutine that is decided and not recorded yet. -/
def State.inFlight (state : State) (key : VIPKey) : Option (String × RouteOperation) :=
  (state.threads key).bind fun thread => thread.pc.inFlight

/-- **The order of recording.** A step that records an operation in an address
entry records what the router holds now, unless another goroutine still has to
record that. -/
def recordedInOrder (state : State) : Label → Prop
  | .step key _ =>
    match state.unrecorded key with
    | none => True
    | some (address, operation) =>
      (state.shared.coordinator.addresses address).isSome →
        operation.effect = state.shared.routes address ∨
          ∃ other latest, other ≠ key ∧
            state.unrecorded other = some (address, latest) ∧
            latest.effect = state.shared.routes address
  | _ => True

variable {state next : State}

/-- What a step of the interleaving does. -/
theorem step_cases {label : Label} (moves : step state label = some next) :
    (∃ key call, label = .call key call ∧ state.threads key = none ∧
      next = { state with
        threads := Function.update state.threads key (some ⟨call, .start call⟩)
        granted := setGranted state.granted key false (releasedBy call) }) ∨
    (∃ key reply thread, label = .step key reply ∧ state.threads key = some thread ∧
      next = state.advance key reply thread) ∨
    (∃ key call result err, label = .finish key ∧
      state.threads key = some ⟨call, .done result err⟩ ∧
      next = { state with
        threads := Function.update state.threads key none
        granted := setGranted state.granted key true (drainedBy call result err) }) := by
  cases label with
  | call key call =>
    cases present : state.threads key with
    | some thread => simp [step, present] at moves
    | none =>
      simp only [step, present, Option.some.injEq] at moves
      exact .inl ⟨key, call, rfl, present, moves.symm⟩
  | step key reply =>
    cases present : state.threads key with
    | none => simp [step, present] at moves
    | some thread =>
      simp only [step, present, Option.some.injEq] at moves
      exact .inr (.inl ⟨key, reply, thread, rfl, present, moves.symm⟩)
  | finish key =>
    simp only [step] at moves
    split at moves
    · rename_i call result err present
      simp only [Option.some.injEq] at moves
      exact .inr (.inr ⟨key, call, result, err, rfl, present, moves.symm⟩)
    · simp at moves

/-- The belief about a reconciled address is the router's content, or a goroutine
still has to record the router's content. -/
def Settled (state : State) : Prop :=
  ∀ address flags, state.shared.coordinator.flags address = some flags →
    flags.reconciled = true →
      flags.advertised = state.shared.routes address ∨
        ∃ key operation, state.unrecorded key = some (address, operation) ∧
          operation.effect = state.shared.routes address

variable {thread : Option Thread}

theorem State.unrecorded_update {key : VIPKey}
    (threads : next.threads = Function.update state.threads key thread) (other : VIPKey) :
    next.unrecorded other =
      if other = key then thread.bind fun current => current.pc.unrecorded
      else state.unrecorded other := by
  by_cases same : other = key
  · subst same
    simp [State.unrecorded, threads]
  · simp [State.unrecorded, threads, same]

/-- A step of one goroutine that neither calls the router nor records keeps the
unrecorded operations of all goroutines. -/
theorem State.unrecorded_eq {key : VIPKey}
    (threads : next.threads = Function.update state.threads key thread)
    (before : state.unrecorded key = none)
    (after : (thread.bind fun current => current.pc.unrecorded) = none) (other : VIPKey) :
    next.unrecorded other = state.unrecorded other := by
  rw [State.unrecorded_update threads]
  by_cases same : other = key
  · subst same
    rw [if_pos rfl, after, before]
  · rw [if_neg same]

/-- Recording an operation in order settles its address and no other. -/
theorem Settled.record {key : VIPKey} {address : String} {operation : RouteOperation}
    {flags : Flags} {reply : Reply} (settled : Settled state)
    (pending : state.unrecorded key = some (address, operation))
    (ordered : recordedInOrder state (.step key reply))
    (found : state.shared.coordinator.flags address = some flags)
    (routes : next.shared.routes = state.shared.routes) (recorded : next.shared.coordinator.flags =
      Function.update state.shared.coordinator.flags address
        (some { flags with advertised := operation.effect, reconciled := true }))
    (threads : next.threads = Function.update state.threads key thread) : Settled next := by
  intro other otherFlags entry reconciled
  rw [recorded] at entry
  rw [routes]
  have tracked : (state.shared.coordinator.addresses address).isSome := by
    obtain ⟨entry, present, _⟩ := RouteCoordinator.flags_eq_some.mp found
    simp [present]
  simp only [recordedInOrder, pending] at ordered
  by_cases same : other = address
  · subst same
    simp only [Function.update_self, Option.some.injEq] at entry
    subst entry
    rcases ordered tracked with current | ⟨peer, latest, distinct, later, current⟩
    · exact .inl current
    · refine .inr ⟨peer, latest, ?_, current⟩
      rw [State.unrecorded_update threads, if_neg distinct]
      exact later
  · rw [Function.update_of_ne same] at entry
    rcases settled other otherFlags entry reconciled with current | ⟨peer, latest, later, current⟩
    · exact .inl current
    · refine .inr ⟨peer, latest, ?_, current⟩
      have distinct : peer ≠ key := by
        rintro rfl
        rw [pending] at later
        simp only [Option.some.injEq, Prod.mk.injEq] at later
        exact same later.1.symm
      rw [State.unrecorded_update threads, if_neg distinct]
      exact later

/-- A step that leaves the router alone and forgets no unrecorded operation of a
tracked address keeps beliefs settled if each reconciled entry afterwards was a
reconciled entry with the same belief before. -/
theorem Settled.quiet (settled : Settled state) (routes : next.shared.routes = state.shared.routes)
    (kept : ∀ address flags, next.shared.coordinator.flags address = some flags →
      flags.reconciled = true → ∃ earlier,
        state.shared.coordinator.flags address = some earlier ∧ earlier.reconciled = true ∧
          earlier.advertised = flags.advertised)
    (pending : ∀ key address operation, state.unrecorded key = some (address, operation) →
      state.shared.coordinator.flags address ≠ none →
      next.unrecorded key = some (address, operation)) : Settled next := by
  intro address flags entry reconciled
  obtain ⟨earlier, found, wasReconciled, belief⟩ := kept address flags entry reconciled
  rw [routes, ← belief]
  rcases settled address earlier found wasReconciled with current | ⟨key, latest, later, current⟩
  · exact .inl current
  · exact .inr ⟨key, latest, pending key address latest later (by simp [found]), current⟩

/-- A successful router call settles its address, since its goroutine still has to
record it. -/
theorem Settled.called {key : VIPKey} {address : String} {operation : RouteOperation}
    (settled : Settled state) (before : state.unrecorded key = none)
    (coordinator : next.shared.coordinator = state.shared.coordinator)
    (routes : next.shared.routes =
      Function.update state.shared.routes address operation.effect)
    (threads : next.threads = Function.update state.threads key thread)
    (after : (thread.bind fun current => current.pc.unrecorded) = some (address, operation)) :
    Settled next := by
  intro other flags entry reconciled
  rw [coordinator] at entry
  by_cases same : other = address
  · subst same
    refine .inr ⟨key, operation, ?_, ?_⟩
    · rw [State.unrecorded_update threads, if_pos rfl, after]
    · rw [routes, Function.update_self]
  · rw [routes, Function.update_of_ne same]
    rcases settled other flags entry reconciled with current | ⟨peer, latest, later, current⟩
    · exact .inl current
    · refine .inr ⟨peer, latest, ?_, current⟩
      have distinct : peer ≠ key := by
        rintro rfl
        simp [before] at later
      rw [State.unrecorded_update threads, if_neg distinct]
      exact later

/-- A step of a call keeps beliefs settled when operations are recorded in order. -/
theorem Settled.thread_step {state : State} {key : VIPKey} {reply : Reply} {thread : Thread}
    (settled : Settled state) (present : state.threads key = some thread)
    (ordered : recordedInOrder state (.step key reply)) :
    Settled (state.advance key reply thread) := by
  have current : state.unrecorded key = thread.pc.unrecorded := by
    simp [State.unrecorded, present]
  rcases thread.pc.step_routes key reply state.shared with
    ⟨routes, settledAfter⟩ | ⟨address, operation, advertised, time, after, point, moved, called⟩
  · rcases (thread.pc.step_flags key reply state.shared).belief with
      ⟨address, operation, flags, pending, found, recorded⟩ | ⟨unknown, kept⟩
    · exact settled.record (current.trans pending) ordered found routes recorded rfl
    · refine settled.quiet routes kept fun other address operation pending tracked => ?_
      have distinct : other ≠ key := by
        rintro rfl
        exact tracked (unknown address operation (current ▸ pending))
      rw [State.unrecorded_update rfl, if_neg distinct]
      exact pending
  · have before : state.unrecorded key = none := by
      rw [current, point]
      rfl
    refine settled.called before ?_ ?_ rfl (by rw [moved]; rfl)
    · simp only [State.advance, called]
    · simp only [State.advance, called]

/-- Beliefs stay settled along every run that records in order. -/
theorem settled_of_reachable {interval : Int} {state : State}
    (reached : (system interval).Reachable recordedInOrder state) : Settled state := by
  refine reached.invariant ?_ ?_
  · rintro _ ⟨routes, rfl⟩ address flags entry
    simp [boot, newRouteCoordinator, RouteCoordinator.flags] at entry
  · intro state label next settled ordered moves
    rcases step_cases moves with ⟨key, call, rfl, absent, rfl⟩ |
      ⟨key, reply, thread, rfl, present, rfl⟩ | ⟨key, call, result, err, rfl, present, rfl⟩
    · refine settled.quiet rfl (fun _ flags entry reconciled => ⟨flags, entry, reconciled, rfl⟩) ?_
      intro other address operation pending _
      rw [State.unrecorded_eq rfl (by simp [State.unrecorded, absent]) rfl]
      exact pending
    · exact settled.thread_step present ordered
    · refine settled.quiet rfl (fun _ flags entry reconciled => ⟨flags, entry, reconciled, rfl⟩) ?_
      intro other address operation pending _
      rw [State.unrecorded_eq rfl (by simp [State.unrecorded, present, Pc.unrecorded]) rfl]
      exact pending

/-- **The coordinator knows the router between calls.** In every run of any number
of goroutines that records router operations in order, whenever no call is in
progress, a reconciled address is recorded as advertised exactly when the router
holds its route. -/
theorem advertised_eq_route_of_quiescent {interval : Int} {state : State}
    (reached : (system interval).Reachable recordedInOrder state)
    (quiescent : Quiescent state) {address : String} {entry : RouteAddressState}
    (tracked : state.shared.coordinator.addresses address = some entry)
    (reconciled : entry.reconciled = true) : entry.advertised = state.shared.routes address := by
  have found := RouteCoordinator.flags_of_found tracked
  rcases settled_of_reachable reached address entry.flags found reconciled with
    current | ⟨key, operation, pending, _⟩
  · exact current
  · simp [State.unrecorded, quiescent key] at pending

/-- The goroutine that a label belongs to. -/
def Label.key : Label → VIPKey
  | .call key _ => key
  | .step key _ => key
  | .finish key => key

/-- A run leaves the calls of the goroutines that take no step in it alone. -/
theorem threads_run {interval : Int} {labels : List Label} {state final : State} {key : VIPKey}
    (runs : (system interval).run state labels = some final)
    (absent : ∀ label ∈ labels, label.key ≠ key) : final.threads key = state.threads key := by
  induction labels generalizing state with
  | nil =>
    cases runs
    rfl
  | cons label rest ih =>
    obtain ⟨next, moves, continues⟩ := Option.bind_eq_some_iff.mp runs
    have other : key ≠ label.key := (absent label List.mem_cons_self).symm
    rw [ih continues fun later member => absent later (List.mem_cons_of_mem _ member)]
    rcases step_cases moves with ⟨mover, call, rfl, _, rfl⟩ | ⟨mover, reply, thread, rfl, _, rfl⟩ |
      ⟨mover, call, result, err, rfl, _, rfl⟩ <;>
    exact Function.update_of_ne other _ _

/-- Two goroutines on one address: the first decides to withdraw, the second to announce. -/
def decidedRun (first second : VIPKey) (address : String) : List Label :=
  let ok : Reply := ⟨0, none⟩
  [.call first (.setServing address false), .step first ok, .step first ok, .step first ok,
    .call second (.setServing address true), .step second ok, .step second ok, .step second ok]

/-- The announce reaches the router first and is recorded last. -/
def crossingRun (first second : VIPKey) (address : String) : List Label :=
  let ok : Reply := ⟨0, none⟩
  decidedRun first second address ++
    [.step second ok, .step first ok, .step first ok, .step second ok, .step first ok,
      .finish first, .finish second]

/-- **Crossing operations.** From an empty coordinator and router, two goroutines can
leave an address recorded as advertised whose route is not in the router, with no
call in progress. -/
theorem crossing_leaves_route_unannounced :
    ∃ final entry,
      (system 0).run (boot 0 fun _ => false)
          (crossingRun ⟨"default", "a"⟩ ⟨"default", "b"⟩ "192.0.2.1") = some final ∧
        Quiescent final ∧
        final.shared.coordinator.addresses "192.0.2.1" = some entry ∧
        entry.reconciled = true ∧ entry.advertised = true ∧
        final.shared.routes "192.0.2.1" = false := by
  have runs : (system 0).run (boot 0 fun _ => false)
      (crossingRun ⟨"default", "a"⟩ ⟨"default", "b"⟩ "192.0.2.1") = some _ := rfl
  refine ⟨_, _, runs, fun key => ?_, rfl, rfl, rfl, rfl⟩
  by_cases first : key = ⟨"default", "a"⟩
  · subst first
    rfl
  · by_cases second : key = ⟨"default", "b"⟩
    · subst second
      rfl
    · exact threads_run runs (by
        simp [crossingRun, decidedRun, Label.key, Ne.symm first, Ne.symm second])

/-- The withdrawal reaches the router and is recorded, then the announce. -/
def orderedRun (first second : VIPKey) (address : String) : List Label :=
  let ok : Reply := ⟨0, none⟩
  decidedRun first second address ++
    [.step first ok, .step first ok, .step second ok, .step second ok, .step first ok,
      .finish first, .finish second]

/-- Two goroutines whose operations do not cross. -/
theorem advertised_eq_route_serving :
    ∃ final entry,
      (system 0).run (boot 0 fun _ => false)
          (orderedRun ⟨"default", "a"⟩ ⟨"default", "b"⟩ "192.0.2.1") = some final ∧
        final.shared.coordinator.addresses "192.0.2.1" = some entry ∧
        entry.advertised = final.shared.routes "192.0.2.1" ∧
        final.shared.routes "192.0.2.1" = true := by
  have runs : (system 0).run (boot 0 fun _ => false)
      (orderedRun ⟨"default", "a"⟩ ⟨"default", "b"⟩ "192.0.2.1") = some _ := rfl
  refine ⟨_, _, runs, rfl, ?_, rfl⟩
  have starts : (system 0).Reachable recordedInOrder (boot 0 fun _ => false) :=
    .initial ⟨_, rfl⟩
  have meets : (system 0).Meets recordedInOrder (boot 0 fun _ => false)
      (orderedRun ⟨"default", "a"⟩ ⟨"default", "b"⟩ "192.0.2.1") :=
    ⟨trivial, trivial, trivial, trivial, trivial, trivial, trivial, trivial, trivial,
      fun _ => .inl rfl, trivial, fun _ => .inl rfl, trivial, trivial, trivial, trivial⟩
  refine advertised_eq_route_of_quiescent (starts.run meets runs) (fun key => ?_) rfl rfl
  by_cases first : key = ⟨"default", "a"⟩
  · subst first
    rfl
  · by_cases second : key = ⟨"default", "b"⟩
    · subst second
      rfl
    · exact threads_run runs (by
        simp [orderedRun, decidedRun, Label.key, Ne.symm first, Ne.symm second])

end Interleaving

end ArcaLB.Routing
