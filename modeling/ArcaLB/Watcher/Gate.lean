import ArcaLB.Library.Transition
import ArcaLB.Watcher.Coalesce

/-!
# The initial-sync gate

Until `Release` is called the gate holds the events back, one per key: an event that
arrives while one of its key is held is merged with it.  `Release` delivers what is held,
batch by batch, while further events arrive and are held, and opens the gate when nothing is
left.  The informer's goroutine and the one that calls `Release` take their steps in any
order.
-/

namespace ArcaLB.Watcher

/-- The events that the gate holds: one per key, in the order in which the keys came, and
those of objects without a key. -/
structure Pending where
  pendingOrder : List String
  pendingByKey : String → Option Event
  pendingUnkeyed : List Event
  nodup : pendingOrder.Nodup
  listed : ∀ key, key ∈ pendingOrder ↔ (pendingByKey key).isSome = true
  keyed : ∀ key event, pendingByKey key = some event → event.key = key ∧ key ≠ ""
  keyless : ∀ event ∈ pendingUnkeyed, event.key = ""

variable {event : Event}

namespace Pending

/-- Nothing is pending. -/
def empty : Pending where
  pendingOrder := []
  pendingByKey := fun _ => none
  pendingUnkeyed := []
  nodup := List.nodup_nil
  listed := by simp
  keyed := by simp
  keyless := by simp

/-- The events in the order in which `takePendingLocked` hands them out. -/
def events (pending : Pending) : List Event :=
  pending.pendingOrder.filterMap pending.pendingByKey ++ pending.pendingUnkeyed

@[simp] theorem events_empty : Pending.empty.events = [] := rfl

/-- Hold an event of an object without a key. -/
def addUnkeyed (pending : Pending) (event : Event) (keyless : event.key = "") : Pending :=
  { pending with
    pendingUnkeyed := pending.pendingUnkeyed ++ [event]
    keyless := by
      intro held mem
      rcases List.mem_append.mp mem with earlier | new
      · exact pending.keyless held earlier
      · rw [List.mem_singleton.mp new]
        exact keyless }

/-- Hold an event under its key, merged with the one held before. -/
def addKeyed (pending : Pending) (event : Event) (keyed : event.key ≠ "") : Pending where
  pendingOrder :=
    if (pending.pendingByKey event.key).isNone then pending.pendingOrder ++ [event.key]
    else pending.pendingOrder
  pendingByKey := Function.update pending.pendingByKey event.key
    (some (coalescePendingEvent (pending.pendingByKey event.key) event))
  pendingUnkeyed := pending.pendingUnkeyed
  nodup := by
    split
    · rename_i absent
      have unlisted : event.key ∉ pending.pendingOrder := by
        rw [pending.listed, Option.isNone_iff_eq_none.mp absent]
        simp
      refine List.nodup_append.mpr ⟨pending.nodup, List.nodup_singleton _, ?_⟩
      intro key mem new last same
      rw [List.mem_singleton.mp last] at same
      exact unlisted (same ▸ mem)
    · exact pending.nodup
  listed := by
    intro key
    by_cases same : key = event.key
    · subst same
      simp only [Function.update_self, Option.isSome_some, iff_true]
      split
      · simp
      · rename_i present
        rw [pending.listed]
        simpa [Option.isSome_iff_ne_none] using present
    · rw [Function.update_of_ne same, ← pending.listed]
      split <;> simp [same]
  keyed := by
    intro key held present
    by_cases same : key = event.key
    · subst same
      rw [Function.update_self] at present
      cases present
      exact ⟨key_coalescePendingEvent _ _, keyed⟩
    · rw [Function.update_of_ne same] at present
      exact pending.keyed key held present
  keyless := pending.keyless

/-- Adds an event. -/
def add (pending : Pending) (event : Event) : Pending :=
  if keyed : event.key = "" then pending.addUnkeyed event keyed else pending.addKeyed event keyed

private theorem filter_filterMap {order : List String} {byKey : String → Option Event}
    (nodup : order.Nodup) (keyed : ∀ key event, byKey key = some event → event.key = key)
    (key : String) :
    (order.filterMap byKey).filter (·.key = key) =
      if key ∈ order then (byKey key).toList else [] := by
  induction order with
  | nil => simp
  | cons first rest ih =>
    obtain ⟨fresh, nodup⟩ := List.nodup_cons.mp nodup
    cases held : byKey first with
    | none =>
      rw [List.filterMap_cons_none held, ih nodup]
      by_cases same : key = first
      · subst same
        simp [fresh, held]
      · simp [same]
    | some event =>
      rw [List.filterMap_cons_some held, List.filter_cons, ih nodup, keyed first event held]
      by_cases same : key = first
      · subst same
        simp [fresh, held]
      · simp [same, Ne.symm same]

/-- What is held for a key. -/
def heldFor (pending : Pending) (key : String) : List Event :=
  if key = "" then pending.pendingUnkeyed else (pending.pendingByKey key).toList

theorem filter_events (pending : Pending) (key : String) :
    pending.events.filter (·.key = key) = pending.heldFor key := by
  have keyless : pending.pendingUnkeyed.filter (·.key = key) =
      if key = "" then pending.pendingUnkeyed else [] := by
    split
    · rename_i empty
      apply List.filter_eq_self.mpr
      intro event mem
      simp [pending.keyless event mem, empty]
    · rename_i named
      apply List.filter_eq_nil_iff.mpr
      intro event mem
      simp [pending.keyless event mem, Ne.symm named]
  rw [events, List.filter_append, keyless,
    filter_filterMap pending.nodup (fun key event held => (pending.keyed key event held).1)]
  have listed : (if key ∈ pending.pendingOrder then (pending.pendingByKey key).toList else []) =
      (pending.pendingByKey key).toList := by
    split
    · rfl
    · rename_i unlisted
      rw [pending.listed, Option.not_isSome_iff_eq_none] at unlisted
      simp [unlisted]
  rw [listed]
  by_cases empty : key = ""
  · have absent : pending.pendingByKey key = none := by
      cases held : pending.pendingByKey key with
      | none => rfl
      | some event => exact absurd empty (pending.keyed key event held).2
    subst empty
    simp [heldFor, absent]
  · simp [heldFor, empty]

theorem heldFor_add_of_ne (pending : Pending) {key : String}
    (distinct : key ≠ event.key) : (pending.add event).heldFor key = pending.heldFor key := by
  by_cases keyless : event.key = ""
  · have named : key ≠ "" := fun empty => distinct (empty.trans keyless.symm)
    simp [add, heldFor, keyless, named, addUnkeyed]
  · simp [add, heldFor, keyless, addKeyed, distinct]

theorem heldFor_add_unkeyed (pending : Pending) (keyless : event.key = "") :
    (pending.add event).heldFor "" = pending.heldFor "" ++ [event] := by
  simp [add, heldFor, keyless, addUnkeyed]

theorem heldFor_add_keyed (pending : Pending) (keyed : event.key ≠ "") :
    (pending.add event).heldFor event.key =
      [coalescePendingEvent (pending.pendingByKey event.key) event] := by
  simp [add, heldFor, keyed, addKeyed]

end Pending

/-- The gate, the informer and the handler.  `batch` is what `Release` has taken and not
delivered, `direct` the event that the informer's goroutine delivers past the open gate, and
`store` the informer's store.  `handled` and `events` are history: the events that reached
the handler and those that reached the gate. -/
structure State where
  pending : Pending := .empty
  released : Bool := false
  releasing : Bool := false
  batch : List Event := []
  direct : Option Event := none
  store : String → Option VirtualIP := fun _ => none
  handled : List Event := []
  events : List Event := []

/-- The steps of the gate. -/
inductive Label where
  /-- The informer hands an event to the gate. -/
  | event (event : Event)
  /-- The informer's goroutine delivers the event that passed the open gate. -/
  | deliver
  /-- `Release` is called. -/
  | release
  /-- `Release` delivers the next event of its batch. -/
  | handle
  /-- `Release` takes the next batch, or opens the gate. -/
  | next
  deriving DecidableEq, Repr

/-- The informer's store after an event, where the event can come next. -/
def observe (store : String → Option VirtualIP) (event : Event) :
    Option (String → Option VirtualIP) :=
  if event.key = "" then some store
  else (event.informs (store event.key)).map (Function.update store event.key)

/-- The gate after `enqueue`. -/
def State.enqueue (state : State) (event : Event) : State :=
  if state.released then { state with direct := some event }
  else { state with pending := state.pending.add event }

/-- `Release` takes what is held. -/
def State.takePending (state : State) : State :=
  { state with pending := .empty, batch := state.pending.events }

/-- One step of the gate. -/
def step (state : State) : Label → Option State
  | .event event =>
    if state.direct.isSome then none
    else
      (observe state.store event).map fun store =>
        { state.enqueue event with store, events := state.events ++ [event] }
  | .deliver =>
    state.direct.map fun event =>
      { state with direct := none, handled := state.handled ++ [event] }
  | .release =>
    if state.released ∨ state.releasing then some state
    else some { state.takePending with releasing := true }
  | .handle =>
    match state.batch with
    | [] => none
    | event :: rest => some { state with batch := rest, handled := state.handled ++ [event] }
  | .next =>
    if state.releasing ∧ state.batch = [] then
      if state.pending.events = [] then
        some { state with pending := .empty, released := true, releasing := false }
      else some state.takePending
    else none

/-- The runs of the gate, over any events of an informer. -/
def gate : TransitionSystem State Label where
  initial := fun state => state = {}
  step := step

/-- The calls that the handler received. -/
def State.calls (state : State) : List HandlerCall :=
  state.handled.filterMap Event.call

/-- The calls that the handler would have received without a gate. -/
def State.directCalls (state : State) : List HandlerCall :=
  state.events.filterMap Event.call

/-- The events that are on their way to the handler. -/
def State.waiting (state : State) : List Event :=
  state.batch ++ state.pending.events ++ state.direct.toList

/-- The events of a key. -/
def ofKey (key : String) (events : List Event) : List Event :=
  events.filter (·.key = key)

/-- Every event, and what the gate makes of it, meets `allowed`. -/
def admits (allowed : Event → Prop) (state : State) : Label → Prop
  | .event event => allowed event ∧ (state.released = false → event.key ≠ "" →
      allowed (coalescePendingEvent (state.pending.pendingByKey event.key) event))
  | _ => True

/-- The invariant of the gate: what was handled and what waits are the events, with
neighbours of a key merged. -/
structure Held (allowed : Event → Prop) (state : State) : Prop where
  idle : state.releasing = false → state.batch = []
  closed : state.released = false → state.direct = none
  opened : state.released = true → state.releasing = false ∧ state.pending.events = []
  silent : state.released = false → state.releasing = false → state.handled = []
  merges : ∀ key, Merges allowed (ofKey key state.events)
    (ofKey key (state.handled ++ state.waiting))
  unkeyed : ofKey "" state.events = ofKey "" (state.handled ++ state.waiting)
  permitted : ∀ event ∈ state.events, allowed event
  informed : ∀ key, key ≠ "" → Informed (ofKey key state.events) (state.store key)

variable {allowed : Event → Prop} {state next : State}

theorem ofKey_append (key : String) (left right : List Event) :
    ofKey key (left ++ right) = ofKey key left ++ ofKey key right :=
  List.filter_append _ _

theorem ofKey_singleton (event : Event) : ofKey event.key [event] = [event] := by
  simp [ofKey]

theorem ofKey_singleton_of_ne {key : String} (distinct : key ≠ event.key) :
    ofKey key [event] = [] := by
  simp [ofKey, Ne.symm distinct]

variable (held : Held allowed state)
include held

/-- A step that moves events towards the handler and keeps their order. -/
theorem Held.moved (same : next.handled ++ next.waiting = state.handled ++ state.waiting)
    (events : next.events = state.events) (store : next.store = state.store)
    (idle : next.releasing = false → next.batch = [])
    (closed : next.released = false → next.direct = none)
    (opened : next.released = true → next.releasing = false ∧ next.pending.events = [])
    (silent : next.released = false → next.releasing = false → next.handled = []) :
    Held allowed next where
  idle := idle
  closed := closed
  opened := opened
  silent := silent
  merges := by
    rw [same, events]
    exact held.merges
  unkeyed := by
    rw [same, events]
    exact held.unkeyed
  permitted := by
    rw [events]
    exact held.permitted
  informed := by
    rw [events, store]
    exact held.informed

omit held in
theorem State.ofKey_waiting (state : State) (key : String) :
    ofKey key state.waiting =
      ofKey key state.batch ++ state.pending.heldFor key ++ ofKey key state.direct.toList := by
  rw [State.waiting, ofKey_append, ofKey_append]
  exact congrArg (ofKey key state.batch ++ · ++ ofKey key state.direct.toList)
    (state.pending.filter_events key)

omit held in
theorem State.ofKey_waiting_enqueue_of_ne (free : state.direct = none)
    {key : String} (distinct : key ≠ event.key) :
    ofKey key (state.enqueue event).waiting = ofKey key state.waiting := by
  rw [State.ofKey_waiting, State.ofKey_waiting, free]
  unfold State.enqueue
  split
  · simp only [Option.toList_some, Option.toList_none, ofKey_singleton_of_ne distinct]
    rfl
  · simp only [free, state.pending.heldFor_add_of_ne distinct]

/-- Past the open gate an event comes last. -/
theorem Held.waiting_released (released : state.released = true)
    (free : state.direct = none) (event : Event) :
    state.waiting = [] ∧ (state.enqueue event).waiting = [event] := by
  obtain ⟨still, empty⟩ := held.opened released
  simp [State.waiting, State.enqueue, released, held.idle still, empty, free]

omit held in
/-- While the gate is closed an event joins what is held. -/
theorem State.ofKey_waiting_closed (closed : state.released = false)
    (free : state.direct = none) (key : String) (event : Event) :
    ofKey key state.waiting = ofKey key state.batch ++ state.pending.heldFor key ∧
      ofKey key (state.enqueue event).waiting =
        ofKey key state.batch ++ (state.pending.add event).heldFor key := by
  have held : state.enqueue event = { state with pending := state.pending.add event } := by
    simp [State.enqueue, closed]
  rw [held, State.ofKey_waiting, State.ofKey_waiting, free]
  exact ⟨List.append_nil _, List.append_nil _⟩

/-- An event of a key is merged with what is held for the key, or comes last; in either way
its key's events are merged in order. -/
theorem Held.enqueued (admitted : admits allowed state (.event event)) (free : state.direct = none)
    (key : String) :
    Merges allowed (ofKey key (state.events ++ [event]))
      (ofKey key (state.handled ++ (state.enqueue event).waiting)) := by
  have merges := held.merges key
  rw [ofKey_append] at merges ⊢
  rw [ofKey_append]
  by_cases own : key = event.key
  · subst own
    rw [ofKey_singleton]
    cases released : state.released with
    | true =>
      obtain ⟨before, after⟩ := held.waiting_released released free event
      rw [before] at merges
      rw [after, ofKey_singleton]
      exact (by simpa [ofKey] using merges : Merges allowed _ _).append admitted.1
    | false =>
      obtain ⟨before, after⟩ := State.ofKey_waiting_closed released free event.key event
      rw [before, ← List.append_assoc] at merges
      rw [after, ← List.append_assoc]
      by_cases keyless : event.key = ""
      · rw [keyless] at merges ⊢
        rw [state.pending.heldFor_add_unkeyed keyless, ← List.append_assoc]
        exact merges.append admitted.1
      · have permitted := admitted.2 released keyless
        rw [state.pending.heldFor_add_keyed keyless]
        simp only [Pending.heldFor, keyless, ↓reduceIte] at merges
        cases present : state.pending.pendingByKey event.key with
        | none =>
          simp only [present, Option.toList_none, List.append_nil] at merges permitted
          exact merges.append permitted
        | some before =>
          simp only [present, Option.toList_some] at merges permitted
          exact merges.coalesce permitted
  · rw [ofKey_singleton_of_ne own, List.append_nil,
      State.ofKey_waiting_enqueue_of_ne free own]
    exact merges

/-- Events of objects without a key are neither merged nor reordered. -/
theorem Held.enqueued_unkeyed (free : state.direct = none) (event : Event) :
    ofKey "" (state.events ++ [event]) =
      ofKey "" (state.handled ++ (state.enqueue event).waiting) := by
  have unkeyed := held.unkeyed
  rw [ofKey_append] at unkeyed ⊢
  rw [ofKey_append, unkeyed]
  by_cases keyless : "" = event.key
  · have single : ofKey "" [event] = [event] := by
      rw [keyless, ofKey_singleton]
    cases released : state.released with
    | true =>
      obtain ⟨before, after⟩ := held.waiting_released released free event
      rw [before, after]
      simp [ofKey]
    | false =>
      obtain ⟨before, after⟩ := State.ofKey_waiting_closed released free "" event
      rw [before, after, single, state.pending.heldFor_add_unkeyed keyless.symm]
      simp only [List.append_assoc]
  · rw [ofKey_singleton_of_ne keyless, List.append_nil,
      State.ofKey_waiting_enqueue_of_ne free keyless]

theorem Held.informed_observe {store : String → Option VirtualIP}
    (observed : observe state.store event = some store) (key : String) (named : key ≠ "") :
    Informed (ofKey key (state.events ++ [event])) (store key) := by
  have informed := held.informed key named
  rw [ofKey_append]
  unfold observe at observed
  split at observed
  · rename_i keyless
    cases observed
    rw [ofKey_singleton_of_ne (keyless ▸ named), List.append_nil]
    exact informed
  · obtain ⟨latest, informs, rfl⟩ := Option.map_eq_some_iff.mp observed
    by_cases own : key = event.key
    · subst own
      rw [ofKey_singleton, Function.update_self]
      exact informed.snoc informs
    · rw [ofKey_singleton_of_ne own, List.append_nil, Function.update_of_ne own]
      exact informed

theorem Held.event_step
    (admitted : admits allowed state (.event event)) (free : state.direct = none)
    {store : String → Option VirtualIP} (observed : observe state.store event = some store) :
    Held allowed
      { state.enqueue event with store, events := state.events ++ [event] } := by
  have merges := held.enqueued admitted free
  have unkeyed := held.enqueued_unkeyed free event
  have informed := held.informed_observe observed
  have permitted : ∀ earlier ∈ state.events ++ [event], allowed earlier := by
    intro earlier mem
    rcases List.mem_append.mp mem with before | new
    · exact held.permitted earlier before
    · rw [List.mem_singleton.mp new]
      exact admitted.1
  unfold State.enqueue at merges unkeyed ⊢
  split at merges
  · rename_i released
    rw [if_pos released] at unkeyed ⊢
    exact ⟨held.idle, fun closed => absurd (released.symm.trans closed) (by simp), held.opened,
      fun closed => absurd (released.symm.trans closed) (by simp), merges, unkeyed, permitted,
      informed⟩
  · rename_i closed
    rw [if_neg closed] at unkeyed ⊢
    exact ⟨held.idle, held.closed, fun released => absurd released closed, held.silent, merges,
      unkeyed, permitted, informed⟩

theorem Held.preserved {label : Label}
    (admitted : admits allowed state label) (steps : step state label = some next) :
    Held allowed next := by
  cases label with
  | event event =>
    simp only [step] at steps
    split at steps
    · cases steps
    · rename_i free
      obtain ⟨store, observed, rfl⟩ := Option.map_eq_some_iff.mp steps
      exact held.event_step admitted (by simpa using free) observed
  | deliver =>
    obtain ⟨event, present, rfl⟩ := Option.map_eq_some_iff.mp steps
    have released : state.released = true := by
      by_contra closed
      simp [held.closed (by simpa using closed)] at present
    obtain ⟨still, empty⟩ := held.opened released
    refine held.moved ?_ rfl rfl held.idle (fun _ => rfl) held.opened
      (fun closed => absurd (released.symm.trans closed) (by simp))
    simp [State.waiting, held.idle still, empty, present]
  | release =>
    simp only [step] at steps
    split at steps <;> cases steps
    · exact held
    · rename_i fresh
      obtain ⟨closed, still⟩ := not_or.mp fresh
      have closed : state.released = false := by simpa using closed
      refine held.moved ?_ rfl rfl (by simp) held.closed
        (fun released => absurd (closed.symm.trans released) (by simp)) (by simp)
      simp [State.waiting, State.takePending, held.idle (by simpa using still)]
  | handle =>
    simp only [step] at steps
    split at steps
    · cases steps
    · rename_i event rest batch
      cases steps
      have active : state.releasing = true := by
        by_contra still
        simp [held.idle (by simpa using still)] at batch
      refine held.moved ?_ rfl rfl
        (fun still => absurd (active.symm.trans still) (by simp)) held.closed held.opened
        (fun _ still => absurd (active.symm.trans still) (by simp))
      simp [State.waiting, batch]
  | next =>
    simp only [step] at steps
    split at steps
    · rename_i ready
      obtain ⟨active, delivered⟩ := ready
      split at steps <;> cases steps
      · rename_i empty
        refine held.moved ?_ rfl rfl (fun _ => delivered) (by simp) (by simp) (by simp)
        simp [State.waiting, empty]
      · refine held.moved ?_ rfl rfl
          (fun still => absurd (active.symm.trans still) (by simp)) held.closed ?_
          (fun _ still => absurd (active.symm.trans still) (by simp))
        · simp [State.waiting, State.takePending, delivered]
        · intro released
          exact absurd (active.symm.trans (held.opened released).1) (by simp)
    · cases steps

omit held in
theorem held_of_reachable (reached : gate.Reachable (admits allowed) state) :
    Held allowed state := by
  apply reached.invariant
  · intro state initial
    subst initial
    refine ⟨fun _ => rfl, fun _ => rfl, by simp, fun _ _ => rfl, fun _ => .nil, rfl, by simp,
      fun _ _ => .nil⟩
  · intro state label next held admitted steps
    exact held.preserved admitted steps

/-- Nothing waits once the gate is open and nothing is in delivery. -/
theorem Held.waiting_eq_nil (released : state.released = true)
    (free : state.direct = none) : state.waiting = [] := by
  obtain ⟨still, empty⟩ := held.opened released
  simp [State.waiting, held.idle still, empty, free]

omit held

/-- With the gate open and nothing in delivery, the last call for a key tells the agent what
direct delivery would have told it. -/
theorem Held.agree (held : Held Event.Apart state) (released : state.released = true)
    (free : state.direct = none) (key : String) :
    Agree (state.calls.filter (·.key = key)).getLast?
      (state.directCalls.filter (·.key = key)).getLast? := by
  have waiting := held.waiting_eq_nil released free
  have calls : (state.calls.filter (·.key = key)).getLast? =
      lastCall (ofKey key state.handled) := by
    rw [State.calls, filter_call]
    rfl
  have direct : (state.directCalls.filter (·.key = key)).getLast? =
      lastCall (ofKey key state.events) := by
    rw [State.directCalls, filter_call]
    rfl
  rw [calls, direct]
  by_cases keyless : key = ""
  · have unkeyed := held.unkeyed
    rw [waiting, List.append_nil] at unkeyed
    rw [keyless, unkeyed]
    exact Agree.refl _
  · have merges := held.merges key
    rw [waiting, List.append_nil] at merges
    have informed := held.informed key keyless
    have plain : Merges Event.Apart (ofKey key state.events) (ofKey key state.events) :=
      merges_refl fun event mem => held.permitted event (List.mem_of_mem_filter mem)
    cases last : (ofKey key state.events).getLast? with
    | none =>
      rw [List.getLast?_eq_none_iff] at last
      rw [last] at merges ⊢
      rw [merges.eq_nil]
      exact Agree.refl _
    | some event =>
      exact informed.agree last (shown_of_merges merges informed last)
        (shown_of_merges plain informed last)

/-- **The gate and direct delivery.** In every run: no call is made before `Release`, the
two goroutines never deliver at the same time, and the handler receives the events of a key
in order, with neighbours merged.  Where moreover no event, as it came or as it was merged,
reports a live object in place of a terminating one of the same generation and spec: once
the gate is open and nothing is in delivery, the last call for each key is of the kind, and
carries the spec, generation and deletion mark, of the last call without a gate. -/
theorem gate_transparent (state : State) :
    (gate.Reachable TransitionSystem.unguarded state →
      (state.released = false → state.releasing = false → state.calls = []) ∧
      (state.batch = [] ∨ state.direct = none) ∧
      ∀ key, ∃ waiting, Merges (fun _ => True) (ofKey key state.events)
        (ofKey key state.handled ++ waiting)) ∧
    (gate.Reachable (admits Event.Apart) state → state.released = true →
      state.direct = none → ∀ key, Agree (state.calls.filter (·.key = key)).getLast?
        (state.directCalls.filter (·.key = key)).getLast?) := by
  constructor
  · intro reached
    have held : Held (fun _ => True) state := by
      apply held_of_reachable
      apply reached.mono
      intro state label _
      cases label <;> simp [admits]
    refine ⟨fun closed still => ?_, ?_, fun key => ?_⟩
    · simp [State.calls, held.silent closed still]
    · cases released : state.released with
      | true => exact .inl (held.idle (held.opened released).1)
      | false => exact .inr (held.closed released)
    · have merges := held.merges key
      rw [ofKey_append] at merges
      exact ⟨_, merges⟩
  · intro reached
    exact (held_of_reachable reached).agree

instance decidableAdmits (state : State) (label : Label) :
    Decidable (admits Event.Apart state label) := by
  unfold admits
  split <;> infer_instance

/-- The web VIP at a generation, for the concrete runs below. -/
def webAt (uid address : String) (generation : Int) (terminating : Bool) : VirtualIP :=
  { VirtualIP.web .web uid address with generation, terminating }

/-- An object that is added and changed while the gate is closed is handed over with its last
spec. -/
theorem gate_transparent_closed :
    ∃ state, gate.run {}
        [.event (.add (.vip (webAt "1" "192.0.2.1" 1 false))),
          .event (.update (.vip (webAt "1" "192.0.2.1" 1 false))
            (.vip (webAt "1" "192.0.2.2" 2 false))), .release, .handle, .next] = some state ∧
      (state.calls.filter (·.key = "default/web")).getLast? =
        some (.update (webAt "1" "192.0.2.2" 2 false)) ∧
      Agree (state.calls.filter (·.key = "default/web")).getLast?
        (state.directCalls.filter (·.key = "default/web")).getLast? := by
  obtain ⟨state, runs, released, free, last⟩ :=
    gate.exists_run_of_check {}
      [.event (.add (.vip (webAt "1" "192.0.2.1" 1 false))),
        .event (.update (.vip (webAt "1" "192.0.2.1" 1 false))
          (.vip (webAt "1" "192.0.2.2" 2 false))), .release, .handle, .next]
      (fun state => state.released = true ∧ state.direct = none ∧
        (state.calls.filter (·.key = "default/web")).getLast? =
          some (.update (webAt "1" "192.0.2.2" 2 false)))
      (by decide +kernel)
  have meets : gate.Meets (admits Event.Apart) {}
      [.event (.add (.vip (webAt "1" "192.0.2.1" 1 false))),
        .event (.update (.vip (webAt "1" "192.0.2.1" 1 false))
          (.vip (webAt "1" "192.0.2.2" 2 false))), .release, .handle, .next] := by
    decide +kernel
  have starts : gate.initial {} := rfl
  have reached := (TransitionSystem.Reachable.initial starts).run meets runs
  exact ⟨state, runs, last, (gate_transparent state).2 reached released free "default/web"⟩

/-- **A recreation that the gate hides.** The web VIP is terminating at generation 2.  While
`Release` works, the informer reports the object created in its place, and its update to
generation 2 with the old spec.  Merged, the two updates look like no change, so the last
call is the deletion; direct delivery ends with an update.  In the second run the gate is
still closed, and it is direct delivery that drops the new object. -/
theorem gate_hides_recreation :
    (∃ state, gate.run {}
        [.event (.add (.vip (webAt "1" "192.0.2.1" 2 true))), .release, .handle,
          .event (.update (.vip (webAt "1" "192.0.2.1" 2 true))
            (.vip (webAt "2" "192.0.2.2" 1 false))),
          .event (.update (.vip (webAt "2" "192.0.2.2" 1 false))
            (.vip (webAt "2" "192.0.2.1" 2 false))), .next, .handle, .next] = some state ∧
      state.released = true ∧ state.direct = none ∧
      (state.calls.filter (·.key = "default/web")).getLast? =
        some (.delete (webAt "1" "192.0.2.1" 2 true)) ∧
      (state.directCalls.filter (·.key = "default/web")).getLast? =
        some (.update (webAt "2" "192.0.2.1" 2 false))) ∧
    ∃ state, gate.run {}
        [.event (.add (.vip (webAt "1" "192.0.2.1" 2 true))),
          .event (.update (.vip (webAt "1" "192.0.2.1" 2 true))
            (.vip (webAt "2" "192.0.2.1" 2 false))), .release, .handle, .next] = some state ∧
      state.released = true ∧ state.direct = none ∧
      (state.calls.filter (·.key = "default/web")).getLast? =
        some (.update (webAt "2" "192.0.2.1" 2 false)) ∧
      (state.directCalls.filter (·.key = "default/web")).getLast? =
        some (.delete (webAt "1" "192.0.2.1" 2 true)) :=
  ⟨gate.exists_run_of_check _ _ _ (by decide +kernel),
    gate.exists_run_of_check _ _ _ (by decide +kernel)⟩

end ArcaLB.Watcher
