import ArcaLB.Routing.Interleaving
import ArcaLB.Routing.DrainSteps

/-!
# The drain window

A goroutine that was granted the drain of an address relies on the route being
out of the router until it calls `FinishDrain`.  The window is exclusive only if
no other goroutine still carries an announce of the address when the drain is
taken, if operations are recorded in order, and if the entry that holds the drain
is not dropped meanwhile.
-/

namespace ArcaLB.Routing

namespace Interleaving

/-- **An undisturbed start.** A drain is taken only while no other goroutine has an
announce of the address in flight. -/
def drainTakenFreely (state : State) : Label → Prop
  | .step key _ =>
    match state.threads key with
    | some ⟨_, .drainMark address force⟩ =>
      state.shared.coordinator.drainAdmitted key address force = true →
        ∀ other, other ≠ key → state.inFlight other ≠ some (address, .announce)
    | _ => True
  | _ => True

/-- **A lasting entry.** No removal drops the entry of an address under drain, which
it does where no VIP is left on the address and the address is not advertised. -/
def drainKept (state : State) : Label → Prop
  | .step key _ =>
    match state.threads key with
    | some ⟨_, .removeEnd address _ _ _⟩ =>
      ∀ entry, state.shared.coordinator.addresses address = some entry →
        entry.drainOwner ≠ none → entry.serving.entries ≠ [] ∨ entry.advertised = true
    | _ => True
  | _ => True

/-- The condition on the steps of a run under which drain windows are exclusive. -/
def drainGuard (state : State) (label : Label) : Prop :=
  recordedInOrder state label ∧ drainTakenFreely state label ∧ drainKept state label

/-- The address is recorded as withdrawn, with `key` as the owner of its drain. -/
def Drained (state : State) (key : VIPKey) (address : String) : Prop :=
  ∃ flags, state.shared.coordinator.flags address = some flags ∧
    flags.drainOwner = some key ∧ flags.advertised = false ∧ flags.reconciled = true

/-- The drain is granted, or its grant is about to be returned. -/
def Holds (state : State) (key : VIPKey) (address : String) : Prop :=
  state.granted key address = true ∨
    address ≠ "" ∧ ∃ force, state.threads key = some ⟨.beginDrain address force, .done true none⟩

/-- What every run under `drainGuard` maintains. -/
structure Exclusive (state : State) : Prop where
  settled : Settled state
  fits : ∀ key thread, state.threads key = some thread → thread.pc.Fits thread.call
  silent : ∀ address flags owner, state.shared.coordinator.flags address = some flags →
    flags.drainOwner = some owner → ∀ key, state.inFlight key ≠ some (address, .announce)
  owned : ∀ key thread address, state.threads key = some thread →
    thread.pc.draining = some address →
    ∃ flags, state.shared.coordinator.flags address = some flags ∧ flags.drainOwner = some key
  drained : ∀ key address, Holds state key address → Drained state key address
  steady : ∀ key thread address, state.threads key = some thread →
    state.granted key address = true →
    (∀ operation, thread.pc.inFlight ≠ some (address, operation)) ∧
      (∀ err, thread.pc ≠ .drainAbort address err) ∧
      thread.pc ≠ .start (.finishDrain address)

/-- The route of a drained address is out of the router. -/
theorem Exclusive.route_absent {state : State} (exclusive : Exclusive state) {key : VIPKey}
    {address : String} (drained : Drained state key address) :
    state.shared.routes address = false := by
  obtain ⟨flags, found, held, hidden, reconciled⟩ := drained
  rcases exclusive.settled address flags found reconciled with
    current | ⟨peer, operation, pending, current⟩
  · rw [← current, hidden]
  · -- The operation still to be recorded cannot be an announce while the drain is held.
    cases operation with
    | withdraw => exact current.symm
    | announce =>
      refine absurd ?_ (exclusive.silent address flags key found held peer)
      obtain ⟨thread, present, pending⟩ := Option.bind_eq_some_iff.mp pending
      simp [State.inFlight, present, Pc.inFlight_of_unrecorded pending]

section Advance

variable {state : State} {key other : VIPKey} {reply : Reply} {thread : Thread}
  {address : String}

theorem threads_advance {later : Thread}
    (present : (state.advance key reply thread).threads other = some later) :
    (other = key ∧ later.call = thread.call ∧
        later.pc = (thread.pc.step key reply state.shared).1) ∨
      (other ≠ key ∧ state.threads other = some later) := by
  by_cases same : other = key
  · subst same
    simp only [State.advance, Function.update_self, Option.some.injEq] at present
    subst present
    exact .inl ⟨rfl, rfl, rfl⟩
  · simp only [State.advance, Function.update_of_ne same] at present
    exact .inr ⟨same, present⟩

theorem inFlight_advance :
    (state.advance key reply thread).inFlight other =
      if other = key then (thread.pc.step key reply state.shared).1.inFlight
      else state.inFlight other := by
  by_cases same : other = key
  · subst same
    simp [State.inFlight, State.advance]
  · simp [State.inFlight, State.advance, same]

theorem holds_advance (holds : Holds (state.advance key reply thread) other address)
    (present : state.threads key = some thread) :
    Holds state other address ∨
      other = key ∧ address ≠ "" ∧ thread.pc ≠ .done true none ∧
        (∃ force, thread.call = .beginDrain address force) ∧
        (thread.pc.step key reply state.shared).1 = .done true none := by
  rcases holds with granted | ⟨named, force, returning⟩
  · exact .inl (.inl granted)
  · rcases threads_advance returning with ⟨rfl, call, pc⟩ | ⟨_, earlier⟩
    · by_cases running : thread.pc = .done true none
      · left
        obtain ⟨call', pc'⟩ := thread
        simp only at call running
        exact .inr ⟨named, force, by rw [present, ← call, running]⟩
      · exact .inr ⟨rfl, named, running, ⟨force, call.symm⟩, pc.symm⟩
    · exact .inl (.inr ⟨named, force, earlier⟩)

variable {entry : RouteAddressState}

/-- Nothing is due for a drained address. -/
theorem Drained.nothing_due (drained : Drained state other address)
    (found : state.shared.coordinator.addresses address = some entry) (interval now : Time) :
    entry.nextRouteOperation interval now = (none, false) := by
  obtain ⟨flags, present, held, hidden, reconciled⟩ := drained
  rw [RouteCoordinator.flags_of_found found, Option.some.injEq] at present
  subst present
  have owned : entry.drainOwner = some other := held
  have unadvertised : entry.advertised = false := hidden
  have withdrawn : entry.reconciled = true := reconciled
  simp [RouteAddressState.nextRouteOperation, RouteAddressState.routeShouldAdvertise, owned,
    unadvertised, withdrawn]

variable {flags : Flags}

/-- No announce is due for an address under drain. -/
theorem not_announce_of_owned (found : state.shared.coordinator.addresses address = some entry)
    (present : state.shared.coordinator.flags address = some flags)
    (held : flags.drainOwner = some other) {interval now : Time} {advertised : Bool} :
    entry.nextRouteOperation interval now ≠ (some .announce, advertised) := by
  intro due
  rw [RouteCoordinator.flags_of_found found, Option.some.injEq] at present
  subst present
  have wanted := RouteAddressState.shouldAdvertise_of_next_announce due
  have free := ((RouteAddressState.routeShouldAdvertise_iff entry).mp wanted).1
  have owned : entry.drainOwner = some other := held
  rw [owned] at free
  cases free

/-- A removal that may not drop entries under drain drops no entry under drain. -/
theorem not_dropped {next : AfterRemove} {advertised : Bool} {err : Option String}
    (present : state.threads key = some thread) (kept : drainKept state (.step key reply))
    (point : thread.pc = .removeEnd address next advertised err)
    (found : state.shared.coordinator.addresses address = some entry)
    (tracked : state.shared.coordinator.flags address = some flags)
    (held : flags.drainOwner = some other) (unused : entry.serving.entries = [])
    (hidden : entry.advertised = false) : False := by
  obtain ⟨call, pc⟩ := thread
  simp only at point
  subst point
  simp only [drainKept, present] at kept
  rw [RouteCoordinator.flags_of_found found, Option.some.injEq] at tracked
  subst tracked
  have owned : entry.drainOwner = some other := held
  rcases kept entry found (by simp [owned]) with used | shown
  · exact used unused
  · simp [hidden] at shown

variable (exclusive : Exclusive state) (present : state.threads key = some thread)

include exclusive present

theorem silent_advance (free : drainTakenFreely state (.step key reply)) {owner : VIPKey}
    (found : (state.advance key reply thread).shared.coordinator.flags address = some flags)
    (held : flags.drainOwner = some owner) :
    (state.advance key reply thread).inFlight other ≠ some (address, .announce) := by
  intro flying
  rw [inFlight_advance] at flying
  have current : state.inFlight key = thread.pc.inFlight := by
    simp [State.inFlight, present]
  rcases (thread.pc.step_flags key reply state.shared).owner_origin found held with
    ⟨earlier, tracked, owned⟩ | ⟨rfl, force, point, admitted⟩
  · have quiet := exclusive.silent address earlier owner tracked owned
    split at flying
    · rcases (thread.pc.step_edge key reply state.shared).inFlight flying with
        before | ⟨_, entry, _, _, entered, due⟩
      · exact quiet key (current.trans before)
      · exact not_announce_of_owned entered tracked owned due
    · exact quiet other flying
  · obtain ⟨call, pc⟩ := thread
    simp only at point
    subst point
    split at flying
    · rcases (Pc.step_edge owner reply state.shared _).inFlight flying with
        before | ⟨_, _, _, point, _⟩
      · simp [Pc.inFlight] at before
      · simp at point
    · rename_i distinct
      simp only [drainTakenFreely, present] at free
      exact free admitted other distinct flying

/-- The owner of a drain keeps it over a step that neither drops the entry nor is the
owner giving it back. -/
theorem owner_advance (kept : drainKept state (.step key reply))
    (tracked : state.shared.coordinator.flags address = some flags)
    (held : flags.drainOwner = some other)
    (keeps : other = key → thread.pc ≠ .start (.finishDrain address) ∧
      ∀ err, thread.pc ≠ .drainAbort address err) :
    ∃ later, (state.advance key reply thread).shared.coordinator.flags address = some later ∧
      later.drainOwner = some other ∧
      ((later.advertised = flags.advertised ∧ later.reconciled = flags.reconciled) ∨
        (later.advertised = false ∧ later.reconciled = true)) := by
  rcases (thread.pc.step_flags key reply state.shared).owner_kept tracked held with
    ⟨later, found, owned, belief⟩ | ⟨entry, next, advertised, err, point, found, unused, hidden⟩ |
      ⟨mine, point⟩
  · refine ⟨later, found, owned, ?_⟩
    rcases belief with unchanged | ⟨operation, pending, shown, reconciled⟩
    · exact .inl unchanged
    · -- Only a withdrawal can be recorded while the drain is held.
      have flying : state.inFlight key = some (address, operation) := by
        simp [State.inFlight, present, Pc.inFlight_of_unrecorded pending]
      have withdraws : operation.effect = false := by
        cases operation with
        | withdraw => rfl
        | announce => exact absurd flying (exclusive.silent address flags other tracked held key)
      exact .inr ⟨shown.trans withdraws, reconciled⟩
  · exact (not_dropped present kept point found tracked held unused hidden).elim
  · obtain ⟨notFinishing, notAborting⟩ := keeps mine
    rcases point with starts | ⟨err, aborts⟩
    · exact absurd starts notFinishing
    · exact absurd aborts (notAborting err)

theorem owned_advance (kept : drainKept state (.step key reply)) {later : Thread}
    (running : (state.advance key reply thread).threads other = some later)
    (drains : later.pc.draining = some address) :
    ∃ flags, (state.advance key reply thread).shared.coordinator.flags address = some flags ∧
      flags.drainOwner = some other := by
  rcases threads_advance running with ⟨rfl, _, pc⟩ | ⟨distinct, earlier⟩
  · rw [pc] at drains
    rcases (thread.pc.step_edge other reply state.shared).draining drains with
      before | ⟨force, point, admitted⟩
    · obtain ⟨flags, tracked, held⟩ := exclusive.owned other thread address present before
      obtain ⟨later, found, owned, _⟩ := owner_advance exclusive present kept tracked held
        fun _ => ⟨fun starts => by simp [starts, Pc.draining] at before,
          fun err aborts => by simp [aborts, Pc.draining] at before⟩
      exact ⟨later, found, owned⟩
    · simp [State.advance, point, Pc.step, RouteCoordinator.markDraining, admitted,
        RouteAddressState.flags]
  · obtain ⟨flags, tracked, held⟩ := exclusive.owned other later address earlier drains
    obtain ⟨later, found, owned, _⟩ := owner_advance exclusive present kept tracked held
      fun same => absurd same distinct
    exact ⟨later, found, owned⟩

/-- A grant is returned only once the address is recorded as withdrawn. -/
theorem drained_of_grants {force : Bool} (named : address ≠ "")
    (called : thread.call = .beginDrain address force) (running : thread.pc ≠ .done true none)
    (grants : (thread.pc.step key reply state.shared).1 = .done true none) :
    Drained (state.advance key reply thread) key address := by
  have fits := exclusive.fits key thread present
  rw [called] at fits
  rcases (thread.pc.step_edge key reply state.shared).grants fits named grants running with
    ⟨point, decided⟩ | ⟨operation, time, point⟩
  · obtain ⟨flags, tracked, held⟩ := exclusive.owned key thread address present (by
      simp [point, Pc.draining])
    obtain ⟨entry, found, rfl⟩ := RouteCoordinator.flags_eq_some.mp tracked
    have owned : entry.drainOwner = some key := held
    have unwanted : entry.routeShouldAdvertise = false := by
      simp [RouteAddressState.routeShouldAdvertise, owned]
    rcases decided with absent | ⟨same, again, nothing⟩
    · simp [found] at absent
    · obtain rfl : entry = same := by simpa [found] using again
      obtain ⟨hidden, reconciled, _⟩ := RouteAddressState.withdrawn_of_next_none unwanted nothing
      refine ⟨entry.flags, ?_, held, hidden, reconciled⟩
      simpa [State.advance, point, Pc.step] using tracked
  · obtain ⟨flags, tracked, held⟩ := exclusive.owned key thread address present (by
      simp [point, Pc.draining])
    obtain ⟨entry, found, rfl⟩ := RouteCoordinator.flags_eq_some.mp tracked
    have withdraws : operation = .withdraw := by
      cases operation with
      | withdraw => rfl
      | announce =>
        refine absurd ?_ (exclusive.silent address _ key tracked held key)
        simp [State.inFlight, present, point, Pc.inFlight]
    refine ⟨(entry.applyRouteOperation operation time).flags, ?_, ?_, ?_, ?_⟩
    · simp [State.advance, point, Pc.step, RouteCoordinator.recordRoute, found]
    · simpa [RouteAddressState.flags] using held
    · simp [RouteAddressState.flags, withdraws]
    · simp [RouteAddressState.flags]

theorem drained_advance (kept : drainKept state (.step key reply))
    (holds : Holds (state.advance key reply thread) other address) :
    Drained (state.advance key reply thread) other address := by
  rcases holds_advance holds present with before | ⟨rfl, named, running, ⟨force, called⟩, grants⟩
  · obtain ⟨flags, tracked, held, hidden, reconciled⟩ := exclusive.drained other address before
    have keeps : other = key → thread.pc ≠ .start (.finishDrain address) ∧
        ∀ err, thread.pc ≠ .drainAbort address err := by
      rintro rfl
      rcases before with granted | ⟨_, force, returning⟩
      · obtain ⟨_, notAborting, notFinishing⟩ :=
          exclusive.steady other thread address present granted
        exact ⟨notFinishing, notAborting⟩
      · rw [present, Option.some.injEq] at returning
        subst returning
        simp
    obtain ⟨later, found, owned, belief⟩ :=
      owner_advance exclusive present kept tracked held keeps
    refine ⟨later, found, owned, ?_⟩
    rcases belief with ⟨shown, settled⟩ | withdrawn
    · exact ⟨shown.trans hidden, settled.trans reconciled⟩
    · exact withdrawn
  · exact drained_of_grants exclusive present named called running grants

theorem steady_advance {later : Thread}
    (running : (state.advance key reply thread).threads other = some later)
    (granted : (state.advance key reply thread).granted other address = true) :
    (∀ operation, later.pc.inFlight ≠ some (address, operation)) ∧
      (∀ err, later.pc ≠ .drainAbort address err) ∧
      later.pc ≠ .start (.finishDrain address) := by
  rcases threads_advance running with ⟨rfl, _, pc⟩ | ⟨_, earlier⟩
  · obtain ⟨notFlying, _, _⟩ := exclusive.steady other thread address present granted
    have edge := thread.pc.step_edge other reply state.shared
    rw [pc]
    refine ⟨fun operation flying => ?_, fun err aborts => ?_, edge.ne_start⟩
    · rcases edge.inFlight flying with before | ⟨_, entry, _, _, found, due⟩
      · exact notFlying operation before
      · rw [(exclusive.drained other address (.inl granted)).nothing_due found] at due
        simp at due
    · obtain ⟨operation, before⟩ := edge.drainAbort aborts
      exact notFlying operation before
  · exact exclusive.steady other later address earlier granted

/-- A step of a call under `drainGuard` keeps drain windows exclusive. -/
theorem Exclusive.advance (guarded : drainGuard state (.step key reply)) :
    Exclusive (state.advance key reply thread) := by
  obtain ⟨ordered, free, kept⟩ := guarded
  refine ⟨exclusive.settled.thread_step present ordered, ?_, ?_, ?_, ?_, ?_⟩
  · intro other later running
    rcases threads_advance running with ⟨rfl, call, pc⟩ | ⟨_, earlier⟩
    · rw [call, pc]
      exact (thread.pc.step_edge other reply state.shared).fits
        (exclusive.fits other thread present)
    · exact exclusive.fits other later earlier
  · intro address flags owner found held other
    exact silent_advance exclusive present free found held
  · intro other later address running drains
    exact owned_advance exclusive present kept running drains
  · intro other address holds
    exact drained_advance exclusive present kept holds
  · intro other later address running granted
    exact steady_advance exclusive present running granted

end Advance

/-- Starting or ending a call keeps drain windows exclusive, provided that every grant
afterwards was held before and is not about to be released. -/
theorem Exclusive.reschedule {state next : State} {key : VIPKey} {thread : Option Thread}
    (exclusive : Exclusive state) (shared : next.shared = state.shared)
    (threads : next.threads = Function.update state.threads key thread)
    (quiet : state.unrecorded key = none)
    (fresh : ∀ current, thread = some current → current.pc = .start current.call)
    (grants : ∀ other address, next.granted other address = true →
      Holds state other address ∧ (other ≠ key → state.granted other address = true) ∧
        ∀ current, other = key → thread = some current → current.call ≠ .finishDrain address) :
    Exclusive next := by
  have moved : ∀ other current, next.threads other = some current →
      (other = key ∧ thread = some current ∧ current.pc = .start current.call) ∨
        (other ≠ key ∧ state.threads other = some current) := by
    intro other current running
    rw [threads] at running
    by_cases same : other = key
    · subst same
      rw [Function.update_self] at running
      exact .inl ⟨rfl, running, fresh current running⟩
    · rw [Function.update_of_ne same] at running
      exact .inr ⟨same, running⟩
  refine ⟨?_, ?_, ?_, ?_, ?_, ?_⟩
  · have idle : (thread.bind fun current => current.pc.unrecorded) = none := by
      cases thread with
      | none => rfl
      | some current => simp [fresh current rfl, Pc.unrecorded]
    refine exclusive.settled.quiet (by rw [shared]) ?_ ?_
    · rw [shared]
      exact fun _ flags entry reconciled => ⟨flags, entry, reconciled, rfl⟩
    · intro other address operation pending _
      rw [State.unrecorded_eq threads quiet idle]
      exact pending
  · intro other current running
    rcases moved other current running with ⟨_, _, starts⟩ | ⟨_, earlier⟩
    · rw [starts]
      rfl
    · exact exclusive.fits other current earlier
  · intro address flags owner found held other flying
    rw [shared] at found
    obtain ⟨current, running, flying⟩ := Option.bind_eq_some_iff.mp flying
    rcases moved other current running with ⟨_, _, starts⟩ | ⟨_, earlier⟩
    · simp [starts, Pc.inFlight] at flying
    · refine exclusive.silent address flags owner found held other ?_
      simp [State.inFlight, earlier, flying]
  · intro other current address running drains
    rw [shared]
    rcases moved other current running with ⟨_, _, starts⟩ | ⟨_, earlier⟩
    · simp [starts, Pc.draining] at drains
    · exact exclusive.owned other current address earlier drains
  · intro other address holds
    have before : Holds state other address := by
      rcases holds with granted | ⟨named, force, returning⟩
      · exact (grants other address granted).1
      · rcases moved other _ returning with ⟨_, _, starts⟩ | ⟨_, earlier⟩
        · simp at starts
        · exact .inr ⟨named, force, earlier⟩
    simpa only [Drained, shared] using exclusive.drained other address before
  · intro other current address running granted
    obtain ⟨_, earlierGrant, notReleased⟩ := grants other address granted
    rcases moved other current running with ⟨same, started, starts⟩ | ⟨distinct, earlier⟩
    · rw [starts]
      refine ⟨by simp [Pc.inFlight], by simp, ?_⟩
      simpa using notReleased current same started
    · exact exclusive.steady other current address earlier (earlierGrant distinct)

theorem setGranted_eq_true {granted : VIPKey → String → Bool} {key other : VIPKey}
    {value : Bool} {drain : Option String} {address : String}
    (holds : setGranted granted key value drain other address = true) :
    (other = key ∧ drain = some address ∧ value = true) ∨
      (granted other address = true ∧ ¬(other = key ∧ drain = some address)) := by
  cases drain with
  | none => exact .inr ⟨holds, by simp⟩
  | some drained =>
    simp only [setGranted, Function.update_apply] at holds
    by_cases mine : other = key
    · subst mine
      by_cases same : address = drained
      · subst same
        exact .inl ⟨rfl, rfl, by simpa using holds⟩
      · simp only [↓reduceIte, Function.update_of_ne same] at holds
        exact .inr ⟨holds, by simp [Ne.symm same]⟩
    · simp only [mine, ↓reduceIte] at holds
      exact .inr ⟨holds, by simp [mine]⟩

/-- The invariant holds in every state of every run under `drainGuard`. -/
theorem exclusive_of_reachable {interval : Int} {state : State}
    (reached : (system interval).Reachable drainGuard state) : Exclusive state := by
  refine reached.invariant ?_ ?_
  · rintro _ ⟨routes, rfl⟩
    constructor <;>
      simp [Settled, Holds, boot, newRouteCoordinator, RouteCoordinator.flags]
  · intro state label next exclusive guarded moves
    rcases step_cases moves with ⟨key, call, rfl, absent, rfl⟩ |
      ⟨key, reply, thread, rfl, present, rfl⟩ | ⟨key, call, result, err, rfl, present, rfl⟩
    · refine exclusive.reschedule rfl rfl (by simp [State.unrecorded, absent]) (by simp) ?_
      intro other address granted
      rcases setGranted_eq_true granted with ⟨_, _, impossible⟩ | ⟨before, notReleased⟩
      · simp at impossible
      · refine ⟨.inl before, fun _ => before, ?_⟩
        rintro current rfl ⟨⟩ rfl
        exact notReleased ⟨rfl, rfl⟩
    · exact exclusive.advance present guarded
    · refine exclusive.reschedule rfl rfl
        (by simp [State.unrecorded, present, Pc.unrecorded]) (by simp) ?_
      intro other address granted
      refine ⟨?_, ?_, by simp⟩
      · rcases setGranted_eq_true granted with ⟨rfl, drains, _⟩ | ⟨before, _⟩
        · right
          unfold drainedBy at drains
          split at drains
          · split at drains
            · simp at drains
            · rename_i named
              simp only [Option.some.injEq] at drains
              subst drains
              exact ⟨named, _, present⟩
          · simp at drains
        · exact .inl before
      · intro distinct
        rcases setGranted_eq_true granted with ⟨same, _⟩ | ⟨before, _⟩
        · exact absurd same distinct
        · exact before

/-- **The drain window is exclusive.** In every run under `drainGuard`, over any router
content at the start and any number of goroutines, the route of an address is out of
the router in every state between the return of a granted drain and its owner's call
of `FinishDrain`. -/
theorem route_absent_while_granted {interval : Int} {state : State}
    (reached : (system interval).Reachable drainGuard state) (key : VIPKey) (address : String)
    (granted : state.granted key address = true) : state.shared.routes address = false := by
  have exclusive := exclusive_of_reachable reached
  exact exclusive.route_absent (exclusive.drained key address (.inl granted))

/-- A goroutine starts to serve an address, and decides what to do only once another one has
marked the address as under drain. -/
def drainWhileServingRun (first second : VIPKey) (address : String) : List Label :=
  let ok : Reply := ⟨0, none⟩
  [.call first (.setServing address true), .step first ok,
    .call second (.beginDrain address true), .step second ok, .step second ok,
    .step first ok, .step first ok, .step second ok, .step second ok, .step second ok,
    .finish second]

/-- A drain granted among the steps of another call, in a process that found the route announced
by an earlier one. -/
theorem route_absent_while_granted_contended :
    ∃ final, (system 0).run (boot 0 fun _ => true)
        (drainWhileServingRun ⟨"default", "a"⟩ ⟨"default", "b"⟩ "192.0.2.1") = some final ∧
      final.granted ⟨"default", "b"⟩ "192.0.2.1" = true ∧
      final.shared.routes "192.0.2.1" = false := by
  have runs : (system 0).run (boot 0 fun _ => true)
      (drainWhileServingRun ⟨"default", "a"⟩ ⟨"default", "b"⟩ "192.0.2.1") = some _ := rfl
  have starts : (system 0).Reachable drainGuard (boot 0 fun _ => true) := .initial ⟨_, rfl⟩
  have meets : (system 0).Meets drainGuard (boot 0 fun _ => true)
      (drainWhileServingRun ⟨"default", "a"⟩ ⟨"default", "b"⟩ "192.0.2.1") := by
    have free : True ∧ True ∧ True := ⟨trivial, trivial, trivial⟩
    refine ⟨free, free, free, free, ⟨trivial, ?_, trivial⟩, free, free, free, free,
      ⟨fun _ => .inl rfl, trivial, trivial⟩, free, trivial⟩
    intro _ other distinct
    by_cases first : other = ⟨"default", "a"⟩
    · subst first
      exact nofun
    · simp [State.inFlight, State.advance, distinct, first, boot]
  exact ⟨_, runs, rfl,
    route_absent_while_granted (starts.run meets runs) ⟨"default", "b"⟩ "192.0.2.1" rfl⟩

/-- A goroutine decides to announce an address; another one is granted the drain of
the address; then the announce reaches the router. -/
def staleAnnounceRun (first second : VIPKey) (address : String) : List Label :=
  let ok : Reply := ⟨0, none⟩
  [.call first (.setServing address true), .step first ok, .step first ok, .step first ok,
    .call second (.beginDrain address true), .step second ok, .step second ok, .step second ok,
    .step second ok, .step second ok, .finish second, .step first ok]

/-- **A stale announce.** An announce that was decided before a drain began can reach
the router after the drain was granted. -/
theorem stale_announce_in_drain_window :
    ∃ final, (system 0).run (boot 0 fun _ => false)
        (staleAnnounceRun ⟨"default", "a"⟩ ⟨"default", "b"⟩ "192.0.2.1") = some final ∧
      final.granted ⟨"default", "b"⟩ "192.0.2.1" = true ∧
      final.shared.routes "192.0.2.1" = true :=
  ⟨_, rfl, rfl, rfl⟩

end Interleaving

end ArcaLB.Routing
