import ArcaLB.Routing.Call

/-!
# What one step of a call does

The safety of the coordinator depends on three flags per address: whether it is
recorded as advertised, whether its route was reconciled at all, and who drains
it.  This module says once how a step changes these flags, the router and the
operation in flight; the invariants of interleaved runs use nothing else about
the locked sections.
-/

namespace ArcaLB.Routing

/-- The flags of an address entry that decide about its route. -/
structure Flags where
  advertised : Bool := false
  reconciled : Bool := false
  drainOwner : Option VIPKey := none
  deriving DecidableEq, Repr

/-- The flags of an address's state. -/
def RouteAddressState.flags (state : RouteAddressState) : Flags where
  advertised := state.advertised
  reconciled := state.reconciled
  drainOwner := state.drainOwner

variable {address : String}

namespace RouteCoordinator

/-- The flags of every address with an entry. -/
def flags (coordinator : RouteCoordinator) (address : String) : Option Flags :=
  (coordinator.addresses address).map RouteAddressState.flags

variable {coordinator : RouteCoordinator}

theorem flags_eq_some {flags : Flags} :
    coordinator.flags address = some flags ↔
      ∃ state, coordinator.addresses address = some state ∧ state.flags = flags := by
  simp [RouteCoordinator.flags]

theorem flags_eq_none :
    coordinator.flags address = none ↔ coordinator.addresses address = none := by
  simp [RouteCoordinator.flags]

theorem flags_of_found
    {state : RouteAddressState} (found : coordinator.addresses address = some state) :
    coordinator.flags address = some state.flags := by
  simp [RouteCoordinator.flags, found]

@[simp] theorem flags_setAddress (coordinator : RouteCoordinator) (address : String)
    (state : Option RouteAddressState) :
    (coordinator.setAddress address state).flags =
      Function.update coordinator.flags address (state.map RouteAddressState.flags) := by
  funext other
  by_cases same : other = address
  · subst same
    simp [RouteCoordinator.flags]
  · simp [RouteCoordinator.flags, same]

@[simp] theorem flags_track (coordinator : RouteCoordinator) (key : VIPKey)
    (address : String) : (coordinator.track key address).flags = coordinator.flags := rfl

@[simp] theorem flags_ensure (coordinator : RouteCoordinator) (address : String) :
    (coordinator.ensureRouteAddressState address).flags =
      (coordinator.flags address).getD {} := by
  cases found : coordinator.addresses address with
  | none => simp [ensureRouteAddressState, RouteCoordinator.flags, found, RouteAddressState.flags]
  | some state => simp [ensureRouteAddressState, RouteCoordinator.flags, found]

/-- Writing an entry whose flags are the present ones changes no flag. -/
theorem flags_setAddress_same
    {state : RouteAddressState} (same : coordinator.flags address = some state.flags) :
    (coordinator.setAddress address (some state)).flags = coordinator.flags := by
  simp [← same]

@[simp] theorem flags_forgetServing (coordinator : RouteCoordinator) (key : VIPKey)
    (address : String) : (coordinator.forgetServing key address).flags = coordinator.flags := by
  unfold forgetServing
  cases found : coordinator.addresses address with
  | none => rfl
  | some state =>
    have present : coordinator.flags address = some state.flags := flags_of_found found
    exact flags_setAddress_same present

end RouteCoordinator

/-- The operation that a call decided and did not record yet. -/
def Pc.inFlight : Pc → Option (String × RouteOperation)
  | .routeCall address operation _ _ _ => some (address, operation)
  | .routeRecord address operation _ _ => some (address, operation)
  | _ => none

/-- The operation that reached the router and is not recorded yet. -/
def Pc.unrecorded : Pc → Option (String × RouteOperation)
  | .routeRecord address operation _ _ => some (address, operation)
  | _ => none

variable {pc : Pc}

theorem Pc.inFlight_of_unrecorded {operation : RouteOperation}
    (pending : pc.unrecorded = some (address, operation)) :
    pc.inFlight = some (address, operation) := by
  cases pc with
  | routeRecord address operation time after => exact pending
  | _ => simp [Pc.unrecorded] at pending

/-- How a step of a call by `key` at the given control point can change the flags. -/
inductive FlagChange (key : VIPKey) (coordinator : RouteCoordinator) :
    Pc → (String → Option Flags) → Prop where
  | same {pc : Pc}
      (unknown : ∀ address operation, pc.unrecorded = some (address, operation) →
        coordinator.flags address = none) :
      FlagChange key coordinator pc coordinator.flags
  | created {pc : Pc} (address : String) (absent : coordinator.flags address = none)
      (quiet : pc.unrecorded = none) :
      FlagChange key coordinator pc (Function.update coordinator.flags address (some {}))
  | dropped {after : AfterRemove} {advertised : Bool} {err : Option String}
      (address : String) (state : RouteAddressState)
      (found : coordinator.addresses address = some state)
      (unused : state.serving.entries = []) (hidden : state.advertised = false) :
      FlagChange key coordinator (.removeEnd address after advertised err)
        (Function.update coordinator.flags address none)
  | taken (address : String) (forceAddress : Bool)
      (admitted : coordinator.drainAdmitted key address forceAddress = true) :
      FlagChange key coordinator (.drainMark address forceAddress)
        (Function.update coordinator.flags address
          (some { (coordinator.flags address).getD {} with drainOwner := some key }))
  | released {pc : Pc} (address : String) (flags : Flags)
      (found : coordinator.flags address = some flags) (held : flags.drainOwner = some key)
      (point : pc = .start (.finishDrain address) ∨ ∃ err, pc = .drainAbort address err) :
      FlagChange key coordinator pc
        (Function.update coordinator.flags address (some { flags with drainOwner := none }))
  | recorded {operationTime : Time} {after : AfterRoute} (address : String)
      (operation : RouteOperation) (flags : Flags)
      (found : coordinator.flags address = some flags) :
      FlagChange key coordinator (.routeRecord address operation operationTime after)
        (Function.update coordinator.flags address
          (some { flags with advertised := operation.effect, reconciled := true }))

namespace FlagChange

variable {key : VIPKey} {coordinator : RouteCoordinator}

theorem of_quiet (quiet : pc.unrecorded = none) : FlagChange key coordinator pc coordinator.flags :=
  .same fun _ _ pending => by simp [quiet] at pending

theorem of_finishRemove (address : String) (after : AfterRemove) (advertised : Bool)
    (err : Option String) :
    FlagChange key coordinator (.removeEnd address after advertised err)
      (coordinator.finishRemove key address err).flags := by
  unfold RouteCoordinator.finishRemove
  generalize chosen : (if (err.isNone && !coordinator.trackedElsewhere key address) = true then
    coordinator.track key "" else coordinator) = released
  have entries : released.addresses = coordinator.addresses := by
    rw [← chosen]
    split <;> rfl
  have sameFlags : released.flags = coordinator.flags := by
    funext other
    simp [RouteCoordinator.flags, entries]
  simp only [RouteCoordinator.cleanupRouteAddress, entries]
  cases found : coordinator.addresses address with
  | none =>
    simp only [sameFlags]
    exact .of_quiet rfl
  | some state =>
    by_cases unused : (state.serving.entries.isEmpty && !state.advertised) = true
    · simp only [unused, ↓reduceIte, RouteCoordinator.flags_setAddress, sameFlags]
      rw [Bool.and_eq_true, List.isEmpty_iff, Bool.not_eq_true'] at unused
      exact .dropped address state found unused.1 unused.2
    · simp only [unused, Bool.false_eq_true, ↓reduceIte, sameFlags]
      exact .of_quiet rfl

theorem of_markServing (address : String) (serving : Bool) (quiet : pc.unrecorded = none) :
    FlagChange key coordinator pc (coordinator.markServing key address serving).flags := by
  unfold RouteCoordinator.markServing
  simp only [RouteCoordinator.flags_setAddress, RouteCoordinator.flags_track, Option.map_some]
  change FlagChange key coordinator pc (Function.update coordinator.flags address
    (some (coordinator.ensureRouteAddressState address).flags))
  rw [RouteCoordinator.flags_ensure]
  cases found : coordinator.flags address with
  | none => exact .created address found quiet
  | some flags =>
    rw [Option.getD_some, ← found, Function.update_eq_self]
    exact .of_quiet quiet

theorem of_markDraining (address : String) (force : Bool) :
    FlagChange key coordinator (.drainMark address force)
      (coordinator.markDraining key address force).flags := by
  unfold RouteCoordinator.markDraining
  by_cases admitted : coordinator.drainAdmitted key address force = true
  · simp only [admitted, ↓reduceIte, RouteCoordinator.flags_setAddress,
      RouteCoordinator.flags_track, Option.map_some]
    change FlagChange key coordinator (.drainMark address force)
      (Function.update coordinator.flags address
        (some { (coordinator.ensureRouteAddressState address).flags with
          drainOwner := some key }))
    rw [RouteCoordinator.flags_ensure]
    exact .taken address force admitted
  · simp only [admitted, Bool.false_eq_true, ↓reduceIte, RouteCoordinator.flags_setAddress,
      Option.map_some, RouteCoordinator.flags_ensure]
    cases found : coordinator.flags address with
    | none => exact .created address found rfl
    | some flags =>
      rw [Option.getD_some, ← found, Function.update_eq_self]
      exact .of_quiet rfl

theorem of_clearDrain (address : String)
    (point : pc = .start (.finishDrain address) ∨ ∃ err, pc = .drainAbort address err) :
    FlagChange key coordinator pc (coordinator.clearDrain key address).flags := by
  have quiet : pc.unrecorded = none := by
    rcases point with rfl | ⟨err, rfl⟩ <;> rfl
  unfold RouteCoordinator.clearDrain
  cases found : coordinator.addresses address with
  | none => exact .of_quiet quiet
  | some state =>
    by_cases held : state.drainOwner = some key
    · simp only [held, beq_self_eq_true, ↓reduceIte, RouteCoordinator.flags_setAddress,
        Option.map_some]
      exact .released address state.flags (RouteCoordinator.flags_of_found found) held point
    · simp only [beq_iff_eq, held, ↓reduceIte]
      exact .of_quiet quiet

theorem of_recordRoute (address : String) (operation : RouteOperation) (time : Time)
    (after : AfterRoute) :
    FlagChange key coordinator (.routeRecord address operation time after)
      (coordinator.recordRoute address operation time).flags := by
  unfold RouteCoordinator.recordRoute
  cases found : coordinator.addresses address with
  | none =>
    refine .same fun other requested pending => ?_
    simp only [Pc.unrecorded, Option.some.injEq, Prod.mk.injEq] at pending
    rw [← pending.1]
    exact RouteCoordinator.flags_eq_none.mpr found
  | some state =>
    have recorded : (state.applyRouteOperation operation time).flags =
        { state.flags with advertised := operation.effect, reconciled := true } := by
      cases operation <;> rfl
    simp only [RouteCoordinator.flags_setAddress, Option.map_some, recorded]
    exact .recorded address operation state.flags (RouteCoordinator.flags_of_found found)

/-- A change of flags records an operation, or every reconciled entry after it was a
reconciled entry with the same belief before it. -/
theorem belief {after : String → Option Flags} (change : FlagChange key coordinator pc after) :
    (∃ address operation flags, pc.unrecorded = some (address, operation) ∧
      coordinator.flags address = some flags ∧
      after = Function.update coordinator.flags address
        (some { flags with advertised := operation.effect, reconciled := true })) ∨
    ((∀ address operation, pc.unrecorded = some (address, operation) →
        coordinator.flags address = none) ∧
      ∀ address flags, after address = some flags → flags.reconciled = true →
        ∃ earlier, coordinator.flags address = some earlier ∧ earlier.reconciled = true ∧
          earlier.advertised = flags.advertised) := by
  -- Outside of recording, only the drain owner of an existing entry changes.
  have updated : ∀ (changed : String) (value : Option Flags),
      (∀ flags, value = some flags → flags.reconciled = true →
        ∃ earlier, coordinator.flags changed = some earlier ∧ earlier.reconciled = true ∧
          earlier.advertised = flags.advertised) →
      ∀ address flags, Function.update coordinator.flags changed value address = some flags →
        flags.reconciled = true →
        ∃ earlier, coordinator.flags address = some earlier ∧ earlier.reconciled = true ∧
          earlier.advertised = flags.advertised := by
    intro changed value atChanged address flags entry reconciled
    by_cases same : address = changed
    · subst same
      rw [Function.update_self] at entry
      exact atChanged flags entry reconciled
    · rw [Function.update_of_ne same] at entry
      exact ⟨flags, entry, reconciled, rfl⟩
  cases change with
  | same unknown =>
    exact .inr ⟨unknown, fun address flags entry reconciled =>
      ⟨flags, entry, reconciled, rfl⟩⟩
  | created address absent quiet =>
    refine .inr ⟨by simp [quiet], updated address _ ?_⟩
    rintro flags ⟨⟩ reconciled
    simp at reconciled
  | dropped address state found unused hidden =>
    refine .inr ⟨by simp [Pc.unrecorded], updated address _ ?_⟩
    rintro flags ⟨⟩
  | taken address force admitted =>
    refine .inr ⟨by simp [Pc.unrecorded], updated address _ ?_⟩
    rintro flags ⟨⟩ reconciled
    cases found : coordinator.flags address with
    | none => simp [found] at reconciled
    | some earlier => exact ⟨earlier, rfl, by simpa [found] using reconciled, by simp⟩
  | released address flags found held point =>
    refine .inr ⟨?_, updated address _ ?_⟩
    · rcases point with rfl | ⟨err, rfl⟩ <;> simp [Pc.unrecorded]
    · rintro changed ⟨⟩ reconciled
      exact ⟨flags, found, reconciled, rfl⟩
  | recorded address operation flags found =>
    exact .inl ⟨address, operation, flags, rfl, found, rfl⟩

end FlagChange

theorem Pc.unrecorded_eq_some {operation : RouteOperation} :
    pc.unrecorded = some (address, operation) ↔
      ∃ time after, pc = .routeRecord address operation time after := by
  cases pc <;> simp [Pc.unrecorded]

theorem Pc.unrecorded_of_inFlight_none (nothing : pc.inFlight = none) : pc.unrecorded = none := by
  cases pc with
  | routeRecord address operation time after => simp [inFlight] at nothing
  | _ => rfl

@[simp] theorem AfterRemove.inFlight_resume (after : AfterRemove) (key : VIPKey)
    (removed : String) (advertised : Bool) (err : Option String) :
    (after.resume key removed advertised err).inFlight = none := by
  cases after <;> cases err <;> rfl

@[simp] theorem AfterRoute.inFlight_resume (after : AfterRoute) (address : String)
    (advertised : Bool) (err : Option String) :
    (after.resume address advertised err).inFlight = none := by
  cases after <;> cases err <;> rfl

@[simp] theorem Call.inFlight_enter (call : Call) (key : VIPKey) (coordinator : RouteCoordinator) :
    (call.enter key coordinator).1.inFlight = none := by
  cases call <;> simp only [Call.enter] <;> (repeat' split) <;> rfl

/-- Where a step of a call can go. -/
inductive Pc.Edge (key : VIPKey) (reply : Reply) (coordinator : RouteCoordinator) :
    Pc → Pc → Prop where
  | enter (call : Call) :
      Edge key reply coordinator (.start call) (call.enter key coordinator).1
  | skip (address : String) (after : AfterRemove) :
      Edge key reply coordinator (.removeBegin address after)
        (after.resume key address false none)
  | remove (address : String) (after : AfterRemove) :
      Edge key reply coordinator (.removeBegin address after)
        (.routeDecide address (.remove after))
  | removed (address : String) (after : AfterRemove) (advertised : Bool)
      (err : Option String) :
      Edge key reply coordinator (.removeEnd address after advertised err)
        (after.resume key address advertised err)
  | marked (address : String) (serving : Bool) :
      Edge key reply coordinator (.setServingMark address serving)
        (.routeDecide address .caller)
  | admitted (address : String) (force : Bool)
      (free : coordinator.drainAdmitted key address force = true) :
      Edge key reply coordinator (.drainMark address force) (.routeDecide address .beginDrain)
  | refused (address : String) (force : Bool) :
      Edge key reply coordinator (.drainMark address force) (.done false none)
  | aborted (address err : String) :
      Edge key reply coordinator (.drainAbort address err) (.done false (some err))
  | unknown (address : String) (after : AfterRoute)
      (absent : coordinator.addresses address = none) :
      Edge key reply coordinator (.routeDecide address after) (after.resume address false none)
  | idle (address : String) (after : AfterRoute) (state : RouteAddressState) (advertised : Bool)
      (found : coordinator.addresses address = some state)
      (nothing : state.nextRouteOperation coordinator.routeVerificationInterval reply.now =
        (none, advertised)) :
      Edge key reply coordinator (.routeDecide address after)
        (after.resume address advertised none)
  | due (address : String) (after : AfterRoute) (state : RouteAddressState)
      (operation : RouteOperation) (advertised : Bool)
      (found : coordinator.addresses address = some state)
      (next : state.nextRouteOperation coordinator.routeVerificationInterval reply.now =
        (some operation, advertised)) :
      Edge key reply coordinator (.routeDecide address after)
        (.routeCall address operation advertised reply.now after)
  | failed (address : String) (operation : RouteOperation) (advertised : Bool) (time : Time)
      (after : AfterRoute) (text : String) :
      Edge key reply coordinator (.routeCall address operation advertised time after)
        (after.resume address advertised (some text))
  | called (address : String) (operation : RouteOperation) (advertised : Bool) (time : Time)
      (after : AfterRoute) :
      Edge key reply coordinator (.routeCall address operation advertised time after)
        (.routeRecord address operation time after)
  | recorded (address : String) (operation : RouteOperation) (time : Time) (after : AfterRoute)
      (advertised : Bool) :
      Edge key reply coordinator (.routeRecord address operation time after)
        (after.resume address advertised none)
  | again (address : String) (operation : RouteOperation) (time : Time) (after : AfterRoute) :
      Edge key reply coordinator (.routeRecord address operation time after)
        (.routeDecide address after)
  | finished (result : Bool) (err : Option String) :
      Edge key reply coordinator (.done result err) (.done result err)

namespace Pc

/-- **Flags.** Every step changes the flags in one of the ways of `FlagChange`. -/
theorem step_flags (key : VIPKey) (reply : Reply) (shared : Shared) (pc : Pc) :
    FlagChange key shared.coordinator pc (pc.step key reply shared).2.coordinator.flags := by
  cases pc with
  | start call =>
    cases call with
    | finishDrain address =>
      simp only [step, Call.enter]
      split
      · exact .of_quiet rfl
      · split
        · exact .of_clearDrain address (.inl rfl)
        · exact .of_quiet rfl
    | _ =>
      simp only [step, Call.enter]
      (repeat' split) <;> exact .of_quiet rfl
  | removeBegin address after =>
    simp only [step]
    split
    · exact .of_quiet rfl
    · simp only [RouteCoordinator.flags_forgetServing]
      exact .of_quiet rfl
  | removeEnd address after advertised err => exact .of_finishRemove address after advertised err
  | setServingMark address serving => exact .of_markServing address serving rfl
  | drainMark address force => exact .of_markDraining address force
  | drainAbort address err => exact .of_clearDrain address (.inr ⟨err, rfl⟩)
  | routeDecide address after => exact .of_quiet rfl
  | routeCall address operation advertised time after =>
    simp only [step]
    split <;> exact .of_quiet rfl
  | routeRecord address operation time after => exact .of_recordRoute address operation time after
  | done result err => exact .of_quiet rfl

/-- **Control flow.** Every step follows an edge. -/
theorem step_edge (key : VIPKey) (reply : Reply) (shared : Shared) (pc : Pc) :
    Edge key reply shared.coordinator pc (pc.step key reply shared).1 := by
  cases pc with
  | start call => exact .enter call
  | removeBegin address after =>
    simp only [step]
    split
    · exact .skip address after
    · exact .remove address after
  | removeEnd address after advertised err => exact .removed address after advertised err
  | setServingMark address serving => exact .marked address serving
  | drainMark address force =>
    simp only [step]
    split
    · exact .admitted address force ‹_›
    · exact .refused address force
  | drainAbort address err => exact .aborted address err
  | routeDecide address after =>
    simp only [step, decideRoute]
    split
    · exact .unknown address after ‹_›
    · rename_i state found
      split
      · exact .idle address after state _ found ‹_›
      · exact .due address after state _ _ found ‹_›
  | routeCall address operation advertised time after =>
    simp only [step]
    split
    · exact .failed ..
    · exact .called ..
  | routeRecord address operation time after =>
    simp only [step, afterRecord]
    split
    · exact .recorded ..
    · split
      · exact .recorded ..
      · exact .again ..
  | done result err => exact .finished result err

variable {key : VIPKey} {reply : Reply} {coordinator : RouteCoordinator} {pc next : Pc}
  {address : String} {operation : RouteOperation}

/-- An operation in flight after a step was in flight before it, or the step decided
it because it was due. -/
theorem Edge.inFlight (edge : Edge key reply coordinator pc next)
    (flying : next.inFlight = some (address, operation)) :
    pc.inFlight = some (address, operation) ∨
      ∃ after state advertised, pc = .routeDecide address after ∧
        coordinator.addresses address = some state ∧
        state.nextRouteOperation coordinator.routeVerificationInterval reply.now =
          (some operation, advertised) := by
  cases edge with
  | due decided after state requested advertised found next =>
    simp only [Pc.inFlight, Option.some.injEq, Prod.mk.injEq] at flying
    obtain ⟨rfl, rfl⟩ := flying
    exact .inr ⟨after, state, advertised, rfl, found, next⟩
  | called => exact .inl flying
  | enter | skip | removed | unknown | idle | failed | recorded => simp at flying
  | remove | marked | admitted | refused | aborted | again | finished =>
    simp [Pc.inFlight] at flying

/-- Only a successful router call leaves an unrecorded operation behind. -/
theorem Edge.unrecorded (edge : Edge key reply coordinator pc next)
    (pending : next.unrecorded = some (address, operation)) :
    ∃ advertised time after, pc = .routeCall address operation advertised time after := by
  obtain ⟨time, after, rfl⟩ := unrecorded_eq_some.mp pending
  generalize point : Pc.routeRecord address operation time after = target at edge
  have flying : target.inFlight = some (address, operation) := by
    rw [← point]
    rfl
  cases edge with
  | called =>
    cases point
    exact ⟨_, _, _, rfl⟩
  | enter | skip | removed | unknown | idle | failed | recorded => simp at flying
  | remove | marked | admitted | refused | aborted | again | finished =>
    simp [Pc.inFlight] at flying
  | due => simp at point

/-- **Router.** A step leaves the router and the set of unrecorded operations
alone, or it is a successful router call. -/
theorem step_routes (key : VIPKey) (reply : Reply) (shared : Shared) (pc : Pc) :
    ((pc.step key reply shared).2.routes = shared.routes ∧
        (pc.step key reply shared).1.unrecorded = none) ∨
      ∃ address operation advertised time after,
        pc = .routeCall address operation advertised time after ∧
        (pc.step key reply shared).1 = .routeRecord address operation time after ∧
        (pc.step key reply shared).2 =
          { shared with routes := Function.update shared.routes address operation.effect } := by
  cases pc with
  | routeCall address operation advertised time after =>
    cases answered : reply.err with
    | some text =>
      left
      simp only [step, answered]
      exact ⟨trivial, unrecorded_of_inFlight_none (AfterRoute.inFlight_resume ..)⟩
    | none =>
      right
      refine ⟨address, operation, advertised, time, after, rfl, ?_, ?_⟩ <;>
        simp [step, answered]
  | removeBegin address after =>
    left
    simp only [step]
    split
    · exact ⟨rfl, unrecorded_of_inFlight_none (AfterRemove.inFlight_resume ..)⟩
    · exact ⟨rfl, rfl⟩
  | _ =>
    refine .inl ⟨rfl, ?_⟩
    by_contra pending
    obtain ⟨⟨address, operation⟩, pending⟩ := Option.ne_none_iff_exists'.mp pending
    obtain ⟨_, _, _, point⟩ := (step_edge key reply shared _).unrecorded pending
    cases point

end Pc

end ArcaLB.Routing
