import ArcaLB.Routing.Flags

/-!
# Steps of a draining call

Which control points belong to which call, how a call enters and leaves the part
of `beginDrain` that waits for the withdrawal, and how a step treats the drain
owner of an address.
-/

namespace ArcaLB.Routing

/-- The part of a call that is left after `removeVIPFromAddress`. -/
def Call.afterRemove : Call → Option AfterRemove
  | .setServing address serving => some (.setServing address serving)
  | .beginDrain address force => some (.beginDrain address force)
  | .finishDrain _ => none
  | .prepareAddressChange _ => some .prepareAddressChange
  | .delete _ => some .delete

/-- The callers of `reconcileRoute` on an address that a call can be. -/
def AfterRoute.Fits (call : Call) (address : String) : AfterRoute → Prop
  | .caller => (∃ serving, call = .setServing address serving) ∨ call = .finishDrain address
  | .remove after => call.afterRemove = some after
  | .beginDrain => ∃ force, call = .beginDrain address force

/-- The control points that a call can be at. -/
def Pc.Fits (call : Call) : Pc → Prop
  | .start entered => entered = call
  | .removeBegin _ after => call.afterRemove = some after
  | .removeEnd _ after _ _ => call.afterRemove = some after
  | .setServingMark address serving => call = .setServing address serving
  | .drainMark address force => call = .beginDrain address force
  | .drainAbort address _ => ∃ force, call = .beginDrain address force
  | .routeDecide address after => after.Fits call address
  | .routeCall address _ _ _ after => after.Fits call address
  | .routeRecord address _ _ after => after.Fits call address
  | .done _ _ => True

variable {call : Call}

theorem AfterRoute.fits_resume {address : String} {after : AfterRoute}
    (fits : after.Fits call address) (advertised : Bool) (err : Option String) :
    (after.resume address advertised err).Fits call := by
  cases after with
  | caller => trivial
  | remove next => exact fits
  | beginDrain =>
    cases err with
    | none => trivial
    | some text => exact fits

theorem AfterRemove.fits_resume {after : AfterRemove} (fits : call.afterRemove = some after)
    (key : VIPKey) (removed : String) (advertised : Bool) (err : Option String) :
    (after.resume key removed advertised err).Fits call := by
  cases call with
  | finishDrain address => simp [Call.afterRemove] at fits
  | setServing _ _ | beginDrain _ _ | prepareAddressChange _ | delete _ =>
    simp only [Call.afterRemove, Option.some.injEq] at fits
    subst fits
    cases err <;> trivial

theorem Call.fits_enter (call : Call) (key : VIPKey) (coordinator : RouteCoordinator) :
    (call.enter key coordinator).1.Fits call := by
  cases call with
  | finishDrain address =>
    simp only [Call.enter]
    split
    · trivial
    · split
      · exact .inr rfl
      · trivial
  | setServing _ _ | beginDrain _ _ | prepareAddressChange _ | delete _ =>
    simp only [Call.enter]
    repeat' split
    all_goals trivial

/-- `reconcileRoute` running on behalf of `beginDrain` for an address. -/
def Pc.draining : Pc → Option String
  | .routeDecide address .beginDrain => some address
  | .routeCall address _ _ _ .beginDrain => some address
  | .routeRecord address _ _ .beginDrain => some address
  | _ => none

@[simp] theorem AfterRemove.draining_resume (after : AfterRemove) (key : VIPKey)
    (removed : String) (advertised : Bool) (err : Option String) :
    (after.resume key removed advertised err).draining = none := by
  cases after <;> cases err <;> rfl

@[simp] theorem AfterRoute.draining_resume (after : AfterRoute) (address : String)
    (advertised : Bool) (err : Option String) :
    (after.resume address advertised err).draining = none := by
  cases after <;> cases err <;> rfl

@[simp] theorem Call.draining_enter (call : Call) (key : VIPKey)
    (coordinator : RouteCoordinator) : (call.enter key coordinator).1.draining = none := by
  cases call <;> simp only [Call.enter] <;> (repeat' split) <;> rfl

namespace Pc

variable {key : VIPKey} {reply : Reply} {coordinator : RouteCoordinator} {pc next : Pc}
  {address : String}

variable (edge : Edge key reply coordinator pc next)
include edge

/-- A call stays at its own control points. -/
theorem Edge.fits (fits : pc.Fits call) : next.Fits call := by
  cases edge with
  | enter entered =>
    obtain rfl : entered = call := fits
    exact entered.fits_enter key coordinator
  | skip | removed => exact AfterRemove.fits_resume fits ..
  | unknown | idle | failed | recorded => exact AfterRoute.fits_resume fits ..
  | marked address serving => exact .inl ⟨serving, fits⟩
  | admitted address force => exact ⟨force, fits⟩
  | remove | due | called | again => exact fits
  | refused | aborted | finished => trivial

/-- A call drains an address after a step because it did before, or because it was
just admitted to. -/
theorem Edge.draining (drains : next.draining = some address) :
    pc.draining = some address ∨ ∃ force, pc = .drainMark address force ∧
      coordinator.drainAdmitted key address force = true := by
  cases edge with
  | admitted marked force free =>
    simp only [Pc.draining, Option.some.injEq] at drains
    subst drains
    exact .inr ⟨force, rfl, free⟩
  | due _ after | called _ _ _ _ after | again _ _ _ after =>
    left
    cases after <;> simp_all [Pc.draining]
  | enter | skip | removed | unknown | idle | failed | recorded => simp at drains
  | remove | marked | refused | aborted | finished => simp [Pc.draining] at drains

/-- Only a failed router call makes `beginDrain` give its drain back. -/
theorem Edge.drainAbort {err : String} (aborts : next = .drainAbort address err) :
    ∃ operation, pc.inFlight = some (address, operation) := by
  cases edge with
  | failed _ operation _ _ after => cases after <;> simp_all [AfterRoute.resume, Pc.inFlight]
  | enter call =>
    cases call <;> simp only [Call.enter] at aborts <;> (repeat' split at aborts) <;>
      simp at aborts
  | skip _ after => cases after <;> simp [AfterRemove.resume] at aborts
  | removed _ after _ err => cases after <;> cases err <;> simp [AfterRemove.resume] at aborts
  | unknown _ after | idle _ after | recorded _ _ _ after =>
    cases after <;> simp [AfterRoute.resume] at aborts
  | remove | marked | admitted | refused | aborted | due | called | again | finished =>
    simp at aborts

/-- No step goes back to the start of a call. -/
theorem Edge.ne_start : next ≠ .start call := by
  intro starts
  cases edge with
  | enter entered =>
    cases entered <;> simp only [Call.enter] at starts <;> (repeat' split at starts) <;>
      simp at starts
  | skip _ after => cases after <;> simp [AfterRemove.resume] at starts
  | removed _ after _ err => cases after <;> cases err <;> simp [AfterRemove.resume] at starts
  | unknown _ after | idle _ after | recorded _ _ _ after | failed _ _ _ _ after =>
    cases after <;> simp [AfterRoute.resume] at starts
  | remove | marked | admitted | refused | aborted | due | called | again | finished =>
    simp at starts

/-- A granting result of `beginDrain` comes from `reconcileRoute`, which found nothing
left to do or recorded an operation. -/
theorem Edge.grants {force : Bool} (fits : pc.Fits (.beginDrain address force))
    (named : address ≠ "") (grants : next = .done true none) (running : pc ≠ .done true none) :
    (pc = .routeDecide address .beginDrain ∧ (coordinator.addresses address = none ∨
      ∃ state, coordinator.addresses address = some state ∧
        state.nextRouteOperation coordinator.routeVerificationInterval reply.now =
          (none, false))) ∨
    ∃ operation time, pc = .routeRecord address operation time .beginDrain := by
  have returning : ∀ {reconciled : String} {advertised : Bool} {err : Option String}
      {after : AfterRoute}, after.Fits (.beginDrain address force) reconciled →
      after.resume reconciled advertised err = .done true none →
      after = .beginDrain ∧ reconciled = address ∧ advertised = false ∧ err = none := by
    intro reconciled advertised err after fits returns
    cases after with
    | caller => simp [AfterRoute.Fits] at fits
    | remove next => simp [AfterRoute.resume] at returns
    | beginDrain =>
      obtain ⟨_, same⟩ := fits
      simp only [Call.beginDrain.injEq] at same
      cases err <;> simp_all [AfterRoute.resume]
  cases edge with
  | enter call =>
    obtain rfl : call = .beginDrain address force := fits
    simp only [Call.enter, named, ↓reduceIte] at grants
    split at grants <;> simp at grants
  | skip =>
    obtain ⟨⟩ : some _ = some _ := fits
    simp [AfterRemove.resume] at grants
  | removed _ _ _ err =>
    obtain ⟨⟩ : some _ = some _ := fits
    cases err <;> simp [AfterRemove.resume] at grants
  | refused | aborted | remove | marked | admitted | due | called | again => simp at grants
  | unknown decided after absent =>
    obtain ⟨rfl, rfl, _⟩ := returning fits grants
    exact .inl ⟨rfl, .inl absent⟩
  | idle decided after state advertised found nothing =>
    obtain ⟨rfl, rfl, rfl, _⟩ := returning fits grants
    exact .inl ⟨rfl, .inr ⟨state, found, nothing⟩⟩
  | failed =>
    obtain ⟨_, _, _, failure⟩ := returning fits grants
    cases failure
  | recorded recorded operation time after advertised =>
    obtain ⟨rfl, rfl, _⟩ := returning fits grants
    exact .inr ⟨operation, time, rfl⟩
  | finished => exact absurd grants running

end Pc

namespace FlagChange

variable {key owner : VIPKey} {coordinator : RouteCoordinator} {pc : Pc}
  {after : String → Option Flags} {address : String} {flags : Flags}

/-- An admitted drain finds no other owner. -/
theorem owner_of_admitted {force : Bool}
    (admitted : coordinator.drainAdmitted key address force = true)
    (found : coordinator.flags address = some flags) (held : flags.drainOwner = some owner) :
    owner = key := by
  obtain ⟨state, present, rfl⟩ := RouteCoordinator.flags_eq_some.mp found
  have owned : state.drainOwner = some owner := held
  simp only [RouteCoordinator.drainAdmitted, RouteCoordinator.ensureRouteAddressState, present,
    Option.getD_some, owned, Option.isNone_some, Bool.false_or, Bool.and_eq_true, beq_iff_eq,
    Option.some.injEq] at admitted
  exact admitted.1

/-- A drain that is held after a step was held before it, or was just taken. -/
theorem owner_origin (change : FlagChange key coordinator pc after)
    (found : after address = some flags) (held : flags.drainOwner = some owner) :
    (∃ earlier, coordinator.flags address = some earlier ∧
        earlier.drainOwner = some owner) ∨
      owner = key ∧ ∃ force, pc = .drainMark address force ∧
        coordinator.drainAdmitted key address force = true := by
  have unchanged : ∀ {changed : String} {value : Option Flags}, address ≠ changed →
      Function.update coordinator.flags changed value address = some flags →
      ∃ earlier, coordinator.flags address = some earlier ∧ earlier.drainOwner = some owner := by
    intro changed value other entry
    rw [Function.update_of_ne other] at entry
    exact ⟨flags, entry, held⟩
  cases change with
  | same => exact .inl ⟨flags, found, held⟩
  | dropped changed =>
    by_cases same : address = changed
    · subst same
      simp at found
    · exact .inl (unchanged same found)
  | created changed | released changed =>
    by_cases same : address = changed
    · subst same
      simp only [Function.update_self, Option.some.injEq] at found
      subst found
      simp at held
    · exact .inl (unchanged same found)
  | taken changed force admitted =>
    by_cases same : address = changed
    · subst same
      simp only [Function.update_self, Option.some.injEq] at found
      subst found
      exact .inr ⟨by simpa using held.symm, force, rfl, admitted⟩
    · exact .inl (unchanged same found)
  | recorded changed operation earlier present =>
    by_cases same : address = changed
    · subst same
      simp only [Function.update_self, Option.some.injEq] at found
      subst found
      exact .inl ⟨earlier, present, held⟩
    · exact .inl (unchanged same found)

/-- A drain that is held before a step is held after it, with a changed belief only
where the step records one, unless the step drops the entry or the owner gives the
drain back. -/
theorem owner_kept (change : FlagChange key coordinator pc after)
    (found : coordinator.flags address = some flags) (held : flags.drainOwner = some owner) :
    (∃ later, after address = some later ∧ later.drainOwner = some owner ∧
      ((later.advertised = flags.advertised ∧ later.reconciled = flags.reconciled) ∨
        ∃ operation, pc.unrecorded = some (address, operation) ∧
          later.advertised = operation.effect ∧ later.reconciled = true)) ∨
    (∃ state next advertised err, pc = .removeEnd address next advertised err ∧
      coordinator.addresses address = some state ∧ state.serving.entries = [] ∧
      state.advertised = false) ∨
    (owner = key ∧ (pc = .start (.finishDrain address) ∨ ∃ err, pc = .drainAbort address err)) := by
  have unchanged : ∀ {changed : String} {value : Option Flags}, address ≠ changed →
      ∃ later, Function.update coordinator.flags changed value address = some later ∧
        later.drainOwner = some owner ∧
        ((later.advertised = flags.advertised ∧ later.reconciled = flags.reconciled) ∨
          ∃ operation, pc.unrecorded = some (address, operation) ∧
            later.advertised = operation.effect ∧ later.reconciled = true) := by
    intro changed value other
    rw [Function.update_of_ne other]
    exact ⟨flags, found, held, .inl ⟨rfl, rfl⟩⟩
  cases change with
  | same => exact .inl ⟨flags, found, held, .inl ⟨rfl, rfl⟩⟩
  | created changed absent =>
    have other : address ≠ changed := by
      rintro rfl
      simp [absent] at found
    exact .inl (unchanged other)
  | dropped changed state present unused hidden =>
    by_cases same : address = changed
    · subst same
      exact .inr (.inl ⟨state, _, _, _, rfl, present, unused, hidden⟩)
    · exact .inl (unchanged same)
  | taken changed force admitted =>
    by_cases same : address = changed
    · subst same
      have mine := owner_of_admitted admitted found held
      subst mine
      left
      rw [Function.update_self, found]
      exact ⟨_, rfl, rfl, .inl ⟨rfl, rfl⟩⟩
    · exact .inl (unchanged same)
  | released changed earlier present mine point =>
    by_cases same : address = changed
    · subst same
      rw [found, Option.some.injEq] at present
      subst present
      rw [held, Option.some.injEq] at mine
      exact .inr (.inr ⟨mine, point⟩)
    · exact .inl (unchanged same)
  | recorded changed operation earlier present =>
    by_cases same : address = changed
    · subst same
      rw [found, Option.some.injEq] at present
      subst present
      left
      rw [Function.update_self]
      exact ⟨_, rfl, held, .inr ⟨operation, rfl, rfl, rfl⟩⟩
    · exact .inl (unchanged same)

end FlagChange

end ArcaLB.Routing
