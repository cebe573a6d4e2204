import ArcaLB.Routing.Alone

/-!
# Who may own a drain

A VIP takes the drain of an address in `beginDrain` and gives it back in `FinishDrain`, or
in `beginDrain` itself where the withdrawal fails.  Between the two it may call the
coordinator again.  The bound below says at which control points of a call its VIP may own
the drain of the call's address; it is kept by every step of every goroutine, except for a
router call of `SetServing` that fails while the drain is owned.
-/

namespace ArcaLB.Routing

/-- Where `reconcileRoute` runs while its VIP owns the drain; `held` says whether it may
have owned it before the call. -/
def AfterRoute.MayOwn (held : Bool) (call : Call) : AfterRoute → Prop
  | .caller => held = true ∧ ∃ address serving, call = .setServing address serving
  | .remove _ => False
  | .beginDrain => True

/-- The results of a call that leave the drain with its VIP. -/
def Call.mayOwnAfter (held : Bool) (result : Bool) (err : Option String) : Call → Prop
  | .setServing _ _ => held = true ∧ err = none
  | .beginDrain _ _ => err = none ∧ (result = true ∨ held = true)
  | .finishDrain _ => False
  | .prepareAddressChange _ => False
  | .delete _ => False

/-- The control points of a call at which its VIP may own the drain of its address. -/
def Pc.MayOwn (held : Bool) (call : Call) : Pc → Prop
  | .start _ => held = true
  | .removeBegin _ _ => False
  | .removeEnd _ _ _ _ => False
  | .setServingMark _ _ => held = true
  | .drainMark _ _ => held = true
  | .drainAbort _ _ => True
  | .routeDecide _ after => after.MayOwn held call
  | .routeCall _ _ _ _ after => after.MayOwn held call
  | .routeRecord _ _ _ after => after.MayOwn held call
  | .done result err => call.mayOwnAfter held result err

/-- Calls that leave their VIP on its address. -/
def Call.Stays : Call → Prop
  | .setServing _ _ => True
  | .beginDrain _ _ => True
  | .finishDrain _ => True
  | .prepareAddressChange _ => False
  | .delete _ => False

/-- The only drain that `key` owns, if any, is that of `address`, which it is tracked on;
and where it owns one, `allowed` holds. -/
def OwnsAtMost (key : VIPKey) (address : String) (allowed : Prop)
    (coordinator : RouteCoordinator) : Prop :=
  ∀ drained, coordinator.ownsDrain key drained = true →
    drained = address ∧ drained ≠ "" ∧ coordinator.vipAddresses key = drained ∧ allowed

/-- A call of a VIP that may own the drain of the call's address.  A call that moves the
VIP to another address is made only where no drain is held. -/
structure Owning (key : VIPKey) (held : Bool) (call : Call) (pc : Pc)
    (coordinator : RouteCoordinator) : Prop where
  fits : pc.Fits call
  blank : ∀ force, call = .beginDrain "" force →
    pc = .start call ∨ ∃ result err, pc = .done result err
  stays : held = true → call.Stays
  owned : OwnsAtMost key call.address (pc.MayOwn held call) coordinator

/-- **A release that reaches the router.** A router call that `SetServing` makes for an
address whose drain its VIP owns does not fail. -/
def releaseReachesRouter (key : VIPKey) (reply : Reply) (coordinator : RouteCoordinator) :
    Call → Pc → Prop
  | .setServing _ _, .routeCall address _ _ _ .caller =>
    coordinator.ownsDrain key address = true → reply.err = none
  | _, _ => True

instance (key : VIPKey) (reply : Reply) (coordinator : RouteCoordinator) (call : Call) (pc : Pc) :
    Decidable (releaseReachesRouter key reply coordinator call pc) := by
  unfold releaseReachesRouter
  split <;> infer_instance

section Owners

variable {key : VIPKey} {address : String} {coordinator : RouteCoordinator}

theorem ownsDrain_iff :
    coordinator.ownsDrain key address = true ↔
      ∃ flags, coordinator.flags address = some flags ∧ flags.drainOwner = some key := by
  unfold RouteCoordinator.ownsDrain RouteCoordinator.flags
  cases coordinator.addresses address with
  | none => simp
  | some state => simp [RouteAddressState.flags]

theorem OwnsAtMost.mono {allowed weaker : Prop}
    (owns : OwnsAtMost key address allowed coordinator) (implies : allowed → weaker) :
    OwnsAtMost key address weaker coordinator := by
  intro drained owned
  obtain ⟨same, named, tracked, holds⟩ := owns drained owned
  exact ⟨same, named, tracked, implies holds⟩

/-- A step of a call by another VIP takes no drain for `key` and does not move it. -/
theorem OwnsAtMost.other_step {allowed : Prop} {shared : Shared} {caller : VIPKey} {pc : Pc}
    {reply : Reply} (owns : OwnsAtMost key address allowed shared.coordinator)
    (distinct : caller ≠ key) :
    OwnsAtMost key address allowed (pc.step caller reply shared).2.coordinator := by
  intro drained owned
  obtain ⟨flags, found, held⟩ := ownsDrain_iff.mp owned
  rcases (pc.step_flags caller reply shared).owner_origin found held with earlier | ⟨mine, _⟩
  · rw [pc.tracked_other_step caller reply shared distinct.symm]
    exact owns drained (ownsDrain_iff.mpr earlier)
  · exact absurd mine.symm distinct

/-- What is due for a drained address is its withdrawal. -/
theorem RouteAddressState.next_of_drained {state : RouteAddressState} {owner : VIPKey}
    (drained : state.drainOwner = some owner) (interval now : Time) :
    state.nextRouteOperation interval now = (none, false) ∨
      ∃ advertised, state.nextRouteOperation interval now = (some .withdraw, advertised) := by
  have unwanted : state.routeShouldAdvertise = false := by
    simp [routeShouldAdvertise, drained]
  unfold nextRouteOperation
  rw [unwanted]
  by_cases due : (state.advertised || !state.reconciled) = true
  · exact .inr ⟨state.advertised, by simp only [due]; rfl⟩
  · exact .inl (by simp only [due]; rfl)

theorem found_of_ownsDrain (owned : coordinator.ownsDrain key address = true) :
    ∃ state, coordinator.addresses address = some state ∧ state.drainOwner = some key := by
  unfold RouteCoordinator.ownsDrain at owned
  cases found : coordinator.addresses address with
  | none => simp [found] at owned
  | some state => exact ⟨state, rfl, by simpa [found] using owned⟩

/-- While its VIP owns the drain, `reconcileRoute` finds the route withdrawn or withdraws
it. -/
theorem decideRoute_of_owned (owned : coordinator.ownsDrain key address = true) (now : Time)
    (after : AfterRoute) :
    decideRoute coordinator address now after = after.resume address false none ∨
      ∃ advertised, decideRoute coordinator address now after =
        .routeCall address .withdraw advertised now after := by
  obtain ⟨state, found, drained⟩ := found_of_ownsDrain owned
  unfold decideRoute
  rw [found]
  rcases RouteAddressState.next_of_drained drained coordinator.routeVerificationInterval now with
    nothing | ⟨advertised, due⟩
  · exact .inl (by simp only [nothing])
  · exact .inr ⟨advertised, by simp only [due]⟩

theorem afterRecord_of_owned (owned : coordinator.ownsDrain key address = true)
    (operation : RouteOperation) (now : Time) (after : AfterRoute) :
    afterRecord coordinator address operation now after = after.resume address false none ∨
      afterRecord coordinator address operation now after = .routeDecide address after := by
  obtain ⟨state, found, drained⟩ := found_of_ownsDrain owned
  unfold afterRecord
  rw [found]
  rcases RouteAddressState.next_of_drained drained coordinator.routeVerificationInterval now with
    nothing | ⟨advertised, due⟩
  · exact .inl (by simp only [nothing])
  · exact .inr (by simp only [due])

theorem not_ownsDrain_clearDrain :
    (coordinator.clearDrain key address).ownsDrain key address = false := by
  unfold RouteCoordinator.clearDrain RouteCoordinator.ownsDrain
  cases found : coordinator.addresses address with
  | none => simp [found]
  | some state =>
    by_cases mine : (state.drainOwner == some key) = true
    · simp [mine]
    · simp [mine, found]

end Owners

section Steps

variable {key : VIPKey} {held : Bool} {call : Call} {pc : Pc} {shared : Shared} {reply : Reply}
  {address : String}

/-- A call on the address of a drain that its VIP owns goes straight to its own part. -/
theorem Call.mayOwn_enter {coordinator : RouteCoordinator} (stays : call.Stays)
    (named : call.address ≠ "") (tracked : coordinator.vipAddresses key = call.address)
    (owned : (call.enter key coordinator).2.ownsDrain key call.address = true)
    (wasHeld : held = true) : (call.enter key coordinator).1.MayOwn held call := by
  have here : coordinator.trackedElsewhere key call.address = false := by
    simp [RouteCoordinator.trackedElsewhere, tracked]
  cases call with
  | setServing _ _ | beginDrain _ _ =>
    simp only [Call.address] at named here
    simp only [Call.enter, named, here, Bool.false_eq_true, ↓reduceIte]
    exact wasHeld
  | finishDrain _ =>
    simp only [Call.address] at named owned
    simp only [Call.enter, named, ↓reduceIte] at owned
    split at owned
    · rw [not_ownsDrain_clearDrain] at owned
      cases owned
    · contradiction
  | prepareAddressChange _ | delete _ => exact stays.elim

/-- `reconcileRoute` returns without an error while its VIP owns the drain. -/
theorem AfterRoute.mayOwn_resume {after : AfterRoute} (may : after.MayOwn held call)
    (fits : after.Fits call address) : (after.resume address false none).MayOwn held call := by
  cases after with
  | caller =>
    obtain ⟨wasHeld, _, _, rfl⟩ := may
    exact ⟨wasHeld, rfl⟩
  | remove _ => exact may
  | beginDrain =>
    obtain ⟨_, rfl⟩ := fits
    exact ⟨rfl, .inl rfl⟩

/-- `reconcileRoute` runs on the address of its call, unless it removes the VIP from
another. -/
theorem AfterRoute.address_of_fits {after : AfterRoute} (may : after.MayOwn held call)
    (fits : after.Fits call address) : address = call.address := by
  cases after with
  | caller => rcases fits with ⟨_, rfl⟩ | rfl <;> rfl
  | remove _ => exact may.elim
  | beginDrain =>
    obtain ⟨_, rfl⟩ := fits
    rfl

variable (owning : Owning key held call pc shared.coordinator)
include owning

/-- A drain that is owned before and after a step leads to a control point at which it may
be owned. -/
theorem Owning.mayOwn_step (reaches : releaseReachesRouter key reply shared.coordinator call pc)
    (before : shared.coordinator.ownsDrain key call.address = true)
    (owned : (pc.step key reply shared).2.coordinator.ownsDrain key call.address = true) :
    (pc.step key reply shared).1.MayOwn held call := by
  obtain ⟨_, named, tracked, may⟩ := owning.owned _ before
  have fits := owning.fits
  cases pc with
  | start entered =>
    obtain rfl : entered = call := fits
    exact Call.mayOwn_enter (owning.stays may) named tracked owned may
  | removeBegin _ _ | removeEnd _ _ _ _ => exact may.elim
  | setServingMark marked serving => exact ⟨may, marked, serving, fits⟩
  | drainMark marked force =>
    obtain rfl : call = .beginDrain marked force := fits
    simp only [Pc.step]
    split
    · trivial
    · exact ⟨rfl, .inr may⟩
  | drainAbort aborted err =>
    obtain ⟨force, rfl⟩ : ∃ force, call = .beginDrain aborted force := fits
    simp only [Pc.step, Call.address, not_ownsDrain_clearDrain] at owned
    cases owned
  | routeDecide decided after =>
    obtain rfl : decided = call.address := AfterRoute.address_of_fits may fits
    simp only [Pc.step]
    rcases decideRoute_of_owned before reply.now after with idle | ⟨advertised, due⟩
    · rw [idle]
      exact AfterRoute.mayOwn_resume may fits
    · rw [due]
      exact may
  | routeCall called operation advertised time after =>
    simp only [Pc.step]
    cases failed : reply.err with
    | none => exact may
    | some text =>
      -- Only the owner's `SetServing` could return an error here.
      cases after with
      | caller =>
        have mayOwn : AfterRoute.caller.MayOwn held call := may
        obtain rfl : called = call.address := AfterRoute.address_of_fits mayOwn fits
        obtain ⟨_, _, _, rfl⟩ := mayOwn
        cases (reaches before).symm.trans failed
      | remove _ => exact may.elim
      | beginDrain => trivial
  | routeRecord recorded operation time after =>
    obtain rfl : recorded = call.address := AfterRoute.address_of_fits may fits
    simp only [Pc.step] at owned ⊢
    rcases afterRecord_of_owned owned operation reply.now after with idle | again
    · rw [idle]
      exact AfterRoute.mayOwn_resume may fits
    · rw [again]
      exact may
  | done result err => exact may

/-- A VIP that owns a drain stays tracked on its address. -/
theorem Owning.tracked_step (before : shared.coordinator.ownsDrain key call.address = true) :
    (pc.step key reply shared).2.coordinator.vipAddresses key = call.address := by
  obtain ⟨_, _, tracked, may⟩ := owning.owned _ before
  have fits := owning.fits
  rcases pc.tracked_step key reply shared with
    same | ⟨marked, ⟨_, rfl⟩ | ⟨_, rfl⟩, moved⟩ | ⟨_, _, _, rfl, _⟩
  · exact same.trans tracked
  · obtain rfl : call = .setServing marked _ := fits
    exact moved
  · obtain rfl : call = .beginDrain marked _ := fits
    exact moved
  · exact may.elim

/-- A blank address is never drained. -/
theorem Owning.blank_step {force : Bool} (blank : call = .beginDrain "" force) :
    (pc.step key reply shared).1 = .start call ∨
      ∃ result err, (pc.step key reply shared).1 = .done result err := by
  right
  rcases owning.blank force blank with rfl | ⟨result, err, rfl⟩
  · subst blank
    exact ⟨true, none, rfl⟩
  · exact ⟨result, err, rfl⟩

/-- **Own steps.** A step of the call keeps the bound on its VIP's drains, if a release of
an owned drain reaches the router. -/
theorem Owning.step (reaches : releaseReachesRouter key reply shared.coordinator call pc) :
    Owning key held call (pc.step key reply shared).1
      (pc.step key reply shared).2.coordinator where
  fits := (pc.step_edge key reply shared).fits owning.fits
  blank := fun _ => owning.blank_step
  stays := owning.stays
  owned := by
    intro drained owned
    obtain ⟨flags, found, mine⟩ := ownsDrain_iff.mp owned
    rcases (pc.step_flags key reply shared).owner_origin found mine with
      earlier | ⟨_, force, rfl, admitted⟩
    · have before := ownsDrain_iff.mpr earlier
      obtain ⟨rfl, named, _⟩ := owning.owned drained before
      exact ⟨rfl, named, owning.tracked_step before, owning.mayOwn_step reaches before owned⟩
    · obtain rfl : call = .beginDrain drained force := owning.fits
      have named : drained ≠ "" := by
        rintro rfl
        rcases owning.blank force rfl with atStart | ⟨_, _, atEnd⟩
        · cases atStart
        · cases atEnd
      refine ⟨rfl, named, ?_, ?_⟩
      · simp [Pc.step, RouteCoordinator.markDraining, admitted]
      · simp only [Pc.step, admitted, ↓reduceIte]
        trivial

/-- **Steps of others.** -/
theorem Owning.other_step {caller : VIPKey} {moving : Pc} (distinct : caller ≠ key) :
    Owning key held call pc (moving.step caller reply shared).2.coordinator where
  fits := owning.fits
  blank := owning.blank
  stays := owning.stays
  owned := owning.owned.other_step distinct

omit owning

/-- A call starts with the drain that its VIP may hold. -/
theorem Owning.start {coordinator : RouteCoordinator}
    (owns : OwnsAtMost key call.address (held = true) coordinator)
    (stays : held = true → call.Stays) :
    Owning key held call (.start call) coordinator where
  fits := rfl
  blank := fun _ _ => .inl rfl
  stays := stays
  owned := owns

end Steps

end ArcaLB.Routing
