import ArcaLB.Routing.DrainSteps
import ArcaLB.Routing.Serial

/-!
# A VIP alone on its addresses

A call writes the address it is made for and the one that its VIP is tracked on, and no
other.  Where no other VIP uses these addresses, at most the tracked one is advertised, and
a call that runs alone and returns without an error says whether its address is recorded as
advertised.
-/

namespace ArcaLB.Routing

/-- The address that a call is made for. -/
def Call.address : Call → String
  | .setServing address _ => address
  | .beginDrain address _ => address
  | .finishDrain address => address
  | .prepareAddressChange address => address
  | .delete address => address

section Writes

variable (key : VIPKey) (reply : Reply) (shared : Shared)

/-- How a step changes the tracked address of its VIP. -/
theorem Pc.tracked_step (pc : Pc) :
    (pc.step key reply shared).2.coordinator.vipAddresses key =
        shared.coordinator.vipAddresses key ∨
      (∃ address, ((∃ serving, pc = .setServingMark address serving) ∨
          ∃ force, pc = .drainMark address force) ∧
        (pc.step key reply shared).2.coordinator.vipAddresses key = address) ∨
      ∃ address after advertised, pc = .removeEnd address after advertised none ∧
        shared.coordinator.trackedElsewhere key address = false ∧
        (pc.step key reply shared).2.coordinator.vipAddresses key = "" := by
  have cleared (coordinator : RouteCoordinator) (address : String) :
      (coordinator.clearDrain key address).vipAddresses = coordinator.vipAddresses := by
    unfold RouteCoordinator.clearDrain
    (repeat' split) <;> rfl
  have cleaned (coordinator : RouteCoordinator) (address : String) :
      (coordinator.cleanupRouteAddress address).vipAddresses = coordinator.vipAddresses := by
    unfold RouteCoordinator.cleanupRouteAddress
    (repeat' split) <;> rfl
  cases pc with
  | start call =>
    left
    cases call <;> simp only [Pc.step, Call.enter] <;> (repeat' split) <;>
      simp only [cleared]
  | removeBegin address after =>
    left
    simp only [Pc.step, RouteCoordinator.forgetServing]
    (repeat' split) <;> rfl
  | removeEnd address after advertised err =>
    simp only [Pc.step, RouteCoordinator.finishRemove, cleaned]
    split
    · rename_i released
      simp only [Bool.and_eq_true, Option.isNone_iff_eq_none, Bool.not_eq_eq_eq_not,
        Bool.not_true] at released
      obtain ⟨rfl, here⟩ := released
      exact .inr (.inr ⟨address, after, advertised, rfl, here, by simp⟩)
    · exact .inl rfl
  | setServingMark address serving =>
    exact .inr (.inl ⟨address, .inl ⟨serving, rfl⟩, by
      simp [Pc.step, RouteCoordinator.markServing]⟩)
  | drainMark address force =>
    simp only [Pc.step, RouteCoordinator.markDraining]
    split
    · exact .inr (.inl ⟨address, .inr ⟨force, rfl⟩, by simp⟩)
    · exact .inl rfl
  | drainAbort address err =>
    left
    simp only [Pc.step, cleared]
  | routeDecide address after => exact .inl rfl
  | routeCall address operation advertised time after =>
    left
    simp only [Pc.step]
    split <;> rfl
  | routeRecord address operation time after =>
    left
    simp only [Pc.step, RouteCoordinator.recordRoute]
    split <;> rfl
  | done result err => exact .inl rfl

/-- A step leaves the tracked addresses of the other VIPs alone. -/
theorem Pc.tracked_other_step (pc : Pc) {other : VIPKey} (distinct : other ≠ key) :
    (pc.step key reply shared).2.coordinator.vipAddresses other =
      shared.coordinator.vipAddresses other := by
  cases pc with
  | start call =>
    cases call <;> simp only [Pc.step, Call.enter, RouteCoordinator.clearDrain] <;>
      (repeat' split) <;> rfl
  | removeBegin address after =>
    simp only [Pc.step, RouteCoordinator.forgetServing]
    (repeat' split) <;> rfl
  | removeEnd address after advertised err =>
    simp only [Pc.step, RouteCoordinator.finishRemove, RouteCoordinator.cleanupRouteAddress]
    (repeat' split) <;> simp [distinct]
  | setServingMark address serving => simp [Pc.step, RouteCoordinator.markServing, distinct]
  | drainMark address force =>
    simp only [Pc.step, RouteCoordinator.markDraining]
    split <;> simp [distinct]
  | drainAbort address err =>
    simp only [Pc.step, RouteCoordinator.clearDrain]
    (repeat' split) <;> rfl
  | routeDecide address after => rfl
  | routeCall address operation advertised time after =>
    simp only [Pc.step]
    split <;> rfl
  | routeRecord address operation time after =>
    simp only [Pc.step, RouteCoordinator.recordRoute]
    split <;> rfl
  | done result err => rfl

end Writes

end ArcaLB.Routing
