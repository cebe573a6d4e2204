import ArcaLB.Routing.Flags
import ArcaLB.Routing.Marks

/-!
# Calls one after another

When calls do not interleave, the coordinator is right about the router: an address that
was reconciled is recorded as advertised exactly when the router holds its route.  What a
deletion leaves in the router follows from that, and from whether the address had an
entry at all.
-/

namespace ArcaLB.Routing

/-- A call that runs alone is right about the router, up to the operation it has yet to
record. -/
structure Pc.Honest (pc : Pc) (shared : Shared) : Prop where
  unrecorded : ∀ address operation, pc.unrecorded = some (address, operation) →
    shared.routes address = operation.effect
  belief : ∀ address flags, shared.coordinator.flags address = some flags →
    flags.reconciled = true → (∀ operation, pc.unrecorded ≠ some (address, operation)) →
    flags.advertised = shared.routes address

/-- Between calls the coordinator is right about every reconciled address. -/
def Honest (shared : Shared) : Prop :=
  ∀ address flags, shared.coordinator.flags address = some flags → flags.reconciled = true →
    flags.advertised = shared.routes address

theorem Honest.start {shared : Shared} (honest : Honest shared) (call : Call) :
    (Pc.start call).Honest shared :=
  ⟨by simp [Pc.unrecorded], fun address flags found reconciled _ =>
    honest address flags found reconciled⟩

theorem Pc.Honest.done {shared : Shared} {result : Bool} {err : Option String}
    (honest : (Pc.done result err).Honest shared) : Routing.Honest shared :=
  fun address flags found reconciled =>
    honest.belief address flags found reconciled (by simp [Pc.unrecorded])

/-- **One step keeps the coordinator right.** -/
theorem Pc.honest_step {pc : Pc} {shared : Shared} (key : VIPKey) (reply : Reply)
    (honest : pc.Honest shared) :
    (pc.step key reply shared).1.Honest (pc.step key reply shared).2 := by
  have change := step_flags key reply shared pc
  rcases step_routes key reply shared pc with ⟨same, quiet⟩ | called
  · refine ⟨by simp [quiet], ?_⟩
    intro address flags found reconciled _
    rw [same]
    rcases change.belief with ⟨written, operation, earlier, pending, _, after⟩ | ⟨unknown, kept⟩
    · rw [after] at found
      by_cases here : address = written
      · subst here
        rw [Function.update_self, Option.some.injEq] at found
        rw [← found]
        exact (honest.unrecorded address operation pending).symm
      · rw [Function.update_of_ne here] at found
        apply honest.belief address flags found reconciled
        intro other clash
        rw [pending, Option.some.injEq, Prod.mk.injEq] at clash
        exact here clash.1.symm
    · obtain ⟨earlier, present, was, agrees⟩ := kept address flags found reconciled
      rw [← agrees]
      apply honest.belief address earlier present was
      intro operation pending
      rw [unknown address operation pending] at present
      cases present
  · obtain ⟨target, operation, advertised, time, after, rfl, point, moved⟩ := called
    rw [point, moved]
    constructor
    · intro address requested pending
      simp only [Pc.unrecorded, Option.some.injEq, Prod.mk.injEq] at pending
      obtain ⟨rfl, rfl⟩ := pending
      exact Function.update_self ..
    · intro address flags found reconciled other
      have different : address ≠ target := by
        intro same
        exact other operation (by rw [same]; rfl)
      change flags.advertised = Function.update shared.routes target operation.effect address
      rw [Function.update_of_ne different]
      exact honest.belief address flags found reconciled (by simp [Pc.unrecorded])

/-- **A call that runs alone keeps the coordinator right.** -/
theorem ensures_perform_honest {key : VIPKey} (call : Call) {sequential : Sequential}
    (honest : Honest sequential.shared) :
    Effect.Ensures (perform key call) (fun _ => True)
      (fun _ next => Honest next.shared) sequential := by
  apply (ensures_perform Pc.Honest (fun pc shared reply => Pc.honest_step key reply)
    (honest.start call)).forget
  exact fun _ _ ended => ended.done

section Delete

/-- The address that `Delete` works on: the tracked one or else the one of the event. -/
def RouteCoordinator.deleteTarget (coordinator : RouteCoordinator) (key : VIPKey)
    (address : String) : String :=
  if coordinator.vipAddresses key = "" then address else coordinator.vipAddresses key

theorem Call.enter_delete (key : VIPKey) (address : String) (coordinator : RouteCoordinator) :
    (Call.delete address).enter key coordinator =
      if coordinator.deleteTarget key address = "" then (.done false none, coordinator)
      else (.removeBegin (coordinator.deleteTarget key address) .delete, coordinator) := rfl

variable {key : VIPKey} {address target : String} {before shared : Shared}

/-- Only the address that is removed may lose or gain its route, and only where the
coordinator has an entry for it. -/
structure Removing (key : VIPKey) (target : String) (before shared : Shared) : Prop where
  others : ∀ other, other ≠ key →
    shared.coordinator.marks other = before.coordinator.marks other
  routes : ∀ other, other ≠ target → shared.routes other = before.routes other
  unknown : before.coordinator.addresses target = none →
    shared.routes target = before.routes target

theorem Removing.refl : Removing key target before before :=
  ⟨fun _ _ => rfl, fun _ _ => rfl, fun _ => rfl⟩

/-- While the route of the address is reconciled: the VIP is not marked there any more,
and the entry is there if it was. -/
structure Reconciling (key : VIPKey) (target : String) (before shared : Shared) : Prop
    extends Removing key target before shared where
  unmarked : shared.coordinator.marks key target = none
  present : shared.coordinator.addresses target = none ↔
    before.coordinator.addresses target = none

/-- The route is wanted by another VIP or recorded as withdrawn. -/
def Resolved (target : String) (before shared : Shared) : Prop :=
  before.coordinator.addresses target ≠ none →
    ∃ state, shared.coordinator.addresses target = some state ∧
      (state.routeShouldAdvertise = true ∨ (state.advertised = false ∧ state.reconciled = true))

/-- What a deletion leaves: another VIP serves on the address, or its route is gone. -/
def Withdrawn (key : VIPKey) (target : String) (before shared : Shared) : Prop :=
  before.coordinator.addresses target ≠ none → target ≠ "" →
    (∃ other, other ≠ key ∧ before.coordinator.marks other target = some true) ∨
      shared.routes target = false

/-- The control points of a deletion. -/
def Pc.Deletes (key : VIPKey) (address : String) (before : Shared) (pc : Pc) (shared : Shared) :
    Prop :=
  let target := before.coordinator.deleteTarget key address
  match pc with
  | .start call => call = .delete address ∧ shared = before
  | .removeBegin removed after => removed = target ∧ after = .delete ∧ shared = before
  | .routeDecide removed after =>
    removed = target ∧ after = .remove .delete ∧ Reconciling key target before shared
  | .routeCall removed _ _ _ after | .routeRecord removed _ _ after =>
    removed = target ∧ after = .remove .delete ∧ Reconciling key target before shared ∧
      before.coordinator.addresses target ≠ none
  | .removeEnd removed after _ err =>
    removed = target ∧ after = .delete ∧ Reconciling key target before shared ∧
      (err = none → Resolved target before shared)
  | .done _ err => Removing key target before shared ∧
      (err = none → Withdrawn key target before shared)
  | _ => False

/-- The target is where the VIP is tracked, if anywhere. -/
theorem RouteCoordinator.trackedElsewhere_deleteTarget (coordinator : RouteCoordinator)
    (key : VIPKey) (address : String) :
    coordinator.trackedElsewhere key (coordinator.deleteTarget key address) = false := by
  unfold deleteTarget trackedElsewhere
  split <;> simp_all

/-- A resolved and honest entry has its route withdrawn, unless another VIP serves. -/
theorem Resolved.withdrawn (resolved : Resolved target before shared)
    (reconciling : Reconciling key target before shared) (honest : Honest shared) :
    Withdrawn key target before shared := by
  intro known _
  obtain ⟨state, found, wanted | ⟨hidden, reconciled⟩⟩ := resolved known
  · obtain ⟨_, other, serves⟩ := state.routeShouldAdvertise_iff.mp wanted
    have marked : shared.coordinator.marks other target = some true := by
      simp [RouteCoordinator.marks, found, serves]
    have distinct : other ≠ key := by
      intro same
      rw [same, reconciling.unmarked] at marked
      cases marked
    exact .inl ⟨other, distinct, reconciling.others other distinct ▸ marked⟩
  · right
    rw [← honest target state.flags (RouteCoordinator.flags_of_found found) reconciled]
    exact hidden

/-- An entry for which nothing is due is resolved. -/
theorem resolved_of_idle {state : RouteAddressState} {interval now : Time} {advertised : Bool}
    (found : shared.coordinator.addresses target = some state)
    (idle : state.nextRouteOperation interval now = (none, advertised)) :
    Resolved target before shared := by
  intro _
  refine ⟨state, found, ?_⟩
  cases wanted : state.routeShouldAdvertise with
  | true => exact .inl rfl
  | false =>
    have withdrawn := RouteAddressState.withdrawn_of_next_none wanted idle
    exact .inr ⟨withdrawn.1, withdrawn.2.1⟩

/-- **One step of a deletion.** -/
theorem Pc.deletes_step {pc : Pc} (reply : Reply) (honest : pc.Honest shared)
    (deletes : pc.Deletes key address before shared) :
    (pc.step key reply shared).1.Deletes key address before (pc.step key reply shared).2 := by
  have others : ∀ other, other ≠ key → (pc.step key reply shared).2.coordinator.marks other =
      shared.coordinator.marks other := fun other distinct =>
    Pc.marks_other_step distinct pc shared reply
  cases pc with
  | start call =>
    obtain ⟨rfl, rfl⟩ := deletes
    simp only [Pc.step, Call.enter_delete]
    by_cases nowhere : shared.coordinator.deleteTarget key address = ""
    · simp only [nowhere, if_true]
      exact ⟨.refl, fun _ _ named => absurd nowhere named⟩
    · simp only [nowhere, if_false]
      exact ⟨rfl, rfl, rfl⟩
  | removeBegin removed after =>
    obtain ⟨rfl, rfl, rfl⟩ := deletes
    have here := shared.coordinator.trackedElsewhere_deleteTarget key address
    simp only [Pc.step, here, Bool.false_eq_true, if_false] at others ⊢
    refine ⟨rfl, rfl, ⟨others, fun _ _ => rfl, fun _ => rfl⟩, ?_, ?_⟩
    · rw [RouteCoordinator.marks_forgetServing, Function.update_self]
    · rw [← RouteCoordinator.flags_eq_none, RouteCoordinator.flags_forgetServing,
        RouteCoordinator.flags_eq_none]
  | routeDecide removed after =>
    obtain ⟨rfl, rfl, reconciling⟩ := deletes
    simp only [Pc.step, decideRoute]
    split
    · rename_i absent
      exact ⟨rfl, rfl, reconciling, fun _ known =>
        absurd (reconciling.present.mp absent) known⟩
    · rename_i state found
      have known : before.coordinator.addresses
          (before.coordinator.deleteTarget key address) ≠ none := by
        intro absent
        rw [reconciling.present.mpr absent] at found
        cases found
      split
      · rename_i idle
        exact ⟨rfl, rfl, reconciling, fun _ => resolved_of_idle found idle⟩
      · exact ⟨rfl, rfl, reconciling, known⟩
  | routeCall removed operation advertised time after =>
    obtain ⟨rfl, rfl, reconciling, known⟩ := deletes
    simp only [Pc.step]
    split
    · exact ⟨rfl, rfl, reconciling, by simp⟩
    · refine ⟨rfl, rfl, ⟨⟨reconciling.others, ?_, fun absent => absurd absent known⟩,
        reconciling.unmarked, reconciling.present⟩, known⟩
      intro other different
      change Function.update shared.routes _ operation.effect other = _
      rw [Function.update_of_ne different]
      exact reconciling.routes other different
  | routeRecord removed operation time after =>
    obtain ⟨rfl, rfl, reconciling, known⟩ := deletes
    have kept : Reconciling key (before.coordinator.deleteTarget key address) before
        (Pc.step key reply shared (.routeRecord (before.coordinator.deleteTarget key address)
          operation time (.remove .delete))).2 := by
      refine ⟨⟨fun other distinct => (others other distinct).trans
        (reconciling.others other distinct), reconciling.routes, reconciling.unknown⟩, ?_, ?_⟩
      · exact (congrFun (RouteCoordinator.marks_recordRoute ..) _).trans reconciling.unmarked
      · rw [← reconciling.present]
        simp only [Pc.step, RouteCoordinator.recordRoute]
        split
        · rfl
        · rename_i found
          simp [found]
    simp only [Pc.step, afterRecord]
    split
    · rename_i absent
      exact ⟨rfl, rfl, kept, fun _ known => absurd (kept.present.mp absent) known⟩
    · rename_i state found
      split
      · rename_i idle
        exact ⟨rfl, rfl, kept, fun _ => resolved_of_idle found idle⟩
      · exact ⟨rfl, rfl, kept⟩
  | removeEnd removed after advertised err =>
    obtain ⟨rfl, rfl, reconciling, resolved⟩ := deletes
    have honest : Routing.Honest shared := fun address flags found reconciled =>
      honest.belief address flags found reconciled (by simp [Pc.unrecorded])
    refine ⟨⟨fun other distinct => (others other distinct).trans
      (reconciling.others other distinct), reconciling.routes, reconciling.unknown⟩, ?_⟩
    intro fine
    exact (resolved fine).withdrawn reconciling honest
  | done result err => exact deletes
  | setServingMark _ _ | drainMark _ _ | drainAbort _ _ => exact deletes.elim

/-- **A deletion that returned.** -/
theorem ensures_perform_delete (address : String) {sequential : Sequential}
    (honest : Honest sequential.shared) :
    Effect.Ensures (perform key (.delete address)) (fun _ => True)
      (fun returned next => Honest next.shared ∧
        Removing key (sequential.shared.coordinator.deleteTarget key address)
          sequential.shared next.shared ∧
        (returned.2 = none →
          Withdrawn key (sequential.shared.coordinator.deleteTarget key address)
            sequential.shared next.shared)) sequential := by
  apply (ensures_perform
    (fun pc shared => pc.Honest shared ∧ pc.Deletes key address sequential.shared shared)
    (fun pc shared reply both =>
      ⟨Pc.honest_step key reply both.1, Pc.deletes_step reply both.1 both.2⟩)
    ⟨honest.start _, rfl, rfl⟩).forget
  exact fun _ _ both => ⟨both.1.done, both.2.1, both.2.2⟩

end Delete

end ArcaLB.Routing
