import ArcaLB.Routing.Alone
import ArcaLB.Agent.Reconciler

/-!
# Parts of a pass that leave a property alone

Most of a pass only talks to the route coordinator.  A property that these calls keep is
kept by all of these parts, and by a repair of tuning drift as soon as the recreation in it
keeps the property; one that every call of a pass keeps is kept by the pass.
-/

namespace ArcaLB.Agent

open Effect (Keeps Ensures)

/-- A property of the VPP process, its cache and the store: it reads neither the
coordinator and the router nor the remembered objects. -/
structure Offline (holds : Node → Prop) : Prop where
  routing : ∀ node shared replies, holds node →
    holds { node with routing := shared, routerReplies := replies }
  applied : ∀ node applied, holds node → holds { node with applied }

/-- The route calls of a pass of the VIP keep the property. -/
def RoutesKeep (holds : Node → Prop) (vip : VirtualIP) : Prop :=
  ∀ call : Routing.Call, call.address = vip.spec.address → Keeps holds (route vip.key call)

section Keeps

variable {holds : Node → Prop} {config : Config} {env : PassEnv} {vip : VirtualIP}
  {healthy : List BackendSpec}

theorem Offline.route (offline : Offline holds) (key : VIPKey) (call : Routing.Call) :
    Keeps holds (route key call) := by
  intro node kept
  exact offline.routing node _ _ kept

theorem Offline.routes (offline : Offline holds) (vip : VirtualIP) : RoutesKeep holds vip :=
  fun call _ => offline.route vip.key call

variable (routes : RoutesKeep holds vip)
include routes

theorem RoutesKeep.releaseUpdateDrain (serving : Bool) :
    Keeps holds (releaseUpdateDrain vip serving) := by
  refine (routes _ rfl).bind fun ⟨advertised, setErr⟩ => ?_
  cases setErr with
  | some err => exact .pure _
  | none => exact routes _ rfl

theorem RoutesKeep.releaseRepairDrain (serving : Bool)
    (err : String) : Keeps holds (releaseRepairDrain vip serving err) := by
  refine (routes.releaseUpdateDrain _).bind fun ⟨advertised, releaseErr⟩ => ?_
  cases releaseErr with
  | some err | none => exact .pure _

/-- A repair keeps what its recreation keeps. -/
theorem RoutesKeep.repairHeld
    (recreates : Keeps holds (dataplane (DataPlane.recreateVIP config.vpp vip healthy))) :
    Keeps holds (repairHeld config env vip healthy) := by
  refine (routes _ rfl).bind fun ⟨drained, drainErr⟩ => ?_
  cases drainErr with
  | some err => exact .pure _
  | none =>
    refine .ite (.pure _) ?_
    split
    · exact routes.releaseRepairDrain _ _
    · refine recreates.attempt.bind fun recreated => ?_
      cases recreated with
      | error err => exact (routes.releaseRepairDrain _ _).bind fun _ => .pure _
      | ok _ =>
        refine (routes _ rfl).bind fun ⟨advertised, releaseErr⟩ => ?_
        cases releaseErr with
        | some err | none => exact .pure _

omit routes in
/-- Leases are not on the node. -/
theorem keeps_runExclusiveRollouts {α : Type} {lease : String → LeaseReply} {skipped : α}
    {body : Effect Node Empty (α × Option String)} (kept : Keeps holds body)
    (keys : List String) : Keeps holds (runExclusiveRollouts lease skipped body keys) := by
  induction keys with
  | nil => exact kept
  | cons key rest ih =>
    unfold runExclusiveRollouts
    cases (lease key).acquireErr with
    | some err => exact .pure _
    | none => exact ih.bind fun _ => .pure _

omit routes in
/-- Leases that are not acquired leave the node as it is. -/
theorem ensures_runExclusiveRollouts {α : Type} {lease : String → LeaseReply} {skipped : α}
    {node : Node} {always : Node → Prop} {body : Effect Node Empty (α × Option String)}
    (good : α → Node → Prop) (starts : good skipped node)
    (shown : Ensures body always (fun returned => good returned.1) node) (keys : List String) :
    Ensures (runExclusiveRollouts lease skipped body keys) always
      (fun returned => good returned.1) node := by
  induction keys with
  | nil => exact shown
  | cons key rest ih =>
    unfold runExclusiveRollouts
    cases (lease key).acquireErr with
    | some err => exact starts
    | none => exact ih.bind fun _ _ after => after

theorem RoutesKeep.repairTuningDrift (rolloutHeld : Bool)
    (recreates : Keeps holds (dataplane (DataPlane.recreateVIP config.vpp vip healthy))) :
    Keeps holds (repairTuningDrift config env vip healthy rolloutHeld) :=
  .ite (.pure _) (.ite
    (keeps_runExclusiveRollouts (.ite (.pure _) (routes.repairHeld recreates)) _)
    (routes.repairHeld recreates))

theorem RoutesKeep.serve (drainHeld : Bool) : Keeps holds (serve vip healthy drainHeld) :=
  (routes _ rfl).bind fun _ => (Keeps.ite (routes _ rfl) (.pure _)).bind fun _ => .pure _

/-- **The end of a pass.** -/
theorem RoutesKeep.repairAndServe
    (recreates : Keeps holds (dataplane (DataPlane.recreateVIP config.vpp vip healthy)))
    (rolloutHeld drainHeld routeAdvertised : Bool) :
    Keeps holds
      (repairAndServe config env vip healthy rolloutHeld drainHeld routeAdvertised) := by
  refine Keeps.read.bind fun node => .ite (routes.serve _) ?_
  refine (routes.repairTuningDrift _ recreates).bind fun ⟨result, err⟩ => ?_
  refine .ite ((Keeps.ite (routes.releaseUpdateDrain _) (routes _ rfl)).bind fun _ => .pure _) ?_
  cases err with
  | none => exact routes.serve _
  | some err =>
    refine (Keeps.ite (routes.releaseUpdateDrain _) (.ite (.pure _) (.pure _))).bind fun _ => ?_
    exact .pure _

omit routes

section Plan

variable (stable : ∀ node applied, holds node → holds { node with applied })
include stable

theorem keeps_setLastAppliedVIP {ε : Type} (vip : VirtualIP) :
    Keeps holds (setLastAppliedVIP vip : Effect Node ε Unit) :=
  .modify fun node kept => stable node _ kept

theorem keeps_lastAppliedVIP : Keeps holds (lastAppliedVIP env vip) := by
  refine Keeps.read.bind fun node => ?_
  split
  · exact .pure _
  · split
    · exact .fail _
    · split
      · exact .pure _
      · exact .fail _
      · exact (keeps_setLastAppliedVIP stable _).bind fun _ => .pure _

theorem keeps_needsDrainForVIPUpdate : Keeps holds (needsDrainForVIPUpdate config env vip) := by
  refine (keeps_lastAppliedVIP stable).bind fun applied => ?_
  cases applied with
  | none => exact .pure _
  | some applied => exact .ite (.pure _) (.ofExcept _)

/-- **The plan of a pass** calls neither the coordinator nor the store. -/
theorem keeps_planVIPUpdate
    (inspects : Keeps holds (dataplane (DataPlane.needsDrainForRetainedVIP config.vpp vip))) :
    Keeps holds (planVIPUpdate config env vip) := by
  refine Keeps.read.bind fun node => ?_
  split
  · exact .pure _
  · refine (keeps_needsDrainForVIPUpdate stable).attempt.bind fun needed => ?_
    match needed with
    | .error err | .ok true => exact .pure _
    | .ok false =>
      refine inspects.attempt.bind fun needed => ?_
      match needed with
      | .error err | .ok true | .ok false => exact .pure _

end Plan

theorem keeps_transaction (stable : ∀ node store, holds node → holds { node with store })
    (text : String) (err : Option String) (change : Store → Store) :
    Keeps holds (transaction text err change) := by
  unfold transaction
  cases err with
  | some err => exact .fail _
  | none => exact .modify fun node kept => stable node _ kept

/-- **Pass rule.** What holds when the plan is made, and what the pass ensures from there. -/
theorem ensures_reconcile_of {node : Node} {always : Node → Prop}
    {good : Option Report → Node → Prop} (starts : Node → Prop)
    (planned : Keeps starts (planVIPUpdate config env vip))
    (early : ∀ next, starts next → always next) (skipped : ∀ next, starts next → good none next)
    (applied : ∀ next rolloutHeld drainBeforeApply, starts next →
      Ensures
        (reconcileApplied config env vip (healthyBackendsOf env vip) rolloutHeld drainBeforeApply)
        always (fun reported => good (some reported)) next)
    (holds : starts node) : Ensures (reconcile config env vip) always good node := by
  apply ((Keeps.ensures starts holds (fun _ holds => holds) planned).mono early
    fun _ _ holds => holds).bind
  intro plan next holds
  dsimp only
  split
  · refine (ensures_runExclusiveRollouts good (skipped next holds) ?_ _).bind
      fun _ _ shown => shown
    split
    · exact skipped next holds
    · exact (applied next _ _ holds).bind fun _ _ shown => shown
  · exact (applied next _ _ holds).bind fun _ _ shown => shown

theorem keeps_tryTransaction {err : Option String} {change : Store → Store}
    (kept : ∀ node, holds node → holds { node with store := change node.store }) :
    Keeps holds (tryTransaction err change) := by
  unfold tryTransaction
  cases err with
  | some _ => exact .pure _
  | none => exact .modify kept

/-- The part of a deletion after its route call leaves the coordinator and the router
alone. -/
theorem keeps_routing_finishDelete {env : DeleteEnv} (routing : Routing.Shared) :
    Keeps (fun node => node.routing = routing) (finishDelete config env vip) := by
  have removes : Keeps (fun node : Node => node.routing = routing)
      (dataplane (DataPlane.removeVIP config.vpp vip)) := fun _ same => same
  have forgets {err change} :
      Keeps (fun node : Node => node.routing = routing) (tryTransaction err change) :=
    keeps_tryTransaction fun _ same => same
  refine removes.attempt.bind fun removed => ?_
  cases removed with
  | error err => exact .pure _
  | ok _ => exact forgets.bind fun _ => forgets.bind fun _ => forgets.bind fun _ => .pure _

end Keeps

end ArcaLB.Agent
