import ArcaLB.Agent.Frame
import ArcaLB.Agent.Process

/-!
# Deleting a VIP

A deletion withdraws the route of the VIP's address through the coordinator and then
removes the VIP from the data plane.  Whether the route is gone when it reports success
depends on whether the coordinator knows the address: an address without an entry is
left alone, whatever the router holds there.
-/

namespace ArcaLB.Agent

open Effect (Keeps Ensures)

/-- A coordinator call by a VIP, or an attempt to delete one. -/
inductive Request where
  | call (key : VIPKey) (call : Routing.Call) (routerReplies : List Routing.Reply)
  | delete (env : DeleteEnv) (vip : VirtualIP) (routerReplies : List Routing.Reply)
      (vppReplies : List DataPlane.Reply)

/-- The node during an attempt to delete a VIP. -/
def attemptDelete (config : Config) (env : DeleteEnv) (vip : VirtualIP)
    (routerReplies : List Routing.Reply) (vppReplies : List DataPlane.Reply) (node : Node) :
    Outcome Empty Bool × Node :=
  handleDelete config env vip (node.answered routerReplies vppReplies)

/-- The runs of a process whose calls do not interleave. -/
def requests (config : Config) : TransitionSystem Process Request where
  initial := Process.Fresh
  step := fun process request =>
    if process.alive then
      match request with
      | .call key call routerReplies =>
        some (Process.after (route key call (process.node.answered routerReplies [])))
      | .delete env vip routerReplies vppReplies =>
        some (Process.after
          (attemptDelete config env vip routerReplies vppReplies process.node))
    else none

section Delete

variable {config : Config} {env : DeleteEnv} {vip : VirtualIP} {node : Node}

/-- What an attempt to delete leaves in the router. -/
structure Deleted (vip : VirtualIP) (node : Node) (succeeded : Bool) (next : Node) : Prop where
  honest : Routing.Honest next.routing
  removing : Routing.Removing vip.key
    (node.routing.coordinator.deleteTarget vip.key vip.spec.address) node.routing next.routing
  withdrawn : succeeded = true → Routing.Withdrawn vip.key
    (node.routing.coordinator.deleteTarget vip.key vip.spec.address) node.routing next.routing

theorem ensures_handleDelete (honest : Routing.Honest node.routing) :
    Ensures (handleDelete config env vip) (fun _ => True) (Deleted vip node) node := by
  have routed : Ensures (route vip.key (.delete vip.spec.address)) (fun _ => True)
      (fun returned next => Deleted vip node returned.2.isNone next) node := by
    apply Ensures.zoom
    apply (Routing.ensures_perform_delete vip.spec.address honest).imp
    intro _ _ after
    exact ⟨after.1, after.2.1, fun fine => after.2.2 (Option.isNone_iff_eq_none.mp fine)⟩
  apply routed.bind
  intro ⟨advertised, routeErr⟩ next after
  cases routeErr with
  | some err => exact ⟨after.honest, after.removing, by simp⟩
  | none =>
    have finished : Ensures (finishDelete config env vip)
        (fun last => last.routing = next.routing)
        (fun _ last => last.routing = next.routing) next :=
      Keeps.ensures (fun last => last.routing = next.routing) rfl (fun _ same => same)
        (keeps_routing_finishDelete next.routing)
    apply finished.forget
    intro _ last same
    exact ⟨same ▸ after.honest, same ▸ after.removing, fun _ => same ▸ after.withdrawn rfl⟩

end Delete

section Runs

variable {config : Config}

/-- Between requests the coordinator is right about the router. -/
theorem honest_of_reachable {process : Process}
    (reached : (requests config).Reachable TransitionSystem.unguarded process)
    (alive : process.alive = true) : Routing.Honest process.node.routing := by
  revert alive
  apply reached.invariant
  · intro process fresh _ address flags found
    obtain ⟨interval, coordinator⟩ := fresh.coordinator
    rw [coordinator] at found
    cases found
  · intro process request next honest _ moves alive
    simp only [requests] at moves
    split at moves
    · rename_i running
      have before := honest running
      cases request with
      | call key call replies =>
        cases moves
        have called : Ensures (route key call) (fun _ => True)
            (fun _ next => Routing.Honest next.routing)
            (process.node.answered replies []) := by
          apply Ensures.zoom
          exact (Routing.ensures_perform_honest call before).forget fun _ _ honest => honest
        exact Process.after_ensures called alive
      | delete env vip routerReplies vppReplies =>
        cases moves
        have answered : Routing.Honest
            (process.node.answered routerReplies vppReplies).routing := before
        have deleted : Ensures (handleDelete config env vip) (fun _ => True)
            (fun _ next => Routing.Honest next.routing)
            (process.node.answered routerReplies vppReplies) :=
          (ensures_handleDelete answered).forget fun _ _ after => after.honest
        exact Process.after_ensures deleted alive
    · cases moves

/-- **When a deletion withdraws the route.** After any calls that do not interleave, over
any router content: an attempt to delete a VIP that succeeds, while no other VIP serves on
the address, leaves the router without the route of that address exactly when it was not
there before or when the coordinator has an entry for the address and works on it. -/
theorem route_withdrawn_iff_known {process : Process}
    (reached : (requests config).Reachable TransitionSystem.unguarded process)
    (alive : process.alive = true) {env : DeleteEnv} {vip : VirtualIP}
    {routerReplies : List Routing.Reply} {vppReplies : List DataPlane.Reply} {next : Node}
    (succeeds : attemptDelete config env vip routerReplies vppReplies process.node =
      (.ok true, next)) {address : String} (named : address ≠ "")
    (alone : ∀ other, other ≠ vip.key →
      next.routing.coordinator.marks other address ≠ some true) :
    next.routing.routes address = false ↔
      process.node.routing.routes address = false ∨
        (address = process.node.routing.coordinator.deleteTarget vip.key vip.spec.address ∧
          process.node.routing.coordinator.addresses address ≠ none) := by
  have answered : Routing.Honest (process.node.answered routerReplies vppReplies).routing :=
    honest_of_reachable reached alive
  have ended := (ensures_handleDelete answered).returned succeeds
  have deleted : Deleted vip process.node true next :=
    ⟨ended.honest, ended.removing, ended.withdrawn⟩
  by_cases here : address =
      process.node.routing.coordinator.deleteTarget vip.key vip.spec.address
  · subst here
    cases known : process.node.routing.coordinator.addresses
        (process.node.routing.coordinator.deleteTarget vip.key vip.spec.address) with
    | none =>
      rw [deleted.removing.unknown known]
      simp
    | some state =>
      have withdrawn : next.routing.routes
          (process.node.routing.coordinator.deleteTarget vip.key vip.spec.address) =
            false := by
        apply (deleted.withdrawn rfl (by simp [known]) named).resolve_left
        intro serving
        obtain ⟨other, distinct, serves⟩ := serving
        apply alone other distinct
        rw [deleted.removing.others other distinct]
        exact serves
      exact ⟨fun _ => .inr ⟨rfl, by simp⟩, fun _ => withdrawn⟩
  · rw [deleted.removing.routes address here]
    simp [here]

/-- The web VIP that the concrete runs below delete. -/
def deletedVIP : VirtualIP := .web .web "1" "192.0.2.1"

/-- A new process on a node whose router holds the route of an earlier one. -/
def afterRestart : Process where
  node := { Node.empty with
    routing := ⟨Routing.newRouteCoordinator 0, fun address => address = "192.0.2.1"⟩ }

theorem fresh_afterRestart : afterRestart.Fresh where
  alive := rfl
  coordinator := ⟨0, rfl⟩
  vips := rfl
  addedBy := rfl
  applied := rfl

/-- A call of the VIP to the coordinator whose first router call fails. -/
def failedWithdraw (call : Routing.Call) : Request :=
  .call .web call
    [⟨0, none⟩, ⟨0, none⟩, ⟨0, none⟩, ⟨0, some "vtysh: connection refused"⟩, ⟨0, none⟩]

/-- An attempt to delete the VIP whose router call, if any, is answered with `err`. -/
def attemptWeb (err : Option String) (node : Node) : Outcome Empty Bool × Node :=
  attemptDelete .plain {} deletedVIP
    [⟨0, none⟩, ⟨0, none⟩, ⟨0, none⟩, ⟨0, err⟩, ⟨0, none⟩, ⟨0, none⟩] [.ok] node

/-- A VIP that the process knows is withdrawn by its deletion. -/
theorem route_withdrawn_of_known :
    ∃ process, (requests .plain).run afterRestart
        [.call .web (.setServing "192.0.2.1" true) (List.replicate 5 ⟨0, none⟩)] =
          some process ∧
      process.node.routing.routes "192.0.2.1" = true ∧
      (attemptWeb none process.node).2.routing.routes "192.0.2.1" = false := by
  obtain ⟨process, runs, alive, present, known, target, succeeds, alone⟩ :=
    (requests .plain).exists_run_of_check afterRestart
      [.call .web (.setServing "192.0.2.1" true) (List.replicate 5 ⟨0, none⟩)]
      (fun process => process.alive = true ∧ process.node.routing.routes "192.0.2.1" = true ∧
        (process.node.routing.coordinator.addresses "192.0.2.1").isSome = true ∧
        "192.0.2.1" = process.node.routing.coordinator.deleteTarget .web "192.0.2.1" ∧
        (attemptWeb none process.node).1 = .ok true ∧
        ((attemptWeb none process.node).2.routing.coordinator.addresses "192.0.2.1").isNone = true)
      (by decide +kernel)
  have reached : (requests .plain).Reachable TransitionSystem.unguarded process :=
    (TransitionSystem.Reachable.initial fresh_afterRestart).run
      (TransitionSystem.meets_unguarded _ _ _) runs
  have deleted : attemptDelete .plain {} deletedVIP (List.replicate 6 ⟨0, none⟩) [.ok]
      process.node = (.ok true, (attemptWeb none process.node).2) :=
    Prod.ext succeeds rfl
  have unmarked (other : VIPKey) (_ : other ≠ deletedVIP.key) :
      (attemptWeb none process.node).2.routing.coordinator.marks other "192.0.2.1" ≠
        some true := by
    rw [Routing.RouteCoordinator.marks, Option.isNone_iff_eq_none.mp alone]
    simp
  refine ⟨process, runs, present, ?_⟩
  exact (route_withdrawn_iff_known reached alive deleted (by decide) unmarked).mpr
    (.inr ⟨target, Option.isSome_iff_ne_none.mp known⟩)

/-- **A route outlives its VIP.** Deleted before its first pass, the VIP has no entry and
its route is left in the router; and where an earlier withdrawal failed, the failed attempt
to delete drops the entry, so that the next attempt succeeds without a router call. -/
theorem route_left_after_delete :
    ((attemptWeb none afterRestart.node).1 = .ok true ∧
      (attemptWeb none afterRestart.node).2.routing.routes "192.0.2.1" = true) ∧
    ∃ process, (requests .plain).run afterRestart
        [failedWithdraw (.setServing "192.0.2.1" false),
          .delete {} deletedVIP
            [⟨0, none⟩, ⟨0, none⟩, ⟨0, none⟩, ⟨0, some "vtysh: connection refused"⟩, ⟨0, none⟩]
            []] = some process ∧
      (attemptWeb none process.node).1 = .ok true ∧
      (attemptWeb none process.node).2.routing.routes "192.0.2.1" = true :=
  ⟨by decide +kernel,
    (requests .plain).exists_run_of_check afterRestart _ _ (by decide +kernel)⟩

end Runs

end ArcaLB.Agent
