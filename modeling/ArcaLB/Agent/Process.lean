import ArcaLB.Library.Transition
import ArcaLB.Agent.Reconciler

/-!
# A process and its passes

The run of an agent process that reconciles one VIP: it starts with empty caches over
whatever the router, VPP and the store hold, and makes one pass after another for the
objects that the VIP becomes.  A pass during which the router or VPP stops answering is
where the process was cut off.
-/

namespace ArcaLB.Agent

/-- One pass: the object, and what the pass is answered. -/
structure Pass where
  vip : VirtualIP
  env : PassEnv := {}
  routerReplies : List Routing.Reply := []
  vppReplies : List DataPlane.Reply := []

/-- Replace the replies to come. -/
def Node.answered (node : Node) (routerReplies : List Routing.Reply)
    (vppReplies : List DataPlane.Reply) : Node :=
  { node with routerReplies, vpp := node.vpp.answered vppReplies }

/-- A process that is running or was cut off. -/
structure Process where
  node : Node
  alive : Bool := true

/-- The process after a computation. -/
def Process.after {ε α : Type} (ended : Outcome ε α × Node) : Process where
  node := ended.2
  alive :=
    match ended.1 with
    | .ok _ => true
    | .error _ => true
    | .crashed => false

/-- What a computation ensures where it returns holds of a process that was not cut off. -/
theorem Process.after_ensures {α : Type} {always good : Node → Prop} {node : Node}
    {body : Effect Node Empty α} (shown : Effect.Ensures body always (fun _ => good) node)
    (alive : (Process.after (body node)).alive = true) : good (Process.after (body node)).node := by
  unfold Effect.Ensures Effect.wp at shown
  unfold Process.after at alive ⊢
  revert shown alive
  rcases body node with ⟨outcome, next⟩
  cases outcome with
  | ok value => exact fun shown _ => shown
  | error err => exact err.elim
  | crashed => exact fun _ alive => absurd alive (by simp)

/-- A process that has just started: nothing is cached, remembered or tracked. -/
structure Process.Fresh (process : Process) : Prop where
  alive : process.alive = true
  coordinator : ∃ interval,
    process.node.routing.coordinator = Routing.newRouteCoordinator interval
  vips : process.node.vpp.vips = fun _ => none
  addedBy : process.node.vpp.addedBy = fun _ => none
  applied : process.node.applied = fun _ => none

/-- The runs of a process that reconciles the VIP `key`. -/
def passes (config : Config) (key : VIPKey) : TransitionSystem Process Pass where
  initial := Process.Fresh
  step := fun process pass =>
    if process.alive ∧ pass.vip.key = key then
      some (Process.after (reconcile config pass.env pass.vip
        (process.node.answered pass.routerReplies pass.vppReplies)))
    else none

/-- Settings without rollout leases, for concrete runs. -/
def Config.plain : Config where
  vpp :=
    { encapType := .gre4
      dscp := 0
      serviceType := .clusterIP
      newFlowsTableLength := 1024
      stateVerificationInterval := 0
      failOnAllBackendsDown := false }
  tuningDriftPolicy := .rollingRecreate
  drainDuration := 30 * 1000000000
  rollouts := false

/-- A node with nothing on it. -/
def Node.empty : Node where
  routing := ⟨Routing.newRouteCoordinator 0, fun _ => false⟩

theorem Process.fresh_empty : Process.Fresh ⟨Node.empty, true⟩ where
  alive := rfl
  coordinator := ⟨0, rfl⟩
  vips := rfl
  addedBy := rfl
  applied := rfl

theorem passes_step {config : Config} {key : VIPKey} {process next : Process} {pass : Pass}
    (moves : (passes config key).step process pass = some next) :
    process.alive = true ∧ pass.vip.key = key ∧
      next = Process.after (reconcile config pass.env pass.vip
        (process.node.answered pass.routerReplies pass.vppReplies)) := by
  simp only [passes] at moves
  split at moves
  · rename_i runs
    exact ⟨runs.1, runs.2, (Option.some.inj moves).symm⟩
  · cases moves

end ArcaLB.Agent
