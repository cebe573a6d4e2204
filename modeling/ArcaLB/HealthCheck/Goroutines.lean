import ArcaLB.Library.Transition
import ArcaLB.HealthCheck.Engine
import ArcaLB.Agent.Reconciler

/-!
# The goroutines around the engine

The event handler starts, updates and stops the checks of VIPs, one result processor handles
the results, and reconcilers clean up after deleted VIPs.  A result is handled in three steps,
and anything may happen between two of them.
-/

namespace ArcaLB.HealthCheck

variable (rules : TextRules)

/-- What happens to the engine and the store.  `persist` and `notify` are the rest of
`handleResult`, and `cleanup` is an attempt to clean up after a deleted VIP, whatever the rest of
the node is like. -/
inductive Event where
  | startVIP (env : StartEnv) (vip : VirtualIP)
  | updateVIP (env : StartEnv) (vip : VirtualIP)
  | stopVIP (vipKey : String)
  | result (result : ProbeResult)
  | persist (saves : Bool)
  | notify
  | cleanup (config : Agent.Config) (env : Agent.DeleteEnv) (vip : VirtualIP) (node : Agent.Node)

/-- The cleanup of a deleted VIP on the store that everyone shares. -/
def Checks.cleanup (checks : Checks) (config : Agent.Config) (env : Agent.DeleteEnv)
    (vip : VirtualIP) (node : Agent.Node) : Outcome Empty Bool × Agent.Node :=
  Agent.handleDelete config env vip { node with store := checks.store }

/-- One event.  There is one result processor, which handles one result after another. -/
def Checks.next (checks : Checks) : Event → Option Checks
  | .startVIP env vip => some (HealthCheck.startVIP rules env vip checks).2
  | .updateVIP env vip => some (HealthCheck.updateVIP rules env vip checks).2
  | .stopVIP vipKey => some { checks with engine := HealthCheck.stopVIP vipKey checks.engine }
  | .result result =>
    match checks.handling with
    | some _ => none
    | none =>
      some { checks with
        engine := (handleResult result checks.engine).1
        handling := (handleResult result checks.engine).2 }
  | .persist saves =>
    match checks.handling with
    | some handling =>
      if handling.saved then none
      else
        some { checks with
          store :=
            if saves then
              checks.store.saveHealthState handling.vipKey handling.backendAddr
                handling.record
            else checks.store
          handling := some { handling with saved := true } }
    | none => none
  | .notify =>
    match checks.handling with
    | some handling =>
      if handling.saved then
        some { checks with
          handling := none
          fired := handling.change.toList ++ checks.fired }
      else none
    | none => none
  | .cleanup config env vip node =>
    match checks.cleanup config env vip node with
    | (.ok _, after) => some { checks with store := after.store }
    | (.error _, _) | (.crashed, _) => none

/-- A process whose engine tracks nothing yet, over what an earlier one has stored. -/
structure Checks.Fresh (checks : Checks) : Prop where
  vips : checks.engine.vips = ∅
  nextEpoch : checks.engine.nextEpoch = 0
  handling : checks.handling = none
  fired : checks.fired = []

/-- The engine as a transition system, from a fresh start. -/
def checks : TransitionSystem Checks Event where
  initial := Checks.Fresh
  step := Checks.next rules

end ArcaLB.HealthCheck
