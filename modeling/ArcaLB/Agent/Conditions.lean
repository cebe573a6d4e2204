import ArcaLB.DataPlane.VPP

/-!
# Status conditions of a reconcile pass

The conditions that a pass reports for its VIP, with their reasons and messages.
-/

namespace ArcaLB.Agent

open DataPlane (VIPTuningDrift)

/-- The conditions an agent reports. -/
inductive ConditionType where
  | serving
  | dataPlaneReady
  | routeAdvertised
  deriving DecidableEq, Repr

/-- `metav1.ConditionStatus`. -/
inductive ConditionStatus where
  | true
  | false
  | unknown
  deriving DecidableEq, Repr

/-- `metav1.Condition`, as far as the agent fills it in. -/
structure Condition where
  type : ConditionType
  status : ConditionStatus
  reason : String
  message : String
  deriving DecidableEq, Repr

/-- What a pass hands to the status updater. -/
structure Report where
  healthyBackends : List BackendSpec
  conditions : List Condition
  deriving DecidableEq, Repr

/-- The `address:port/protocol` of a VIP in messages. -/
def endpoint (vip : VirtualIP) : String :=
  vip.spec.address ++ ":" ++ toString vip.spec.port ++ "/" ++ vip.spec.protocol.text

/-- Whether the VIP has a healthy backend to serve from. -/
def servingCondition (vip : VirtualIP) (healthyBackends : Nat) : Condition :=
  if 0 < healthyBackends then
    { type := .serving
      status := .true
      reason := "BackendsHealthy"
      message := toString healthyBackends ++ " healthy backend(s) available for " ++ endpoint vip }
  else if vip.spec.backends.isEmpty then
    { type := .serving
      status := .false
      reason := "NoBackends"
      message := "No backends configured for " ++ endpoint vip }
  else
    { type := .serving
      status := .false
      reason := "NoHealthyBackends"
      message := "No healthy backends available for " ++ endpoint vip }

/-- Serving state after a failed `ApplyVIP`. -/
def servingDataPlaneApplyFailedCondition (applyErr : String) : Condition where
  type := .serving
  status := .unknown
  reason := "DataPlaneApplyFailed"
  message := applyErr

/-- The desired VIP is on the data plane. -/
def dataPlaneAppliedCondition : Condition where
  type := .dataPlaneReady
  status := .true
  reason := "Applied"
  message := "Desired VIP is applied to the data plane"

/-- The data plane refused the desired VIP. -/
def dataPlaneApplyFailedCondition (applyErr : String) : Condition where
  type := .dataPlaneReady
  status := .false
  reason := "DataPlaneApplyFailed"
  message := applyErr

/-- Serving state while the old VIP is kept. -/
def retainedOldVIPServingCondition (repairErr : String) : Condition where
  type := .serving
  status := .unknown
  reason := "RetainedOldVIP"
  message := repairErr

/-- The data plane still holds the old VIP. -/
def retainedOldVIPDataPlaneCondition (repairErr : String) : Condition where
  type := .dataPlaneReady
  status := .false
  reason := "RetainedOldVIP"
  message := repairErr

/-- The drift of a retained VIP may not be repaired. -/
def tuningDriftRepairBlockedCondition (vip : VirtualIP) (drifts : List VIPTuningDrift) :
    Condition where
  type := .dataPlaneReady
  status := .false
  reason := "TuningDriftRepairBlocked"
  message :=
    let blocked := "Retained VIP tuning drift repair for " ++ vip.spec.address ++
      " is blocked until the shared address can drain"
    if drifts.isEmpty then blocked
    else blocked ++ " (" ++ toString drifts.length ++ " drift(s) pending)"

/-- The state store refused the configuration. -/
def lastConfigPersistFailedCondition (persistErr : String) : Condition where
  type := .serving
  status := .unknown
  reason := "LastConfigPersistFailed"
  message := persistErr

/-- What the last routing call said of the route. -/
def routeAdvertisedCondition (vip : VirtualIP) (advertised : Bool) (routeErr : Option String) :
    Condition :=
  match routeErr with
  | some err =>
    { type := .routeAdvertised
      status := .unknown
      reason := "RouteUpdateFailed"
      message := err }
  | none =>
    if advertised then
      { type := .routeAdvertised
        status := .true
        reason := "Advertised"
        message := "VIP address " ++ vip.spec.address ++ " is advertised by this node" }
    else
      { type := .routeAdvertised
        status := .false
        reason := "NotAdvertised"
        message := "VIP address " ++ vip.spec.address ++ " is not advertised by this node" }

end ArcaLB.Agent
