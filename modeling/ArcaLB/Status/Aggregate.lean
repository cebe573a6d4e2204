import ArcaLB.Agent.Conditions
import Mathlib.Data.Finset.Card

/-!
# The aggregate status

The status of a VirtualIP and the part of `status/updater.go` that computes the aggregate
from the agents' reports: the healthy backends, and the Serving, RouteAdvertised and
DataPlaneReady conditions.
-/

namespace ArcaLB.Status

open Agent (ConditionStatus endpoint)

/-- The condition types of a VIP's status. -/
inductive ConditionType where
  | healthCheckReady
  | serving
  | routeAdvertised
  | dataPlaneReady
  | ready
  | other (text : String)
  deriving DecidableEq, Repr

/-- A `metav1.Condition`; the transition time is `none` until the condition is set. -/
structure Condition where
  type : ConditionType
  status : ConditionStatus
  observedGeneration : Int
  lastTransitionTime : Option Time := none
  reason : String
  message : String
  deriving DecidableEq, Repr

/-- One backend of the status. -/
structure BackendStatus where
  address : String
  healthy : Bool
  message : String
  deriving DecidableEq, Repr

/-- One agent's report. -/
structure AgentStatus where
  agentID : String
  observedGeneration : Int
  healthyBackends : Int
  totalBackends : Int
  backends : List BackendStatus
  healthyBackendBitmap : String
  conditions : List Condition
  lastUpdateTime : Option Time
  ttlSeconds : Int
  deriving DecidableEq, Repr

/-- `VirtualIPStatus`. -/
structure VirtualIPStatus where
  observedGeneration : Int := 0
  healthyBackends : Int := 0
  totalBackends : Int := 0
  backends : List BackendStatus := []
  agentStatuses : List AgentStatus := []
  conditions : List Condition := []
  deriving DecidableEq, Repr

/-- The most backends a status lists. -/
def maxVirtualIPStatusBackends : Nat := 1024

/-- The most agents a status lists. -/
def maxVirtualIPStatusAgentStatuses : Nat := 256

/-- `meta.FindStatusCondition`. -/
def findStatusCondition (conditions : List Condition) (type : ConditionType) :
    Option Condition :=
  conditions.find? (·.type = type)

/-- The existing condition after `meta.SetStatusCondition` set a new one of its type: the
transition time is kept unless the status changes. -/
def Condition.set (existing new : Condition) (now : Time) : Condition :=
  { new with
    lastTransitionTime :=
      if existing.status = new.status then existing.lastTransitionTime
      else new.lastTransitionTime.or (some now) }

/-- `meta.SetStatusCondition` at time `now`. -/
def setStatusCondition (now : Time) (new : Condition) : List Condition → List Condition
  | [] => [{ new with lastTransitionTime := new.lastTransitionTime.or (some now) }]
  | existing :: rest =>
    if existing.type = new.type then existing.set new now :: rest
    else existing :: setStatusCondition now new rest

/-- The number of configured addresses in the healthy set; a repeated address counts once. -/
def countConfiguredHealthyBackends (backends : List BackendSpec) (healthySet : Finset String) :
    Int :=
  (((backends.map (·.address)).dedup.filter (· ∈ healthySet)).length : Int)

/-- The status's backends, from the healthy ones. -/
def buildBackendStatuses (backends : List BackendSpec) (healthySet : Finset String) :
    List BackendStatus :=
  (backends.take maxVirtualIPStatusBackends).map fun backend =>
    { address := backend.address
      healthy := backend.address ∈ healthySet
      message := if backend.address ∈ healthySet then "healthy" else "unhealthy" }

/-- A byte as two lowercase hexadecimal digits. -/
def hexByte (byte : Nat) : List Char :=
  [Nat.digitChar (byte / 16), Nat.digitChar (byte % 16)]

/-- `hex.EncodeToString`. -/
def encodeHex (bytes : List Nat) : String :=
  String.ofList (bytes.flatMap hexByte)

/-- The value of a hexadecimal digit of either case. -/
def hexValue (digit : Char) : Option Nat :=
  if '0' ≤ digit ∧ digit ≤ '9' then some (digit.toNat - '0'.toNat)
  else if 'a' ≤ digit ∧ digit ≤ 'f' then some (digit.toNat - 'a'.toNat + 10)
  else if 'A' ≤ digit ∧ digit ≤ 'F' then some (digit.toNat - 'A'.toNat + 10)
  else none

/-- The bytes of a text of hexadecimal digits, two digits each. -/
def decodeHexDigits : List Char → Option (List Nat)
  | [] => some []
  | [_] => none
  | high :: low :: rest => do
      let upper ← hexValue high
      let lower ← hexValue low
      let bytes ← decodeHexDigits rest
      pure ((16 * upper + lower) :: bytes)

/-- `hex.DecodeString`; `none` where it returns an error. -/
def decodeHex (text : String) : Option (List Nat) :=
  decodeHexDigits text.toList

/-- The bytes with the bit of every healthy backend set, the first backend in the lowest bit
of the first byte. -/
def bitmapBytes (backends : List BackendSpec) (healthySet : Finset String) : List Nat :=
  backends.zipIdx.foldl
    (fun bytes entry =>
      if entry.1.address ∈ healthySet then
        bytes.modify (entry.2 / 8) (· ||| 1 <<< (entry.2 % 8))
      else bytes)
    (List.replicate ((backends.length + 7) / 8) 0)

/-- The healthy backends as a hexadecimal bitmap. -/
def buildHealthyBackendBitmap (backends : List BackendSpec) (healthySet : Finset String) :
    String :=
  if backends = [] ∨ healthySet = ∅ then ""
  else encodeHex ((bitmapBytes backends healthySet).reverse.dropWhile (· = 0)).reverse

/-- The count, brought into its range. -/
def clampHealthyBackendCount (count total : Int) : Int :=
  if count < 0 then 0 else if total < count then total else count

/-- The backends that a bitmap marks as healthy; `none` where there is no bitmap to read. -/
def healthyBackendsFromBitmap (backends : List BackendSpec) (bitmap : String) :
    Option (Finset String) :=
  if bitmap = "" then none
  else
    (decodeHex bitmap).map fun decoded =>
      ((backends.zipIdx.filter fun entry =>
        (decoded.getD (entry.2 / 8) 0).testBit (entry.2 % 8)).map (·.1.address)).toFinset

/-- Add one report to the healthy set and the reported count. -/
def addReport (backends : List BackendSpec) (healthy : Finset String × Int)
    (status : AgentStatus) : Finset String × Int :=
  match healthyBackendsFromBitmap backends status.healthyBackendBitmap with
  | some marked => (healthy.1 ∪ marked, healthy.2)
  | none =>
    let reported := healthy.1 ∪
      ((status.backends.filter (·.healthy)).map (·.address)).toFinset
    let all := if status.totalBackends = backends.length ∧
        (backends.length : Int) ≤ status.healthyBackends then
      reported ∪ (backends.map (·.address)).toFinset
    else reported
    (all, max healthy.2 (clampHealthyBackendCount status.healthyBackends backends.length))

/-- The healthy backends over all reports. -/
def aggregateHealthyBackends (backends : List BackendSpec) (statuses : List AgentStatus) :
    Finset String × Int :=
  let healthy := statuses.foldl (addReport backends) (∅, 0)
  (healthy.1, max healthy.2 healthy.1.card)

/-- The conditions no agent reports. -/
def preserveNonAgentConditions (conditions : List Condition) : List Condition :=
  conditions.filter fun condition =>
    condition.type ≠ .serving ∧ condition.type ≠ .routeAdvertised ∧
      condition.type ≠ .dataPlaneReady

/-- The reason given when every report has run out. -/
def reasonAgentStatusExpired : String := "AgentStatusExpired"

/-- What an agent that has not reported a condition counts as. -/
def missingAgentCondition (agentID state : String) : String × String :=
  ("MissingAgentCondition", "Agent " ++ agentID ++ " has not reported " ++ state)

/-- The reason and message of a report that leaves a condition open: it is missing or
unknown. -/
def openReport (type : ConditionType) (state : String) (status : AgentStatus) :
    Option (String × String) :=
  match findStatusCondition status.conditions type with
  | none => some (missingAgentCondition status.agentID state)
  | some condition =>
    if condition.status = .unknown then some (condition.reason, condition.message) else none

/-- The report says that the condition is true. -/
def reportsTrue (type : ConditionType) (status : AgentStatus) : Bool :=
  (findStatusCondition status.conditions type).any (·.status = .true)

section Conditions

variable (vip : VirtualIP) (statuses expiredStatuses : List AgentStatus)

/-- A condition of the aggregate, without a transition time. -/
def aggregateCondition (type : ConditionType) (status : ConditionStatus)
    (text : String × String) : Condition where
  type
  status
  observedGeneration := vip.generation
  reason := text.1
  message := text.2

/-- `Serving`, over all reports. -/
def aggregateServingCondition : Condition :=
  if statuses.isEmpty then
    if expiredStatuses.isEmpty then
      aggregateCondition vip .serving .unknown
        ("NoAgentStatus", "No agent has reported serving state for this generation")
    else
      aggregateCondition vip .serving .unknown (reasonAgentStatusExpired,
        "Only expired agent observations are available; serving state is unknown")
  else if statuses.any (reportsTrue .serving) then
    aggregateCondition vip .serving .true
      ("AgentServing", "At least one agent is serving " ++ endpoint vip)
  else
    match statuses.findSome? (openReport .serving "serving state") with
    | some text => aggregateCondition vip .serving .unknown text
    | none =>
      if !expiredStatuses.isEmpty then
        aggregateCondition vip .serving .unknown (reasonAgentStatusExpired,
          "Some agent observations have expired; serving state is unknown")
      else if vip.spec.backends.isEmpty then
        aggregateCondition vip .serving .false
          ("NoBackends", "No backends configured for " ++ endpoint vip)
      else
        aggregateCondition vip .serving .false
          ("NoAgentServing", "No agent is serving " ++ endpoint vip)

/-- The data plane condition of a report, where it is there and not true. -/
def failedDataPlane (status : AgentStatus) : Option Condition :=
  (findStatusCondition status.conditions .dataPlaneReady).filter (·.status ≠ .true)

/-- The report lacks `DataPlaneReady`. -/
def missingDataPlane (status : AgentStatus) : Option (String × String) :=
  if (findStatusCondition status.conditions .dataPlaneReady).isNone then
    some (missingAgentCondition status.agentID "data plane apply state")
  else none

/-- `DataPlaneReady`, over all reports. -/
def aggregateDataPlaneReadyCondition : Option Condition :=
  match statuses.findSome? failedDataPlane with
  | some dataPlane =>
    some (aggregateCondition vip .dataPlaneReady dataPlane.status
      (dataPlane.reason, dataPlane.message))
  | none =>
    match statuses.findSome? missingDataPlane with
    | some text => some (aggregateCondition vip .dataPlaneReady .unknown text)
    | none =>
      if !statuses.isEmpty then
        some (aggregateCondition vip .dataPlaneReady .true
          ("Applied", "Desired VIP is applied to the data plane by all reporting agents"))
      else if expiredStatuses.any fun status =>
          (findStatusCondition status.conditions .dataPlaneReady).isSome then
        some (aggregateCondition vip .dataPlaneReady .unknown (reasonAgentStatusExpired,
          "Only expired agent observations are available; data plane apply state is unknown"))
      else none

/-- `RouteAdvertised`, over all reports. -/
def aggregateRouteAdvertisedCondition : Condition :=
  if statuses.isEmpty then
    if expiredStatuses.isEmpty then
      aggregateCondition vip .routeAdvertised .unknown
        ("NoAgentStatus", "No agent has reported route advertisement state for this generation")
    else
      aggregateCondition vip .routeAdvertised .unknown (reasonAgentStatusExpired,
        "Only expired agent observations are available; route advertisement state is unknown")
  else
    match statuses.findSome? (openReport .routeAdvertised "route advertisement state") with
    | some text => aggregateCondition vip .routeAdvertised .unknown text
    | none =>
      let advertised := statuses.countP (reportsTrue .routeAdvertised)
      if 0 < advertised then
        aggregateCondition vip .routeAdvertised .true ("Advertised",
          "VIP address " ++ vip.spec.address ++ " is advertised by " ++ toString advertised ++
            " agent(s)")
      else if !expiredStatuses.isEmpty then
        aggregateCondition vip .routeAdvertised .unknown (reasonAgentStatusExpired,
          "Some agent observations have expired; route advertisement state is unknown")
      else
        aggregateCondition vip .routeAdvertised .false ("NotAdvertised",
          "VIP address " ++ vip.spec.address ++ " is not advertised by any reporting agent")

/-- The aggregate conditions in the order in which they are set. -/
def aggregateConditions : List Condition :=
  [aggregateServingCondition vip statuses expiredStatuses,
    aggregateRouteAdvertisedCondition vip statuses expiredStatuses] ++
    (aggregateDataPlaneReadyCondition vip statuses expiredStatuses).toList

end Conditions

/-- `applyAggregateStatus` at time `now`. -/
def applyAggregateStatus (vip : VirtualIP) (status : VirtualIPStatus) (generation : Int)
    (now : Time) (freshStatuses expiredStatuses : List AgentStatus) : VirtualIPStatus :=
  let healthy := aggregateHealthyBackends vip.spec.backends freshStatuses
  { status with
    observedGeneration := generation
    totalBackends := vip.spec.backends.length
    healthyBackends := healthy.2
    backends := buildBackendStatuses vip.spec.backends healthy.1
    conditions := (aggregateConditions vip freshStatuses expiredStatuses).foldl
      (fun conditions condition => setStatusCondition now condition conditions)
      (preserveNonAgentConditions status.conditions) }

end ArcaLB.Status
