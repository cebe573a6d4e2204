import ArcaLB.Status.Aggregate

/-!
# Status updates of agents and operator

What an agent and the operator write: the agent puts its report in place of its last one and
refreshes the aggregate, or sets the HealthCheckReady condition; the operator refreshes the
aggregate of the observed generation and sets the Ready condition.
-/

namespace ArcaLB.Status

/-- A `time.Duration` of whole seconds, in nanoseconds. -/
def seconds (count : Int) : Int := count * 1000000000

/-- Two minutes. -/
def defaultAgentStatusTTL : Int := seconds 120

/-- An hour. -/
def maxAgentStatusTTL : Int := seconds 3600

/-- A week. -/
def defaultExpiredAgentStatusRetention : Int := seconds (7 * 24 * 3600)

/-- The time to live, within its bounds. -/
def normalizeAgentStatusTTL (ttl : Int) : Int :=
  if ttl ≤ 0 then defaultAgentStatusTTL
  else if maxAgentStatusTTL < ttl then maxAgentStatusTTL
  else ttl

/-- The TTL in whole seconds, rounded up. -/
def durationSeconds (ttl : Int) : Int :=
  let ttl := normalizeAgentStatusTTL ttl
  if ttl % seconds 1 = 0 then ttl / seconds 1 else ttl / seconds 1 + 1

/-- The reported time to live, within its bounds. -/
def sanitizeAgentStatusTTLSeconds (ttlSeconds : Int) : Int :=
  if ttlSeconds ≤ 0 then 0 else if 3600 < ttlSeconds then 3600 else ttlSeconds

/-- Cuts the backends to their cap. -/
def sanitizeBackendStatuses (statuses : List BackendStatus) : List BackendStatus :=
  statuses.take maxVirtualIPStatusBackends

/-- One report, within the limits of the schema. -/
def AgentStatus.sanitize (status : AgentStatus) : AgentStatus :=
  { status with
    ttlSeconds := sanitizeAgentStatusTTLSeconds status.ttlSeconds
    backends := sanitizeBackendStatuses status.backends }

/-- When the report was written. -/
def agentStatusUpdateTime (status : AgentStatus) : Time := status.lastUpdateTime.getD 0

/-- The order of the reports that are kept: the newest first, then by agent. -/
def newerAgentStatus (left right : AgentStatus) : Bool :=
  if agentStatusUpdateTime left = agentStatusUpdateTime right then
    left.agentID ≤ right.agentID
  else agentStatusUpdateTime right < agentStatusUpdateTime left

/-- Keeps the newest reports. -/
def capAgentStatuses (statuses : List AgentStatus) : List AgentStatus :=
  if statuses.length ≤ maxVirtualIPStatusAgentStatuses then statuses
  else (statuses.mergeSort newerAgentStatus).take maxVirtualIPStatusAgentStatuses

/-- Sanitizes and caps the reports. -/
def sanitizeAgentStatuses (statuses : List AgentStatus) : List AgentStatus :=
  capAgentStatuses (statuses.map AgentStatus.sanitize)

/-- The status within the API's bounds. -/
def sanitizeVirtualIPStatus (status : VirtualIPStatus) : VirtualIPStatus :=
  { status with
    backends := sanitizeBackendStatuses status.backends
    agentStatuses := sanitizeAgentStatuses status.agentStatuses }

/-- Put a report in place of the agent's last one, and drop those of other generations. -/
def upsertAgentStatus (statuses : List AgentStatus) (next : AgentStatus) (generation : Int) :
    List AgentStatus :=
  let kept := statuses.filterMap fun status =>
    if status.agentID = next.agentID then some next
    else if status.observedGeneration = generation then some status
    else none
  if statuses.any (·.agentID = next.agentID) then kept else kept ++ [next]

/-- The report has run out. -/
def agentStatusExpired (status : AgentStatus) (now : Time) (ttl : Int) : Bool :=
  match status.lastUpdateTime with
  | none => true
  | some updated => (updated : Int) + ttl < now

/-- A report's own time to live, or the fallback. -/
def agentStatusTTL (status : AgentStatus) (fallback : Int) : Int :=
  if 0 < status.ttlSeconds then
    if 3600 < status.ttlSeconds then maxAgentStatusTTL
    else normalizeAgentStatusTTL (seconds status.ttlSeconds)
  else normalizeAgentStatusTTL fallback

/-- The report is older than its TTL and the retention period. -/
def outdated (status : AgentStatus) (now : Time) (ttl : Int) : Bool :=
  agentStatusExpired status now (agentStatusTTL status (normalizeAgentStatusTTL ttl)) &&
    agentStatusExpired status now defaultExpiredAgentStatusRetention

/-- The fresh and the expired reports of a generation; outdated ones are dropped. -/
def splitAgentStatuses (statuses : List AgentStatus) (generation : Int) (now : Time) (ttl : Int) :
    List AgentStatus × List AgentStatus :=
  let expires (status : AgentStatus) :=
    agentStatusExpired status now (agentStatusTTL status (normalizeAgentStatusTTL ttl))
  let observed := statuses.filter (·.observedGeneration = generation)
  (observed.filter (!expires ·),
    observed.filter fun status => expires status && !outdated status now ttl)

/-- Recomputes the status from the reports left. -/
def refreshAggregateStatus (vip : VirtualIP) (status : VirtualIPStatus) (generation : Int)
    (now : Time) (ttl : Int) : VirtualIPStatus :=
  let reports := splitAgentStatuses status.agentStatuses generation now ttl
  applyAggregateStatus vip
    { status with agentStatuses := sanitizeAgentStatuses (reports.1 ++ reports.2) }
    generation now reports.1 reports.2

/-- A VirtualIP with its status, as the API server stores it. -/
structure Object where
  vip : VirtualIP
  status : VirtualIPStatus
  deriving DecidableEq, Repr

/-- An agent's updater: its identity and the TTL of its reports. -/
structure Updater where
  agentID : String
  agentStatusTTL : Int
  deriving DecidableEq, Repr

/-- The object is not the one that the agent observed: the update is skipped. -/
def skipsUpdate (vip : VirtualIP) (current : Object) : Bool :=
  current.vip.uid ≠ vip.uid || current.vip.generation ≠ vip.generation || current.vip.terminating

theorem observed_of_not_skipped {vip : VirtualIP} {base : Object}
    (acts : ¬ skipsUpdate vip base = true) :
    base.vip.uid = vip.uid ∧ base.vip.generation = vip.generation ∧
      base.vip.terminating = false := by
  simpa [skipsUpdate, and_assoc] using acts

/-- The addresses of the healthy backends. -/
def healthyAddresses (healthyBackends : List BackendSpec) : Finset String :=
  (healthyBackends.map (·.address)).toFinset

/-- The report of an agent at time `now`. -/
def Updater.report (updater : Updater) (vip : VirtualIP) (healthyBackends : List BackendSpec)
    (conditions : List Condition) (now : Time) : AgentStatus where
  agentID := updater.agentID
  observedGeneration := vip.generation
  totalBackends := vip.spec.backends.length
  healthyBackends :=
    countConfiguredHealthyBackends vip.spec.backends (healthyAddresses healthyBackends)
  backends := buildBackendStatuses vip.spec.backends (healthyAddresses healthyBackends)
  healthyBackendBitmap :=
    buildHealthyBackendBitmap vip.spec.backends (healthyAddresses healthyBackends)
  conditions := conditions.foldl
    (fun reported condition =>
      setStatusCondition now { condition with observedGeneration := vip.generation } reported) []
  lastUpdateTime := some now
  ttlSeconds := durationSeconds (normalizeAgentStatusTTL updater.agentStatusTTL)

/-- The status that `UpdateVIPStatus` writes over `current`. -/
def Updater.updateVIPStatus (updater : Updater) (vip : VirtualIP)
    (healthyBackends : List BackendSpec) (conditions : List Condition) (now : Time)
    (current : Object) : Option VirtualIPStatus :=
  if skipsUpdate vip current then none
  else
    let report := updater.report vip healthyBackends conditions now
    let statuses := upsertAgentStatus current.status.agentStatuses report vip.generation
    some (sanitizeVirtualIPStatus
      (refreshAggregateStatus current.vip { current.status with agentStatuses := statuses }
        vip.generation now (normalizeAgentStatusTTL updater.agentStatusTTL)))

/-- The status that `UpdateHealthCheckCondition` writes over `current`. -/
def Updater.updateHealthCheckCondition (updater : Updater) (vip : VirtualIP)
    (condition : Condition) (now : Time) (current : Object) : Option VirtualIPStatus :=
  if skipsUpdate vip current then none
  else
    let condition :=
      { condition with type := .healthCheckReady, observedGeneration := vip.generation }
    let status := { current.status with
      conditions := setStatusCondition now condition current.status.conditions }
    some (sanitizeVirtualIPStatus
      (if condition.status = .false then
        refreshAggregateStatus current.vip status vip.generation now
          (normalizeAgentStatusTTL updater.agentStatusTTL)
      else
        { status with agentStatuses := sanitizeAgentStatuses status.agentStatuses }))

/-- The operator: its fallback TTL and its check of the spec, which returns the text of an
error. -/
structure Operator where
  agentStatusTTL : Int
  validateSpec : VirtualIPSpec → Option String

/-- The operator's time to live, or the default. -/
def Operator.effectiveAgentStatusTTL (operator : Operator) : Int :=
  if 0 < operator.agentStatusTTL then operator.agentStatusTTL else defaultAgentStatusTTL

/-- The Ready condition of a spec. -/
def Operator.readyCondition (operator : Operator) (vip : VirtualIP) (totalBackends : Int) :
    Condition :=
  match operator.validateSpec vip.spec with
  | some err =>
    { type := .ready
      status := .false
      observedGeneration := vip.generation
      reason := "InvalidSpec"
      message := err }
  | none =>
    if totalBackends = 0 then
      { type := .ready
        status := .false
        observedGeneration := vip.generation
        reason := "NoBackends"
        message := "No backends configured" }
    else
      { type := .ready
        status := .true
        observedGeneration := vip.generation
        reason := "Configured"
        message := toString totalBackends ++ " backends configured" }

/-- The status before the Ready condition is set. -/
def Operator.refreshed (operator : Operator) (now : Time) (current : Object) :
    VirtualIPStatus :=
  let carried := { current.status with
    totalBackends := (current.vip.spec.backends.length : Int) }
  sanitizeVirtualIPStatus
    (if carried.observedGeneration = current.vip.generation then
      refreshAggregateStatus current.vip carried current.vip.generation now
        operator.effectiveAgentStatusTTL
    else carried)

/-- The status that the operator's `updateStatus` computes; it is written only if it differs
from the current one. -/
def Operator.updateStatus (operator : Operator) (now : Time) (current : Object) :
    VirtualIPStatus :=
  let status := operator.refreshed now current
  { status with
    conditions := setStatusCondition now
      (operator.readyCondition current.vip status.totalBackends) status.conditions }

end ArcaLB.Status
