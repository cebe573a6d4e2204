import ArcaLB.Routing.Coordinator

/-!
# Coordinator calls as step machines

A call of the coordinator alternates locked sections with router calls.  The
machine below has one control point before each of them, so that a step is
exactly one locked section or one router call, and calls of several goroutines
interleave at the points where the source releases its mutex.  The environment
answers each step with the time the source reads there and, at a router call,
with its error; a failed router call leaves the router unchanged.
-/

namespace ArcaLB.Routing

/-- The coordinator's methods with a router call in them. `BeginDrain` and
`BeginAddressDrain` are `beginDrain` without and with `forceAddress`. -/
inductive Call where
  | setServing (address : String) (serving : Bool)
  | beginDrain (address : String) (forceAddress : Bool)
  | finishDrain (address : String)
  | prepareAddressChange (address : String)
  | delete (address : String)
  deriving DecidableEq, Repr

/-- What is left of the caller once `removeVIPFromAddress` returns. -/
inductive AfterRemove where
  | setServing (address : String) (serving : Bool)
  | beginDrain (address : String) (forceAddress : Bool)
  | prepareAddressChange
  | delete
  deriving DecidableEq, Repr

/-- What is left of the caller once `reconcileRoute` returns: `caller` returns its
result unchanged. -/
inductive AfterRoute where
  | caller
  | remove (after : AfterRemove)
  | beginDrain
  deriving DecidableEq, Repr

/-- The control points of a call. -/
inductive Pc where
  | start (call : Call)
  | removeBegin (address : String) (after : AfterRemove)
  | removeEnd (address : String) (after : AfterRemove) (advertised : Bool)
      (err : Option String)
  | setServingMark (address : String) (serving : Bool)
  | drainMark (address : String) (forceAddress : Bool)
  | drainAbort (address : String) (err : String)
  | routeDecide (address : String) (after : AfterRoute)
  | routeCall (address : String) (operation : RouteOperation) (advertised : Bool)
      (operationTime : Time) (after : AfterRoute)
  | routeRecord (address : String) (operation : RouteOperation) (operationTime : Time)
      (after : AfterRoute)
  | done (result : Bool) (err : Option String)
  deriving DecidableEq, Repr

/-- The environment's answer to one step. -/
structure Reply where
  now : Time
  err : Option String
  deriving DecidableEq, Repr

/-- The coordinator together with the router it drives. -/
structure Shared where
  coordinator : RouteCoordinator
  routes : String → Bool

/-- The error text for a failed withdrawal of the address a VIP moves away from. -/
def withdrawPreviousError (address : String) (key : VIPKey) (err : String) : String :=
  "failed to withdraw previous VIP address " ++ address ++ " for " ++ key.text ++ ": " ++ err

/-- Return from `removeVIPFromAddress` to its caller. -/
def AfterRemove.resume (after : AfterRemove) (key : VIPKey) (removed : String)
    (advertised : Bool) (err : Option String) : Pc :=
  match after, err with
  | .setServing _ _, some text => .done false (some (withdrawPreviousError removed key text))
  | .setServing address serving, none => .setServingMark address serving
  | .beginDrain _ _, some text => .done false (some (withdrawPreviousError removed key text))
  | .beginDrain address force, none => .drainMark address force
  | .prepareAddressChange, some text =>
    .done advertised (some (withdrawPreviousError removed key text))
  | .prepareAddressChange, none => .done false none
  | .delete, _ => .done false err

/-- Return from `reconcileRoute` to its caller. -/
def AfterRoute.resume (after : AfterRoute) (address : String) (advertised : Bool)
    (err : Option String) : Pc :=
  match after, err with
  | .caller, _ => .done advertised err
  | .remove next, _ => .removeEnd address next advertised err
  | .beginDrain, some text => .drainAbort address text
  | .beginDrain, none => .done (!advertised) none

/-- The first locked section of a call. -/
def Call.enter (call : Call) (key : VIPKey) (coordinator : RouteCoordinator) :
    Pc × RouteCoordinator :=
  match call with
  | .setServing address serving =>
    if address = "" then (.done false none, coordinator)
    else if coordinator.trackedElsewhere key address then
      (.removeBegin (coordinator.vipAddresses key) (.setServing address serving), coordinator)
    else (.setServingMark address serving, coordinator)
  | .beginDrain address force =>
    if address = "" then (.done true none, coordinator)
    else if coordinator.trackedElsewhere key address then
      (.removeBegin (coordinator.vipAddresses key) (.beginDrain address force), coordinator)
    else (.drainMark address force, coordinator)
  | .finishDrain address =>
    if address = "" then (.done false none, coordinator)
    else if coordinator.ownsDrain key address then
      (.routeDecide address .caller, coordinator.clearDrain key address)
    else (.done (coordinator.isAdvertised address) none, coordinator)
  | .prepareAddressChange address =>
    if address = "" then (.done false none, coordinator)
    else if coordinator.trackedElsewhere key address then
      (.removeBegin (coordinator.vipAddresses key) .prepareAddressChange, coordinator)
    else (.done (coordinator.isAdvertised address) none, coordinator)
  | .delete address =>
    let target :=
      if coordinator.vipAddresses key = "" then address else coordinator.vipAddresses key
    if target = "" then (.done false none, coordinator)
    else (.removeBegin target .delete, coordinator)

/-- The locked section of `reconcileRoute` that decides the next operation. -/
def decideRoute (coordinator : RouteCoordinator) (address : String) (now : Time)
    (after : AfterRoute) : Pc :=
  match coordinator.addresses address with
  | none => after.resume address false none
  | some state =>
    match state.nextRouteOperation coordinator.routeVerificationInterval now with
    | (none, advertised) => after.resume address advertised none
    | (some operation, advertised) => .routeCall address operation advertised now after

/-- Where `reconcileRoute` goes after it recorded an operation. -/
def afterRecord (recorded : RouteCoordinator) (address : String)
    (operation : RouteOperation) (now : Time) (after : AfterRoute) : Pc :=
  match recorded.addresses address with
  | none => after.resume address operation.effect none
  | some state =>
    match state.nextRouteOperation recorded.routeVerificationInterval now with
    | (none, advertised) => after.resume address advertised none
    | (some _, _) => .routeDecide address after

/-- One step of a call: one locked section or one router call. -/
def Pc.step (key : VIPKey) (reply : Reply) (shared : Shared) : Pc → Pc × Shared
  | .start call =>
    let (next, coordinator) := call.enter key shared.coordinator
    (next, { shared with coordinator })
  | .removeBegin address after =>
    if shared.coordinator.trackedElsewhere key address then
      (after.resume key address false none, shared)
    else
      (.routeDecide address (.remove after),
        { shared with coordinator := shared.coordinator.forgetServing key address })
  | .removeEnd address after advertised err =>
    (after.resume key address advertised err,
      { shared with coordinator := shared.coordinator.finishRemove key address err })
  | .setServingMark address serving =>
    (.routeDecide address .caller,
      { shared with coordinator := shared.coordinator.markServing key address serving })
  | .drainMark address force =>
    (if shared.coordinator.drainAdmitted key address force then
        .routeDecide address .beginDrain
      else .done false none,
      { shared with coordinator := shared.coordinator.markDraining key address force })
  | .drainAbort address err =>
    (.done false (some err),
      { shared with coordinator := shared.coordinator.clearDrain key address })
  | .routeDecide address after => (decideRoute shared.coordinator address reply.now after, shared)
  | .routeCall address operation advertised operationTime after =>
    match reply.err with
    | some text => (after.resume address advertised (some text), shared)
    | none =>
      (.routeRecord address operation operationTime after,
        { shared with routes := Function.update shared.routes address operation.effect })
  | .routeRecord address operation operationTime after =>
    let recorded := shared.coordinator.recordRoute address operation operationTime
    (afterRecord recorded address operation reply.now after,
      { shared with coordinator := recorded })
  | .done result err => (.done result err, shared)

end ArcaLB.Routing
