import ArcaLB.Api.VirtualIP

/-!
# The route coordinator

`routeCoordinator` decides, per address, whether the node announces the route.
Its data is guarded by one mutex, but the router is called outside of it.  Each
locked section of the source is one function on the coordinator here; the calls
are put together from these sections in `ArcaLB.Routing.Call`.
-/

namespace ArcaLB.Routing

/-- What the coordinator knows about one address.  `lastVerified` is `none` for
the zero time. -/
structure RouteAddressState where
  serving : AList (fun _ : VIPKey => Bool) := ∅
  advertised : Bool := false
  reconciled : Bool := false
  drainOwner : Option VIPKey := none
  lastVerified : Option Time := none

/-- The coordinator.  An absent key of `vipAddresses` reads as the empty address,
as a missing entry of the source's map does. -/
structure RouteCoordinator where
  routeVerificationInterval : Time
  addresses : String → Option RouteAddressState
  vipAddresses : VIPKey → String

/-- A router operation; the source's `routeOperationNone` is `none` of the
option type. -/
inductive RouteOperation where
  | announce
  | withdraw
  deriving DecidableEq, Repr

variable (operation : RouteOperation)
include operation

namespace RouteOperation

/-- Whether the route is in the router once the operation succeeded. -/
def effect : RouteOperation → Bool
  | announce => true
  | withdraw => false

@[simp] theorem effect_eq_false : operation.effect = false ↔ operation = withdraw := by
  cases operation <;> simp [effect]

end RouteOperation

/-- The default route verification interval, 30 seconds. -/
def defaultRouteVerificationInterval : Time := 30 * 1000000000

/-- A fresh coordinator: nothing tracked, and a non-positive verification
interval replaced by the default. -/
def newRouteCoordinator (routeVerificationInterval : Int) : RouteCoordinator where
  routeVerificationInterval :=
    if routeVerificationInterval ≤ 0 then defaultRouteVerificationInterval
    else routeVerificationInterval.toNat
  addresses := fun _ => none
  vipAddresses := fun _ => ""

namespace RouteAddressState

/-- An advertised route is announced again once it was never verified or its
verification is older than the interval. -/
def shouldVerifyAdvertisedRoute (state : RouteAddressState) (interval now : Time) : Bool :=
  match state.lastVerified with
  | none => true
  | some verified => decide (verified + interval ≤ now)

/-- The route is wanted when no drain is held and some VIP serves. -/
def routeShouldAdvertise (state : RouteAddressState) : Bool :=
  state.drainOwner.isNone && state.serving.entries.any fun entry => entry.2

/-- The operation that is due, and the advertised flag reported with it. -/
def nextRouteOperation (state : RouteAddressState) (interval now : Time) :
    Option RouteOperation × Bool :=
  if state.routeShouldAdvertise then
    if state.advertised && !state.shouldVerifyAdvertisedRoute interval now then (none, true)
    else (some .announce, state.advertised)
  else if state.advertised || !state.reconciled then (some .withdraw, state.advertised)
  else (none, false)

/-- Record a successful router operation. -/
def applyRouteOperation (state : RouteAddressState) (operation : RouteOperation)
    (operationTime : Time) : RouteAddressState :=
  match operation with
  | .announce =>
    { state with
      advertised := true
      reconciled := true
      lastVerified := some operationTime }
  | .withdraw =>
    { state with
      advertised := false
      reconciled := true
      lastVerified := none }

/-- Whether some VIP other than `key` serves on the address. -/
def peerServing (state : RouteAddressState) (key : VIPKey) : Bool :=
  state.serving.entries.any fun entry => decide (entry.1 ≠ key) && entry.2

variable (state : RouteAddressState)
include state

@[simp] theorem applyRouteOperation_serving (time : Time) :
    (state.applyRouteOperation operation time).serving = state.serving := by
  cases operation <;> rfl

@[simp] theorem applyRouteOperation_advertised (time : Time) :
    (state.applyRouteOperation operation time).advertised = operation.effect := by
  cases operation <;> rfl

@[simp] theorem applyRouteOperation_reconciled (time : Time) :
    (state.applyRouteOperation operation time).reconciled = true := by
  cases operation <;> rfl

@[simp] theorem applyRouteOperation_drainOwner (time : Time) :
    (state.applyRouteOperation operation time).drainOwner = state.drainOwner := by
  cases operation <;> rfl

omit operation in
/-- The route is wanted exactly when no drain is held and some key serves. -/
theorem routeShouldAdvertise_iff :
    state.routeShouldAdvertise = true ↔
      state.drainOwner = none ∧ ∃ key, state.serving.lookup key = some true := by
  simp only [routeShouldAdvertise, Bool.and_eq_true, Option.isNone_iff_eq_none,
    List.any_eq_true]
  refine and_congr_right fun _ => ⟨?_, ?_⟩
  · rintro ⟨⟨key, serves⟩, member, rfl⟩
    exact ⟨key, AList.mem_lookup_iff.mpr member⟩
  · rintro ⟨key, found⟩
    exact ⟨⟨key, true⟩, AList.mem_lookup_iff.mp found, rfl⟩

omit state

omit operation in
/-- An announce is due only where the route is wanted. -/
theorem shouldAdvertise_of_next_announce {state : RouteAddressState} {interval now : Time}
    {advertised : Bool}
    (due : state.nextRouteOperation interval now = (some .announce, advertised)) :
    state.routeShouldAdvertise = true := by
  unfold nextRouteOperation at due
  by_cases wanted : state.routeShouldAdvertise = true
  · exact wanted
  · rw [if_neg wanted] at due
    split at due <;> simp at due

omit operation in
/-- Nothing is due for an unwanted route only once its withdrawal is recorded. -/
theorem withdrawn_of_next_none {state : RouteAddressState} {interval now : Time}
    {advertised : Bool} (unwanted : state.routeShouldAdvertise = false)
    (idle : state.nextRouteOperation interval now = (none, advertised)) :
    state.advertised = false ∧ state.reconciled = true ∧ advertised = false := by
  unfold nextRouteOperation at idle
  rw [unwanted] at idle
  cases advertises : state.advertised <;> cases reconciles : state.reconciled <;>
    simp_all

end RouteAddressState

omit operation

namespace RouteCoordinator

/-- Write the entry of an address; `none` deletes it. -/
def setAddress (coordinator : RouteCoordinator) (address : String)
    (state : Option RouteAddressState) : RouteCoordinator :=
  { coordinator with addresses := Function.update coordinator.addresses address state }

/-- Write the tracked address of a VIP; the empty address deletes it. -/
def track (coordinator : RouteCoordinator) (key : VIPKey) (address : String) :
    RouteCoordinator :=
  { coordinator with vipAddresses := Function.update coordinator.vipAddresses key address }

variable (coordinator : RouteCoordinator)
include coordinator

@[simp] theorem setAddress_addresses (address : String) (state : Option RouteAddressState) :
    (coordinator.setAddress address state).addresses =
      Function.update coordinator.addresses address state := rfl

@[simp] theorem setAddress_vipAddresses (address : String) (state : Option RouteAddressState) :
    (coordinator.setAddress address state).vipAddresses = coordinator.vipAddresses := rfl

@[simp] theorem setAddress_interval (address : String) (state : Option RouteAddressState) :
    (coordinator.setAddress address state).routeVerificationInterval =
      coordinator.routeVerificationInterval := rfl

@[simp] theorem track_vipAddresses (key : VIPKey) (address : String) :
    (coordinator.track key address).vipAddresses =
      Function.update coordinator.vipAddresses key address := rfl

/-- The entry of an address, a fresh one where there is none. -/
def ensureRouteAddressState (coordinator : RouteCoordinator) (address : String) :
    RouteAddressState :=
  (coordinator.addresses address).getD {}

/-- Drop the entry of an address that no VIP uses and that is not advertised. -/
def cleanupRouteAddress (coordinator : RouteCoordinator) (address : String) :
    RouteCoordinator :=
  match coordinator.addresses address with
  | none => coordinator
  | some state =>
    if state.serving.entries.isEmpty && !state.advertised then
      coordinator.setAddress address none
    else coordinator

/-- First locked section of `removeVIPFromAddress`, once the VIP was found to be
tracked on no other address. -/
def forgetServing (coordinator : RouteCoordinator) (key : VIPKey) (address : String) :
    RouteCoordinator :=
  match coordinator.addresses address with
  | none => coordinator
  | some state =>
    coordinator.setAddress address (some { state with serving := state.serving.erase key })

/-- Whether the VIP is tracked on another address than the given one. -/
def trackedElsewhere (coordinator : RouteCoordinator) (key : VIPKey) (address : String) :
    Bool :=
  coordinator.vipAddresses key != "" && coordinator.vipAddresses key != address

/-- Last locked section of `removeVIPFromAddress`. -/
def finishRemove (coordinator : RouteCoordinator) (key : VIPKey) (address : String)
    (err : Option String) : RouteCoordinator :=
  let released :=
    if err.isNone && !coordinator.trackedElsewhere key address then coordinator.track key ""
    else coordinator
  released.cleanupRouteAddress address

/-- Second locked section of `SetServing`. -/
def markServing (coordinator : RouteCoordinator) (key : VIPKey) (address : String)
    (serving : Bool) : RouteCoordinator :=
  let state := coordinator.ensureRouteAddressState address
  (coordinator.track key address).setAddress address
    (some { state with serving := state.serving.insert key serving })

/-- Whether `beginDrain` takes the address: no other VIP drains it and, unless the
whole address is drained, no other VIP serves on it. -/
def drainAdmitted (coordinator : RouteCoordinator) (key : VIPKey) (address : String)
    (forceAddress : Bool) : Bool :=
  let state := coordinator.ensureRouteAddressState address
  (state.drainOwner.isNone || state.drainOwner == some key) &&
    (forceAddress || !state.peerServing key)

/-- Second locked section of `beginDrain`: the entry is created even where the
drain is refused. -/
def markDraining (coordinator : RouteCoordinator) (key : VIPKey) (address : String)
    (forceAddress : Bool) : RouteCoordinator :=
  let state := coordinator.ensureRouteAddressState address
  if coordinator.drainAdmitted key address forceAddress then
    (coordinator.track key address).setAddress address
      (some { state with drainOwner := some key, serving := state.serving.insert key false })
  else coordinator.setAddress address (some state)

/-- Whether `key` holds the drain of `address`. -/
def ownsDrain (coordinator : RouteCoordinator) (key : VIPKey) (address : String) : Bool :=
  match coordinator.addresses address with
  | none => false
  | some state => state.drainOwner == some key

/-- Clear the drain of an address that `key` holds: the locked section of
`FinishDrain`, and that of `beginDrain` after a failed withdrawal. -/
def clearDrain (coordinator : RouteCoordinator) (key : VIPKey) (address : String) :
    RouteCoordinator :=
  match coordinator.addresses address with
  | none => coordinator
  | some state =>
    if state.drainOwner == some key then
      coordinator.setAddress address (some { state with drainOwner := none })
    else coordinator

/-- The advertised flag of an address, `false` where it has no entry. -/
def isAdvertised (coordinator : RouteCoordinator) (address : String) : Bool :=
  match coordinator.addresses address with
  | none => false
  | some state => state.advertised

/-- The locked section of `reconcileRoute` after a successful router call. -/
def recordRoute (coordinator : RouteCoordinator) (address : String)
    (operation : RouteOperation) (operationTime : Time) : RouteCoordinator :=
  match coordinator.addresses address with
  | none => coordinator
  | some state =>
    coordinator.setAddress address (some (state.applyRouteOperation operation operationTime))

/-- The previously tracked address of a VIP, where it differs from the new one. -/
def pendingAddressChange (coordinator : RouteCoordinator) (key : VIPKey) (address : String) :
    Option String :=
  if address != "" && coordinator.trackedElsewhere key address then
    some (coordinator.vipAddresses key)
  else none

end RouteCoordinator

end ArcaLB.Routing
