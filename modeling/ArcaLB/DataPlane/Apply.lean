import ArcaLB.DataPlane.VPP

/-!
# Applying VIPs to VPP

The methods of the VPP data plane.  Each of them runs under the data plane's mutex, so
it is one computation over the cache and the VPP process.  The cache holds, per key,
the VIP that was applied last with the backends it has in VPP; it is trusted until its
verification is due.
-/

namespace ArcaLB.DataPlane

section Cache

/-- Write the cache entry of a key. -/
def VPP.setEntry (vpp : VPP) (key : VIPKey) (entry : Option VipEntry) : VPP :=
  { vpp with vips := Function.update vpp.vips key entry }

/-- Change the cache entry of a key, if there is one. -/
def VPP.modifyEntry (vpp : VPP) (key : VIPKey) (change : VipEntry → VipEntry) : VPP :=
  vpp.setEntry key ((vpp.vips key).map change)

/-- `setTuningDriftsLocked`; `clearTuningDriftsLocked` sets none. -/
def VPP.setTuningDrifts (vpp : VPP) (key : VIPKey) (drifts : List VIPTuningDrift) : VPP :=
  { vpp with tuningDrifts := Function.update vpp.tuningDrifts key drifts }

/-- Forget a VIP and its drifts. -/
def VPP.forget (vpp : VPP) (key : VIPKey) : VPP :=
  (vpp.setEntry key none).setTuningDrifts key []

/-- `markVIPNeedsVerificationLocked`. -/
def markVIPNeedsVerification (key : VIPKey) : Effect VPP String Unit :=
  Effect.modify fun vpp => vpp.modifyEntry key fun entry => { entry with lastVerified := none }

/-- The verification interval, 30 seconds unless configured. -/
def stateVerificationInterval (config : VPPConfig) : Time :=
  if 0 < config.stateVerificationInterval then config.stateVerificationInterval.toNat
  else 30 * 1000000000

/-- An entry is due when it was never verified, or not lately. -/
def shouldVerifyCachedVIP (config : VPPConfig) (entry : VipEntry) (now : Time) : Bool :=
  match entry.lastVerified with
  | none => true
  | some verified => decide (verified + stateVerificationInterval config ≤ now)

/-- The error for a VIP all of whose backends are down, where the configuration asks
for one. -/
def failOnAllBackendsDown (config : VPPConfig) (vip : VirtualIP)
    (healthyBackends : List BackendSpec) : Except String Unit :=
  if !config.failOnAllBackendsDown || vip.spec.backends.isEmpty || !healthyBackends.isEmpty then
    .ok ()
  else .error ("all configured backends are down for VIP " ++ vip.key.text)

end Cache

section Compare

/-- Whether a VIP in VPP forwards as desired.  The flow table length is a tuning
setting and is left to `detectTuningDrifts`. -/
def vipDetailsMatchDesired (config : VPPConfig) (vip : VirtualIP) (detail : LbVip) : Bool :=
  match effectiveVIPAttributes config vip with
  | .error _ => false
  | .ok attrs =>
    match encapToAPI attrs.encapType, serviceTypeToAPI attrs.serviceType with
    | .ok encap, .ok srvType =>
      detail.encap == encap && (attrs.encapType != .l3dsr || detail.dscp == attrs.dscp) &&
        detail.srvType == srvType && detail.targetPort == UInt16.ofInt attrs.port
    | _, _ => false

/-- VPP dumps the table length in 16 bits, so it is compared in that width. -/
def detectTuningDrifts (config : VPPConfig) (vip : VirtualIP) (detail : LbVip) :
    List VIPTuningDrift :=
  match effectiveVIPAttributes config vip with
  | .error _ => []
  | .ok attrs =>
    if detail.flowTableLength.toUInt16 = attrs.newFlowsTableLength.toUInt16 then []
    else
      [{ field := "new_flows_table_length"
         current := toString detail.flowTableLength.toUInt16.toNat
         desired := toString attrs.newFlowsTableLength.toNat }]

end Compare

section Backends

/-- The map from addresses to backends; of two entries for one address the later one
stands. -/
def byAddress (backends : List BackendSpec) : BackendMap :=
  backends.foldl (fun desired backend => desired.insert backend.address backend) ∅

/-- Change the cached backends of a VIP. -/
def VPP.modifyBackends (vpp : VPP) (key : VIPKey) (change : BackendMap → BackendMap) :
    VPP :=
  vpp.modifyEntry key fun entry => { entry with backends := change entry.backends }

/-- Keep the first error. -/
def firstError (first : Option String) (err : String) : Option String :=
  some (first.getD err)

/-- Remove the cached backends that are not desired; the first error is returned at the
end, and a backend whose removal failed stays cached. -/
def removeBackends (key : VIPKey) (vip : VirtualIP) (desired : BackendMap) :
    List BackendEntry → Option String → Effect VPP String (Option String)
  | [], first => pure first
  | ⟨addr, backend⟩ :: rest, first =>
    if addr ∈ desired then removeBackends key vip desired rest first
    else do
      match ← Effect.attempt (removeBackend vip backend) with
      | .error err => removeBackends key vip desired rest (firstError first err)
      | .ok _ =>
        Effect.modify fun vpp => vpp.modifyBackends key (AList.erase addr)
        removeBackends key vip desired rest first

/-- Add the desired backends that are not cached. -/
def addBackends (key : VIPKey) (vip : VirtualIP) :
    List BackendEntry → Option String → Effect VPP String (Option String)
  | [], first => pure first
  | ⟨addr, backend⟩ :: rest, first => do
      let vpp ← Effect.read
      let cached := ((vpp.vips key).map VipEntry.backends).getD ∅
      if addr ∈ cached then
        Effect.modify fun vpp => vpp.modifyBackends key (AList.insert addr backend)
        addBackends key vip rest first
      else
        match ← Effect.attempt (addBackend vip backend) with
        | .error err => addBackends key vip rest (firstError first err)
        | .ok _ =>
          Effect.modify fun vpp => vpp.modifyBackends key (AList.insert addr backend)
          addBackends key vip rest first

/-- `reconcileBackendsLocked`: bring the backends of a cached VIP to the desired set. -/
def reconcileBackends (key : VIPKey) (vip : VirtualIP) (backends : List BackendSpec) :
    Effect VPP String Unit := do
  let desired := byAddress backends
  let vpp ← Effect.read
  let cached := ((vpp.vips key).map VipEntry.backends).getD ∅
  let removed ← removeBackends key vip desired cached.entries none
  match ← addBackends key vip desired.entries removed with
  | some err => Effect.fail ("failed to reconcile backend set for VIP " ++ key.text ++ ": " ++ err)
  | none =>
    let vpp ← Effect.read
    let cached := ((vpp.vips key).map VipEntry.backends).getD ∅
    if !desired.entries.isEmpty && (desired.keys.all fun addr => decide (addr ∉ cached)) then
      Effect.fail ("failed to apply any healthy backend for VIP " ++ key.text)
    else pure ()

end Backends

section Methods

variable (config : VPPConfig)

/-- `deleteCachedVIPForAttributeChangeLocked`. -/
def deleteCachedVIPForAttributeChange (key : VIPKey) (entry : VipEntry) :
    Effect VPP String Unit := do
  let found ← Effect.mapError (fun err => "failed to inspect existing VIP for update: " ++ err)
    (lookupVIP entry.vip)
  Effect.when found.isSome
    (Effect.mapError (fun err => "failed to delete existing VIP for update: " ++ err)
      (deleteVIP config entry.vip))
  Effect.modify fun vpp => vpp.forget key

/-- What is done with a VIP that VPP may hold: `missing` where it does not; where it holds the
VIP with other attributes, the VIP is deleted and the cache changed; else it is cached with the
backends that VPP lists. -/
def takeOver (key : VIPKey) (vip : VirtualIP) (desiredBackends : List BackendSpec) (now : Time)
    (missing : Effect VPP String Bool) (wrap : String → String) (change : VPP → VPP) :
    Effect VPP String Bool := do
  match ← lookupVIP vip with
  | none => missing
  | some detail =>
    if !vipDetailsMatchDesired config vip detail then
      Effect.mapError wrap (deleteVIP config vip)
      Effect.modify change
      pure false
    else
      let backends ← dumpBackends vip desiredBackends
      Effect.modify fun vpp =>
        (vpp.setEntry key (some { vip, backends, lastVerified := some now })).setTuningDrifts
          key (detectTuningDrifts config vip detail)
      pure true

/-- `refreshCachedVIPLocked`: whether the cached VIP is still in VPP as desired. -/
def refreshCachedVIP (key : VIPKey) (vip : VirtualIP) (desiredBackends : List BackendSpec)
    (now : Time) : Effect VPP String Bool :=
  takeOver config key vip desiredBackends now
    (do
      Effect.modify fun vpp => vpp.forget key
      pure false)
    (fun err => "failed to delete cached VIP with stale attributes: " ++ err)
    fun vpp => vpp.forget key

/-- `adoptExistingVIPLocked`: take over a VIP that an earlier process left in VPP. -/
def adoptExistingVIP (vip : VirtualIP) (desiredBackends : List BackendSpec) (now : Time) :
    Effect VPP String Bool :=
  takeOver config vip.key vip desiredBackends now (pure false)
    (fun err => "failed to delete retained VIP with stale attributes: " ++ err)
    fun vpp => vpp.setTuningDrifts vip.key []

/-- Whether a cache entry is left for `ApplyVIP` to work on, and how it was found. -/
inductive Cached where
  | trusted
  | verified
  | missing
  | absent
  deriving DecidableEq, Repr

/-- The first part of `ApplyVIP`: an entry with other attributes is deleted, one whose
verification is due is compared with VPP. -/
def checkCached (vip : VirtualIP) (healthyBackends : List BackendSpec) (now : Time)
    (desiredAttrs : VipAttributes) : Effect VPP String Cached := do
  let key := vip.key
  let vpp ← Effect.read
  match vpp.vips key with
  | none => pure .absent
  | some existing =>
    let existingAttrs ← Effect.mapError
      (fun err => "invalid existing VIP attributes for " ++ key.text ++ ": " ++ err)
      (Effect.ofExcept (effectiveVIPAttributes config existing.vip))
    if existingAttrs ≠ desiredAttrs then
      deleteCachedVIPForAttributeChange config key existing
      pure .absent
    else if shouldVerifyCachedVIP config existing now then
      match ← Effect.attempt (refreshCachedVIP config key vip healthyBackends now) with
      | .error err =>
        markVIPNeedsVerification key
        Effect.fail ("failed to verify cached VIP for " ++ key.text ++ ": " ++ err)
      | .ok true => pure .verified
      | .ok false => pure .missing
    else pure .trusted

/-- The middle part of `ApplyVIP`, where no cache entry is left: adopt the VIP from VPP
or add it.  A VIP that was just found missing is not looked up again. -/
def ensureVIP (vip : VirtualIP) (healthyBackends : List BackendSpec) (now : Time)
    (verifiedMissing : Bool) : Effect VPP String Unit := do
  let key := vip.key
  let adopted ←
    (if verifiedMissing then pure false
      else
        Effect.mapError
          (fun err => "failed to inspect existing VIP for " ++ key.text ++ ": " ++ err)
          (adoptExistingVIP config vip healthyBackends now))
  if adopted then pure ()
  else
    Effect.mapError (fun err => "failed to add VIP: " ++ err) (addVIP config vip)
    Effect.modify fun vpp => (vpp.setEntry key (some { vip })).setTuningDrifts key []

/-- The first two parts of `ApplyVIP`: when they succeed, the VIP is cached. -/
def settleCached (vip : VirtualIP) (healthyBackends : List BackendSpec) (now : Time)
    (desiredAttrs : VipAttributes) : Effect VPP String Cached := do
  let cached ← checkCached config vip healthyBackends now desiredAttrs
  Effect.when (cached = .missing || cached = .absent)
    (ensureVIP config vip healthyBackends now (cached = .missing))
  pure cached

/-- `ApplyVIP`. -/
def applyVIP (vip : VirtualIP) (healthyBackends : List BackendSpec) (now : Time) :
    Effect VPP String Unit := do
  let key := vip.key
  let desiredAttrs ← Effect.mapError
    (fun err => "invalid desired VIP attributes for " ++ key.text ++ ": " ++ err)
    (Effect.ofExcept (effectiveVIPAttributes config vip))
  Effect.ofExcept (failOnAllBackendsDown config vip healthyBackends)
  let cached ← settleCached config vip healthyBackends now desiredAttrs
  match ← Effect.attempt (reconcileBackends key vip healthyBackends) with
  | .error err =>
    markVIPNeedsVerification key
    Effect.fail err
  | .ok _ =>
    Effect.modify fun vpp => vpp.modifyEntry key fun entry =>
      { entry with
        vip
        lastVerified := if cached = .trusted then entry.lastVerified else some now }

/-- `RemoveVIP`: the cached VIP is deleted, or the given one where nothing is cached. -/
def removeVIP (vip : VirtualIP) : Effect VPP String Unit := do
  let key := vip.key
  let vpp ← Effect.read
  match vpp.vips key with
  | some entry =>
    deleteVIP config entry.vip
    Effect.modify fun vpp => vpp.forget key
  | none =>
    let found ← Effect.mapError (fun err => "failed to inspect VIP before remove: " ++ err)
      (lookupVIP vip)
    Effect.when found.isSome (deleteVIP config vip)
    Effect.modify fun vpp => vpp.forget key

/-- Why a recreation failed: its text, and whether the VIP is known to be still in
place, so that its route can be restored. -/
structure VIPRecreateError where
  text : String
  routeSafeToRestore : Bool
  deriving DecidableEq, Repr

/-- The text of a recreation error with its stage. -/
def recreateFailed (stage err : String) : String :=
  "VIP recreate " ++ stage ++ " failed: " ++ err

/-- The second part of `RecreateVIP`: add the VIP that was deleted. -/
def readdVIP (vip : VirtualIP) (healthyBackends : List BackendSpec) :
    Effect VPP VIPRecreateError Unit := do
  let key := vip.key
  match ← Effect.attempt (addVIP config vip) with
  | .error err =>
    Effect.modify fun vpp => vpp.setTuningDrifts key []
    Effect.fail ⟨recreateFailed "add" ("failed to add VIP during recreate: " ++ err), false⟩
  | .ok _ =>
    Effect.modify fun vpp => (vpp.setEntry key (some { vip })).setTuningDrifts key []
    Effect.mapError (fun err => ⟨recreateFailed "backends" err, false⟩)
      (reconcileBackends key vip healthyBackends)

/-- `RecreateVIP`: delete and add the VIP again. -/
def recreateVIP (vip : VirtualIP) (healthyBackends : List BackendSpec) :
    Effect VPP VIPRecreateError Unit :=
  match failOnAllBackendsDown config vip healthyBackends with
  | .error err => Effect.fail ⟨err, false⟩
  | .ok _ => do
      let vpp ← Effect.read
      let deleteTarget := ((vpp.vips vip.key).map VipEntry.vip).getD vip
      match ← Effect.attempt (deleteVIP config deleteTarget) with
      | .error err =>
        let retained ← Effect.attempt (lookupVIP deleteTarget)
        Effect.fail
          { text := recreateFailed "delete" ("failed to delete VIP before recreate: " ++ err)
            routeSafeToRestore :=
              match retained with
              | .ok found => found.isSome
              | .error _ => false }
      | .ok _ =>
        Effect.modify fun vpp => vpp.setEntry vip.key none
        readdVIP config vip healthyBackends

/-- `NeedsDrainForVIPUpdate`: whether an update on one address replaces the VIP. -/
def needsDrainForVIPUpdate (current desired : VirtualIP) : Except String Bool :=
  if current.spec.address ≠ desired.spec.address then .ok false
  else
    match effectiveVIPAttributes config current with
    | .error err =>
      .error ("invalid current VIP attributes for " ++ current.key.text ++ ": " ++ err)
    | .ok currentAttrs =>
      match effectiveVIPAttributes config desired with
      | .error err =>
        .error ("invalid desired VIP attributes for " ++ desired.key.text ++ ": " ++ err)
      | .ok desiredAttrs => .ok (decide (currentAttrs ≠ desiredAttrs))

/-- Whether the cached VIP has other attributes than the desired ones. -/
def cachedChanged (key : VIPKey) (entry : Option VipEntry) (desiredAttrs : VipAttributes) :
    Except String Bool :=
  match entry with
  | none => .ok false
  | some entry =>
    match effectiveVIPAttributes config entry.vip with
    | .error err => .error ("invalid cached VIP attributes for " ++ key.text ++ ": " ++ err)
    | .ok existingAttrs => .ok (decide (existingAttrs ≠ desiredAttrs))

/-- `NeedsDrainForRetainedVIP`: whether applying the VIP would delete one in VPP.  An
entry that VPP contradicts is marked for verification. -/
def needsDrainForRetainedVIP (vip : VirtualIP) : Effect VPP String Bool := do
  let key := vip.key
  let desiredAttrs ← Effect.mapError
    (fun err => "invalid desired VIP attributes for " ++ key.text ++ ": " ++ err)
    (Effect.ofExcept (effectiveVIPAttributes config vip))
  let vpp ← Effect.read
  let changed ← Effect.ofExcept (cachedChanged config key (vpp.vips key) desiredAttrs)
  if changed then pure true
  else
    match ← Effect.attempt (lookupVIP vip) with
    | .error err =>
      -- A failed lookup reports the VIP as missing as well.
      markVIPNeedsVerification key
      Effect.fail err
    | .ok none =>
      markVIPNeedsVerification key
      pure false
    | .ok (some detail) =>
      if vipDetailsMatchDesired config vip detail then pure false
      else
        markVIPNeedsVerification key
        pure true

end Methods

end ArcaLB.DataPlane
