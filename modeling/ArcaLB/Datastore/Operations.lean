import ArcaLB.Datastore.Client

/-!
# Operations of the etcd data store

`CreateVIP`, `UpdateVIP`, `DeleteVIP`, `AddBackend`, `UpdateBackend`, `DeleteBackend` and
`GetConfig`, read by read and transaction by transaction.
-/

namespace ArcaLB.Datastore

/-- Fills in the ids and times of the health check. -/
def prepareHealthCheckForVIP (context : Context) (vip : VIP) (existing : Option VIP) : VIP :=
  match vip.healthCheck with
  | none => vip
  | some hc =>
    let old := existing.bind VIP.healthCheck
    { vip with
      healthCheck := some
        { hc with
          id :=
            if hc.id ≠ "" then hc.id
            else ((old.map HealthCheck.id).filter (· ≠ "")).getD context.healthCheckID
          vipID := vip.id
          createdAt :=
            hc.createdAt.or ((old.bind HealthCheck.createdAt).or (some context.now))
          updatedAt := some context.now } }

@[simp] theorem prepareHealthCheckForVIP_id (context : Context) (vip : VIP)
    (existing : Option VIP) : (prepareHealthCheckForVIP context vip existing).id = vip.id := by
  unfold prepareHealthCheckForVIP
  split <;> rfl

@[simp] theorem prepareHealthCheckForVIP_tuple (context : Context) (vip : VIP)
    (existing : Option VIP) :
    (prepareHealthCheckForVIP context vip existing).tuple = vip.tuple := by
  unfold prepareHealthCheckForVIP
  split <;> rfl

section VIPs

variable (rules : TextRules) (context : Context)

/-- A new VIP with its identifier, times and defaults filled in. -/
def prepareNewVIP (vip : VIP) : VIP :=
  prepareHealthCheckForVIP context
    { vip with
      id := if vip.id = "" then context.id else vip.id
      createdAt := vip.createdAt.or (some context.now)
      updatedAt := some context.now
      lbMethod := if vip.lbMethod = "" then "maglev" else vip.lbMethod } none

/-- `CreateVIP`. -/
def createVIP (vip : VIP) : Call Unit := do
  Call.ofExcept (validateVIPForWrite rules vip)
  let vip := prepareNewVIP context vip
  (checkVIPTupleAvailable vip).context "failed to verify VIP tuple"
  (commitWithRevision
    [⟨.absent (.vip vip.id), .conflict⟩, ⟨.absent (.index (.vipTuple vip.tuple)), .conflict⟩]
    [.put (.vip vip.id) vip, .put (.index (.vipTuple vip.tuple)) vip.id]
    context.rounds).context "failed to put VIP to etcd"

/-- A changed VIP with what it keeps of the stored one. -/
def prepareChangedVIP (vip existing : VIP) : VIP :=
  prepareHealthCheckForVIP context
    { vip with
      createdAt := existing.createdAt
      updatedAt := some context.now } (some existing)

@[simp] theorem prepareChangedVIP_id (vip existing : VIP) :
    (prepareChangedVIP context vip existing).id = vip.id :=
  prepareHealthCheckForVIP_id ..

/-- The conditions that an object is still the one its index entry names. -/
def ownedChecks (owned : Bool) (index : Index) (id : String) : List Check :=
  if owned then
    [⟨.present (.index index), .notFound⟩, ⟨.value (.index index) id, .notFound⟩]
  else []

/-- The condition that an index entry is free, where the object does not have it already. -/
def moveChecks (old new : Index) : List Check :=
  if old ≠ new then [⟨.absent (.index new), .conflict⟩] else []

/-- The writes that move an object from one index entry to another. -/
def moveOps (owned : Bool) (old new : Index) (id : String) : List Op :=
  (if old ≠ new ∧ owned then [.delete (.index old)] else []) ++ [.put (.index new) id]

/-- The deletion of an index entry that is the object's own. -/
def releaseOps (owned : Bool) (index : Index) : List Op :=
  if owned then [.delete (.index index)] else []

/-- `UpdateVIP`. -/
def updateVIP (vip : VIP) : Call Unit := do
  Call.ofExcept (validateResourceID "vip id" vip.id)
  Call.ofExcept (validateVIPForWrite rules vip)
  let revisionValue ← getRevisionValue
  let existing ← (getVIP vip.id).context "VIP not found"
  let oldIndexOwned ←
    (claimVIPTupleIndex existing context.rounds).context "failed to ensure VIP tuple index"
  let vip := prepareChangedVIP context vip existing
  (checkVIPTupleAvailable vip).context "failed to verify VIP tuple"
  let backends ← (listBackends vip.id).context "failed to list backends for VIP validation"
  Call.ofExcept (validateBackendFamiliesForVIP vip backends)
  let old := Index.vipTuple existing.tuple
  let new := Index.vipTuple vip.tuple
  (commitWithRevision
    ([⟨.present (.vip vip.id), .notFound⟩, ⟨.value .revision revisionValue, .conflict⟩] ++
      ownedChecks oldIndexOwned old vip.id ++ moveChecks old new)
    (.put (.vip vip.id) vip :: moveOps oldIndexOwned old new vip.id)
    context.rounds).context "failed to update VIP in etcd"

/-- `DeleteVIP`. -/
def deleteVIP (id : String) : Call Unit := do
  Call.ofExcept (validateResourceID "vip id" id)
  match ← ExceptT.lift (getVIP id).run with
  | .error failure =>
    if failure.kind = .notFound then deleteBackendIndexesForVIP id
    throw (failure.wrap "failed to delete VIP from etcd")
  | .ok vip =>
    let indexOwned ←
      (claimVIPTupleIndex vip context.rounds).context "failed to ensure VIP tuple index"
    let index := Index.vipTuple vip.tuple
    let committed ← ExceptT.lift (commitWithRevision
      (⟨.present (.vip id), .notFound⟩ :: ownedChecks indexOwned index id)
      ([.delete (.vip id), .deleteRange (.backends id)] ++ releaseOps indexOwned index)
      context.rounds).run
    match committed with
    | .error failure =>
      if failure.kind = .notFound then deleteBackendIndexesForVIP id
      throw (failure.wrap "failed to delete VIP from etcd")
    | .ok _ => deleteBackendIndexesForVIP id

end VIPs

section Backends

variable (context : Context)

/-- A new backend with its identifier and times filled in. -/
def prepareNewBackend (backend : Backend) : Backend :=
  { backend with
    id := if backend.id = "" then context.id else backend.id
    createdAt := backend.createdAt.or (some context.now)
    updatedAt := some context.now }

/-- The conditions that a parent VIP is still the one that was read. -/
def parentChecks (vipID : String) (modRevision : Nat) : List Check :=
  [⟨.present (.vip vipID), .notFound⟩, ⟨.modRevision (.vip vipID) modRevision, .conflict⟩]

/-- `AddBackend`. -/
def addBackend (backend : Backend) : Call Unit := do
  Call.ofExcept (validateBackendForWrite backend)
  let backend := prepareNewBackend context backend
  let parent ← (getVIPWithModRevision backend.vipID).context "failed to verify VIP"
  Call.ofExcept (validateBackendAddressFamilyForVIP parent.value backend)
  (checkBackendIPAvailable backend).context "failed to verify backend IP"
  (commitWithRevision
    (parentChecks backend.vipID parent.modRevision ++
      [⟨.absent (.backend backend.vipID backend.id), .conflict⟩,
        ⟨.absent (.index (.backend backend.id)), .conflict⟩,
        ⟨.absent (.index (.backendIP backend.vipID backend.ip)), .conflict⟩])
    [.put (.backend backend.vipID backend.id) backend,
      .put (.index (.backend backend.id)) backend.vipID,
      .put (.index (.backendIP backend.vipID backend.ip)) backend.id]
    context.rounds).context "failed to put backend to etcd"

/-- The conditions that a backend and its index entry are still there. -/
def backendChecks (backend : Backend) : List Check :=
  [⟨.present (.backend backend.vipID backend.id), .notFound⟩,
    ⟨.present (.index (.backend backend.id)), .notFound⟩,
    ⟨.value (.index (.backend backend.id)) backend.vipID, .notFound⟩]

/-- `UpdateBackend`. -/
def updateBackend (backend : Backend) : Call Unit := do
  Call.ofExcept (validateResourceID "backend id" backend.id)
  Call.ofExcept (validateBackendFieldsForWrite backend)
  let existing ← (getBackend backend.id).context "backend not found"
  let oldIPIndexOwned ←
    (claimBackendIPIndex existing context.rounds).context "failed to ensure backend IP index"
  let backend : Backend :=
    { backend with
      createdAt := existing.createdAt
      vipID := existing.vipID
      updatedAt := some context.now }
  Call.ofExcept (validateBackendForWrite backend)
  let parent ← (getVIPWithModRevision backend.vipID).context "failed to verify VIP"
  Call.ofExcept (validateBackendAddressFamilyForVIP parent.value backend)
  (checkBackendIPAvailable backend).context "failed to verify backend IP"
  let old := Index.backendIP existing.vipID existing.ip
  let new := Index.backendIP backend.vipID backend.ip
  (commitWithRevision
    (parentChecks backend.vipID parent.modRevision ++ backendChecks backend ++
      ownedChecks oldIPIndexOwned old backend.id ++ moveChecks old new)
    (.put (.backend backend.vipID backend.id) backend ::
      .put (.index (.backend backend.id)) backend.vipID ::
      moveOps oldIPIndexOwned old new backend.id)
    context.rounds).context "failed to update backend in etcd"

/-- `DeleteBackend`. -/
def deleteBackend (id : String) : Call Unit := do
  Call.ofExcept (validateResourceID "backend id" id)
  let backend ← (getBackend id).context "failed to get backend"
  let ipIndexOwned ←
    (claimBackendIPIndex backend context.rounds).context "failed to ensure backend IP index"
  let index := Index.backendIP backend.vipID backend.ip
  (commitWithRevision
    (backendChecks backend ++ ownedChecks ipIndexOwned index backend.id)
    ([.delete (.backend backend.vipID backend.id), .delete (.index (.backend backend.id))] ++
      releaseOps ipIndexOwned index)
    context.rounds).context "failed to delete backend from etcd"

end Backends

section Config

/-- One VIP of a configuration. -/
structure VIPConfig where
  vip : VIP
  healthCheck : Option HealthCheck
  backends : List Backend
  deriving DecidableEq, Repr

/-- A configuration as the agents get it. -/
structure Config where
  revision : Nat
  vips : List VIPConfig
  deriving DecidableEq, Repr

/-- The configuration that `GetConfig` puts together from its three reads. -/
def Config.assemble (vips : List VIP) (revision : Nat) (backends : List Backend) : Config where
  revision := revision
  vips := vips.map fun vip =>
    ⟨vip, vip.healthCheck, backends.filter fun backend => backend.vipID = vip.id⟩

/-- `GetConfig`: three reads, one after the other. -/
def getConfig : Call Config := do
  let vips ← listVIPs
  let revision ← getRevisionValue.context "failed to get revision"
  let backends ← Call.read Store.allBackends
  pure (.assemble vips revision backends)

end Config

end ArcaLB.Datastore
