import ArcaLB.Library.Sessions
import ArcaLB.Octavia.Patch

/-!
# The operations of the Octavia driver

`ArcaLBDriver` as programs: an operation reads what it needs, in steps of its own, and changes
VirtualIPs by requests to the API server.  The API server accepts a patch only if the object
still has the version that the patch names.  A closure is run in one step, with what Octavia
answers at that moment.

Octavia leaves an object pending until the driver pushes a provisioning status for it.  The
operations that add to a pool return the statuses that they push; whether Octavia accepts a
status is a parameter, and an operation whose status is not accepted stops.  The statuses of
`listener_update` and `member_delete` are left out.
-/

namespace ArcaLB.Octavia

/-- The VirtualIPs of the driver's namespace with the API server's version counter, and what
Octavia answers. -/
structure World where
  vips : List VirtualIP
  version : Nat
  octavia : Database

/-- What the driver asks of the API server. -/
inductive Request where
  | create (name : String) (draft : Draft)
  | patch (name : String) (seen : VirtualIP) (draft : Draft)
  | delete (name : String)
  deriving DecidableEq, Repr

/-- What the API server answers. -/
inductive Reply where
  | object (vip : VirtualIP)
  | status (code : Nat)
  | deleted
  deriving DecidableEq, Repr

/-- No label is set. -/
def Labels.none : Labels := ⟨.none, .none, .none, .none, []⟩

namespace World

/-- The object of a name. -/
def get (world : World) (name : String) : Option VirtualIP :=
  world.vips.find? (·.name = name)

/-- Put an object in the place of the one of its name. -/
def replace (world : World) (vip : VirtualIP) : World :=
  { world with
    vips := world.vips.map fun other => if other.name = vip.name then vip else other
    version := world.version + 1 }

/-- A new object, unless the name is taken. -/
def create (python : Python) (world : World) (name : String) (draft : Draft) : Reply × World :=
  if (world.get name).isSome then (.status 409, world)
  else
    let vip : VirtualIP :=
      ⟨name, world.version + 1, Labels.merge python .none .none draft.annotations,
        draft.annotations, draft.spec⟩
    (.object vip, { world with vips := world.vips ++ [vip], version := world.version + 1 })

/-- `update_virtualip`: a merge patch that names the version it was made for. -/
def patch (python : Python) (world : World) (name : String) (seen : VirtualIP) (draft : Draft) :
    Reply × World :=
  match world.get name with
  | none => (.status 404, world)
  | some current =>
    if current.resourceVersion ≠ seen.resourceVersion then (.status 409, world)
    else
      let next := { current.patched python seen draft with resourceVersion := world.version + 1 }
      (.object next, world.replace next)

/-- Without the object of a name. -/
def delete (world : World) (name : String) : World :=
  { world with vips := world.vips.filter (·.name ≠ name) }

end World

/-- How the API server carries a request out. -/
def perform (python : Python) : Request → World → Reply × World
  | .create name draft, world => world.create python name draft
  | .patch name seen draft, world => world.patch python name seen draft
  | .delete name, world => (.deleted, world.delete name)

/-! ## Calls -/

/-- Steps of a call. -/
abbrev Steps := Routine World Request Reply

/-- A call that may stop. -/
abbrev Call := ExceptT Stop Steps

namespace Call

variable {α : Type}

/-- A check that is made on the spot. -/
def ofExcept (result : Checked α) : Call α := ExceptT.mk (pure result)

/-- Look at the world, in a step of its own. -/
def read (part : World → α) : Call α :=
  ExceptT.lift (Routine.atomic fun world => (.ok (part world), world))

/-- Run a closure, or another check that asks Octavia. -/
def check (part : World → Checked α) : Call α := do
  let result ← read part
  ofExcept result

/-- Send a request, in a step of its own. -/
def ask (request : Request) : Call Reply := ExceptT.lift (Routine.ask request)

/-- Raise `UnsupportedOptionError`. -/
def fault (user operator : String) : Call α := throw (.fault user operator)

end Call

/-! ## Finding VirtualIPs -/

section Finding

variable (python : Python)

/-- The first object that a selector and then the annotations choose, among those with the hash
label of the identifier and else among all of the driver. -/
def findFirst (vips : List VirtualIP) (hash : Labels → Option String)
    (noted : Annotations → Option String) (id : String) : Option VirtualIP :=
  let managed := vips.filter (·.labels.managedBy = some labelManagedByValue)
  ((managed.filter fun vip => hash vip.labels = some (python.identityLabel id)).find? fun vip =>
    noted vip.annotations = some id).or
    (managed.find? fun vip => noted vip.annotations = some id)

/-- `find_by_listener`. -/
def findByListener (world : World) (listenerID : String) : Option VirtualIP :=
  findFirst python world.vips Labels.listenerIDHash Annotations.listenerID listenerID

/-- `find_by_pool`. -/
def findByPool (world : World) (poolID : String) : Option VirtualIP :=
  findFirst python world.vips Labels.poolIDHash Annotations.poolID poolID

end Finding

/-! ## Updates -/

/-- An update that has gone through: the object and the draft of the last run of the closure,
and the object that the API server answered with. -/
structure Update where
  seen : VirtualIP
  draft : Draft
  updated : VirtualIP

section Updates

variable (python : Python)

/-- The object for an attempt: the one that is passed on, or a fresh one. -/
def nextVirtualIP (name : String) : Option VirtualIP → Call (Option VirtualIP)
  | some vip => pure (some vip)
  | none => Call.read (·.get name)

/-- `_update_virtualip_with_retry` with the attempts that are left, and with what the closure
leaves in variables outside of it. -/
def updateVirtualIP (name : String) (mutation : Mutation) : Nat → Option VirtualIP → Call Update
  | 0, _ =>
    Call.fault "VirtualIP update conflicted repeatedly."
      ("VirtualIP " ++ name ++ " update conflicted " ++ toString updateMaxAttempts ++ " times")
  | attempts + 1, next => do
      match ← nextVirtualIP name next with
      | none =>
        Call.fault "VirtualIP no longer exists."
          ("VirtualIP " ++ name ++ " disappeared during update")
      | some vip =>
        let draft ← Call.check fun world => mutation.apply python world.octavia vip.draft
        match ← Call.ask (.patch name vip draft) with
        | .object updated => pure ⟨vip, draft, updated⟩
        | .status code =>
          if code = 409 ∧ attempts ≠ 0 then updateVirtualIP name mutation attempts none
          else throw (.api code)
        | .deleted => throw (.api 500)

/-- `_update_virtualip_with_retry`, which starts with the object that it is given. -/
def updateVirtualIPWithRetry (vip : VirtualIP) (mutation : Mutation) : Call Update :=
  updateVirtualIP python vip.name mutation updateMaxAttempts (some vip)

/-- An update that may find out that it is not needed any more. -/
def skippable {α : Type} (update : Call α) : Call (Option α) :=
  tryCatch (do
    let done ← update
    pure (some done)) fun
    | .skipped => pure none
    | stop => throw stop

/-- `_update_pool_virtualip_with_retry` on a closure that has its guard. -/
def updatePoolVirtualIPWithRetry (vip : VirtualIP) (mutation : Mutation) : Call (Option Update) :=
  skippable (updateVirtualIPWithRetry python vip mutation)

/-- `_restore_virtualip_backends` on one VirtualIP; whether it was restored. -/
def restoreVirtualIPBackends (vip : VirtualIP) (prepare : Preparation) : Call Bool :=
  match given vip.annotations.poolID with
  | none => pure false
  | some poolID => do
      let pool ← Call.read (·.octavia.resolvedPool poolID)
      let update ← skippable (updateVirtualIPWithRetry python vip (.restore poolID pool prepare))
      pure update.isSome

end Updates

/-! ## Listeners -/

section Listeners

variable (python : Python)

/-- The pool that a listener is given. -/
def Listener.poolID (listener : Listener) : Option String := given listener.defaultPool.join

/-- What `listener_update` takes from a listener. -/
def listenerChange (listener : Listener) : Checked ListenerChange := do
  let protocol ← match given listener.protocol with
    | some protocol => some <$> mapListenerProtocol protocol
    | none => pure none
  let port ← match listener.protocolPort with
    | some port => some <$> validateRequiredPort (some port) "Listener protocol_port"
    | none => pure none
  pure ⟨protocol, port, listener.poolID, listener.adminStateUp⟩

/-- The listener has lost its pool. -/
def poolDetached (listener : Listener) (vip : VirtualIP) : Bool :=
  listener.poolID.isNone && listener.defaultPool.isSome && (given vip.annotations.poolID).isSome

/-- The backends have to be read again for another pool or another port. -/
def shouldRestorePool (listener : Listener) (change : ListenerChange) (vip : VirtualIP) : Bool :=
  if listener.poolID.isSome then vip.annotations.poolID ≠ listener.poolID
  else !poolDetached listener vip && change.port.isSome && change.port ≠ vip.spec.vipPort &&
    (given vip.annotations.poolID).isSome

/-- `listener_update`. -/
def listenerUpdate (listener : Listener) : Call Unit := do
  match ← Call.read (findByListener python · listener.id) with
  | none =>
    Call.fault "Listener is not associated with a VirtualIP."
      ("No VirtualIP for listener " ++ listener.id)
  | some vip =>
    let change ← Call.ofExcept (listenerChange listener)
    let edited := change.edit vip
    let detached := poolDetached listener vip
    let restored ←
      if change.adminState ≠ some false ∧ detached = false ∧
        (change.adminState = some true ∨ shouldRestorePool listener change vip) then
        restoreVirtualIPBackends python edited (.listener change)
      else pure false
    if restored then pure ()
    else do
      let _ ← updateVirtualIPWithRetry python edited (.listenerUpdate change detached)

end Listeners

/-! ## Status updates -/

/-- The provisioning statuses that the driver pushes. -/
inductive Provisioning where
  | active
  | error
  | deleted
  deriving DecidableEq, Repr

/-- A status update without L7 policies and rules, which these operations leave empty. -/
structure StatusUpdate where
  loadbalancers : List (String × Provisioning)
  listeners : List (String × Provisioning)
  pools : List (String × Provisioning)
  members : List (String × Provisioning)
  healthmonitors : List (String × Provisioning)
  deriving DecidableEq, Repr

/-- Nothing to push. -/
def StatusUpdate.empty : StatusUpdate := ⟨[], [], [], [], []⟩

/-- `_clean_ids`. -/
def cleanIDs (ids : List (Option String)) : List String := (ids.filterMap given).eraseDups

/-- The entries of a status update for objects of one kind. -/
def statusEntries (ids : List (Option String)) (status : Provisioning) :
    List (String × Provisioning) :=
  (cleanIDs ids).map fun id => (id, status)

/-- The update of `_push_resource_active_status` and `_push_resource_error_status`. -/
def resourceStatus (status : Provisioning) (lbID : Option String)
    (listenerIDs poolIDs memberIDs hmIDs : List (Option String)) : StatusUpdate where
  loadbalancers := (given lbID).toList.map fun id => (id, .active)
  listeners := statusEntries listenerIDs status
  pools := statusEntries poolIDs status
  members := statusEntries memberIDs status
  healthmonitors := statusEntries hmIDs status

/-! ## Members of pools -/

section Pools

variable (python : Python) (push : StatusUpdate → Checked Unit)

/-- `_push_octavia_status`. -/
def pushOctaviaStatus (update : StatusUpdate) : Call (List StatusUpdate) := do
  Call.ofExcept (push update)
  pure [update]

/-- `_push_resource_active_status` and `_push_resource_error_status`. -/
def pushResourceStatus (status : Provisioning) (lbID : Option String)
    (listenerIDs poolIDs memberIDs hmIDs : List (Option String)) : Call (List StatusUpdate) :=
  let update := resourceStatus status lbID listenerIDs poolIDs memberIDs hmIDs
  if update = .empty then pure [] else pushOctaviaStatus push update

/-- `_push_missing_virtualip_error_status`. -/
def pushMissingVirtualIPErrorStatus (poolID : String) (lbID listenerID : Option String) :
    Call (List StatusUpdate) := do
  let pool ← Call.read (·.octavia.pool poolID)
  pushResourceStatus push .error ((given lbID).or (pool.bind Pool.loadbalancerID))
    [(given listenerID).or (pool.bind Pool.listenerID)] [some poolID] [] []

/-- `_associate_pool_with_virtualip`: the identifiers of load balancer and listener, unless the
VirtualIP has another pool. -/
def associatePoolWithVirtualIP (vip : VirtualIP) (poolID : String) :
    Call (Option (Option String × Option String)) :=
  if poolID = "" then pure none
  else if vip.annotations.poolID = some poolID then
    pure (some (vip.annotations.lbID, vip.annotations.listenerID))
  else if (given vip.annotations.poolID).isSome then pure none
  else do
    let update ← skippable (updateVirtualIPWithRetry python vip (.associatePool poolID))
    pure (update.map fun update =>
      (update.draft.annotations.lbID, update.draft.annotations.listenerID))

/-- `pool_create`. -/
def poolCreateStatuses (poolID : String) (listenerID lbID : Option String) :
    Call (List StatusUpdate) :=
  match given listenerID with
  | none => pushResourceStatus push .active lbID [] [some poolID] [] []
  | some listenerID => do
      match ← Call.read (findByListener python · listenerID) with
      | none =>
        let _ ← pushMissingVirtualIPErrorStatus push poolID lbID (some listenerID)
        Call.fault "Listener is not associated with a VirtualIP."
          ("No VirtualIP for listener " ++ listenerID ++ ", pool " ++ poolID)
      | some vip =>
        match ← associatePoolWithVirtualIP python vip poolID with
        | none => pure []
        | some (associatedLB, associatedListener) =>
          pushResourceStatus push .active ((given associatedLB).or lbID)
            [(given associatedListener).or (some listenerID)] [some poolID] [] []

/-- `_push_member_active_status`. -/
def pushMemberActiveStatus (vip : VirtualIP) (poolID : String) (members : List Member) :
    Call (List StatusUpdate) :=
  pushResourceStatus push .active vip.annotations.lbID [vip.annotations.listenerID] [some poolID]
    (members.map Member.memberID) []

/-- `_deferred_pool_context`: the load balancer of a pool without a listener. -/
def deferredPoolContext (octavia : Database) (poolID : String) : Option String :=
  (octavia.pool poolID).bind fun pool =>
    if (given pool.listenerID).isSome then none else given pool.loadbalancerID

/-- What the operations on members do for a pool without a VirtualIP. -/
def deferMembers (poolID : String) (members : List Member) (checked : Checked Unit) :
    Call (List StatusUpdate) := do
  match ← Call.read fun world => deferredPoolContext world.octavia poolID with
  | none => Call.fault "Pool not associated with a VirtualIP." ("No VirtualIP for pool " ++ poolID)
  | some lbID =>
    Call.ofExcept checked
    pushResourceStatus push .active (some lbID) [] [some poolID] (members.map Member.memberID) []

/-- `_push_deleted_member_statuses`. -/
def pushDeletedMemberStatuses (annotations : Annotations) (ids : List String) :
    Call (List StatusUpdate) :=
  match ids, given annotations.lbID with
  | [], _ => pure []
  | _, none => pure []
  | ids, some lbID => pushOctaviaStatus push
      { loadbalancers := [(lbID, .active)]
        listeners := (given annotations.listenerID).toList.map fun id => (id, .active)
        pools := (given annotations.poolID).toList.map fun id => (id, .active)
        members := ids.map fun id => (id, .deleted)
        healthmonitors := (given annotations.hmID).toList.map fun id => (id, .active) }

/-- Change the VirtualIP of a pool and go on with what has become of it, or go on as for a pool
without one. -/
def updatePool {α : Type} (poolID : String) (mutation : Mutation) (unassociated : Call α)
    (rest : VirtualIP → Option Update → Call α) : Call α := do
  match ← Call.read (findByPool python · poolID) with
  | none => unassociated
  | some vip =>
    let update ← updatePoolVirtualIPWithRetry python vip mutation
    rest vip update

/-- The body that `member_create` and `member_update` share. -/
def setMemberStatuses (mutation : Mutation) (poolID : String) (m : Member) :
    Call (List StatusUpdate) :=
  updatePool python poolID mutation (deferMembers push poolID [m] (pure ())) fun vip update =>
    if update.isSome then pushMemberActiveStatus push vip poolID [m] else pure []

/-- `member_create` with the statuses that it pushes. -/
def memberCreateStatuses (poolID : String) (m : Member) : Call (List StatusUpdate) := do
  Call.ofExcept (validateMemberSupported m)
  Call.ofExcept (validateMemberAddresses python m)
  setMemberStatuses python push (.memberCreate poolID m) poolID m

/-- `member_update` with the statuses that it pushes. -/
def memberUpdateStatuses (poolID : String) (m : Member) : Call (List StatusUpdate) := do
  Call.ofExcept (validateMemberSupported m)
  if poolID = "" then
    Call.fault "Member pool is required."
      ("Cannot resolve pool for Octavia member update " ++ m.shown)
  else do
    Call.ofExcept (validateMemberAddresses python m)
    setMemberStatuses python push (.memberUpdate poolID m) poolID m

/-- The members that a batch update has removed from the member map. -/
def removedMemberIDs (update : Update) (members : List Member) : List String :=
  let kept := (listMembers members).memberMap.map Prod.fst
  let removed := (update.seen.annotations.memberMapping.map Prod.fst).filter (· ∉ kept)
  removed.eraseDups.mergeSort (· ≤ ·)

/-- `member_batch_update` with the statuses that it pushes. -/
def memberBatchUpdateStatuses (poolID : String) (members : List Member) :
    Call (List StatusUpdate) := do
  match ← Call.read (findByPool python · poolID) with
  | none =>
    deferMembers push poolID members (members.forM fun m => do
      validateMemberSupported m
      validateMemberAddresses python m)
  | some vip =>
    Call.ofExcept (members.forM (validateRestoredMember python vip.spec))
    match ← updatePoolVirtualIPWithRetry python vip (.memberBatchUpdate poolID members) with
    | none => pure []
    | some update =>
      let active ← pushMemberActiveStatus push vip poolID members
      let deleted ← pushDeletedMemberStatuses push update.draft.annotations
        (removedMemberIDs update members)
      pure (active ++ deleted)

end Pools

section Accepted

variable (python : Python)

/-- Octavia accepts every status. -/
def acceptStatus (_ : StatusUpdate) : Checked Unit := pure ()

/-- `member_create` where Octavia accepts every status. -/
def memberCreate (poolID : String) (m : Member) : Call Unit := do
  let _ ← memberCreateStatuses python acceptStatus poolID m

/-- `member_update` where Octavia accepts every status. -/
def memberUpdate (poolID : String) (m : Member) : Call Unit := do
  let _ ← memberUpdateStatuses python acceptStatus poolID m

/-- `member_delete`, without the statuses that it pushes. -/
def memberDelete (poolID : String) (m : Member) : Call Unit :=
  updatePool python poolID (.memberDelete poolID m) (pure ()) fun _ _ => pure ()

end Accepted

end ArcaLB.Octavia
