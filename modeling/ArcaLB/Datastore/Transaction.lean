import ArcaLB.Datastore.Operations

/-!
# Transactions of the etcd data store

`EtcdTransaction` collects conditions and writes over several calls and commits them in one
etcd transaction.  What it remembers of its own calls decides which conditions a later call
adds.  A map of the source that is only looked up is a function here.
-/

namespace ArcaLB.Datastore

/-! ## Compaction -/

section Compaction

variable {Key Range : Type} {Value : Key → Type} [DecidableEq Key] [DecidableEq Range]
  (covers : Range → Key → Bool) (inside : Range → Range → Bool)

/-- `etcdDeleteRangeCoversOp`. -/
def etcdDeleteRangeCoversOp (range : Range) : Etcd.Op Value Range → Bool
  | .get _ => false
  | .put key _ | .delete key => covers range key
  | .deleteRange other => inside other range

/-- The writes of two operations have the same key and range end. -/
def sameEtcdWriteOpKey : Etcd.Op Value Range → Etcd.Op Value Range → Bool
  | .put key _, .put other _ | .put key _, .delete other
  | .delete key, .put other _ | .delete key, .delete other => decide (key = other)
  | .deleteRange range, .deleteRange other => decide (range = other)
  | _, _ => false

/-- A later range deletion makes the operation void. -/
def isCoveredByLaterRangeDelete (later : List (Etcd.Op Value Range)) (op : Etcd.Op Value Range) :
    Bool :=
  later.any fun
    | .deleteRange range => etcdDeleteRangeCoversOp covers inside range op
    | _ => false

/-- Keep the last write of each key, unless a later deletion of a range covers it. -/
def compactEtcdWriteOps : List (Etcd.Op Value Range) → List (Etcd.Op Value Range)
  | [] => []
  | op :: later =>
    if op.isWrite ∧ (isCoveredByLaterRangeDelete covers inside later op ∨
        later.any (sameEtcdWriteOpKey op)) then
      compactEtcdWriteOps later
    else op :: compactEtcdWriteOps later

end Compaction

/-- A range lies inside another; the ranges of backends of different VIPs are disjoint. -/
def Range.inside : Range → Range → Bool
  | backends vipID, backends other => decide (vipID = other)

/-! ## The transaction -/

/-- `EtcdTransaction`: the operations, checks and bookkeeping so far. -/
structure EtcdTransaction where
  ops : List Op
  checks : List Check
  createdVIPIDs : List String
  createdBackendIDs : List String
  vipSpecs : String → Option VIP
  backendSpecsByVIP : String → List Backend
  vipTupleIndexKeys : String → Option Tuple
  vipOriginalIndexes : String → Option Tuple
  vipOriginalOwned : String → Bool
  vipReleasedTuples : Tuple → Option String
  vipTupleOwners : Tuple → Option String
  backendIPOwners : String × String → Option String
  deletedVIPIDs : List String
  committed : Bool

/-- A call on a transaction; what it did to the transaction stays when it fails. -/
abbrev TxCall := ExceptT Failure (StateT EtcdTransaction Steps)

namespace TxCall

/-- A call that only checks its arguments. -/
def ofExcept {α : Type} (result : Except Failure α) : TxCall α :=
  ExceptT.mk (pure result)

/-- A call on the data store. -/
def ofCall {α : Type} (call : Call α) : TxCall α :=
  ExceptT.mk (StateT.lift call.run)

/-- A call on the data store whose error is looked at. -/
def attempt {α : Type} (call : Call α) : TxCall (Except Failure α) :=
  ExceptT.lift (StateT.lift call.run)

/-- Wraps the error of a call. -/
def context {α : Type} (text : String) (call : TxCall α) : TxCall α :=
  ExceptT.adapt (Failure.wrap text) call

end TxCall

namespace EtcdTransaction

/-- `BeginTx`. -/
def begin : EtcdTransaction where
  ops := []
  checks := []
  createdVIPIDs := []
  createdBackendIDs := []
  vipSpecs := fun _ => none
  backendSpecsByVIP := fun _ => []
  vipTupleIndexKeys := fun _ => none
  vipOriginalIndexes := fun _ => none
  vipOriginalOwned := fun _ => false
  vipReleasedTuples := fun _ => none
  vipTupleOwners := fun _ => none
  backendIPOwners := fun _ => none
  deletedVIPIDs := []
  committed := false

section Pieces

variable (tx : EtcdTransaction)

/-- Appends checks. -/
def addChecks (checks : List Check) : EtcdTransaction :=
  { tx with checks := tx.checks ++ checks }

/-- Appends operations. -/
def addOps (ops : List Op) : EtcdTransaction :=
  { tx with ops := tx.ops ++ ops }

/-- Gives a tuple up for later calls. -/
def releaseVIPTuple (ownerID : String) (tuple : Tuple) : EtcdTransaction :=
  { tx with
    vipReleasedTuples :=
      if tx.vipOriginalIndexes ownerID = some tuple ∧ tx.vipOriginalOwned ownerID then
        Function.update tx.vipReleasedTuples tuple (some ownerID)
      else tx.vipReleasedTuples
    vipTupleOwners := Function.update tx.vipTupleOwners tuple none }

/-- Enter a VIP under a tuple. -/
def takeVIPTuple (id : String) (tuple : Tuple) : EtcdTransaction :=
  { tx.addOps [.put (.index (.vipTuple tuple)) id] with
    vipTupleIndexKeys := Function.update tx.vipTupleIndexKeys id (some tuple)
    vipTupleOwners := Function.update tx.vipTupleOwners tuple (some id) }

/-- Remember the tuple of a stored VIP and whether its index entry names the VIP. -/
def recordOriginal (id : String) (tuple : Tuple) (owned : Bool) : EtcdTransaction :=
  { tx.addChecks
      (⟨.present (.vip id), .notFound⟩ :: ownedChecks owned (.vipTuple tuple) id) with
    vipOriginalIndexes := Function.update tx.vipOriginalIndexes id (some tuple)
    vipOriginalOwned := Function.update tx.vipOriginalOwned id owned }

/-- The tuple that a VIP has in the transaction: the one it was given here, or the original
one where the index entry is its own. -/
def currentTuple (id : String) : Option Tuple :=
  (tx.vipTupleIndexKeys id).or
    (if !tx.createdVIPIDs.contains id && tx.vipOriginalOwned id then tx.vipOriginalIndexes id
    else none)

end Pieces

section Calls

variable (rules : TextRules) (context : Context)

/-- Whether the tuple can be taken; the result says whether its index entry must be free when
the transaction commits. -/
def checkVIPTupleAvailable (vip : VIP) : TxCall Bool := do
  let tx ← get
  let needsEmptyIndexCheck := (tx.vipReleasedTuples vip.tuple).isNone
  if (tx.vipTupleOwners vip.tuple).any (· ≠ vip.id) then throw .conflict
  match ← TxCall.ofCall (Call.read fun store => store.owner (.vipTuple vip.tuple)) with
  | none => pure needsEmptyIndexCheck
  | some owner =>
    if owner = vip.id then pure needsEmptyIndexCheck
    else if tx.deletedVIPIDs.contains owner then pure false
    else if (tx.vipTupleIndexKeys owner).any (· ≠ vip.tuple) then pure false
    else throw .conflict

/-- The part of `CreateVIP` that writes. -/
def putNewVIP (vip : VIP) (needsEmptyIndexCheck : Bool) (tx : EtcdTransaction) :
    EtcdTransaction :=
  let checked := tx.addChecks (⟨.absent (.vip vip.id), .conflict⟩ ::
    if needsEmptyIndexCheck then [⟨.absent (.index (.vipTuple vip.tuple)), .conflict⟩] else [])
  let put := (checked.addOps [.put (.vip vip.id) vip]).takeVIPTuple vip.id vip.tuple
  { put with
    createdVIPIDs := vip.id :: tx.createdVIPIDs
    vipSpecs := Function.update tx.vipSpecs vip.id (some vip) }

/-- `CreateVIP` in a transaction. -/
def createVIP (vip : VIP) : TxCall Unit := do
  TxCall.ofExcept (validateVIPForWrite rules vip)
  let vip := prepareNewVIP context vip
  if (← get).createdVIPIDs.contains vip.id then throw .conflict
  let needsEmptyIndexCheck ←
    (checkVIPTupleAvailable vip).context "failed to verify VIP tuple"
  modify (putNewVIP vip needsEmptyIndexCheck)

/-- The VIP that a backend belongs to: as the transaction writes it, or as it is stored and
has to stay until the transaction commits. -/
def parentVIPForBackend (vipID : String) : TxCall VIP := do
  match (← get).vipSpecs vipID with
  | some vip => pure vip
  | none =>
    let entry ← TxCall.ofCall (getVIPWithModRevision vipID)
    modify fun tx => tx.addChecks (parentChecks vipID entry.modRevision)
    pure entry.value

/-- The part of `AddBackend` that writes. -/
def putNewBackend (backend : Backend) (tx : EtcdTransaction) : EtcdTransaction :=
  let checked := tx.addChecks
    [⟨.absent (.backend backend.vipID backend.id), .conflict⟩,
      ⟨.absent (.index (.backend backend.id)), .conflict⟩,
      ⟨.absent (.index (.backendIP backend.vipID backend.ip)), .conflict⟩]
  let put := checked.addOps
    [.put (.backend backend.vipID backend.id) backend,
      .put (.index (.backend backend.id)) backend.vipID,
      .put (.index (.backendIP backend.vipID backend.ip)) backend.id]
  { put with
    createdBackendIDs := backend.id :: tx.createdBackendIDs
    backendIPOwners :=
      Function.update tx.backendIPOwners (backend.vipID, backend.ip) (some backend.id)
    backendSpecsByVIP := Function.update tx.backendSpecsByVIP backend.vipID
      (tx.backendSpecsByVIP backend.vipID ++ [backend]) }

/-- `AddBackend` in a transaction. -/
def addBackend (backend : Backend) : TxCall Unit := do
  TxCall.ofExcept (validateBackendForWrite backend)
  let backend := prepareNewBackend context backend
  let tx ← get
  if tx.createdBackendIDs.contains backend.id then throw .conflict
  if tx.deletedVIPIDs.contains backend.vipID then throw .notFound
  TxCall.ofCall ((checkBackendIPAvailable backend).context "failed to verify backend IP")
  let parent ← (parentVIPForBackend backend.vipID).context "failed to verify VIP"
  TxCall.ofExcept (validateBackendAddressFamilyForVIP parent backend)
  if (tx.backendIPOwners (backend.vipID, backend.ip)).any (· ≠ backend.id) then throw .conflict
  modify (putNewBackend backend)

/-- A VIP of this transaction with its times filled in. -/
def prepareOwnVIP (vip : VIP) : VIP :=
  prepareHealthCheckForVIP context
    { vip with
      createdAt := vip.createdAt.or (some context.now)
      updatedAt := some context.now } none

/-- What `UpdateVIP` does with the stored VIP. -/
def prepareStoredVIP (vip : VIP) : TxCall VIP := do
  let revisionValue ← TxCall.ofCall getRevisionValue
  let existing ← TxCall.ofCall ((getVIP vip.id).context "failed to verify VIP")
  if ((← get).vipOriginalIndexes vip.id).isNone then
    let owned ← TxCall.ofCall
      ((claimVIPTupleIndex existing context.rounds).context "failed to ensure VIP tuple index")
    modify fun tx => tx.recordOriginal vip.id existing.tuple owned
  modify fun tx => tx.addChecks [⟨.value .revision revisionValue, .conflict⟩]
  pure (prepareChangedVIP context vip existing)

/-- The backends that a VIP will have, where others write nothing. -/
def backendsForVIP (id : String) : TxCall (List Backend) := do
  let tx ← get
  if tx.createdVIPIDs.contains id then pure (tx.backendSpecsByVIP id)
  else
    let backends ← TxCall.ofCall
      ((listBackends id).context "failed to list backends for VIP validation")
    pure (backends ++ tx.backendSpecsByVIP id)

/-- The part of `UpdateVIP` that writes. -/
def putVIP (vip : VIP) (needsEmptyIndexCheck : Bool) (tx : EtcdTransaction) : EtcdTransaction :=
  let current := tx.currentTuple vip.id
  let put := { tx.addOps [.put (.vip vip.id) vip] with
    vipSpecs := Function.update tx.vipSpecs vip.id (some vip) }
  if current ≠ some vip.tuple then
    let checked := put.addChecks
      (if (tx.vipOriginalIndexes vip.id ≠ some vip.tuple ∨ tx.vipOriginalOwned vip.id) ∧
          needsEmptyIndexCheck then
        [⟨.absent (.index (.vipTuple vip.tuple)), .conflict⟩]
      else [])
    let released :=
      match current with
      | none => checked
      | some old => (checked.addOps [.delete (.index (.vipTuple old))]).releaseVIPTuple vip.id old
    released.takeVIPTuple vip.id vip.tuple
  else put.takeVIPTuple vip.id vip.tuple

/-- `UpdateVIP` in a transaction. -/
def updateVIP (vip : VIP) : TxCall Unit := do
  TxCall.ofExcept (validateResourceID "vip id" vip.id)
  TxCall.ofExcept (validateVIPForWrite rules vip)
  let tx ← get
  if tx.deletedVIPIDs.contains vip.id then throw .notFound
  let vip ←
    if tx.createdVIPIDs.contains vip.id then pure (prepareOwnVIP context vip)
    else prepareStoredVIP context vip
  let needsEmptyIndexCheck ←
    (checkVIPTupleAvailable vip).context "failed to verify VIP tuple"
  let backends ← backendsForVIP vip.id
  TxCall.ofExcept (validateBackendFamiliesForVIP vip backends)
  modify (putVIP vip needsEmptyIndexCheck)

/-- What `DeleteVIP` does with the stored VIP. -/
def recordStoredVIP (id : String) : TxCall Unit := do
  match ← TxCall.attempt (getVIP id) with
  | .error failure =>
    if failure.kind = .notFound then TxCall.ofCall (deleteBackendIndexesForVIP id)
    throw (failure.wrap "failed to verify VIP")
  | .ok vip =>
    let owned ← TxCall.ofCall
      ((claimVIPTupleIndex vip context.rounds).context "failed to ensure VIP tuple index")
    modify fun tx => tx.recordOriginal id vip.tuple owned

/-- The part of `DeleteVIP` that writes. -/
def removeVIP (id : String) (tx : EtcdTransaction) : EtcdTransaction :=
  let deleted := tx.addOps [.delete (.vip id), .deleteRange (.backends id)]
  let released :=
    match tx.currentTuple id with
    | none => deleted
    | some tuple => (deleted.addOps [.delete (.index (.vipTuple tuple))]).releaseVIPTuple id tuple
  { released with
    vipTupleIndexKeys := Function.update released.vipTupleIndexKeys id none
    vipOriginalIndexes := Function.update released.vipOriginalIndexes id none
    vipOriginalOwned := Function.update released.vipOriginalOwned id false
    deletedVIPIDs := id :: released.deletedVIPIDs }

/-- `DeleteVIP` in a transaction. -/
def deleteVIP (id : String) : TxCall Unit := do
  TxCall.ofExcept (validateResourceID "vip id" id)
  let tx ← get
  if tx.deletedVIPIDs.contains id then throw .notFound
  if !tx.createdVIPIDs.contains id && (tx.vipOriginalIndexes id).isNone then
    recordStoredVIP context id
  let tx ← get
  if (tx.currentTuple id).isNone && tx.createdVIPIDs.contains id then throw .notFound
  modify (removeVIP id)

/-- Clean up after the deleted VIPs, one after another. -/
def cleanupVIPIndexes : List String → TxCall Unit
  | [] => pure ()
  | vipID :: rest => do
      TxCall.ofCall (deleteBackendIndexesForVIP vipID)
      modify fun tx => { tx with deletedVIPIDs := tx.deletedVIPIDs.filter (· ≠ vipID) }
      cleanupVIPIndexes rest

/-- Deletes the index entries of the deleted VIPs. -/
def cleanupDeletedVIPIndexes : TxCall Unit := do
  cleanupVIPIndexes (← get).deletedVIPIDs

/-- `Commit`; once it has committed it only repeats the clean-up. -/
def commit : TxCall Unit := do
  let tx ← get
  let ops := compactEtcdWriteOps Range.covers Range.inside tx.ops
  if !ops.isEmpty then
    if !tx.committed then
      match ← TxCall.attempt (commitWithRevision tx.checks ops context.rounds) with
      | .error failure =>
        if failure.kind = .notFound then cleanupDeletedVIPIndexes
        throw (failure.wrap "failed to commit transaction")
      | .ok _ => modify fun tx => { tx with committed := true }
    cleanupDeletedVIPIndexes

/-- `Rollback` forgets the writes. -/
def rollback : TxCall Unit :=
  modify fun tx => { tx with ops := [] }

end Calls

end EtcdTransaction

end ArcaLB.Datastore
