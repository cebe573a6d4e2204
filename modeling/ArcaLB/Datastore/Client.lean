import ArcaLB.Library.Etcd
import ArcaLB.Library.Sessions
import ArcaLB.Datastore.Models

/-!
# The etcd client of the data store

The keys of `internal/common/datastore/etcd`, and the reads and transactions that all
operations are made of.  A key of the source is a path whose parts contain no slash, so it is
determined by its parts; the type of a value is determined by its key.

A `Get` and a `Txn` are each one atomic step.  Loops of the source that retry until their
context ends run for a given number of rounds here, and end with the error of an expired
context.
-/

namespace ArcaLB.Datastore

/-- The index entries: who uses a tuple, who uses an IP of a VIP, and where a backend is. -/
inductive Index where
  | vipTuple (tuple : Tuple)
  | backendIP (vipID ip : String)
  | backend (id : String)
  deriving DecidableEq, Repr

/-- The keys of the controller's keyspace. -/
inductive Key where
  | vip (id : String)
  | backend (vipID id : String)
  | index (index : Index)
  | revision
  deriving DecidableEq, Repr

/-- What is stored under a key: an object, the ID that an index entry names, or the number of
the configuration. -/
abbrev Key.Value : Key → Type
  | vip _ => VIP
  | backend _ _ => Backend
  | index _ => String
  | revision => Nat

instance : (key : Key) → DecidableEq key.Value
  | .vip _ => inferInstanceAs (DecidableEq VIP)
  | .backend _ _ => inferInstanceAs (DecidableEq Backend)
  | .index _ => inferInstanceAs (DecidableEq String)
  | .revision => inferInstanceAs (DecidableEq Nat)

/-- `backendPrefix`: all backends of a VIP. -/
inductive Range where
  | backends (vipID : String)
  deriving DecidableEq, Repr

/-- Does the range hold the key? -/
def Range.covers : Range → Key → Bool
  | backends vipID, .backend other _ => decide (other = vipID)
  | backends _, _ => false

/-- The controller's etcd. -/
abbrev Store := Etcd Key.Value

/-- A comparison of a transaction. -/
abbrev Compare := Etcd.Compare Key.Value

/-- An operation of a transaction. -/
abbrev Op := Etcd.Op Key.Value Range

/-- An etcd transaction. -/
abbrev Txn := Etcd.Txn Key.Value Range

/-- A store right after `initRevision`. -/
def Store.empty : Store where
  entries := (∅ : AList fun key : Key => Etcd.Entry key.Value).insert .revision ⟨1, 1⟩
  revision := 1

namespace Store

/-- The store after a transaction with these writes. -/
abbrev apply (store : Store) (ops : List Op) : Store := Etcd.write Range.covers store ops

/-- The VIP stored at its key. -/
def vip (store : Store) (id : String) : Option VIP := store.value (.vip id)

/-- The backend stored at its key. -/
def backend (store : Store) (vipID id : String) : Option Backend :=
  store.value (.backend vipID id)

/-- The ID that an index entry names. -/
def owner (store : Store) (index : Index) : Option String := store.value (.index index)

/-- The revision counter. -/
def count (store : Store) : Option Nat := store.value .revision

/-- All VIPs. -/
def vips (store : Store) : List VIP :=
  store.list fun
    | .vip _, vip => some vip
    | .backend _ _, _ => none
    | .index _, _ => none
    | .revision, _ => none

/-- All backends. -/
def allBackends (store : Store) : List Backend :=
  store.list fun
    | .backend _ _, backend => some backend
    | .vip _, _ => none
    | .index _, _ => none
    | .revision, _ => none

/-- A VIP's backends. -/
def backends (store : Store) (vipID : String) : List Backend :=
  store.list fun
    | .backend other _, backend => if other = vipID then some backend else none
    | .vip _, _ => none
    | .index _, _ => none
    | .revision, _ => none

theorem mem_vips {store : Store} {vip : VIP} :
    vip ∈ store.vips ↔ ∃ id, store.vip id = some vip := by
  refine Etcd.mem_list.trans ⟨?_, ?_⟩
  · rintro ⟨key, value, found, selected⟩
    cases key <;> cases selected
    exact ⟨_, found⟩
  · rintro ⟨id, found⟩
    exact ⟨.vip id, vip, found, rfl⟩

theorem mem_allBackends {store : Store} {backend : Backend} :
    backend ∈ store.allBackends ↔ ∃ vipID id, store.backend vipID id = some backend := by
  refine Etcd.mem_list.trans ⟨?_, ?_⟩
  · rintro ⟨key, value, found, selected⟩
    cases key <;> cases selected
    exact ⟨_, _, found⟩
  · rintro ⟨vipID, id, found⟩
    exact ⟨.backend vipID id, backend, found, rfl⟩

theorem mem_backends {store : Store} {vipID : String} {backend : Backend} :
    backend ∈ store.backends vipID ↔ ∃ id, store.backend vipID id = some backend := by
  refine Etcd.mem_list.trans ⟨?_, ?_⟩
  · rintro ⟨key, value, found, selected⟩
    cases key with
    | backend other id =>
      obtain ⟨rfl, same⟩ := Option.ite_none_right_eq_some.mp selected
      cases same
      exact ⟨id, found⟩
    | vip _ | index _ | revision => cases selected
  · rintro ⟨id, found⟩
    exact ⟨.backend vipID id, backend, found, if_pos rfl⟩

/-- The IPs in the IP index of a VIP, with the backends they name. -/
def ipIndexes (store : Store) (vipID : String) : List (String × String) :=
  store.list fun
    | .index (.backendIP other ip), owner => if other = vipID then some (ip, owner) else none
    | .index (.vipTuple _), _ => none
    | .index (.backend _), _ => none
    | .vip _, _ => none
    | .backend _ _, _ => none
    | .revision, _ => none

/-- The backends whose index entry names a VIP. -/
def backendIndexes (store : Store) (vipID : String) : List String :=
  store.list fun
    | .index (.backend id), owner => if owner = vipID then some id else none
    | .index (.vipTuple _), _ => none
    | .index (.backendIP _ _), _ => none
    | .vip _, _ => none
    | .backend _ _, _ => none
    | .revision, _ => none

end Store

/-- A computation that reads and writes the store step by step. -/
abbrev Steps := Routine Store Txn Etcd.Reply

/-- Steps that may end with an error. -/
abbrev Call := ExceptT Failure Steps

namespace Call

/-- A call that only checks its arguments. -/
def ofExcept {α : Type} (result : Except Failure α) : Call α :=
  ExceptT.mk (pure result)

/-- Wrap the error of a call. -/
def context {α : Type} (text : String) (call : Call α) : Call α :=
  ExceptT.adapt (Failure.wrap text) call

/-- Read the store in one step. -/
def read {α : Type} (part : Store → α) : Call α :=
  ExceptT.lift (Routine.atomic fun store => (.ok (part store), store))

/-- The error of the client for a transaction that the server does not take. -/
def refused : Etcd.Refusal → Failure
  | .tooManyOps => ⟨.other, "etcdserver: too many operations in txn request"⟩
  | .duplicateKey => ⟨.other, "etcdserver: duplicate key given in txn request"⟩

/-- `Txn(..).If(..).Then(..).Commit()`; the result says whether the conditions held. -/
def commit (txn : Txn) : Call Bool := do
  match ← ExceptT.lift (Routine.ask txn) with
  | .succeeded => pure true
  | .failed => pure false
  | .rejected refusal => throw (refused refusal)

end Call

/-- What a call takes from its surroundings: the time, new identifiers, and the number of
rounds that its loops get. -/
structure Context where
  now : Time
  id : String
  healthCheckID : String
  rounds : Nat
  deriving DecidableEq, Repr

/-- `context.DeadlineExceeded`. -/
def deadlineExceeded : Failure := ⟨.other, "context deadline exceeded"⟩

section Revision

/-- A condition of a commit and the error if it does not hold. -/
structure Check where
  cmp : Compare
  failure : Failure

/-- Reads the revision counter. -/
def getRevisionValue : Call Nat := do
  match ← Call.read Store.count with
  | none => throw ⟨.other, "revision not found"⟩
  | some revision => pure revision

/-- Finds the check that failed a transaction. -/
def firstFailedEtcdTxnCheck : List Check → Call (Option Failure)
  | [] => pure none
  | check :: rest => do
      let holds ← (Call.commit ⟨[check.cmp], [.get .revision]⟩).context
        "failed to check transaction condition"
      if holds then firstFailedEtcdTxnCheck rest else pure (some check.failure)

/-- The transaction that commits operations together with the next revision. -/
abbrev revisionTxn (checks : List Check) (ops : List Op) (current : Nat) : Txn :=
  ⟨.value .revision current :: checks.map Check.cmp, ops ++ [.put .revision (current + 1)]⟩

/-- Commit operations together with the next revision, as soon as no one else commits between
the read of the revision and the transaction. -/
def commitWithRevision (checks : List Check) (ops : List Op) : Nat → Call Unit
  | 0 => throw (deadlineExceeded.wrap "failed to get revision from etcd")
  | rounds + 1 => do
      let current ← getRevisionValue
      let succeeded ← (Call.commit (revisionTxn checks ops current)).context
        "failed to commit revision transaction"
      if succeeded then pure ()
      else
        match ← firstFailedEtcdTxnCheck checks with
        | some failure => throw failure
        | none => commitWithRevision checks ops rounds

end Revision

section Indexes

/-- Enter an object into an index unless someone is there, and say whether it is entered. -/
def claimIndex (description : String) (index : Index) (object : Key) (id : String) :
    Nat → Call Bool
  | 0 => throw (deadlineExceeded.wrap ("failed to get " ++ description ++ " from etcd"))
  | rounds + 1 => do
      match ← Call.read fun store => store.owner index with
      | some owner => pure (owner = id)
      | none =>
        let succeeded ← (Call.commit
          ⟨[.present object, .absent (.index index)], [.put (.index index) id]⟩).context
            ("failed to ensure " ++ description ++ " in etcd")
        if succeeded then pure true
        else
          let found ← Call.read fun store => (store.lookup object).isSome
          if found then claimIndex description index object id rounds
          else throw .notFound

/-- Makes sure that the VIP owns its tuple's index entry. -/
def claimVIPTupleIndex (vip : VIP) (rounds : Nat) : Call Bool :=
  claimIndex "VIP tuple index" (.vipTuple vip.tuple) (.vip vip.id) vip.id rounds

/-- Makes sure that the backend owns its IP's index entry. -/
def claimBackendIPIndex (backend : Backend) (rounds : Nat) : Call Bool :=
  claimIndex "backend IP index" (.backendIP backend.vipID backend.ip)
    (.backend backend.vipID backend.id) backend.id rounds

/-- Remove an index entry that still names what it named and whose backend is gone. -/
def removeIndex (description : String) (index : Index) (owner : String) (object : Key) :
    Call Unit := do
  let _ ← (Call.commit
    ⟨[.value (.index index) owner, .absent object], [.delete (.index index)]⟩).context
      ("failed to delete " ++ description ++ " from etcd")

/-- The loop over the IP index entries. -/
def removeIPIndexes (vipID : String) : List (String × String) → Call Unit
  | [] => pure ()
  | (ip, backendID) :: rest => do
      removeIndex "backend IP indexes" (.backendIP vipID ip) backendID (.backend vipID backendID)
      removeIPIndexes vipID rest

/-- The loop over the backend index entries. -/
def removeBackendIndexes (vipID : String) : List String → Call Unit
  | [] => pure ()
  | backendID :: rest => do
      removeIndex "backend indexes" (.backend backendID) vipID (.backend vipID backendID)
      removeBackendIndexes vipID rest

/-- Deletes the IP index entries of a VIP's backends. -/
def deleteBackendIPIndexesForVIP (vipID : String) : Call Unit := do
  removeIPIndexes vipID (← Call.read fun store => store.ipIndexes vipID)

/-- Deletes all index entries of a VIP's backends. -/
def deleteBackendIndexesForVIP (vipID : String) : Call Unit := do
  deleteBackendIPIndexesForVIP vipID
  removeBackendIndexes vipID (← Call.read fun store => store.backendIndexes vipID)

end Indexes

section Reads

/-- `getVIPWithModRevision`. -/
def getVIPWithModRevision (id : String) : Call (Etcd.Entry VIP) := do
  match ← Call.read fun store => store.lookup (.vip id) with
  | none => throw .notFound
  | some entry => pure entry

/-- `GetVIP`. -/
def getVIP (id : String) : Call VIP := do
  Call.ofExcept (validateResourceID "vip id" id)
  let entry ← getVIPWithModRevision id
  pure entry.value

/-- `ListVIPs`. -/
def listVIPs : Call (List VIP) :=
  Call.read Store.vips

/-- `GetBackend`, through the backend index. -/
def getBackend (id : String) : Call Backend := do
  Call.ofExcept (validateResourceID "backend id" id)
  match ← Call.read fun store => store.owner (.backend id) with
  | none => throw .notFound
  | some vipID =>
    match ← Call.read fun store => store.backend vipID id with
    | none => throw .notFound
    | some backend => pure backend

/-- `ListBackends`. -/
def listBackends (vipID : String) : Call (List Backend) := do
  Call.ofExcept (validateResourceID "backend vip_id" vipID)
  Call.read fun store => store.backends vipID

/-- No other VIP has the tuple. -/
def checkVIPTupleAvailable (vip : VIP) : Call Unit := do
  let vips ← listVIPs
  if vips.any fun existing => existing.id ≠ vip.id && sameVIPTuple existing vip then
    throw .conflict

/-- No other backend of the VIP has the IP. -/
def checkBackendIPAvailable (backend : Backend) : Call Unit := do
  let backends ← listBackends backend.vipID
  if backends.any fun existing => existing.id ≠ backend.id && existing.ip = backend.ip then
    throw .conflict

end Reads

end ArcaLB.Datastore
