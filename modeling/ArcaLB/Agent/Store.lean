import ArcaLB.Api.VirtualIP

/-!
# The local store

The bbolt buckets that the agent keeps across restarts, with the transactions on them.
The configs are JSON texts of specs; a config that cannot be decoded is kept as such.
A failed transaction changes nothing.
-/

namespace ArcaLB.Agent

/-- A stored config: the JSON of a spec, or data that does not decode, with the
decoder's error. -/
inductive StoredConfig where
  | spec (spec : VirtualIPSpec)
  | corrupt (err : String)
  deriving DecidableEq, Repr

/-- The persistent health state of a backend. -/
structure BackendHealthRecord where
  state : String
  consecutiveUp : Int
  consecutiveDown : Int
  lastProbeTime : Time
  lastStateChange : Time
  deriving DecidableEq, Repr

/-- The buckets.  Configs are keyed by `namespace/name`, health records by
`namespace/name/backend`. -/
structure Store where
  healthStates : AList (fun _ : String => BackendHealthRecord) := ∅
  lastConfigs : AList (fun _ : String => StoredConfig) := ∅
  pendingConfigs : AList (fun _ : String => StoredConfig) := ∅

namespace Store

/-- `SavePendingConfig`. -/
def savePendingConfig (store : Store) (key : String) (config : StoredConfig) : Store :=
  { store with pendingConfigs := store.pendingConfigs.insert key config }

/-- Mark a config as applied and clear the pending one, in one transaction. -/
def commitLastConfig (store : Store) (key : String) (config : StoredConfig) : Store :=
  { store with
    lastConfigs := store.lastConfigs.insert key config
    pendingConfigs := store.pendingConfigs.erase key }

/-- `DeleteLastConfig`. -/
def deleteLastConfig (store : Store) (key : String) : Store :=
  { store with lastConfigs := store.lastConfigs.erase key }

/-- `DeletePendingConfig`. -/
def deletePendingConfig (store : Store) (key : String) : Store :=
  { store with pendingConfigs := store.pendingConfigs.erase key }

/-- `hcKey`: the key of a health record. -/
def hcKey (key address : String) : String :=
  key ++ "/" ++ address

/-- `SaveHealthState`. -/
def saveHealthState (store : Store) (key address : String) (record : BackendHealthRecord) :
    Store :=
  { store with healthStates := store.healthStates.insert (hcKey key address) record }

/-- A record without a state counts as absent. -/
def loadHealthState (store : Store) (key address : String) : Option BackendHealthRecord :=
  (store.healthStates.lookup (hcKey key address)).filter fun record => record.state ≠ ""

/-- Whether a health record belongs to a VIP. -/
def belongsTo (key record : String) : Bool :=
  (key ++ "/").toList.isPrefixOf record.toList

/-- Erases every health record whose key starts with the VIP's. -/
def deleteHealthStatesForVIP (store : Store) (key : String) : Store :=
  { store with
    healthStates :=
      (store.healthStates.keys.filter (belongsTo key)).foldl (fun states record =>
        states.erase record) store.healthStates }

/-- The configs that the store holds for a key. -/
def holds (store : Store) (key : String) (config : StoredConfig) : Prop :=
  store.lastConfigs.lookup key = some config ∨ store.pendingConfigs.lookup key = some config

end Store

end ArcaLB.Agent
