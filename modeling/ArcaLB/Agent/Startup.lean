import ArcaLB.Agent.Frame
import ArcaLB.Agent.Process
import ArcaLB.Api.Validation
import ArcaLB.DataPlane.Requests

/-!
# Cleanup at startup

Before the agent handles events, it removes what earlier runs left in the data plane and nobody
wants any more, going by the configs in its store.  The route of an address stays while a current
VirtualIP has the address.  What counts as the same service is decided by five fields of the spec,
whereas VPP and the router know an address, a port and a protocol, or the address alone.
-/

namespace ArcaLB.Agent

open Effect (Keeps Ensures)

/-- The bucket a retained configuration was read from. -/
inductive RetainedConfigSource where
  | lastApplied
  | pending
  deriving DecidableEq, Repr

/-- The source's name in log and error texts. -/
def RetainedConfigSource.text : RetainedConfigSource → String
  | lastApplied => "last-applied"
  | pending => "pending"

/-- A configuration the store kept over a restart. -/
structure RetainedConfig where
  key : String
  source : RetainedConfigSource
  vip : VirtualIP
  deriving DecidableEq, Repr

variable (rules : TextRules)

/-- Rebuilds the object from the stored key and spec. -/
def virtualIPFromRetainedConfig (key : String) (data : StoredConfig)
    (source : RetainedConfigSource) : Except String VirtualIP :=
  let space := key.toList.takeWhile (· ≠ '/')
  let name := (key.toList.dropWhile (· ≠ '/')).drop 1
  if space = [] ∨ name = [] then .error ("invalid namespaced VIP key " ++ rules.quote key)
  else
    match data with
    | .corrupt err =>
      .error ("failed to decode " ++ source.text ++ " config for " ++ key ++ ": " ++ err)
    | .spec spec =>
      .ok { key := ⟨.ofList space, .ofList name⟩, uid := "", generation := 0,
            terminating := false, spec }

/-- The configs of a bucket, with an error for each one that is not usable. -/
def decodeConfigs (source : RetainedConfigSource) (configs : AList fun _ : String => StoredConfig) :
    List (Except String RetainedConfig) :=
  configs.entries.map fun entry =>
    (virtualIPFromRetainedConfig rules entry.1 entry.2 source).map fun vip =>
      ⟨entry.1, source, vip⟩

/-- Every stored configuration, decoded or with its error. -/
def decodedConfigs (store : Store) : List (Except String RetainedConfig) :=
  decodeConfigs rules .lastApplied store.lastConfigs ++
    decodeConfigs rules .pending store.pendingConfigs

/-- The stored configurations that decode. -/
def retainedConfigs (store : Store) : List RetainedConfig :=
  (decodedConfigs rules store).filterMap Except.toOption

/-- Same data-plane entry: address, port, protocol, encapsulation, DSCP. -/
def sameRetainedVIPIdentity (a b : VirtualIP) : Bool :=
  a.spec.address = b.spec.address && a.spec.port = b.spec.port &&
    a.spec.protocol = b.spec.protocol && a.spec.encapType = b.spec.encapType &&
    a.spec.dscp = b.spec.dscp

/-- `currentByKey`, the keys of `currentValidByKey`, and `currentAddresses`. -/
structure CurrentVIPs where
  byKey : AList (fun _ : String => VirtualIP) := ∅
  validKeys : List String := []
  addresses : List String := []

namespace CurrentVIPs

/-- Adds one live object to the indexes. -/
def add (current : CurrentVIPs) (vip : VirtualIP) : CurrentVIPs :=
  if vip.terminating then current
  else
    let byKey := current.byKey.insert vip.key.text vip
    match Validation.validate rules vip with
    | .error _ => { current with byKey }
    | .ok _ => ⟨byKey, vip.key.text :: current.validKeys, vip.spec.address :: current.addresses⟩

/-- The indexes over the listed objects. -/
def ofList (vips : List VirtualIP) : CurrentVIPs :=
  vips.foldl (add rules) {}

/-- What is retained of a VirtualIP that is invalid now keeps its address. -/
def protect (current : CurrentVIPs) (retained : RetainedConfig) : CurrentVIPs :=
  if retained.key ∈ current.byKey ∧ retained.key ∉ current.validKeys ∧
      retained.vip.spec.address ≠ "" then
    { current with addresses := retained.vip.spec.address :: current.addresses }
  else current

end CurrentVIPs

/-- The arguments of a call of `cleanupRetainedVIP`. -/
structure Removal where
  retained : RetainedConfig
  withdrawRoute : Bool
  deleteHealthStates : Bool
  deriving DecidableEq, Repr

/-- What the loop over the retained configs decides about one of them. -/
def CurrentVIPs.removal (current : CurrentVIPs) (retained : RetainedConfig) : Option Removal :=
  let removal (deleteHealthStates : Bool) : Removal :=
    ⟨retained, decide (retained.vip.spec.address ∉ current.addresses), deleteHealthStates⟩
  match current.byKey.lookup retained.key with
  | none => some (removal true)
  | some own =>
    if retained.key ∉ current.validKeys then none
    else if sameRetainedVIPIdentity retained.vip own then none
    else some (removal false)

/-- The three tables as the removals see them. -/
def currentTables (store : Store) (currentVIPs : List VirtualIP) : CurrentVIPs :=
  (retainedConfigs rules store).foldl CurrentVIPs.protect (CurrentVIPs.ofList rules currentVIPs)

/-- The removals of a cleanup.  No decision depends on how earlier removals end. -/
def removals (store : Store) (currentVIPs : List VirtualIP) : List Removal :=
  (retainedConfigs rules store).filterMap (currentTables rules store currentVIPs).removal

/-- The answers to the cleanup of one retained config. -/
structure RemovalEnv where
  lease : LeaseReply := {}
  withdrawErr : Option String := none
  deleteConfigErr : Option String := none
  deleteHealthErr : Option String := none

/-- The router's `WithdrawVIP`, called without the coordinator. -/
def withdrawVIP (err : Option String) (address : String) : Effect Node String Unit :=
  match err with
  | some err => Effect.fail err
  | none =>
    Effect.modify fun node =>
      { node with
        routing := { node.routing with
          routes := Function.update node.routing.routes address false } }

/-- Deletes the record from the bucket it was read from. -/
def deleteRetained (err : Option String) (retained : RetainedConfig) : Effect Node String Unit :=
  match retained.source with
  | .lastApplied =>
    transaction "failed to delete stale last-applied config: " err (·.deleteLastConfig retained.key)
  | .pending =>
    transaction "failed to delete stale pending config: " err (·.deletePendingConfig retained.key)

/-- Removes one stale VIP: its route, its data plane, its record. -/
def cleanupRetainedVIP (config : Config) (env : RemovalEnv) (removal : Removal) :
    Effect Node String Unit := do
  let key := removal.retained.key
  let vip := removal.retained.vip
  Effect.when removal.withdrawRoute
    (Effect.mapError ("failed to withdraw stale retained VIP route: " ++ ·)
      (withdrawVIP env.withdrawErr vip.spec.address))
  Effect.mapError ("failed to remove stale retained VIP from dataplane: " ++ ·)
    (dataplane (DataPlane.removeVIP config.vpp vip))
  deleteRetained env.deleteConfigErr removal.retained
  Effect.when removal.deleteHealthStates
    (transaction "failed to delete stale health states: " env.deleteHealthErr
      (·.deleteHealthStatesForVIP key))

/-- The lease key a removal runs under. -/
def rolloutKeyForCleanup (key : String) (vip : VirtualIP) : String :=
  if vip.spec.address ≠ "" then rolloutKeyForAddress vip.spec.address else "virtualip/" ++ key

/-- The error of one removal, which holds the rollout lease of its address. -/
def runRemoval (config : Config) (env : RemovalEnv) (removal : Removal) :
    Effect Node Empty (Option String) := do
  let body : Effect Node Empty (Unit × Option String) := do
    match ← Effect.attempt (cleanupRetainedVIP config env removal) with
    | .ok _ => pure ((), none)
    | .error err => pure ((), some err)
  let keys := if config.rollouts then
    [rolloutKeyForCleanup removal.retained.key removal.retained.vip] else []
  return (← runExclusiveRollouts (fun _ => env.lease) () body keys).2

/-- The first error of the removals. -/
def runRemovals (config : Config) (env : RetainedConfig → RemovalEnv) :
    List Removal → Effect Node Empty (Option String)
  | [] => pure none
  | removal :: rest => do
      let err ← runRemoval config (env removal.retained) removal
      return err <|> (← runRemovals config env rest)

/-- The first error of a cleanup on a store that can be read. -/
def cleanupStaleLastConfigs (config : Config) (env : RetainedConfig → RemovalEnv)
    (currentVIPs : List VirtualIP) : Effect Node Empty (Option String) := do
  let node ← Effect.read
  let undecoded := (decodedConfigs rules node.store).findSome? fun
    | .error err => some err
    | .ok _ => none
  return undecoded <|> (← runRemovals config env (removals rules node.store currentVIPs))

/-! ## What is taken away under a route -/

/-- The two name the same tuple of the data plane. -/
def SameTuple (a b : VirtualIP) : Prop :=
  ∃ tuple, DataPlane.tupleOf a = .ok tuple ∧ DataPlane.tupleOf b = .ok tuple

/-- The VirtualIPs that the event handler will serve. -/
def Wanted (vip : VirtualIP) : Prop :=
  vip.terminating = false ∧ Validation.Valid rules vip

/-- The cleanup leaves a retained config alone: the current VirtualIP of its key is invalid, or it
is the same service. -/
def CurrentVIPs.Keeps (current : CurrentVIPs) (retained : RetainedConfig) : Prop :=
  ∃ own, current.byKey.lookup retained.key = some own ∧
    (retained.key ∉ current.validKeys ∨ sameRetainedVIPIdentity retained.vip own = true)

/-- The route of an address stays: a wanted VirtualIP has the address, or what is retained of one
that is invalid now. -/
def RouteStays (store : Store) (currentVIPs : List VirtualIP) (address : String) : Prop :=
  (∃ vip ∈ currentVIPs, Wanted rules vip ∧ vip.spec.address = address) ∨
    ∃ retained ∈ retainedConfigs rules store,
      retained.key ∈ (CurrentVIPs.ofList rules currentVIPs).byKey ∧
        retained.key ∉ (CurrentVIPs.ofList rules currentVIPs).validKeys ∧
        retained.vip.spec.address ≠ "" ∧ retained.vip.spec.address = address

variable {retained : RetainedConfig} {removal : Removal}

section Decisions

variable {rules}

theorem CurrentVIPs.mem_addresses_foldl_add (vips : List VirtualIP) (current : CurrentVIPs)
    (address : String) :
    address ∈ (vips.foldl (add rules) current).addresses ↔
      address ∈ current.addresses ∨
        ∃ vip ∈ vips, Wanted rules vip ∧ vip.spec.address = address := by
  induction vips generalizing current with
  | nil => simp
  | cons first rest ih =>
    rw [List.foldl_cons, ih, List.exists_mem_cons_iff, ← or_assoc]
    apply or_congr_left
    have accepted : Wanted rules first ↔
        first.terminating = false ∧ Validation.validate rules first = .ok () := Iff.rfl
    rw [accepted, add]
    split
    case isTrue gone => simp [gone]
    case isFalse =>
      split
      · simp [*]
      · simp [*, or_comm, eq_comm]

/-- Protecting addresses changes nothing else. -/
theorem CurrentVIPs.foldl_protect (retained : List RetainedConfig) (current : CurrentVIPs) :
    (retained.foldl CurrentVIPs.protect current).byKey = current.byKey ∧
      (retained.foldl CurrentVIPs.protect current).validKeys = current.validKeys ∧
      ∀ address, address ∈ (retained.foldl CurrentVIPs.protect current).addresses ↔
        address ∈ current.addresses ∨ ∃ config ∈ retained, config.key ∈ current.byKey ∧
          config.key ∉ current.validKeys ∧ config.vip.spec.address ≠ "" ∧
            config.vip.spec.address = address := by
  induction retained generalizing current with
  | nil => simp
  | cons first rest ih =>
    obtain ⟨byKey, validKeys, addresses⟩ := ih (current.protect first)
    rw [List.foldl_cons, byKey, validKeys]
    simp only [addresses, List.exists_mem_cons_iff, ← or_assoc]
    unfold CurrentVIPs.protect
    split
    case isTrue guarded =>
      refine ⟨rfl, rfl, fun address => or_congr_left ?_⟩
      rw [List.mem_cons, or_comm]
      refine or_congr_right ⟨fun same => ?_, fun own => own.2.2.2.symm⟩
      exact ⟨guarded.1, guarded.2.1, guarded.2.2, same.symm⟩
    case isFalse free =>
      refine ⟨rfl, rfl, fun address => or_congr_left ?_⟩
      refine ⟨Or.inl, fun either => either.resolve_right ?_⟩
      rintro ⟨listed, invalid, given, -⟩
      exact free ⟨listed, invalid, given⟩

theorem mem_addresses_currentTables {store : Store} {currentVIPs : List VirtualIP}
    {address : String} :
    address ∈ (currentTables rules store currentVIPs).addresses ↔
      RouteStays rules store currentVIPs address := by
  unfold currentTables RouteStays
  rw [(CurrentVIPs.foldl_protect _ _).2.2]
  apply or_congr_left
  rw [CurrentVIPs.ofList, CurrentVIPs.mem_addresses_foldl_add]
  exact or_iff_right List.not_mem_nil

theorem currentTables_keeps {store : Store} {currentVIPs : List VirtualIP} :
    (currentTables rules store currentVIPs).Keeps retained ↔
      (CurrentVIPs.ofList rules currentVIPs).Keeps retained := by
  obtain ⟨byKey, validKeys, -⟩ :=
    CurrentVIPs.foldl_protect (retainedConfigs rules store) (CurrentVIPs.ofList rules currentVIPs)
  unfold CurrentVIPs.Keeps currentTables
  rw [byKey, validKeys]

/-- A retained config that is not kept is removed, with its route unless the address is in use. -/
theorem CurrentVIPs.exists_removal_iff {current : CurrentVIPs} {withdraws : Bool} :
    (∃ removal, current.removal retained = some removal ∧ removal.withdrawRoute = withdraws) ↔
      ¬ current.Keeps retained ∧
        decide (retained.vip.spec.address ∉ current.addresses) = withdraws := by
  unfold CurrentVIPs.removal CurrentVIPs.Keeps
  cases current.byKey.lookup retained.key with
  | none => simp
  | some own =>
    by_cases valid : retained.key ∈ current.validKeys
    · cases same : sameRetainedVIPIdentity retained.vip own with
      | true => simp [valid, same]
      | false => simp [valid, same]
    · simp [valid]

theorem CurrentVIPs.retained_of_removal {current : CurrentVIPs}
    (removed : current.removal retained = some removal) : removal.retained = retained := by
  unfold CurrentVIPs.removal at removed
  split at removed
  · cases removed
    rfl
  · split_ifs at removed
    cases removed
    rfl

/-- A removal without a withdrawal leaves the router alone, wherever it ends. -/
theorem routing_cleanupRetainedVIP (stays : removal.withdrawRoute = false)
    (config : Config) (env : RemovalEnv) (node : Node) :
    (cleanupRetainedVIP config env removal node).2.routing = node.routing := by
  have kept : Keeps (fun next : Node => next.routing = node.routing)
      (cleanupRetainedVIP config env removal) := by
    unfold cleanupRetainedVIP deleteRetained
    rw [stays]
    refine .bind (.pure _) fun _ => .bind (.mapError _ fun _ same => same) fun _ => .bind ?_ ?_
    · split
      · exact keeps_transaction (fun _ _ same => same) _ _ _
      · exact keeps_transaction (fun _ _ same => same) _ _ _
    · intro _
      unfold Effect.when
      split
      · exact keeps_transaction (fun _ _ same => same) _ _ _
      · exact .pure _
  exact kept node rfl

end Decisions

/-- **Live tuples.** For every store and every list of current VirtualIPs: a removal that does not
withdraw the route of its address leaves the router as it is; and no such removal is of a tuple
that a current valid VirtualIP wants exactly if every retained config with such a tuple, and with
an address whose route stays, is kept: the VirtualIP of its own key is invalid, or is the same
in encapsulation and DSCP too. -/
theorem cleanup_spares_live_tuples_iff (store : Store) (currentVIPs : List VirtualIP) :
    (∀ removal ∈ removals rules store currentVIPs, removal.withdrawRoute = false →
      ∀ config env node,
        (cleanupRetainedVIP config env removal node).2.routing = node.routing) ∧
    ((∀ removal ∈ removals rules store currentVIPs, removal.withdrawRoute = false →
        ∀ vip ∈ currentVIPs, Wanted rules vip → ¬ SameTuple removal.retained.vip vip) ↔
      ∀ retained ∈ retainedConfigs rules store,
        RouteStays rules store currentVIPs retained.vip.spec.address →
          ∀ vip ∈ currentVIPs, Wanted rules vip → SameTuple retained.vip vip →
            (CurrentVIPs.ofList rules currentVIPs).Keeps retained) := by
  refine ⟨fun removal _ stays config env node => routing_cleanupRetainedVIP stays config env node,
    ?_, ?_⟩
  · intro spares retained stored route vip listed wanted same
    by_contra stale
    have inUse := mem_addresses_currentTables.mpr route
    obtain ⟨removal, removed, stays⟩ := CurrentVIPs.exists_removal_iff.mpr
      ⟨fun kept => stale (currentTables_keeps.mp kept), decide_eq_false (not_not.mpr inUse)⟩
    have own := CurrentVIPs.retained_of_removal removed
    exact spares removal (List.mem_filterMap.mpr ⟨retained, stored, removed⟩) stays vip listed
      wanted (own ▸ same)
  · intro keeps removal member stays vip listed wanted same
    obtain ⟨retained, stored, removed⟩ := List.mem_filterMap.mp member
    obtain ⟨stale, inUse⟩ := CurrentVIPs.exists_removal_iff.mp ⟨removal, removed, stays⟩
    rw [CurrentVIPs.retained_of_removal removed] at same
    have route := mem_addresses_currentTables.mp (not_not.mp (of_decide_eq_false inUse))
    exact stale (currentTables_keeps.mpr (keeps retained stored route vip listed wanted same))

/-! ## What is forgotten -/

/-- The config that a bucket holds for a key. -/
def Store.config (store : Store) (key : String) : RetainedConfigSource → Option StoredConfig
  | .lastApplied => store.lastConfigs.lookup key
  | .pending => store.pendingConfigs.lookup key

/-- The removal's record is gone from its bucket. -/
def Removal.Forgotten (removal : Removal) (store : Store) : Prop :=
  store.config removal.retained.key removal.retained.source = none

/-- Nothing is cached, and VPP has lost the tuple of a VIP at most. -/
def Loses (vip : VirtualIP) (vpp next : DataPlane.VPP) : Prop :=
  (∀ key, next.vips key = none) ∧ ∀ tuple, next.table tuple = vpp.table tuple ∨
    next.table tuple = none ∧ DataPlane.tupleOf vip = .ok tuple

/-- Nothing is cached.  A tuple is in VPP as before, or it is that of a config to be removed; and
such a config is in the store as before, or VPP lacks its tuple. -/
structure Tended (stale : List Removal) (node next : Node) : Prop where
  uncached : ∀ key, next.vpp.vips key = none
  table : ∀ tuple, next.vpp.table tuple = node.vpp.table tuple ∨ next.vpp.table tuple = none ∧
    ∃ removal ∈ stale, DataPlane.tupleOf removal.retained.vip = .ok tuple
  stored : ∀ key source, next.store.config key source = node.store.config key source ∨
    next.store.config key source = none ∧ ∃ removal ∈ stale, removal.retained.key = key ∧
      removal.retained.source = source ∧
        ∃ tuple, DataPlane.tupleOf removal.retained.vip = .ok tuple ∧ next.vpp.table tuple = none

section Forgotten

variable {stale : List Removal} {node middle next : Node} {vpp : DataPlane.VPP}

theorem Tended.refl (uncached : ∀ key, node.vpp.vips key = none) : Tended stale node node :=
  ⟨uncached, fun _ => .inl rfl, fun _ _ => .inl rfl⟩

theorem Tended.trans (first : Tended stale node middle) (second : Tended stale middle next) :
    Tended stale node next := by
  refine ⟨second.uncached, fun tuple => ?_, fun key source => ?_⟩
  · rcases second.table tuple with same | gone
    · rw [same]
      exact first.table tuple
    · exact .inr gone
  · rcases second.stored key source with same | gone
    · rw [same]
      refine (first.stored key source).imp_right ?_
      rintro ⟨gone, removal, member, named, kind, tuple, is, absent⟩
      refine ⟨gone, removal, member, named, kind, tuple, is, ?_⟩
      exact (second.table tuple).elim (·.trans absent) And.left
    · exact .inr gone

theorem ensures_removeVIP_uncached (config : DataPlane.VPPConfig) (vip : VirtualIP)
    (uncached : ∀ key, vpp.vips key = none) :
    Ensures (DataPlane.removeVIP config vip) (Loses vip vpp)
      (fun _ next => Loses vip vpp next ∧
        ∃ tuple, DataPlane.tupleOf vip = .ok tuple ∧ next.table tuple = none) vpp := by
  have same (rest : List DataPlane.Reply) : Loses vip vpp (vpp.answered rest) :=
    ⟨uncached, fun _ => .inl rfl⟩
  apply Ensures.read_bind
  rw [uncached vip.key]
  apply ((DataPlane.ensures_lookupVIP same).mapError _).bind
  rintro _ _ ⟨rest, tuple, named, rfl, rfl⟩
  have deleted : Ensures (Effect.when (vpp.table tuple).isSome
      (DataPlane.deleteVIP config vip)) (Loses vip vpp)
      (fun _ next => Loses vip vpp next ∧ next.table tuple = none) (vpp.answered rest) := by
    unfold Effect.when
    split
    case isTrue =>
      refine DataPlane.wp_deleteVIP (.ends same) fun rest other also => ?_
      cases named.symm.trans also
      refine ⟨⟨uncached, fun other => ?_⟩, Function.update_self ..⟩
      by_cases here : other = tuple
      · exact .inr ⟨here ▸ Function.update_self .., here ▸ named⟩
      · exact .inl (Function.update_of_ne here ..)
    case isFalse absent => exact ⟨same rest, Option.not_isSome_iff_eq_none.mp absent⟩
  apply deleted.bind
  rintro _ next ⟨loses, absent⟩
  refine ⟨⟨fun key => ?_, loses.2⟩, tuple, named, absent⟩
  by_cases own : key = vip.key
  · exact own ▸ Function.update_self ..
  · exact (Function.update_of_ne own ..).trans (loses.1 key)

theorem ensures_deleteRetained (err : Option String) (member : removal ∈ stale)
    (tended : Tended stale node middle) (absent : ∃ tuple,
      DataPlane.tupleOf removal.retained.vip = .ok tuple ∧ middle.vpp.table tuple = none) :
    Ensures (deleteRetained err removal.retained) (Tended stale node)
      (fun _ next => Tended stale node next ∧ removal.Forgotten next.store) middle := by
  obtain ⟨⟨name, source, vip⟩, withdraws, deletes⟩ := removal
  have erased (key : String) (configs : AList fun _ : String => StoredConfig) :
      (configs.erase name).lookup key = configs.lookup key ∨
        (configs.erase name).lookup key = none ∧ name = key := by
    by_cases own : key = name
    · exact .inr ⟨own ▸ AList.lookup_erase .., own.symm⟩
    · exact .inl (AList.lookup_erase_ne own)
  unfold deleteRetained transaction
  cases source with
  | lastApplied | pending =>
    cases err with
    | some err => exact tended
    | none =>
      refine ⟨tended.trans ⟨tended.uncached, fun _ => .inl rfl, fun key source => ?_⟩,
        AList.lookup_erase ..⟩
      cases source with
      | lastApplied | pending =>
        first
        | exact .inl rfl
        | exact (erased key _).imp_right fun gone => ⟨gone.1, _, member, gone.2, rfl, absent⟩

/-- **One removal.** Its config is forgotten only once VPP lacks its tuple. -/
theorem ensures_cleanupRetainedVIP (config : Config) (env : RemovalEnv)
    (member : removal ∈ stale) (uncached : ∀ key, node.vpp.vips key = none) :
    Ensures (cleanupRetainedVIP config env removal) (Tended stale node)
      (fun _ next => Tended stale node next ∧ removal.Forgotten next.store) node := by
  have kept {next : Node} (loses : Loses removal.retained.vip node.vpp next.vpp)
      (same : next.store = node.store) : Tended stale node next :=
    ⟨loses.1, fun tuple => (loses.2 tuple).imp_right fun gone => ⟨gone.1, _, member, gone.2⟩,
      fun _ _ => .inl (by rw [same])⟩
  have withdrawn (wrap : String → String) : Ensures
      (Effect.when removal.withdrawRoute (Effect.mapError wrap (withdrawVIP env.withdrawErr
        removal.retained.vip.spec.address))) (Tended stale node)
      (fun _ next => next.vpp = node.vpp ∧ next.store = node.store) node := by
    unfold Effect.when withdrawVIP
    split
    · cases env.withdrawErr with
      | some err => exact .refl uncached
      | none => exact ⟨rfl, rfl⟩
    · exact ⟨rfl, rfl⟩
  apply (withdrawn _).bind
  rintro _ ⟨routing, replies, _, _, applied⟩ ⟨rfl, rfl⟩
  have emptied : Ensures (dataplane (DataPlane.removeVIP config.vpp removal.retained.vip))
      (Tended stale node) (fun _ next => next.store = node.store ∧
        Loses removal.retained.vip node.vpp next.vpp ∧
        ∃ tuple, DataPlane.tupleOf removal.retained.vip = .ok tuple ∧
          next.vpp.table tuple = none) ⟨routing, replies, node.vpp, node.store, applied⟩ :=
    Ensures.zoom ((ensures_removeVIP_uncached config.vpp removal.retained.vip uncached).mono
      (fun _ loses => kept loses rfl) fun _ _ done => ⟨rfl, done⟩)
  apply (emptied.mapError _).bind
  rintro _ last ⟨same, loses, absent⟩
  apply (ensures_deleteRetained _ member (kept loses same) absent).bind
  rintro _ final ⟨tended, gone⟩
  unfold Effect.when transaction
  split
  · cases env.deleteHealthErr with
    | some err => exact tended
    | none => exact ⟨⟨tended.uncached, tended.table, tended.stored⟩, gone⟩
  · exact ⟨tended, gone⟩

theorem ensures_runRemoval (config : Config) (env : RemovalEnv)
    (member : removal ∈ stale) (uncached : ∀ key, node.vpp.vips key = none) :
    Ensures (runRemoval config env removal) (Tended stale node)
      (fun err next => Tended stale node next ∧ (err = none → removal.Forgotten next.store))
      node := by
  unfold runRemoval
  extract_lets body keys
  have exclusive : Ensures (runExclusiveRollouts (fun _ => env.lease) () body keys)
      (Tended stale node) (fun returned next => Tended stale node next ∧
        (returned.2 = none → removal.Forgotten next.store)) node := by
    induction keys with
    | nil =>
      apply (ensures_cleanupRetainedVIP config env member uncached).attempt.bind
      intro result next ended
      cases result with
      | ok _ => exact ⟨ended.1, fun _ => ended.2⟩
      | error err => exact ⟨ended, nofun⟩
    | cons key rest ih =>
      unfold runExclusiveRollouts
      cases env.lease.acquireErr with
      | some err => exact ⟨.refl uncached, nofun⟩
      | none =>
        apply ih.bind
        rintro ⟨_, err⟩ next ⟨tended, gone⟩
        exact ⟨tended, fun clean => gone ((Option.orElse_eq_none _ _).mp clean).1⟩
  exact exclusive.bind fun _ _ done => done

/-- **All removals.** Induction over them: each one starts where the last has ended. -/
theorem ensures_runRemovals (config : Config) (env : RetainedConfig → RemovalEnv)
    (list : List Removal) (among : list ⊆ stale) (uncached : ∀ key, node.vpp.vips key = none) :
    Ensures (runRemovals config env list) (Tended stale node)
      (fun err next => Tended stale node next ∧
        (err = none → ∀ removal ∈ list, removal.Forgotten next.store)) node := by
  induction list generalizing node with
  | nil => exact ⟨.refl uncached, by simp⟩
  | cons removal rest ih =>
    obtain ⟨member, others⟩ := List.cons_subset.mp among
    apply (ensures_runRemoval config (env removal.retained) member uncached).bind
    rintro err middle ⟨first, gone⟩
    have later := (ih others first.uncached).mono (fun _ => first.trans) fun _ _ done => done
    apply later.bind
    rintro last final ⟨second, absent⟩
    refine ⟨first.trans second, fun clean => ?_⟩
    obtain ⟨rfl, rfl⟩ := (Option.orElse_eq_none _ _).mp clean
    refine List.forall_mem_cons.mpr ⟨?_, absent rfl⟩
    rcases second.stored removal.retained.key removal.retained.source with same | lost
    · exact same.trans (gone rfl)
    · exact lost.1

variable {rules}

theorem mem_retainedConfigs {store : Store} :
    retained ∈ retainedConfigs rules store ↔
      ∃ data, store.config retained.key retained.source = some data ∧
        virtualIPFromRetainedConfig rules retained.key data retained.source =
          .ok retained.vip := by
  have decoded (source : RetainedConfigSource) (configs : AList fun _ : String => StoredConfig) :
      .ok retained ∈ decodeConfigs rules source configs ↔ retained.source = source ∧
        ∃ data, configs.lookup retained.key = some data ∧
          virtualIPFromRetainedConfig rules retained.key data source = .ok retained.vip := by
    simp only [decodeConfigs, List.mem_map, Sigma.exists, ← AList.mem_lookup_iff]
    constructor
    · rintro ⟨key, data, found, is⟩
      cases decodes : virtualIPFromRetainedConfig rules key data source <;> rw [decodes] at is
      · cases is
      · cases is
        exact ⟨rfl, data, found, decodes⟩
    · rintro ⟨rfl, data, found, decodes⟩
      exact ⟨_, data, found, by rw [decodes]; rfl⟩
  have listed : retained ∈ retainedConfigs rules store ↔
      .ok retained ∈ decodedConfigs rules store := by
    refine List.mem_filterMap.trans ⟨?_, fun listed => ⟨_, listed, rfl⟩⟩
    rintro ⟨result, listed, is⟩
    cases result with
    | error err => cases is
    | ok _ =>
      cases is
      exact listed
  rw [listed, decodedConfigs, List.mem_append, decoded, decoded]
  cases kind : retained.source with
  | lastApplied | pending => simp [Store.config]

end Forgotten

/-- **Nothing stale stays.** While nothing is cached, for every store, list of current VirtualIPs
and all answers, wherever the cleanup ends: VPP has lost tuples of stale configs only, and a config
is gone only if it was stale and VPP lacks its tuple, so that the next start finds what is left;
and after a cleanup without an error there is nothing to remove. -/
theorem cleanup_leaves_nothing_stale (config : Config) (env : RetainedConfig → RemovalEnv)
    (currentVIPs : List VirtualIP) (node : Node) (uncached : ∀ key, node.vpp.vips key = none) :
    let ended := cleanupStaleLastConfigs rules config env currentVIPs node
    Tended (removals rules node.store currentVIPs) node ended.2 ∧
      (ended.1 = .ok none → removals rules ended.2.store currentVIPs = []) := by
  intro ended
  set stale := removals rules node.store currentVIPs
  have ensured : Ensures (cleanupStaleLastConfigs rules config env currentVIPs)
      (Tended stale node) (fun err next => Tended stale node next ∧
        (err = none → ∀ removal ∈ stale, removal.Forgotten next.store)) node := by
    apply Ensures.read_bind
    apply (ensures_runRemovals config env stale (List.Subset.refl _) uncached).bind
    rintro err next ⟨tended, gone⟩
    exact ⟨tended, fun clean => gone ((Option.orElse_eq_none _ _).mp clean).2⟩
  have tended := (ensured.mono (fun _ early => early) fun _ _ late => late.1).last
  refine ⟨tended, fun clean => List.eq_nil_iff_forall_not_mem.mpr fun removal member => ?_⟩
  have gone := (ensured.returned (Prod.ext clean rfl)).2 rfl
  obtain ⟨retained, listed, removed⟩ := List.mem_filterMap.mp member
  obtain ⟨data, found, decodes⟩ := mem_retainedConfigs.mp listed
  have unkept := (CurrentVIPs.exists_removal_iff.mp ⟨removal, removed, rfl⟩).1
  -- What is listed now was listed before, and was as stale then.
  rcases tended.stored retained.key retained.source with same | lost
  · obtain ⟨first, removes, -⟩ := CurrentVIPs.exists_removal_iff.mpr
      ⟨fun kept => unkept (currentTables_keeps.mpr (currentTables_keeps.mp kept)), rfl⟩
    have before := mem_retainedConfigs.mpr ⟨data, same.symm.trans found, decodes⟩
    have absent := gone first (List.mem_filterMap.mpr ⟨retained, before, removes⟩)
    rw [Removal.Forgotten, CurrentVIPs.retained_of_removal removes] at absent
    cases found.symm.trans absent
  · cases found.symm.trans lost.1

/-- The web VIP, as the last process applied it. -/
def appliedWeb : VirtualIP := .web .web "1" "192.0.2.1"

/-- The web VIP with another DSCP. -/
def remarkedWeb : VirtualIP :=
  { appliedWeb with spec := { appliedWeb.spec with dscp := some 12 } }

/-- What the last process left: the config in the store, the tuple in VPP and the route. -/
def Node.leftWeb : Node :=
  { Node.empty with
    routing := ⟨Routing.newRouteCoordinator 0, fun address => address = "192.0.2.1"⟩
    store := { lastConfigs := AList.insert appliedWeb.key.text (.spec appliedWeb.spec) ∅ }
    vpp :=
      { table := (DataPlane.applyVIP Config.plain.vpp appliedWeb appliedWeb.spec.backends 0
          { replies := List.replicate 4 .ok }).2.table
        replies := List.replicate 4 .ok } }

/-- The cleanup for another DSCP of the web VIP ends without an error. -/
theorem cleanup_leaves_nothing_stale_web :
    let ended := cleanupStaleLastConfigs .lenient .plain (fun _ => {}) [remarkedWeb] Node.leftWeb
    removals .lenient Node.leftWeb.store [remarkedWeb] ≠ [] ∧ ended.1 = .ok none ∧
      removals .lenient ended.2.store [remarkedWeb] = [] := by
  have clean : (cleanupStaleLastConfigs .lenient .plain (fun _ => {}) [remarkedWeb]
      Node.leftWeb).1 = .ok none := by decide +kernel
  exact ⟨by decide +kernel, clean,
    (cleanup_leaves_nothing_stale .lenient .plain _ _ Node.leftWeb fun _ => rfl).2 clean⟩

/-- **A live tuple is taken away.** The web VIP has another DSCP than the last process applied.
The cleanup deletes the tuple it wants from VPP and leaves its route in the router. -/
theorem remarked_tuple_removed_under_route :
    let cleaned := (cleanupStaleLastConfigs .lenient .plain (fun _ => {}) [remarkedWeb]
      Node.leftWeb).2
    Wanted .lenient remarkedWeb ∧ SameTuple appliedWeb remarkedWeb ∧
      ∃ tuple, DataPlane.tupleOf remarkedWeb = .ok tuple ∧
        (Node.leftWeb.vpp.table tuple).isSome = true ∧ (cleaned.vpp.table tuple).isNone = true ∧
        cleaned.routing.routes remarkedWeb.spec.address = true := by
  exact ⟨⟨rfl, by decide +kernel⟩, ⟨⟨.v4 192 0 2 1, 6, 80⟩, by decide +kernel⟩,
    ⟨.v4 192 0 2 1, 6, 80⟩, by decide +kernel⟩

end ArcaLB.Agent
