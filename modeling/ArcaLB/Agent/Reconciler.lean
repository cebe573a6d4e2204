import Mathlib.Data.List.Sort
import ArcaLB.DataPlane.Apply
import ArcaLB.Routing.Sequential
import ArcaLB.Agent.Store
import ArcaLB.Agent.Conditions

/-!
# Reconcile passes

A pass of a per-VIP reconciler and its deletion, over the state of the whole agent.
What other parties answer is an argument: `PassEnv` has one field for each call site of
the store, of a rollout lease or of a sleep, and the router and VPP answer each of
their calls from a list of replies.
-/

namespace ArcaLB.Agent

open DataPlane (VPP VPPConfig VIPRecreateError)

/-- What is done about tuning drift; any other text reads as `rollingRecreate`. -/
inductive TuningDriftPolicy where
  | preserve
  | rollingRecreate
  deriving DecidableEq, Repr

/-- The settings of the reconcilers.  `drainDuration` is normalised, so it is not zero,
but it may be negative.  `rollouts` says whether a rollout coordinator is wired. -/
structure Config where
  vpp : VPPConfig
  tuningDriftPolicy : TuningDriftPolicy
  drainDuration : Int
  rollouts : Bool
  deriving DecidableEq, Repr

/-- The state of a node: the agent, its store, and the router and the VPP process it
drives.  `applied` is the last applied object that the reconciler of a key remembers. -/
structure Node where
  routing : Routing.Shared
  routerReplies : List Routing.Reply := []
  vpp : VPP := {}
  store : Store := {}
  applied : VIPKey → Option VirtualIP := fun _ => none

/-- How `RunExclusive` fails: before its function runs, or after it returned. -/
structure LeaseReply where
  acquireErr : Option String := none
  releaseErr : Option String := none
  deriving DecidableEq, Repr

/-- The answers to one pass.  `tracked` are the backends that the health tracker reports
as healthy; `stillCurrent` and `repairCurrent` say whether the object is still the
current one when a lease was acquired. -/
structure PassEnv where
  now : Time := 0
  tracked : List BackendSpec := []
  loadErr : Option String := none
  planLease : String → LeaseReply := fun _ => {}
  stillCurrent : Bool := true
  persistErr : Option String := none
  drainSleepErr : Option String := none
  commitErr : Option String := none
  repairLease : LeaseReply := {}
  repairCurrent : Bool := true
  repairSleepErr : Option String := none

section Parts

/-- Call the route coordinator. -/
def route (key : VIPKey) (call : Routing.Call) : Effect Node Empty (Bool × Option String) :=
  Effect.zoom (fun node => ⟨node.routing, node.routerReplies⟩)
    (fun node sequential =>
      { node with routing := sequential.shared, routerReplies := sequential.replies })
    (Routing.perform key call)

/-- Call the data plane. -/
def dataplane {ε α : Type} (body : Effect VPP ε α) : Effect Node ε α :=
  Effect.zoom Node.vpp (fun node vpp => { node with vpp }) body

/-- A store transaction that fails with `err` or is carried out. -/
def transaction (text : String) (err : Option String) (change : Store → Store) :
    Effect Node String Unit :=
  match err with
  | some err => Effect.fail (text ++ err)
  | none => Effect.modify fun node => { node with store := change node.store }

/-- Saves the configuration about to be applied. -/
def persistPendingConfig (env : PassEnv) (vip : VirtualIP) : Effect Node String Unit :=
  transaction "failed to save pending config: " env.persistErr fun store =>
    store.savePendingConfig vip.key.text (.spec vip.spec)

/-- Makes the applied configuration the last one. -/
def commitLastConfig (env : PassEnv) (vip : VirtualIP) : Effect Node String Unit :=
  transaction "failed to commit last config: " env.commitErr fun store =>
    store.commitLastConfig vip.key.text (.spec vip.spec)

/-- Remembers in memory what was applied. -/
def setLastAppliedVIP {ε : Type} (vip : VirtualIP) : Effect Node ε Unit :=
  Effect.modify fun node =>
    { node with applied := Function.update node.applied vip.key (some vip) }

/-- `releaseUpdateDrain`: record whether the VIP serves and release the drain. -/
def releaseUpdateDrain (vip : VirtualIP) (serving : Bool) :
    Effect Node Empty (Bool × Option String) := do
  let (advertised, setErr) ← route vip.key (.setServing vip.spec.address serving)
  match setErr with
  | some err => pure (advertised, some err)
  | none => route vip.key (.finishDrain vip.spec.address)

/-- `sleepContext`: a sleep of no length is not interrupted. -/
def sleepContext (duration : Int) (err : Option String) : Option String :=
  if duration ≤ 0 then none else err

end Parts

section Rollouts

/-- The rollout key of a VIP address. -/
def rolloutKeyForAddress (address : String) : String :=
  "vip-address/" ++ address

/-- The lease keys for some addresses, each once and in order. -/
def rolloutKeysForAddresses (addresses : List String) : List String :=
  (((addresses.filter (· ≠ "")).map rolloutKeyForAddress).dedup).insertionSort (· ≤ ·)

/-- `runExclusiveRollouts`: hold the leases of all keys around `body`, which returns a
value and an error; `skipped` is the value where `body` did not run. -/
def runExclusiveRollouts {α : Type} (lease : String → LeaseReply) (skipped : α)
    (body : Effect Node Empty (α × Option String)) :
    List String → Effect Node Empty (α × Option String)
  | [] => body
  | key :: rest =>
    match (lease key).acquireErr with
    | some err => pure (skipped, some err)
    | none => do
        let (value, err) ← runExclusiveRollouts lease skipped body rest
        pure (value, err <|> (lease key).releaseErr)

end Rollouts

section Plan

/-- Which leases an update takes, and whether it drains first. -/
structure VipUpdatePlan where
  rolloutKeys : List String := []
  drainBeforeApply : Bool := false
  deriving DecidableEq, Repr

/-- `lastAppliedVIP`: the object this reconciler applied last or, before its first
success, the spec that the store has as last applied. -/
def lastAppliedVIP (env : PassEnv) (template : VirtualIP) :
    Effect Node String (Option VirtualIP) := do
  let node ← Effect.read
  match node.applied template.key with
  | some applied => pure (some applied)
  | none =>
    match env.loadErr with
    | some err => Effect.fail err
    | none =>
      match node.store.lastConfigs.lookup template.key.text with
      | none => pure none
      | some (.corrupt err) =>
        Effect.fail ("failed to decode last-applied config for " ++ template.key.text ++
          ": " ++ err)
      | some (.spec spec) =>
        setLastAppliedVIP { template with spec }
        pure (some { template with spec })

/-- Compares the desired VIP with the one applied last. -/
def needsDrainForVIPUpdate (config : Config) (env : PassEnv) (vip : VirtualIP) :
    Effect Node String Bool := do
  match ← lastAppliedVIP env vip with
  | none => pure false
  | some applied =>
    if applied.spec.address ≠ vip.spec.address then pure false
    else Effect.ofExcept (DataPlane.needsDrainForVIPUpdate config.vpp applied vip)

/-- `planVIPUpdate`: which leases a pass needs and whether it drains the address first.
A plan that cannot be made is that of a disruptive update. -/
def planVIPUpdate (config : Config) (env : PassEnv) (vip : VirtualIP) :
    Effect Node Empty VipUpdatePlan := do
  let disruptive : VipUpdatePlan :=
    { rolloutKeys := rolloutKeysForAddresses [vip.spec.address], drainBeforeApply := true }
  let node ← Effect.read
  match node.routing.coordinator.pendingAddressChange vip.key vip.spec.address with
  | some previous => pure { rolloutKeys := rolloutKeysForAddresses [previous, vip.spec.address] }
  | none =>
    match ← Effect.attempt (needsDrainForVIPUpdate config env vip) with
    | .error _ => pure disruptive
    | .ok true => pure disruptive
    | .ok false =>
      match ← Effect.attempt
          (dataplane (DataPlane.needsDrainForRetainedVIP config.vpp vip)) with
      | .error _ => pure disruptive
      | .ok true => pure disruptive
      | .ok false => pure {}

end Plan

section Repair

/-- What a repair of tuning drift left behind. -/
structure TuningDriftRepairResult where
  routeAdvertised : Bool := false
  routeErr : Option String := none
  routeStateKnown : Bool := false
  retainedOldVIP : Bool := false
  drainReleased : Bool := false
  blocked : Bool := false
  deriving DecidableEq, Repr

/-- Release the drain of a failed repair. -/
def releaseRepairDrain (vip : VirtualIP) (serving : Bool) (err : String) :
    Effect Node Empty (TuningDriftRepairResult × Option String) := do
  let (advertised, releaseErr) ← releaseUpdateDrain vip serving
  let result : TuningDriftRepairResult :=
    { routeAdvertised := advertised
      routeErr := releaseErr
      routeStateKnown := true
      drainReleased := true }
  match releaseErr with
  | some releaseErr =>
    pure (result, some (err ++ "; additionally failed to release route drain: " ++ releaseErr))
  | none => pure (result, some err)

/-- `repairTuningDrift` with the leases held. -/
def repairHeld (config : Config) (env : PassEnv) (vip : VirtualIP)
    (healthyBackends : List BackendSpec) :
    Effect Node Empty (TuningDriftRepairResult × Option String) := do
  let hasHealthy := !healthyBackends.isEmpty
  let (drained, drainErr) ← route vip.key (.beginDrain vip.spec.address false)
  match drainErr with
  | some err =>
    pure ({ routeErr := some err, routeStateKnown := true },
      some ("failed to drain route before VIP recreate: " ++ err))
  | none =>
    if !drained then pure ({ blocked := true }, none)
    else
      match (if hasHealthy then sleepContext config.drainDuration env.repairSleepErr
        else none) with
      | some err => releaseRepairDrain vip hasHealthy err
      | none =>
        match ← Effect.attempt
            (dataplane (DataPlane.recreateVIP config.vpp vip healthyBackends)) with
        | .error err =>
          let restoreRoute := hasHealthy && err.routeSafeToRestore
          let (result, retErr) ← releaseRepairDrain vip restoreRoute
            ("failed to recreate VIP: " ++ err.text)
          pure ({ result with
            retainedOldVIP :=
              restoreRoute && result.routeErr.isNone && result.routeAdvertised }, retErr)
        | .ok _ =>
          let (advertised, releaseErr) ← route vip.key (.finishDrain vip.spec.address)
          let result : TuningDriftRepairResult :=
            { routeAdvertised := advertised
              routeErr := releaseErr
              routeStateKnown := true
              drainReleased := true }
          match releaseErr with
          | some err =>
            pure (result,
              some ("failed to release route drain after VIP recreate: " ++ err))
          | none => pure (result, none)

/-- `repairTuningDrift`: unless drift is preserved, recreate the VIP under the lease of
its address. -/
def repairTuningDrift (config : Config) (env : PassEnv) (vip : VirtualIP)
    (healthyBackends : List BackendSpec) (rolloutHeld : Bool) :
    Effect Node Empty (TuningDriftRepairResult × Option String) :=
  if config.tuningDriftPolicy = .preserve then pure ({}, none)
  else if config.rollouts && !rolloutHeld then
    runExclusiveRollouts (fun _ => env.repairLease) {}
      (if !env.repairCurrent then pure ({}, none)
        else repairHeld config env vip healthyBackends)
      (rolloutKeysForAddresses [vip.spec.address])
  else repairHeld config env vip healthyBackends

end Repair

section Pass

variable (config : Config) (env : PassEnv) (vip : VirtualIP) (healthyBackends : List BackendSpec)

/-- Ends the pass with its report. -/
def report (conditions : List Condition) : Effect Node Empty Report :=
  pure { healthyBackends, conditions }

/-- The end of a pass whose data plane is as desired: record whether the VIP serves and
release the drain. -/
def serve (drainHeld : Bool) : Effect Node Empty Report := do
  let (advertised, setErr) ←
    route vip.key (.setServing vip.spec.address (!healthyBackends.isEmpty))
  let (advertised, routeErr) ←
    (if setErr.isNone && drainHeld then route vip.key (.finishDrain vip.spec.address)
      else pure (advertised, setErr))
  report healthyBackends
    [servingCondition vip healthyBackends.length, dataPlaneAppliedCondition,
      routeAdvertisedCondition vip advertised routeErr]

/-- The part of a pass after the config was committed: repair tuning drift, then
serve. -/
def repairAndServe (rolloutHeld drainHeld routeAdvertised : Bool) : Effect Node Empty Report := do
  let node ← Effect.read
  let drifts := node.vpp.tuningDrifts vip.key
  if drifts.isEmpty then serve vip healthyBackends drainHeld
  else
    let (result, err) ← repairTuningDrift config env vip healthyBackends rolloutHeld
    if result.blocked then
      let (advertised, routeErr) ←
        (if drainHeld && !result.drainReleased then
            releaseUpdateDrain vip (!healthyBackends.isEmpty)
          else route vip.key (.setServing vip.spec.address (!healthyBackends.isEmpty)))
      report healthyBackends
        [servingCondition vip healthyBackends.length,
          tuningDriftRepairBlockedCondition vip drifts,
          routeAdvertisedCondition vip advertised routeErr]
    else
      match err with
      | none => serve vip healthyBackends drainHeld
      | some err =>
        let (advertised, routeErr) ←
          (if drainHeld && !result.drainReleased then releaseUpdateDrain vip false
            else if result.routeStateKnown then pure (result.routeAdvertised, result.routeErr)
            else pure (routeAdvertised, none))
        report healthyBackends
          [if result.retainedOldVIP then retainedOldVIPServingCondition err
            else servingDataPlaneApplyFailedCondition err,
            if result.retainedOldVIP then retainedOldVIPDataPlaneCondition err
            else dataPlaneApplyFailedCondition err,
            routeAdvertisedCondition vip advertised routeErr]

/-- The part of a pass after the address was prepared and drained: apply to the data
plane and commit. -/
def applyAndCommit (rolloutHeld drainHeld routeAdvertised : Bool) :
    Effect Node Empty Report := do
  match ← Effect.attempt
      (dataplane (DataPlane.applyVIP config.vpp vip healthyBackends env.now)) with
  | .error err =>
    let (advertised, routeErr) ←
      (if drainHeld then releaseUpdateDrain vip false
        else route vip.key (.setServing vip.spec.address false))
    report healthyBackends
      [servingDataPlaneApplyFailedCondition err, dataPlaneApplyFailedCondition err,
        routeAdvertisedCondition vip advertised routeErr]
  | .ok _ =>
    match ← Effect.attempt (commitLastConfig env vip) with
    | .error err =>
      let (advertised, routeErr) ←
        (if drainHeld then releaseUpdateDrain vip false else pure (routeAdvertised, none))
      report healthyBackends
        [lastConfigPersistFailedCondition err,
          routeAdvertisedCondition vip advertised routeErr]
    | .ok _ =>
      setLastAppliedVIP vip
      repairAndServe config env vip healthyBackends rolloutHeld drainHeld routeAdvertised

/-- The part of a pass that drains the address before a disruptive update. -/
def drainAndApply (rolloutHeld : Bool) : Effect Node Empty Report := do
  let (drained, drainErr) ← route vip.key (.beginDrain vip.spec.address true)
  match drainErr with
  | some err =>
    report healthyBackends
      [servingCondition vip healthyBackends.length,
        routeAdvertisedCondition vip false (some err)]
  | none =>
    if !drained then
      report healthyBackends
        [servingCondition vip healthyBackends.length,
          routeAdvertisedCondition vip false
            (some ("VIP address " ++ vip.spec.address ++
              " is already draining for another VIP"))]
    else
      match (if !healthyBackends.isEmpty then
          sleepContext config.drainDuration env.drainSleepErr
        else none) with
      | some err =>
        let (advertised, routeErr) ← releaseUpdateDrain vip false
        report healthyBackends
          [servingDataPlaneApplyFailedCondition err, dataPlaneApplyFailedCondition err,
            routeAdvertisedCondition vip advertised routeErr]
      | none => applyAndCommit config env vip healthyBackends rolloutHeld true false

/-- `reconcileApplied`. -/
def reconcileApplied (rolloutHeld drainBeforeApply : Bool) : Effect Node Empty Report := do
  match ← Effect.attempt (persistPendingConfig env vip) with
  | .error err =>
    report healthyBackends
      [lastConfigPersistFailedCondition err, routeAdvertisedCondition vip false none]
  | .ok _ =>
    let (advertised, routeErr) ← route vip.key (.prepareAddressChange vip.spec.address)
    match routeErr with
    | some err =>
      report healthyBackends
        [servingCondition vip healthyBackends.length,
          routeAdvertisedCondition vip advertised (some err)]
    | none =>
      if drainBeforeApply then drainAndApply config env vip healthyBackends rolloutHeld
      else applyAndCommit config env vip healthyBackends rolloutHeld false advertised

end Pass

/-- The backends that a pass takes as healthy: all of them without a health check. -/
def healthyBackendsOf (env : PassEnv) (vip : VirtualIP) : List BackendSpec :=
  if vip.spec.healthCheck.isSome then env.tracked else vip.spec.backends

/-- `reconcile` for the current object of the reconciler; no report where the leases were
not acquired or the object was replaced meanwhile. -/
def reconcile (config : Config) (env : PassEnv) (vip : VirtualIP) :
    Effect Node Empty (Option Report) := do
  let healthyBackends := healthyBackendsOf env vip
  let plan ← planVIPUpdate config env vip
  if config.rollouts && !plan.rolloutKeys.isEmpty then
    let (reported, _) ← runExclusiveRollouts env.planLease none
      (if !env.stillCurrent then pure (none, none)
        else do
          let reported ←
            reconcileApplied config env vip healthyBackends true plan.drainBeforeApply
          pure (some reported, none))
      plan.rolloutKeys
    pure reported
  else
    let reported ← reconcileApplied config env vip healthyBackends false plan.drainBeforeApply
    pure (some reported)

section Delete

/-- The answers to one attempt of a deletion. -/
structure DeleteEnv where
  deleteLastErr : Option String := none
  deletePendingErr : Option String := none
  deleteHealthErr : Option String := none

/-- A store transaction whose failure is only logged. -/
def tryTransaction (err : Option String) (change : Store → Store) : Effect Node Empty Unit :=
  match err with
  | some _ => pure ()
  | none => Effect.modify fun node => { node with store := change node.store }

/-- The part of `handleDelete` after the route was withdrawn: remove the VIP from the data
plane and forget its local state. -/
def finishDelete (config : Config) (env : DeleteEnv) (vip : VirtualIP) :
    Effect Node Empty Bool := do
  match ← Effect.attempt (dataplane (DataPlane.removeVIP config.vpp vip)) with
  | .error (_ : String) => pure false
  | .ok _ =>
    tryTransaction env.deleteLastErr fun store => store.deleteLastConfig vip.key.text
    tryTransaction env.deletePendingErr fun store => store.deletePendingConfig vip.key.text
    tryTransaction env.deleteHealthErr fun store => store.deleteHealthStatesForVIP vip.key.text
    pure true

/-- `handleDelete`: whether the cleanup of a deleted VIP succeeded.  The route goes first;
the local state is kept for a retry until both it and the VIP are gone. -/
def handleDelete (config : Config) (env : DeleteEnv) (vip : VirtualIP) :
    Effect Node Empty Bool := do
  let (_, routeErr) ← route vip.key (.delete vip.spec.address)
  match routeErr with
  | some _ => pure false
  | none => finishDelete config env vip

end Delete

end ArcaLB.Agent
