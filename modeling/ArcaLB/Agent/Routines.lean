import ArcaLB.Library.Routine
import ArcaLB.Agent.Reconciler

/-!
# Passes among other passes

The reconcilers of several VIPs share the coordinator, so that their passes interleave
wherever none of them holds a lock.  The routines below are the passes of
`ArcaLB.Agent.Reconciler` with these points in sight: a call of the store, of the data
plane or of a reconciler's own memory is one section, and a call of the route coordinator
is a request.  Run alone, each of them is the pass it comes from.
-/

namespace ArcaLB.Agent

/-- A part of a pass: sections on the node, and calls of the route coordinator. -/
abbrev Steps := Routine Node Routing.Call (Bool × Option String)

namespace Steps

open Routine (ask atomic)

/-- Sets the serving state and ends the drain of an update. -/
def releaseUpdateDrain (vip : VirtualIP) (serving : Bool) : Steps (Bool × Option String) := do
  let (advertised, setErr) ← ask (.setServing vip.spec.address serving)
  match setErr with
  | some err => pure (advertised, some err)
  | none => ask (.finishDrain vip.spec.address)

/-- Runs `body` under the leases of all keys, taken in order. -/
def runExclusiveRollouts {α : Type} (lease : String → LeaseReply) (skipped : α)
    (body : Steps (α × Option String)) : List String → Steps (α × Option String)
  | [] => body
  | key :: rest =>
    match (lease key).acquireErr with
    | some err => pure (skipped, some err)
    | none => do
        let (value, err) ← runExclusiveRollouts lease skipped body rest
        pure (value, err <|> (lease key).releaseErr)

/-- The pass's plan, from the coordinator's state when it asks. -/
def planVIPUpdate (config : Config) (env : PassEnv) (vip : VirtualIP) : Steps VipUpdatePlan := do
  let disruptive : VipUpdatePlan :=
    { rolloutKeys := rolloutKeysForAddresses [vip.spec.address], drainBeforeApply := true }
  let node ← atomic Effect.read
  match node.routing.coordinator.pendingAddressChange vip.key vip.spec.address with
  | some previous => pure { rolloutKeys := rolloutKeysForAddresses [previous, vip.spec.address] }
  | none =>
    match ← atomic (Effect.attempt (needsDrainForVIPUpdate config env vip)) with
    | .error _ => pure disruptive
    | .ok true => pure disruptive
    | .ok false =>
      match ← atomic (Effect.attempt
          (dataplane (DataPlane.needsDrainForRetainedVIP config.vpp vip))) with
      | .error _ => pure disruptive
      | .ok true => pure disruptive
      | .ok false => pure {}

section Repair

/-- Ends the drain of a failed repair. -/
def releaseRepairDrain (vip : VirtualIP) (serving : Bool) (err : String) :
    Steps (TuningDriftRepairResult × Option String) := do
  let (advertised, releaseErr) ← releaseUpdateDrain vip serving
  let result : TuningDriftRepairResult :=
    { routeAdvertised := advertised
      routeErr := releaseErr
      routeStateKnown := true
      drainReleased := true }
  match releaseErr with
  | some releaseErr =>
    pure (result, some (err ++ "; additionally failed to release route drain: " ++ releaseErr))
  | none => pure (result, some err)

/-- `repairTuningDrift` with the leases held: drain, recreate, restore. -/
def repairHeld (config : Config) (env : PassEnv) (vip : VirtualIP)
    (healthyBackends : List BackendSpec) : Steps (TuningDriftRepairResult × Option String) := do
  let hasHealthy := !healthyBackends.isEmpty
  let (drained, drainErr) ← ask (.beginDrain vip.spec.address false)
  match drainErr with
  | some err =>
    pure ({ routeErr := some err, routeStateKnown := true },
      some ("failed to drain route before VIP recreate: " ++ err))
  | none =>
    if !drained then pure ({ blocked := true }, none)
    else
      match (if hasHealthy then sleepContext config.drainDuration env.repairSleepErr
        else none) with
      | some err => releaseRepairDrain vip hasHealthy err
      | none =>
        match ← atomic (Effect.attempt
            (dataplane (DataPlane.recreateVIP config.vpp vip healthyBackends))) with
        | .error err =>
          let restoreRoute := hasHealthy && err.routeSafeToRestore
          let (result, retErr) ← releaseRepairDrain vip restoreRoute
            ("failed to recreate VIP: " ++ err.text)
          pure ({ result with
            retainedOldVIP :=
              restoreRoute && result.routeErr.isNone && result.routeAdvertised }, retErr)
        | .ok _ =>
          let (advertised, releaseErr) ← ask (.finishDrain vip.spec.address)
          let result : TuningDriftRepairResult :=
            { routeAdvertised := advertised
              routeErr := releaseErr
              routeStateKnown := true
              drainReleased := true }
          match releaseErr with
          | some err =>
            pure (result,
              some ("failed to release route drain after VIP recreate: " ++ err))
          | none => pure (result, none)

/-- Repairs drift as the policy allows. -/
def repairTuningDrift (config : Config) (env : PassEnv) (vip : VirtualIP)
    (healthyBackends : List BackendSpec) (rolloutHeld : Bool) :
    Steps (TuningDriftRepairResult × Option String) :=
  if config.tuningDriftPolicy = .preserve then pure ({}, none)
  else if config.rollouts && !rolloutHeld then
    runExclusiveRollouts (fun _ => env.repairLease) {}
      (if !env.repairCurrent then pure ({}, none)
        else repairHeld config env vip healthyBackends)
      (rolloutKeysForAddresses [vip.spec.address])
  else repairHeld config env vip healthyBackends

end Repair

section Pass

variable (config : Config) (env : PassEnv) (vip : VirtualIP) (healthyBackends : List BackendSpec)

/-- Ends the pass with its report. -/
def report (conditions : List Condition) : Steps Report :=
  pure { healthyBackends, conditions }

/-- The last stage: the serving state is set and a drain held is ended. -/
def serve (drainHeld : Bool) : Steps Report := do
  let (advertised, setErr) ← ask (.setServing vip.spec.address (!healthyBackends.isEmpty))
  let (advertised, routeErr) ←
    (if setErr.isNone && drainHeld then ask (.finishDrain vip.spec.address)
      else pure (advertised, setErr))
  report healthyBackends
    [servingCondition vip healthyBackends.length, dataPlaneAppliedCondition,
      routeAdvertisedCondition vip advertised routeErr]

/-- Repairs drift if there is any, and serves. -/
def repairAndServe (rolloutHeld drainHeld routeAdvertised : Bool) : Steps Report := do
  let node ← atomic Effect.read
  let drifts := node.vpp.tuningDrifts vip.key
  if drifts.isEmpty then serve vip healthyBackends drainHeld
  else
    let (result, err) ← repairTuningDrift config env vip healthyBackends rolloutHeld
    if result.blocked then
      let (advertised, routeErr) ←
        (if drainHeld && !result.drainReleased then
            releaseUpdateDrain vip (!healthyBackends.isEmpty)
          else ask (.setServing vip.spec.address (!healthyBackends.isEmpty)))
      report healthyBackends
        [servingCondition vip healthyBackends.length,
          tuningDriftRepairBlockedCondition vip drifts,
          routeAdvertisedCondition vip advertised routeErr]
    else
      match err with
      | none => serve vip healthyBackends drainHeld
      | some err =>
        let (advertised, routeErr) ←
          (if drainHeld && !result.drainReleased then releaseUpdateDrain vip false
            else if result.routeStateKnown then pure (result.routeAdvertised, result.routeErr)
            else pure (routeAdvertised, none))
        report healthyBackends
          [if result.retainedOldVIP then retainedOldVIPServingCondition err
            else servingDataPlaneApplyFailedCondition err,
            if result.retainedOldVIP then retainedOldVIPDataPlaneCondition err
            else dataPlaneApplyFailedCondition err,
            routeAdvertisedCondition vip advertised routeErr]

/-- Applies the VIP, commits its configuration and goes on to serve. -/
def applyAndCommit (rolloutHeld drainHeld routeAdvertised : Bool) : Steps Report := do
  match ← atomic (Effect.attempt
      (dataplane (DataPlane.applyVIP config.vpp vip healthyBackends env.now))) with
  | .error err =>
    let (advertised, routeErr) ←
      (if drainHeld then releaseUpdateDrain vip false
        else ask (.setServing vip.spec.address false))
    report healthyBackends
      [servingDataPlaneApplyFailedCondition err, dataPlaneApplyFailedCondition err,
        routeAdvertisedCondition vip advertised routeErr]
  | .ok _ =>
    match ← atomic (Effect.attempt (commitLastConfig env vip)) with
    | .error err =>
      let (advertised, routeErr) ←
        (if drainHeld then releaseUpdateDrain vip false else pure (routeAdvertised, none))
      report healthyBackends
        [lastConfigPersistFailedCondition err,
          routeAdvertisedCondition vip advertised routeErr]
    | .ok _ =>
      atomic (setLastAppliedVIP vip)
      repairAndServe config env vip healthyBackends rolloutHeld drainHeld routeAdvertised

/-- Drains the address before it applies. -/
def drainAndApply (rolloutHeld : Bool) : Steps Report := do
  let (drained, drainErr) ← ask (.beginDrain vip.spec.address true)
  match drainErr with
  | some err =>
    report healthyBackends
      [servingCondition vip healthyBackends.length,
        routeAdvertisedCondition vip false (some err)]
  | none =>
    if !drained then
      report healthyBackends
        [servingCondition vip healthyBackends.length,
          routeAdvertisedCondition vip false
            (some ("VIP address " ++ vip.spec.address ++
              " is already draining for another VIP"))]
    else
      match (if !healthyBackends.isEmpty then
          sleepContext config.drainDuration env.drainSleepErr
        else none) with
      | some err =>
        let (advertised, routeErr) ← releaseUpdateDrain vip false
        report healthyBackends
          [servingDataPlaneApplyFailedCondition err, dataPlaneApplyFailedCondition err,
            routeAdvertisedCondition vip advertised routeErr]
      | none => applyAndCommit config env vip healthyBackends rolloutHeld true false

/-- The pass once its plan is made and its leases are held. -/
def reconcileApplied (rolloutHeld drainBeforeApply : Bool) : Steps Report := do
  match ← atomic (Effect.attempt (persistPendingConfig env vip)) with
  | .error err =>
    report healthyBackends
      [lastConfigPersistFailedCondition err, routeAdvertisedCondition vip false none]
  | .ok _ =>
    let (advertised, routeErr) ← ask (.prepareAddressChange vip.spec.address)
    match routeErr with
    | some err =>
      report healthyBackends
        [servingCondition vip healthyBackends.length,
          routeAdvertisedCondition vip advertised (some err)]
    | none =>
      if drainBeforeApply then drainAndApply config env vip healthyBackends rolloutHeld
      else applyAndCommit config env vip healthyBackends rolloutHeld false advertised

/-- One pass of `Reconcile`. -/
def reconcile : Steps (Option Report) := do
  let healthyBackends := healthyBackendsOf env vip
  let plan ← planVIPUpdate config env vip
  if config.rollouts && !plan.rolloutKeys.isEmpty then
    let (reported, _) ← runExclusiveRollouts env.planLease none
      (if !env.stillCurrent then pure (none, none)
        else do
          let reported ←
            reconcileApplied config env vip healthyBackends true plan.drainBeforeApply
          pure (some reported, none))
      plan.rolloutKeys
    pure reported
  else
    let reported ← reconcileApplied config env vip healthyBackends false plan.drainBeforeApply
    pure (some reported)

end Pass

/-- `handleDelete`. -/
def handleDelete (config : Config) (env : DeleteEnv) (vip : VirtualIP) : Steps Bool := do
  let (_, routeErr) ← ask (.delete vip.spec.address)
  match routeErr with
  | some _ => pure false
  | none => atomic (finishDelete config env vip)

section Alone

variable (config : Config) (env : PassEnv) (vip : VirtualIP) (healthyBackends : List BackendSpec)

@[simp] theorem run_releaseUpdateDrain (serving : Bool) :
    (releaseUpdateDrain vip serving).run (route vip.key) =
      Agent.releaseUpdateDrain vip serving := by
  simp only [releaseUpdateDrain, Agent.releaseUpdateDrain, Routine.run_bind, Routine.run_ask]
  refine bind_congr fun answer => ?_
  cases answer.2 <;> simp

/-- Leases are held around what the routine does. -/
theorem run_runExclusiveRollouts {α : Type} (lease : String → LeaseReply) (skipped : α)
    (body : Steps (α × Option String)) (keys : List String) :
    (runExclusiveRollouts lease skipped body keys).run (route vip.key) =
      Agent.runExclusiveRollouts lease skipped (body.run (route vip.key)) keys := by
  induction keys with
  | nil => rfl
  | cons key rest ih =>
    simp only [runExclusiveRollouts, Agent.runExclusiveRollouts]
    cases (lease key).acquireErr with
    | some err => rfl
    | none => simp [ih]

@[simp] theorem run_planVIPUpdate :
    (planVIPUpdate config env vip).run (route vip.key) = Agent.planVIPUpdate config env vip := by
  simp only [planVIPUpdate, Agent.planVIPUpdate, Routine.run_bind, Routine.run_atomic]
  refine bind_congr fun node => ?_
  cases node.routing.coordinator.pendingAddressChange vip.key vip.spec.address with
  | some previous => rfl
  | none =>
    simp only [Routine.run_bind, Routine.run_atomic]
    refine bind_congr fun needs => ?_
    rcases needs with _ | _ | _
    · rfl
    · simp only [Routine.run_bind, Routine.run_atomic]
      refine bind_congr fun retained => ?_
      rcases retained with _ | _ | _ <;> rfl
    · rfl

@[simp] theorem run_releaseRepairDrain (serving : Bool) (err : String) :
    (releaseRepairDrain vip serving err).run (route vip.key) =
      Agent.releaseRepairDrain vip serving err := by
  simp only [releaseRepairDrain, Agent.releaseRepairDrain, Routine.run_bind,
    run_releaseUpdateDrain]
  refine bind_congr fun released => ?_
  cases released.2 <;> rfl

@[simp] theorem run_repairHeld :
    (repairHeld config env vip healthyBackends).run (route vip.key) =
      Agent.repairHeld config env vip healthyBackends := by
  simp only [repairHeld, Agent.repairHeld, Routine.run_bind, Routine.run_ask]
  refine bind_congr fun answer => ?_
  obtain ⟨drained, drainErr⟩ := answer
  cases drainErr with
  | some err => rfl
  | none =>
    cases drained with
    | false => rfl
    | true =>
      simp only [Bool.not_true, Bool.false_eq_true, ↓reduceIte]
      generalize (if (!healthyBackends.isEmpty) = true then
        sleepContext config.drainDuration env.repairSleepErr else none) = interrupted
      cases interrupted with
      | some err => simp
      | none =>
        simp only [Routine.run_bind, Routine.run_atomic]
        refine bind_congr fun recreated => ?_
        cases recreated with
        | error err => simp
        | ok _ =>
          simp only [Routine.run_bind, Routine.run_ask]
          refine bind_congr fun released => ?_
          cases released.2 <;> rfl

/-- A repair that runs alone is `repairTuningDrift`. -/
@[simp] theorem run_repairTuningDrift (rolloutHeld : Bool) :
    (repairTuningDrift config env vip healthyBackends rolloutHeld).run (route vip.key) =
      Agent.repairTuningDrift config env vip healthyBackends rolloutHeld := by
  unfold repairTuningDrift Agent.repairTuningDrift
  split
  · rfl
  · split
    · rw [run_runExclusiveRollouts]
      congr 1
      split
      · rfl
      · simp
    · simp

@[simp] theorem run_report (conditions : List Condition) :
    (report healthyBackends conditions).run (route vip.key) =
      Agent.report healthyBackends conditions := rfl

@[simp] theorem run_serve (drainHeld : Bool) :
    (serve vip healthyBackends drainHeld).run (route vip.key) =
      Agent.serve vip healthyBackends drainHeld := by
  simp only [serve, Agent.serve, Routine.run_bind, Routine.run_ask]
  refine bind_congr fun ⟨advertised, setErr⟩ => ?_
  cases setErr <;> cases drainHeld <;> simp

@[simp] theorem run_repairAndServe (rolloutHeld drainHeld routeAdvertised : Bool) :
    (repairAndServe config env vip healthyBackends rolloutHeld drainHeld routeAdvertised).run
        (route vip.key) =
      Agent.repairAndServe config env vip healthyBackends rolloutHeld drainHeld
        routeAdvertised := by
  simp only [repairAndServe, Agent.repairAndServe, Routine.run_bind, Routine.run_atomic]
  refine bind_congr fun node => ?_
  split
  · simp
  · simp only [Routine.run_bind, run_repairTuningDrift]
    refine bind_congr fun returned => ?_
    obtain ⟨result, err⟩ := returned
    dsimp only
    split
    · split <;> simp
    · cases err with
      | none => simp
      | some err =>
        dsimp only
        (repeat' split) <;> simp

@[simp] theorem run_applyAndCommit (rolloutHeld drainHeld routeAdvertised : Bool) :
    (applyAndCommit config env vip healthyBackends rolloutHeld drainHeld routeAdvertised).run
        (route vip.key) =
      Agent.applyAndCommit config env vip healthyBackends rolloutHeld drainHeld
        routeAdvertised := by
  simp only [applyAndCommit, Agent.applyAndCommit, Routine.run_bind, Routine.run_atomic]
  refine bind_congr fun applied => ?_
  cases applied with
  | error err => cases drainHeld <;> simp
  | ok _ =>
    simp only [Routine.run_bind, Routine.run_atomic]
    refine bind_congr fun committed => ?_
    cases committed with
    | error err => cases drainHeld <;> simp
    | ok _ => simp

@[simp] theorem run_drainAndApply (rolloutHeld : Bool) :
    (drainAndApply config env vip healthyBackends rolloutHeld).run (route vip.key) =
      Agent.drainAndApply config env vip healthyBackends rolloutHeld := by
  simp only [drainAndApply, Agent.drainAndApply, Routine.run_bind, Routine.run_ask]
  refine bind_congr fun answer => ?_
  obtain ⟨drained, drainErr⟩ := answer
  cases drainErr with
  | some err => rfl
  | none =>
    cases drained with
    | false => rfl
    | true =>
      simp only [Bool.not_true, Bool.false_eq_true, ↓reduceIte]
      generalize (if (!healthyBackends.isEmpty) = true then
        sleepContext config.drainDuration env.drainSleepErr else none) = interrupted
      cases interrupted <;> simp

@[simp] theorem run_reconcileApplied (rolloutHeld drainBeforeApply : Bool) :
    (reconcileApplied config env vip healthyBackends rolloutHeld drainBeforeApply).run
        (route vip.key) =
      Agent.reconcileApplied config env vip healthyBackends rolloutHeld drainBeforeApply := by
  simp only [reconcileApplied, Agent.reconcileApplied, Routine.run_bind, Routine.run_atomic]
  refine bind_congr fun persisted => ?_
  cases persisted with
  | error err => rfl
  | ok _ =>
    simp only [Routine.run_bind, Routine.run_ask]
    refine bind_congr fun returned => ?_
    obtain ⟨advertised, routeErr⟩ := returned
    cases routeErr with
    | some err => rfl
    | none => cases drainBeforeApply <;> simp

/-- **Two levels.** Left to itself, a pass or a deletion that is made of steps ends as the
sequential one does, with the same answers and the same node. -/
theorem alone_eq_sequential :
    (reconcile config env vip).run (route vip.key) = Agent.reconcile config env vip ∧
      ∀ env, (handleDelete config env vip).run (route vip.key) =
        Agent.handleDelete config env vip := by
  constructor
  · simp only [reconcile, Agent.reconcile, Routine.run_bind, run_planVIPUpdate]
    refine bind_congr fun plan => ?_
    split
    · rw [Routine.run_bind, run_runExclusiveRollouts]
      congr 2
      split
      · rfl
      · simp
    · simp
  · intro env
    simp only [handleDelete, Agent.handleDelete, Routine.run_bind, Routine.run_ask]
    refine bind_congr fun answer => ?_
    cases answer.2 with
    | some err => rfl
    | none => simp

end Alone

end Steps

end ArcaLB.Agent
