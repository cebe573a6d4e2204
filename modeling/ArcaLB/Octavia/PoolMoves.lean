import ArcaLB.Octavia.Exactness
import ArcaLB.Octavia.Ports

/-!
# Listeners that get another pool

`listener_update` puts another pool on a VirtualIP in one of two ways.  With the listener enabled
it restores the backends from Octavia's records of the new pool; with the listener disabled it
only takes the backends away.  `FromPool` says that everything a VirtualIP carries for its pool is
the new pool's, and `MovesClean` is what has to hold before for it to hold after.
-/

namespace ArcaLB.Octavia

variable {python : Python} {octavia : Database} {poolID : String}

/-- What Octavia's members of a pool stand for. -/
def Database.listing (octavia : Database) (poolID : String) : Listing :=
  listMembers (listedMembers (octavia.resolvedPool poolID))

/-- The monitor of a pool; `none` where the records of the pool say nothing about it. -/
def Database.monitor (octavia : Database) (poolID : String) : Option (Option HealthMonitor) :=
  poolHealthMonitor octavia (octavia.pool poolID)

/-- Backends, member map, draining members, health check and health monitor are all those of the
pool, or absent. -/
structure FromPool (python : Python) (octavia : Database) (poolID : String) (draft : Draft) :
    Prop where
  backends : draft.spec.backendList ⊆ (octavia.listing poolID).backends
  memberMap : draft.annotations.memberMap.getD [] ⊆ (octavia.listing poolID).memberMap
  draining : draft.annotations.drainingMemberIDs.getD [] ⊆ (octavia.listing poolID).draining
  healthCheck : ∀ check ∈ draft.spec.healthCheck.map HealthCheck.toJson,
    ∃ hm ∈ (octavia.monitor poolID).join, ∃ built,
      buildHealthCheck python octavia poolID hm draft.spec = .ok built ∧ check = built.toJson
  monitor : ∀ id ∈ given draft.annotations.hmID,
    ∃ hm ∈ (octavia.monitor poolID).join, given hm.id = some id

/-- Nothing of another pool is left by a listener's change of pool: with the listener disabled,
what the VirtualIP carries is the new pool's already; otherwise the new pool is known to have no
monitor, or it says nothing about one and there is no health check to keep, or its monitor
replaces the health check and its identifier. -/
def MovesClean (python : Python) (octavia : Database) (poolID : String) (change : ListenerChange)
    (vip : VirtualIP) : Prop :=
  if change.adminState = some false then FromPool python octavia poolID (change.edit vip).draft
  else
    match octavia.monitor poolID with
    | some none => True
    | none => vip.spec.healthCheck = none ∧ given vip.annotations.hmID = none
    | some (some hm) => hm.Fits vip.spec.healthCheck ∧
        ((given hm.id).isSome ∨ given vip.annotations.hmID = none)

/-- The closure that `listener_update` runs for a change of pool. -/
def ListenerChange.move (change : ListenerChange) (octavia : Database) (poolID : String) :
    Mutation :=
  if change.adminState = some false then .listenerUpdate change false
  else .restore poolID (octavia.resolvedPool poolID) (.listener change)

/-! ## The run -/

section Run

variable {world : World} {vip : VirtualIP} {listener : Listener} {change : ListenerChange}

theorem poolID_of_listenerChange (parsed : listenerChange listener = .ok change) :
    change.poolID = listener.poolID := by
  unfold listenerChange at parsed
  dsimp only at parsed
  split at parsed
  all_goals
    obtain ⟨protocol, -, parsed⟩ := Except.exists_of_bind_eq_ok parsed
    split at parsed
    all_goals
      obtain ⟨port, -, parsed⟩ := Except.exists_of_bind_eq_ok parsed
      cases parsed
      rfl

/-- **A change of pool.** One closure is run, on the object as `listener_update` has edited it. -/
theorem ends_listenerUpdate_moved {post : Except Stop Unit → World → Prop} (sane : world.Sane)
    (found : findByListener python world listener.id = some vip)
    (parsed : listenerChange listener = .ok change) (moves : listener.poolID = some poolID)
    (different : vip.annotations.poolID ≠ some poolID) :
    (listenerUpdate python listener).Ends python post world ↔
      match (change.move world.octavia poolID).apply python world.octavia
        (change.edit vip).draft with
      | .ok draft => post (.ok ())
          (world.replace (patchedTo python world vip (change.edit vip) draft))
      | .error stop => post (.error stop) world := by
  have stored : world.get (change.edit vip).name = some vip :=
    sane.get_of_mem (mem_of_findByListener found).1
  have wanted : change.poolID = some poolID := (poolID_of_listenerChange parsed).trans moves
  have detached : poolDetached listener vip = false := by
    simp [poolDetached, moves]
  have restores : shouldRestorePool listener change vip = true := by
    simp [shouldRestorePool, moves, different]
  have named : given (some poolID) = some poolID := by
    have filtered := Option.filter_eq_some_iff.mp moves
    simpa [given, Option.filter_eq_some_iff] using filtered.2
  rw [listenerUpdate, Call.ends_bind, Call.ends_read, found]
  simp only [Call.after]
  rw [Call.ends_bind, Call.ends_ofExcept, parsed]
  simp only [Call.after, detached, restores]
  by_cases down : change.adminState = some false
  · rw [if_neg fun both => both.1 down, pure_bind, if_neg Bool.false_ne_true, Call.ends_bind,
      ends_updateVirtualIPWithRetry stored rfl, ListenerChange.move, if_pos down]
    exact Iff.rfl
  · have edited : given (change.edit vip).annotations.poolID = some poolID := by
      rw [ListenerChange.edit, wanted]
      exact named
    have pooled : ((Preparation.listener change).apply (change.edit vip).draft).annotations.poolID =
        some poolID := by
      simp [Preparation.apply, ListenerChange.prepare, setAdminStateAnnotation, wanted]
    rw [if_pos ⟨down, trivial, .inr trivial⟩, Call.ends_bind, restoreVirtualIPBackends, edited]
    dsimp only
    rw [Call.ends_bind, Call.ends_read, Call.after, Call.ends_bind, ends_skippable,
      ends_updateVirtualIPWithRetry stored rfl, ListenerChange.move, if_neg down]
    cases applied : Mutation.apply python world.octavia
        (.restore poolID (world.octavia.resolvedPool poolID) (.listener change))
        (change.edit vip).draft with
    | ok draft => exact Iff.rfl
    | error stop =>
      cases stop with
      | skipped => exact absurd applied (mutateRestore_ne_skipped pooled)
      | fault | api => exact Iff.rfl

end Run

/-! ## What is left on the object -/

/-- A built check depends on the listener port only. -/
theorem buildHealthCheck_congr {hm : HealthMonitor} {first second : Spec}
    (same : first.vipPort = second.vipPort) :
    buildHealthCheck python octavia poolID hm first =
      buildHealthCheck python octavia poolID hm second := by
  have resolved (pool : String) (members : List Member) :
      resolveHealthCheckPort octavia pool first members =
        resolveHealthCheckPort octavia pool second members := by
    unfold resolveHealthCheckPort
    rw [same]
  unfold buildHealthCheck
  simp only [resolved]

/-- What is from the pool is seen in the stored fields. -/
theorem FromPool.congr {first second : Draft} (holds : FromPool python octavia poolID first)
    (backends : first.spec.backendList = second.spec.backendList)
    (memberMap : first.annotations.memberMap = second.annotations.memberMap)
    (draining : first.annotations.drainingMemberIDs = second.annotations.drainingMemberIDs)
    (check : first.spec.healthCheck.map HealthCheck.toJson =
      second.spec.healthCheck.map HealthCheck.toJson)
    (hmID : first.annotations.hmID = second.annotations.hmID)
    (port : first.spec.vipPort = second.spec.vipPort) : FromPool python octavia poolID second where
  backends := backends ▸ holds.backends
  memberMap := memberMap ▸ holds.memberMap
  draining := draining ▸ holds.draining
  healthCheck := by
    simp only [← check, buildHealthCheck_congr port.symm]
    exact holds.healthCheck
  monitor := hmID ▸ holds.monitor

/-- The monitor of the pool as the restore finds it. -/
theorem monitor_resolvedPool (octavia : Database) (poolID : String) :
    poolHealthMonitor octavia (octavia.resolvedPool poolID) = octavia.monitor poolID := by
  unfold Database.resolvedPool Database.monitor
  cases octavia.pool poolID <;> rfl

section Moved

variable {world : World} {vip : VirtualIP} {change : ListenerChange}

/-- The listener port after the edit. -/
theorem vipPort_edit (change : ListenerChange) (vip : VirtualIP) :
    validPort ((change.port.or (change.port.or vip.spec.port)).or vip.spec.port) =
      validPort (change.port.or vip.spec.port) := by
  cases change.port <;> cases vip.spec.port <;> rfl

/-- A disabled listener's VirtualIP keeps what it has, apart from the backends. -/
theorem fromPool_disabled_iff (down : change.adminState = some false) :
    FromPool python octavia poolID (patchedTo python world vip (change.edit vip)
        (mutateListenerUpdate change false (change.edit vip).draft)).draft ↔
      FromPool python octavia poolID (change.edit vip).draft := by
  have backends : (patchedTo python world vip (change.edit vip)
      (mutateListenerUpdate change false (change.edit vip).draft)).draft.spec.backendList =
      (change.edit vip).draft.spec.backendList := by
    simp [patchedTo, VirtualIP.patched, Spec.merge, mutateListenerUpdate, ListenerChange.edit,
      VirtualIP.draft, Spec.backendList, down]
  have check : (patchedTo python world vip (change.edit vip) (mutateListenerUpdate change false
      (change.edit vip).draft)).draft.spec.healthCheck.map HealthCheck.toJson =
      (change.edit vip).draft.spec.healthCheck.map HealthCheck.toJson := by
    have merged := (Refreshed.same : Refreshed vip.spec.healthCheck vip.spec.healthCheck).merged
    simpa [patchedTo, VirtualIP.patched, Spec.merge, mutateListenerUpdate, ListenerChange.edit,
      VirtualIP.draft, down, mergedCheck] using merged
  have port : (patchedTo python world vip (change.edit vip) (mutateListenerUpdate change false
      (change.edit vip).draft)).draft.spec.vipPort = (change.edit vip).draft.spec.vipPort := by
    simpa [patchedTo, VirtualIP.patched, Spec.merge, mutateListenerUpdate, ListenerChange.edit,
      VirtualIP.draft, Spec.vipPort, down] using vipPort_edit change vip
  exact ⟨
    fun holds => holds.congr backends (kept_eq id _) (kept_eq id _) check (kept_eq id _) port,
    fun holds => holds.congr backends.symm (kept_eq id _).symm (kept_eq id _).symm check.symm
      (kept_eq id _).symm port.symm⟩

/-- The object of a listener with another pool, with the members of the pool. -/
def relisted (octavia : Database) (poolID : String) (change : ListenerChange) (vip : VirtualIP) :
    Draft :=
  (change.prepare (change.edit vip).draft).relist (octavia.listing poolID)

/-- The backends, the member map and the draining members of a restored object are the pool's, so
the health check decides. -/
theorem fromPool_relisted_iff (check : Option HealthCheck) (hmID : Option String) :
    FromPool python octavia poolID (patchedTo python world vip (change.edit vip)
        ((relisted octavia poolID change vip).recheck check hmID)).draft ↔
      (∀ json ∈ (mergedCheck vip.spec.healthCheck check).map HealthCheck.toJson,
        ∃ hm ∈ (octavia.monitor poolID).join, ∃ built,
          buildHealthCheck python octavia poolID hm (relisted octavia poolID change vip).spec =
            .ok built ∧ json = built.toJson) ∧
        ∀ id ∈ given hmID, ∃ hm ∈ (octavia.monitor poolID).join, given hm.id = some id := by
  have monitor : (patchedTo python world vip (change.edit vip)
      ((relisted octavia poolID change vip).recheck check hmID)).draft.annotations.hmID = hmID :=
    kept_eq id _
  have port : (patchedTo python world vip (change.edit vip)
      ((relisted octavia poolID change vip).recheck check hmID)).draft.spec.vipPort =
      (relisted octavia poolID change vip).spec.vipPort := by
    simp only [patchedTo, VirtualIP.patched, Spec.merge, relisted, Draft.relist, Draft.recheck,
      ListenerChange.prepare, ListenerChange.edit, VirtualIP.draft, Spec.vipPort]
    cases change.port <;> cases vip.spec.port <;> rfl
  constructor
  · intro holds
    refine ⟨fun json member => ?_, monitor ▸ holds.monitor⟩
    simpa only [buildHealthCheck_congr port] using holds.healthCheck json member
  · rintro ⟨checked, named⟩
    have memberMap : (patchedTo python world vip (change.edit vip)
        ((relisted octavia poolID change vip).recheck check hmID)).draft.annotations.memberMap =
        (relisted octavia poolID change vip).annotations.memberMap := kept_eq id _
    have draining : (patchedTo python world vip (change.edit vip) ((relisted octavia poolID change
        vip).recheck check hmID)).draft.annotations.drainingMemberIDs =
        (relisted octavia poolID change vip).annotations.drainingMemberIDs := kept_eq id _
    refine ⟨?_, ?_, ?_, fun json member => ?_, monitor.symm ▸ named⟩
    · change backendsForAdminState _ _ ⊆ _
      unfold backendsForAdminState
      split
      · exact List.Subset.refl _
      · exact List.nil_subset _
    · rw [memberMap]
      change (if (octavia.listing poolID).memberMap = [] then none
        else some (octavia.listing poolID).memberMap).getD [] ⊆ _
      split
      · exact List.nil_subset _
      · exact List.Subset.refl _
    · rw [draining]
      change (if (octavia.listing poolID).draining.filter (· ≠ "") = [] then none
        else some ((octavia.listing poolID).draining.filter (· ≠ ""))).getD [] ⊆ _
      split
      · exact List.nil_subset _
      · exact List.filter_subset_self _
    · simpa only [buildHealthCheck_congr port] using checked json member

/-- A refreshed health check is there if one was there before. -/
theorem isSome_refreshed {vipSpec spec result : Spec} {members : List Member}
    (done : refreshHealthCheckPort octavia poolID vipSpec members spec = .ok result) :
    ∃ check, result = { spec with healthCheck := check } ∧
      check.isSome = spec.healthCheck.isSome := by
  rw [refreshHealthCheckPort_eq] at done
  cases before : spec.healthCheck with
  | none =>
    rw [before] at done
    cases done
    exact ⟨none, by rw [← before], rfl⟩
  | some old =>
    rw [before] at done
    dsimp only at done
    split at done
    · cases resolved : resolveHealthCheckPort octavia poolID vipSpec members with
      | error stop =>
        rw [resolved] at done
        cases done
      | ok port =>
        rw [resolved] at done
        cases done
        exact ⟨_, rfl, rfl⟩
    · cases done
      exact ⟨some old, by rw [← before], rfl⟩

theorem given_given_or (first second : Option String) :
    given ((given first).or second) = (given first).or (given second) := by
  cases known : given first with
  | none => rfl
  | some text =>
    have nonempty := (Option.filter_eq_some_iff.mp known).2
    simpa [given, Option.filter_eq_some_iff] using nonempty

/-- What a restore leaves, for each thing that the records of the pool say about its monitor. -/
theorem fromPool_restored_iff {draft : Draft}
    (applied : mutateRestore python octavia poolID (octavia.resolvedPool poolID) (.listener change)
      (change.edit vip).draft = .ok draft) :
    FromPool python octavia poolID (patchedTo python world vip (change.edit vip) draft).draft ↔
      match octavia.monitor poolID with
      | some none => True
      | none => vip.spec.healthCheck = none ∧ given vip.annotations.hmID = none
      | some (some hm) => hm.Fits vip.spec.healthCheck ∧
          ((given hm.id).isSome ∨ given vip.annotations.hmID = none) := by
  obtain ⟨_, -, applied⟩ := Except.exists_of_bind_eq_ok applied
  obtain ⟨_, -, applied⟩ := Except.exists_of_bind_eq_ok applied
  change restoreHealthCheck python octavia poolID _ _ (relisted octavia poolID change vip) = _
    at applied
  rw [restoreHealthCheck, monitor_resolvedPool] at applied
  cases told : octavia.monitor poolID with
  | none =>
    rw [told] at applied
    obtain ⟨spec, refreshed, applied⟩ := Except.exists_of_bind_eq_ok applied
    cases applied
    obtain ⟨check, rfl, present⟩ := isSome_refreshed refreshed
    refine (fromPool_relisted_iff check vip.annotations.hmID).trans ?_
    simp only [told, Option.join_none, Option.not_mem_none, false_and, exists_false]
    refine and_congr ?_ Option.eq_none_iff_forall_not_mem.symm
    change _ = vip.spec.healthCheck.isSome at present
    cases check with
    | none =>
      have absent := Option.isSome_eq_false_iff.mp present.symm
      exact iff_of_true nofun (Option.isNone_iff_eq_none.mp absent)
    | some check =>
      obtain ⟨old, before⟩ := Option.isSome_iff_exists.mp present.symm
      rw [before]
      exact iff_of_false (fun none => none _ rfl) nofun
  | some monitor =>
    rw [told] at applied
    cases monitor with
    | none =>
      cases applied
      exact iff_of_true ((fromPool_relisted_iff none none).mpr ⟨nofun, nofun⟩) trivial
    | some hm =>
      obtain ⟨check, built, applied⟩ := Except.exists_of_bind_eq_ok applied
      cases applied
      refine (fromPool_relisted_iff (some check) _).trans (and_congr ?_ ?_)
      · have merged : ∃ merged, mergedCheck vip.spec.healthCheck (some check) = some merged := by
          cases vip.spec.healthCheck with
          | none => exact ⟨check, rfl⟩
          | some old => exact ⟨old.merge check, rfl⟩
        obtain ⟨merged, is⟩ := merged
        rw [← (built_of_buildHealthCheck built).merged_iff, is, told]
        simp [built]
      · rw [told]
        change (∀ id ∈ given ((given hm.id).or vip.annotations.hmID), _) ↔ _
        rw [given_given_or]
        cases own : given hm.id <;> simp [own, Option.eq_none_iff_forall_not_mem]

end Moved

/-- A call that has returned so ends as every condition on its end says. -/
theorem Call.ends_iff_of_run {α : Type} {call : Call α} {world after : World}
    {result : Except Stop α} {post : Except Stop α → World → Prop}
    (ran : Routine.run (server python) call.run world = (.ok result, after)) :
    call.Ends python post world ↔ post result after := by
  unfold Call.Ends Effect.wp
  rw [ran]

/-- **Nothing of the old pool remains where the move is clean.** For every listener update that
gives a VirtualIP another pool and returns normally. -/
theorem listenerUpdate_leaves_new_pool_iff {world after : World} {vip : VirtualIP}
    {listener : Listener} {change : ListenerChange} {old : String} (sane : world.Sane)
    (found : findByListener python world listener.id = some vip)
    (parsed : listenerChange listener = .ok change) (had : vip.annotations.poolID = some old)
    (moves : listener.poolID = some poolID) (different : old ≠ poolID)
    (returns : Routine.run (server python) (listenerUpdate python listener).run world =
      (.ok (.ok ()), after)) :
    (∃ updated, after.get vip.name = some updated ∧
      FromPool python world.octavia poolID updated.draft) ↔
        MovesClean python world.octavia poolID change vip := by
  have stored := (mem_of_findByListener found).1
  have other : vip.annotations.poolID ≠ some poolID := by
    rw [had]
    exact fun same => different (Option.some.inj same)
  have whole : (listenerUpdate python listener).Ends python
      (fun result world => result = .ok () ∧ world = after) world :=
    (Call.ends_iff_of_run returns).mpr ⟨rfl, rfl⟩
  rw [ends_listenerUpdate_moved sane found parsed moves other] at whole
  split at whole
  next draft applied =>
    obtain ⟨-, rfl⟩ := whole
    rw [get_patchedTo sane stored]
    simp only [Option.some.injEq, exists_eq_left']
    unfold ListenerChange.move at applied
    unfold MovesClean
    by_cases down : change.adminState = some false
    · rw [if_pos down] at applied ⊢
      cases applied
      exact fromPool_disabled_iff down
    · rw [if_neg down] at applied ⊢
      exact fromPool_restored_iff applied
  next => cases whole.1

/-- A VirtualIP with a member and a monitored health check. -/
def monitoredVirtualIP : VirtualIP :=
  { checkedVirtualIP with
    annotations := { checkedVirtualIP.annotations with hmID := some "monitor" } }

/-- Octavia lists the pool `other` without members; what it says of the pool's monitor is left
open. -/
def twoPools (monitor : Option (Option MonitorEntry)) : World where
  vips := [monitoredVirtualIP]
  version := 7
  octavia := { Database.empty with
    pool := fun id =>
      if id = "other" then some ⟨some "listener", some "lb", [], monitor, none⟩ else none }

/-- A listener with the default pool `other`. -/
def otherPool (adminStateUp : Option Bool) : Listener :=
  ⟨"listener", none, none, adminStateUp, some (some "other")⟩

/-- A listener moves to a pool without a monitor. -/
theorem listenerUpdate_leaves_new_pool_unmonitored :
    ∃ updated after, Routine.run (server .plain) (listenerUpdate .plain (otherPool none)).run
        (twoPools (some none)) = (.ok (.ok ()), after) ∧
      after.get "octavia-1" = some updated ∧
      FromPool .plain (twoPools (some none)).octavia "other" updated.draft := by
  have returns : (Routine.run (server .plain) (listenerUpdate .plain (otherPool none)).run
      (twoPools (some none))).1 = .ok (.ok ()) := by
    decide +kernel
  have ran := Prod.ext returns (Eq.refl (Routine.run (server .plain)
    (listenerUpdate .plain (otherPool none)).run (twoPools (some none))).2)
  obtain ⟨updated, found, clean⟩ := (@listenerUpdate_leaves_new_pool_iff .plain "other" _ _
    monitoredVirtualIP (otherPool none) ⟨none, none, some "other", none⟩ "pool"
    (by decide +kernel) (by decide +kernel) (by decide +kernel) rfl (by decide +kernel) (by decide)
    ran).mpr (by simp [MovesClean, Database.monitor, poolHealthMonitor, twoPools])
  exact ⟨updated, _, ran, found, clean⟩

/-- With the listener disabled in the same request, the member map and the health check of the
old pool stay; with a new pool whose records say nothing about a monitor, the old health check
and the old monitor stay. -/
theorem old_pool_remains :
    let disabled := Routine.run (server .plain)
      (listenerUpdate .plain (otherPool (some false))).run (twoPools (some none))
    let enabled := Routine.run (server .plain)
      (listenerUpdate .plain (otherPool (some true))).run (twoPools none)
    disabled.1 = .ok (.ok ()) ∧
      (disabled.2.get "octavia-1").map (fun vip => (vip.annotations.poolID,
        vip.annotations.memberMap, vip.annotations.hmID, vip.spec.healthCheck)) =
          some (some "other", some [("member", "198.51.100.1")], some "monitor",
            monitoredVirtualIP.spec.healthCheck) ∧
      enabled.1 = .ok (.ok ()) ∧
      (enabled.2.get "octavia-1").map (fun vip => (vip.annotations.poolID,
        vip.annotations.memberMap, vip.annotations.hmID,
        vip.spec.healthCheck.map HealthCheck.type)) =
          some (some "other", none, some "monitor", some (some "tcp")) := by
  refine ⟨by decide +kernel, by decide +kernel, by decide +kernel, by decide +kernel⟩

end ArcaLB.Octavia
