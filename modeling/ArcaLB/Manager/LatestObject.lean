import ArcaLB.Manager.Recreation

/-!
# The object of the last update

A stop callback publishes the recreated reconciler under the lock, but hands it its
queued object after the lock is released.  An update event that finds the published
reconciler hands over its own, newer object in between, and the callback then puts the
older one in its place.  Where no two different objects are on their way to one
reconciler, the reconciler that runs in the end holds the object of the last update.
-/

namespace ArcaLB.Manager

/-- The event that the handler is working on. -/
def Handler.event : Handler → Option Event
  | updating vip _ => some (.update vip)
  | delivering _ vip => some (.update vip)
  | deleting vip => some (.delete vip)
  | marking _ vip => some (.delete vip)
  | idle => none
  | signalling _ => none

variable {vip : VirtualIP}

namespace Slice

/-- The object that a stop callback has yet to hand over, and to whom. -/
def owed (slice : Slice) (source : RecId) : Option (RecId × Queued) :=
  (slice.phaseOf source).bind Phase.owes

/-- The object a reconciler holds. -/
def currentOf (slice : Slice) (id : RecId) : Option VirtualIP :=
  (slice.reconcilers id).bind Reconciler.current

/-- The object is queued, or the live reconciler holds it, or gets it from a stop
callback and nothing else from another one. -/
def Settles (slice : Slice) (vip : VirtualIP) : Prop :=
  (∃ arrival, slice.pendingRecreates = some ⟨vip, arrival⟩) ∨
    ∃ id, slice.vips = some id ∧
      (∀ source queued, slice.owed source = some (id, queued) → queued.vip = vip) ∧
      ((∃ source queued, slice.owed source = some (id, queued)) ∨
        slice.currentOf id = some vip)

section Projections

variable (slice : Slice) (id : RecId)

@[simp] theorem currentOf_setPhase (phase : Phase) :
    (slice.setPhase id phase).currentOf = slice.currentOf :=
  slice.comp_modify id (Option.bind · Reconciler.current) fun _ => rfl

@[simp] theorem currentOf_triggerReconcile :
    (slice.triggerReconcile id).currentOf = slice.currentOf :=
  slice.comp_modify id (Option.bind · Reconciler.current) fun _ => rfl

@[simp] theorem currentOf_setCurrent (vip : VirtualIP) :
    (slice.setCurrent id vip).currentOf =
      Function.update slice.currentOf id ((slice.phaseOf id).map fun _ => vip) := by
  refine (Function.comp_update (Option.bind · Reconciler.current) ..).trans
    (congrArg (Function.update _ id) ?_)
  cases found : slice.reconcilers id <;> simp [phaseOf, found]

theorem owed_of_phaseOf {slice next : Slice} (phases : next.phaseOf = slice.phaseOf) :
    next.owed = slice.owed := by
  funext source
  simp [owed, phases]

/-- A goroutine whose position changes. -/
theorem owed_of_update {slice next : Slice} {id : RecId} (phase : Phase)
    (phases : next.phaseOf = Function.update slice.phaseOf id (some phase)) :
    next.owed = Function.update slice.owed id phase.owes := by
  unfold owed
  rw [phases]
  exact Function.comp_update (Option.bind · Phase.owes) ..

/-- Callbacks that owe nothing before and after leave what is owed alone. -/
theorem owed_of_owes {slice next : Slice} {id : RecId} (before after : Phase)
    (point : slice.phaseOf id = some before) (same : after.owes = before.owes)
    (phases : next.phaseOf = Function.update slice.phaseOf id (some after)) :
    next.owed = slice.owed := by
  rw [owed_of_update after phases, same]
  apply Function.update_eq_self_iff.mpr
  simp [owed, point]

end Projections

/-- Whether an object settles depends on the queue, the live reconciler, what is owed
and what the reconcilers hold. -/
theorem Settles.of_same {slice next : Slice} (settles : slice.Settles vip)
    (pending : next.pendingRecreates = slice.pendingRecreates) (vips : next.vips = slice.vips)
    (owed : next.owed = slice.owed) (current : next.currentOf = slice.currentOf) :
    next.Settles vip := by
  unfold Settles
  rw [pending, vips, owed, current]
  exact settles

end Slice

/-- The reconciler that is owed an object exists. -/
theorem Coherent.owed_exists {slice : Slice} (coherent : Coherent slice) {source target : RecId}
    {queued : Queued} (owes : slice.owed source = some (target, queued)) :
    slice.phaseOf target ≠ none := by
  obtain ⟨phase, point, owes⟩ := Option.bind_eq_some_iff.mp owes
  cases phase with
  | relaunching next waiting =>
    cases owes
    simp [(coherent.relaunches _ _ _ point).2]
  | handing next waiting =>
    cases owes
    exact (coherent.hands _ _ _ point).2.1
  | created | waiting | reconciling | cleaning | stopping | signalling | stopped => cases owes

/-- The object that the handler is about to hand over, and to whom. -/
def Handler.delivery : Handler → Option (RecId × VirtualIP)
  | delivering target vip => some (target, vip)
  | _ => none

/-- The handler hands over an object only where no stop callback has yet to hand a
different one to the same reconciler. -/
def deliveryGuard (slice : Slice) (label : Label) : Prop :=
  label = .handle → ∀ delivery ∈ slice.handler.delivery, ∀ source < slice.nextId,
    ∀ due ∈ slice.owed source, due.1 = delivery.1 → due.2.vip = delivery.2

instance (slice : Slice) (label : Label) : Decidable (deliveryGuard slice label) :=
  inferInstanceAs (Decidable (label = .handle → _))

/-- What every run that meets the guard maintains. -/
structure Latest (slice : Slice) : Prop where
  coherent : Coherent slice
  heard : ∀ event, slice.handler.event = some event → slice.lastEvent = some event
  held : ∀ vip, slice.lastEvent = some (.update vip) →
    slice.handler.event = some (.update vip) ∨ slice.Settles vip

namespace Latest

variable {slice next : Slice} {id : RecId}

variable (latest : Latest slice)
include latest

/-- Steps of others leave the event of the handler alone. -/
theorem others (coherent : Coherent next)
    (handler : next.handler = slice.handler) (last : next.lastEvent = slice.lastEvent)
    (settles : ∀ vip, slice.Settles vip → next.Settles vip) : Latest next where
  coherent := coherent
  heard := by
    rw [handler, last]
    exact latest.heard
  held := by
    rw [handler, last]
    intro vip updated
    exact (latest.held vip updated).imp_right (settles vip)

/-- Steps that leave the queue, the live reconciler and all objects alone. -/
theorem unmoved (coherent : Coherent next)
    (handler : next.handler = slice.handler) (last : next.lastEvent = slice.lastEvent)
    (pending : next.pendingRecreates = slice.pendingRecreates) (vips : next.vips = slice.vips)
    (owed : next.owed = slice.owed) (current : next.currentOf = slice.currentOf) : Latest next :=
  latest.others coherent handler last fun _ settles => settles.of_same pending vips owed current

/-- An update event is handled in the locked section of `OnVIPUpdate`. -/
theorem onVIPUpdate {arrival : Nat} (point : slice.handler = .updating vip arrival) :
    Latest (slice.onVIPUpdate vip arrival) := by
  have last : slice.lastEvent = some (.update vip) := latest.heard _ (by rw [point]; rfl)
  have coherent := latest.coherent.onVIPUpdate point
  have sameLast : (slice.onVIPUpdate vip arrival).lastEvent = slice.lastEvent := by
    unfold Slice.onVIPUpdate Slice.settleQueued
    split
    · split <;> rfl
    · split <;> rfl
  have next : (slice.onVIPUpdate vip arrival).handler.event = some (.update vip) ∨
      (slice.onVIPUpdate vip arrival).handler.event = none ∧
        (slice.onVIPUpdate vip arrival).Settles vip := by
    unfold Slice.onVIPUpdate
    split
    · exact .inr ⟨rfl, .inl ⟨arrival, rfl⟩⟩
    · split <;> exact .inl rfl
  refine ⟨coherent, ?_, ?_⟩
  · intro event handled
    rw [sameLast, last]
    rcases next with updating | ⟨idle, _⟩
    · rw [← handled, updating]
    · rw [idle] at handled
      cases handled
  · intro other updated
    rw [sameLast, last, Option.some.injEq, Event.update.injEq] at updated
    subst updated
    exact next.imp_right And.right

/-- The update of the handler reaches the live reconciler. -/
theorem deliver {target : RecId}
    (point : slice.handler = .delivering target vip) (meets : deliveryGuard slice .handle)
    (coherent : Coherent { slice.setCurrent target vip with handler := .signalling target }) :
    Latest { slice.setCurrent target vip with handler := .signalling target } := by
  have last : slice.lastEvent = some (.update vip) := latest.heard _ (by rw [point]; rfl)
  have lives := latest.coherent.delivers target vip point
  obtain ⟨_, _, phase, present, _⟩ := latest.coherent.live target lives
  refine ⟨coherent, ?_, ?_⟩
  · intro event handled
    cases handled
  · intro other updated
    change slice.lastEvent = _ at updated
    rw [last, Option.some.injEq, Event.update.injEq] at updated
    subst updated
    have owed : Slice.owed { slice.setCurrent target vip with handler := .signalling target } =
        slice.owed := Slice.owed_of_phaseOf (slice.phaseOf_setCurrent target vip)
    refine .inr (.inr ⟨target, lives, ?_, .inr ?_⟩)
    · rw [owed]
      intro source queued owes
      have known : slice.phaseOf source ≠ none := by
        intro unknown
        simp [Slice.owed, unknown] at owes
      exact meets rfl (target, vip) (by simp [point, Handler.delivery]) source
        (latest.coherent.fresh source known) (target, queued) owes rfl
    · change (slice.setCurrent target vip).currentOf target = _
      simp [present]

/-- While a delete event is handled, no update is the last event. -/
theorem deletes (coherent : Coherent next) (point : slice.handler.event = some (.delete vip))
    (handler : ∀ event, next.handler.event = some event → event = .delete vip)
    (last : next.lastEvent = slice.lastEvent) : Latest next := by
  have deleted : next.lastEvent = some (.delete vip) := by
    rw [last]
    exact latest.heard _ point
  refine ⟨coherent, ?_, ?_⟩
  · intro event handled
    rw [handler event handled]
    exact deleted
  · intro updated isUpdate
    rw [deleted] at isUpdate
    cases isUpdate

/-- The event handler keeps the object of the last update in hand. -/
theorem handle (meets : deliveryGuard slice .handle)
    (moves : slice.handle = some next) : Latest next := by
  have coherent := latest.coherent.handle moves
  unfold Slice.handle at moves
  split at moves
  next => cases moves
  next vip arrival point =>
    cases moves
    exact latest.onVIPUpdate point
  next target vip point =>
    cases moves
    exact latest.deliver point meets coherent
  next target point =>
    cases moves
    refine ⟨coherent, ?_, ?_⟩
    · intro event handled
      cases handled
    · intro vip updated
      have settles := latest.held vip updated
      rw [point] at settles
      have settled := settles.resolve_left (by simp [Handler.event])
      right
      refine Slice.Settles.of_same settled rfl rfl ?_ ?_
      · exact Slice.owed_of_phaseOf (slice.phaseOf_triggerReconcile target)
      · exact slice.currentOf_triggerReconcile target
  next vip point =>
    cases moves
    apply latest.deletes coherent (by rw [point]; rfl)
    · intro event handled
      revert handled
      unfold Slice.onVIPDelete Slice.settleQueued
      repeat' split
      all_goals simp [Handler.event, eq_comm]
    · unfold Slice.onVIPDelete Slice.settleQueued
      repeat' split
      all_goals rfl
  next target vip point =>
    cases moves
    apply latest.deletes coherent (by rw [point]; rfl)
    · intro event handled
      cases handled
    · rfl

/-- The stop callback of a deleted reconciler publishes a successor that it owes the
queued object. -/
theorem onVIPReconcilerStopped (point : slice.phaseOf id = some .stopping)
    (coherent : Coherent (slice.onVIPReconcilerStopped id)) :
    Latest (slice.onVIPReconcilerStopped id) := by
  have dies := latest.coherent.deleting_of_stopping point
  have older : id ≠ slice.nextId := Nat.ne_of_lt (latest.coherent.fresh id (by simp [point]))
  have noVips : slice.vips = none :=
    latest.coherent.apart.resolve_right (by simp [dies])
  have queue : ∀ vip, slice.Settles vip →
      ∃ arrival, slice.pendingRecreates = some ⟨vip, arrival⟩ := by
    intro vip settles
    rcases settles with waits | ⟨live, lives, _⟩
    · exact waits
    · rw [noVips] at lives
      cases lives
  cases waits : slice.pendingRecreates with
  | some queued =>
    have phases := slice.phaseOf_onVIPReconcilerStopped id point dies waits
    rw [slice.onVIPReconcilerStopped_queued id dies waits] at coherent phases ⊢
    refine latest.others coherent rfl rfl fun vip settles => ?_
    obtain ⟨arrival, found⟩ := queue vip settles
    obtain rfl : queued = ⟨vip, arrival⟩ := Option.some.inj (waits.symm.trans found)
    refine .inr ⟨slice.nextId, rfl, ?_, .inl ⟨id, ⟨vip, arrival⟩, ?_⟩⟩
    · intro source queued owes
      simp only [Slice.owed, phases, Function.update_apply] at owes
      split at owes
      · cases owes
      · split at owes
        · cases owes
          rfl
        · exact absurd latest.coherent.unused (latest.coherent.owed_exists owes)
    · rw [Slice.owed, phases, Function.update_of_ne older, Function.update_self]
      rfl
  | none =>
    rw [slice.onVIPReconcilerStopped_empty id dies waits] at coherent ⊢
    refine latest.others coherent rfl rfl fun vip settles => ?_
    obtain ⟨arrival, found⟩ := queue vip settles
    rw [waits] at found
    cases found

/-- A stop callback hands over its queued object. -/
theorem hand {target : RecId} {queued : Queued}
    (point : slice.phaseOf id = some (.handing target queued))
    (coherent : Coherent ((slice.setCurrent target queued.vip).setPhase id (.signalling target))) :
    Latest ((slice.setCurrent target queued.vip).setPhase id (.signalling target)) := by
  have owes : slice.owed id = some (target, queued) := by
    simp [Slice.owed, point, Phase.owes]
  obtain ⟨phase, present⟩ :=
    Option.ne_none_iff_exists'.mp (latest.coherent.owed_exists owes)
  have owed : ((slice.setCurrent target queued.vip).setPhase id (.signalling target)).owed =
      Function.update slice.owed id none := by
    exact Slice.owed_of_update (.signalling target) (by simp [point])
  have current : ((slice.setCurrent target queued.vip).setPhase id
      (.signalling target)).currentOf =
      Function.update slice.currentOf target (some queued.vip) := by
    simp [present]
  refine latest.others coherent rfl rfl fun vip settles => ?_
  rcases settles with waits | ⟨live, lives, only, holds⟩
  · exact .inl waits
  · refine .inr ⟨live, lives, ?_, ?_⟩
    · rw [owed]
      intro source earlier stillOwed
      by_cases same : source = id
      · simp [same] at stillOwed
      · rw [Function.update_of_ne same] at stillOwed
        exact only source earlier stillOwed
    · rw [owed, current]
      by_cases same : live = target
      · subst same
        right
        rw [Function.update_self, only id queued owes]
      · rw [Function.update_of_ne same]
        rcases holds with ⟨source, earlier, stillOwed⟩ | holds
        · left
          refine ⟨source, earlier, ?_⟩
          have different : source ≠ id := by
            intro isThis
            rw [isThis, owes] at stillOwed
            cases stillOwed
            exact same rfl
          rw [Function.update_of_ne different]
          exact stillOwed
        · exact .inr holds

theorem callback (moves : slice.callback id = some next) : Latest next := by
  have coherent := latest.coherent.callback moves
  unfold Slice.callback at moves
  split at moves
  · rename_i point
    cases moves
    exact latest.onVIPReconcilerStopped point coherent
  · rename_i target queued point
    cases moves
    have created := (latest.coherent.relaunches id target queued point).2
    have distinct := latest.coherent.relaunches_ne point
    have launched : (slice.setPhase target .waiting).owed = slice.owed :=
      Slice.owed_of_owes .created .waiting created rfl (by simp [created])
    have moved : (slice.setPhase target .waiting).phaseOf id =
        some (.relaunching target queued) := by
      simp [point, distinct]
    refine latest.unmoved coherent rfl rfl rfl rfl (Eq.trans ?_ launched) ?_
    · refine Slice.owed_of_owes (.relaunching target queued) (.handing target queued) moved rfl ?_
      change ((slice.setPhase target .waiting).setPhase id _).phaseOf = _
      simp [point, distinct]
    · change ((slice.setPhase target .waiting).setPhase id _).currentOf = _
      simp
  · rename_i target queued point
    cases moves
    exact latest.hand point coherent
  · rename_i target point
    cases moves
    refine latest.unmoved coherent rfl rfl rfl rfl ?_ ?_
    · apply Slice.owed_of_owes (.signalling target) .stopped point rfl
      simp [point]
    · simp
  · cases moves

theorem run {reconciler after : Reconciler} {step : RunStep}
    (present : slice.reconcilers id = some reconciler) (moves : reconciler.run step = some after) :
    Latest { slice with reconcilers := Function.update slice.reconcilers id (some after) } := by
  obtain ⟨acts, stays, _, current, _⟩ := Reconciler.run_cases moves
  refine latest.unmoved (latest.coherent.run present moves) rfl rfl rfl rfl ?_ ?_
  · have before : reconciler.phase.owes = none := by
      cases phase : reconciler.phase <;> simp_all [Phase.active, Phase.owes]
    have later : after.phase.owes = none := by
      cases phase : after.phase <;> simp_all [Phase.present, Phase.owes]
    refine Slice.owed_of_owes reconciler.phase after.phase ?_ (later.trans before.symm)
      (Function.comp_update (Option.map Reconciler.phase) ..)
    simp [Slice.phaseOf, present]
  · refine (Function.comp_update (Option.bind · Reconciler.current) ..).trans ?_
    refine Function.update_eq_self_iff.mpr ?_
    simp [present, current]

end Latest

/-- Every slice reached under the guard has the object of the last update in hand. -/
theorem latest_of_reachable {slice : Slice} (reached : slices.Reachable deliveryGuard slice) :
    Latest slice := by
  induction reached with
  | initial starts =>
    obtain rfl := starts
    have empty : slices.Reachable deliveryGuard {} := .initial rfl
    exact ⟨coherent_of_reachable empty, by simp [Handler.event], by simp⟩
  | @step slice next label reached meets moves latest =>
    have coherent := coherent_of_reachable (reached.step meets moves)
    change slice.step label = some next at moves
    cases label with
    | update vip | delete vip =>
      obtain ⟨-, ⟨⟩⟩ := Option.ite_none_right_eq_some.mp moves
      exact ⟨coherent, fun event handled => handled, fun other updated => .inl updated⟩
    | handle => exact latest.handle meets moves
    | healthChange =>
      simp only [Slice.step] at moves
      split at moves
      · cases moves
        exact latest.unmoved coherent rfl rfl rfl rfl
          (Slice.owed_of_phaseOf (Slice.phaseOf_triggerReconcile ..))
          (Slice.currentOf_triggerReconcile ..)
      · cases moves
        exact latest
    | run id step =>
      obtain ⟨reconciler, after, present, moved, rfl⟩ := Slice.step_run moves
      exact latest.run present moved
    | callback id => exact latest.callback moves

/-- Once everything is quiet, no stop callback has anything left to hand over. -/
theorem Quiet.owed_eq_none {slice : Slice} (quiet : Quiet slice) (source : RecId) :
    slice.owed source = none := by
  unfold Slice.owed Slice.phaseOf
  cases found : slice.reconcilers source with
  | none => rfl
  | some reconciler =>
    rcases quiet.settled source reconciler found with ⟨acts, _⟩ | stopped
    · cases phase : reconciler.phase <;> simp_all [Phase.active, Phase.owes]
    · simp [stopped, Phase.owes]

/-- **The last update wins.** In every run in which the handler never hands an object to
a reconciler that a stop callback has yet to hand a different one: once all calls have
returned and no cleanup is left, and the last event for the key was an update, a
reconciler for the key runs, and whichever runs holds the object of that update. -/
theorem running_object_is_last_update {state : VIPKey → Slice} (reached : system.Reachable
      (fun states label => deliveryGuard (states label.1) label.2) state) (key : VIPKey)
    (vip : VirtualIP) (quiet : Quiet (state key))
    (last : (state key).lastEvent = some (.update vip)) :
    (∃ id reconciler, (state key).vips = some id ∧
      (state key).reconcilers id = some reconciler ∧ reconciler.phase.active = true) ∧
    ∀ id reconciler, (state key).reconcilers id = some reconciler →
      reconciler.phase.active = true → reconciler.current = some vip := by
  have product : (slices.product VIPKey).Reachable
      (fun states label => deliveryGuard (states label.1) label.2) state := reached
  have latest := latest_of_reachable (product.component key)
  have coherent := latest.coherent
  have noDeleting := quiet.deleting_eq_none coherent
  have settles : (state key).Settles vip := by
    apply (latest.held vip last).resolve_left
    simp [quiet.handler, Handler.event]
  rcases settles with ⟨arrival, waits⟩ | ⟨live, lives, _, holds⟩
  · exact absurd noDeleting (coherent.queue (by simp [waits]))
  · have holds : (state key).currentOf live = some vip := by
      rcases holds with ⟨source, queued, owes⟩ | holds
      · rw [quiet.owed_eq_none source] at owes
        cases owes
      · exact holds
    obtain ⟨reconciler, found, current⟩ := Option.bind_eq_some_iff.mp holds
    refine ⟨⟨live, reconciler, lives, found, ?_⟩, ?_⟩
    · obtain ⟨_, _, phase, point, present⟩ := coherent.live live lives
      simp only [Slice.phaseOf, found, Option.map_some, Option.some.injEq] at point
      rcases quiet.settled live reconciler found with ⟨acts, _⟩ | stopped
      · exact acts
      · rw [← point, stopped] at present
        cases present
    · intro other running otherFound acts
      have point : (state key).phaseOf other = some running.phase := by
        simp [Slice.phaseOf, otherFound]
      rcases coherent.tracked other _ point (Phase.present_of_active acts) with same | dies
      · rw [lives, Option.some.injEq] at same
        subst same
        rw [found, Option.some.injEq] at otherFound
        subst otherFound
        exact current
      · rw [noDeleting] at dies
        cases dies

/-- A service is deleted and recreated, and a newer update arrives when the stop callback
has published the successor.  The callback takes `early` of its remaining steps before
the newer object is handed over and `late` ones after. -/
def newerUpdateRun (key : VIPKey) (first second third : VirtualIP) (early late : Nat) :
    List (VIPKey × Label) :=
  let labels : List Label :=
    [.update first, .handle, .handle, .handle, .delete first, .handle, .handle,
        .run 0 .receive, .update second, .handle, .run 0 (.finishDelete true), .callback 0,
        .update third, .handle] ++
      List.replicate early (.callback 0) ++ [.handle, .handle] ++
      List.replicate late (.callback 0)
  labels.map fun label => (key, label)

/-- The callback hands over its object first. -/
theorem running_object_is_last_update_in_order :
    ∃ final, system.run (fun _ => {})
        (newerUpdateRun .web (.web .web "1" "192.0.2.1") (.web .web "2" "192.0.2.1")
          (.web .web "2" "192.0.2.2") 3 0) = some final ∧
      ∀ id reconciler, (final VIPKey.web).reconcilers id = some reconciler →
        reconciler.phase.active = true →
          reconciler.current = some (.web .web "2" "192.0.2.2") := by
  obtain ⟨final, runs, idle, last, settled⟩ := system.exists_run_of_check (fun _ => {})
    (newerUpdateRun .web (.web .web "1" "192.0.2.1") (.web .web "2" "192.0.2.1")
      (.web .web "2" "192.0.2.2") 3 0)
    (fun final => (final VIPKey.web).handler = .idle ∧
      (final VIPKey.web).lastEvent = some (.update (.web .web "2" "192.0.2.2")) ∧
      ∀ id < (final VIPKey.web).nextId, ∀ reconciler ∈ (final VIPKey.web).reconcilers id,
        reconciler.Settled) (by decide +kernel)
  have starts : (slices.product VIPKey).Reachable
      (fun states label => deliveryGuard (states label.1) label.2) fun _ => {} :=
    .initial fun _ => rfl
  have reached := starts.run (by decide +kernel) runs
  have coherent := coherent_of_reachable (reached.component .web)
  have quiet := coherent.quiet_of_created idle settled
  exact ⟨final, runs, (running_object_is_last_update reached .web _ quiet last).2⟩

/-- **An older object is put back.** The newer object is handed over first; the callback
then hands over the queued one, and the reconciler keeps it. -/
theorem older_object_after_newer_update :
    ∃ final, system.run (fun _ => {})
        (newerUpdateRun .web (.web .web "1" "192.0.2.1") (.web .web "2" "192.0.2.1")
          (.web .web "2" "192.0.2.2") 0 3) = some final ∧
      Quiet (final VIPKey.web) ∧
      (final VIPKey.web).lastEvent = some (.update (.web .web "2" "192.0.2.2")) ∧
      ∃ reconciler, (final VIPKey.web).reconcilers 1 = some reconciler ∧
        reconciler.phase.active = true ∧
          reconciler.current = some (.web .web "2" "192.0.2.1") := by
  obtain ⟨final, runs, idle, last, settled, older⟩ := system.exists_run_of_check (fun _ => {})
    (newerUpdateRun .web (.web .web "1" "192.0.2.1") (.web .web "2" "192.0.2.1")
      (.web .web "2" "192.0.2.2") 0 3)
    (fun final => (final VIPKey.web).handler = .idle ∧
      (final VIPKey.web).lastEvent = some (.update (.web .web "2" "192.0.2.2")) ∧
      (∀ id < (final VIPKey.web).nextId, ∀ reconciler ∈ (final VIPKey.web).reconcilers id,
        reconciler.Settled) ∧
      ∃ reconciler ∈ (final VIPKey.web).reconcilers 1, reconciler.phase.active = true ∧
        reconciler.current = some (.web .web "2" "192.0.2.1")) (by decide +kernel)
  have starts : system.Reachable TransitionSystem.unguarded fun _ => {} := .initial fun _ => rfl
  have reached := starts.run (system.meets_unguarded _ _) runs
  have coherent := coherent_of_reachable (slice_reachable reached .web)
  exact ⟨final, runs, coherent.quiet_of_created idle settled, last, older⟩

end ArcaLB.Manager
