import ArcaLB.Manager.Slice

/-!
# One reconciler at a time

The invariant of a slice says which reconcilers may still act.  A reconciler that
may act is in the map of live reconcilers or in that of deleting ones, and it is the
last one that was created; the two maps never both hold one.
-/

namespace ArcaLB.Manager

namespace Phase

/-- The goroutine is in its run loop: it can run a pass or a cleanup. -/
def active : Phase → Bool
  | waiting | reconciling | cleaning => true
  | _ => false

/-- The reconciler is not past the locked section of its stop callback. -/
def present : Phase → Bool
  | created | waiting | reconciling | cleaning | stopping => true
  | _ => false

/-- The goroutine works on a deletion, or did so successfully. -/
def pastDelete : Phase → Bool
  | cleaning | stopping => true
  | _ => false

/-- The reconciler that a stop callback has yet to hand its object to. -/
def owes : Phase → Option (RecId × Queued)
  | relaunching next queued => some (next, queued)
  | handing next queued => some (next, queued)
  | _ => none

theorem present_of_active {phase : Phase} (acts : phase.active = true) : phase.present = true := by
  cases phase <;> simp_all [active, present]

end Phase

/-- The reconciler knows about its deletion, or will learn of it from its channel. -/
def Reconciler.knows (reconciler : Reconciler) : Bool :=
  !reconciler.eventCh.isEmpty || reconciler.deleteVIP.isSome

variable {queued : Queued}

namespace Slice

/-- The reconcilers whose deletion is delivered. -/
def marked (slice : Slice) (id : RecId) : Bool :=
  (slice.reconcilers id).any Reconciler.knows

/-- What coherence is about. -/
structure View where
  vips : Option RecId
  deleting : Option RecId
  pending : Option Queued
  nextId : RecId
  handler : Handler
  phases : RecId → Option Phase
  marked : RecId → Bool

/-- What coherence sees of a slice. -/
def view (slice : Slice) : View :=
  ⟨slice.vips, slice.deleting, slice.pendingRecreates, slice.nextId, slice.handler,
    slice.phaseOf, slice.marked⟩

section Projections

variable (slice : Slice) (id : RecId)

/-- A view of single reconcilers does not see a change that it keeps. -/
theorem comp_modify {β : Type} (view : Option Reconciler → β) {change : Reconciler → Reconciler}
    (keeps : ∀ reconciler, view (some (change reconciler)) = view (some reconciler)) :
    view ∘ (slice.modify id change).reconcilers = view ∘ slice.reconcilers := by
  rw [modify, Function.comp_update, Function.update_eq_self_iff, Function.comp_apply]
  cases slice.reconcilers id with
  | none => rfl
  | some reconciler => exact keeps reconciler

@[simp] theorem phaseOf_setPhase (phase : Phase) :
    (slice.setPhase id phase).phaseOf =
      Function.update slice.phaseOf id ((slice.phaseOf id).map fun _ => phase) := by
  refine (Function.comp_update (Option.map Reconciler.phase) ..).trans ?_
  rw [phaseOf, Option.map_map, Option.map_map]
  rfl

@[simp] theorem marked_setPhase (phase : Phase) : (slice.setPhase id phase).marked = slice.marked :=
  slice.comp_modify id (Option.any Reconciler.knows) fun _ => rfl

@[simp] theorem phaseOf_setCurrent (vip : VirtualIP) :
    (slice.setCurrent id vip).phaseOf = slice.phaseOf :=
  slice.comp_modify id (Option.map Reconciler.phase) fun _ => rfl

@[simp] theorem marked_setCurrent (vip : VirtualIP) :
    (slice.setCurrent id vip).marked = slice.marked :=
  slice.comp_modify id (Option.any Reconciler.knows) fun _ => rfl

@[simp] theorem phaseOf_triggerReconcile : (slice.triggerReconcile id).phaseOf = slice.phaseOf :=
  slice.comp_modify id (Option.map Reconciler.phase) fun _ => rfl

@[simp] theorem marked_triggerReconcile : (slice.triggerReconcile id).marked = slice.marked :=
  slice.comp_modify id (Option.any Reconciler.knows) fun _ => rfl

@[simp] theorem phaseOf_markDeleted (vip : VirtualIP) :
    (slice.markDeleted id vip).phaseOf = slice.phaseOf :=
  slice.comp_modify id (Option.map Reconciler.phase) fun _ => rfl

@[simp] theorem marked_markDeleted (vip : VirtualIP) :
    (slice.markDeleted id vip).marked =
      Function.update slice.marked id (slice.reconcilers id).isSome := by
  refine (Function.comp_update (Option.any Reconciler.knows) ..).trans
    (congrArg (Function.update _ id) ?_)
  cases slice.reconcilers id <;> simp [Reconciler.knows]

@[simp] theorem phaseOf_publish (origin : VirtualIP) (phase : Phase) :
    (slice.publish origin phase).phaseOf =
      Function.update slice.phaseOf slice.nextId (some phase) :=
  Function.comp_update (Option.map Reconciler.phase) ..

@[simp] theorem marked_publish (origin : VirtualIP) (phase : Phase) :
    (slice.publish origin phase).marked = Function.update slice.marked slice.nextId false :=
  Function.comp_update (Option.any Reconciler.knows) ..

omit slice in
theorem view_eq {next : Slice} {view : View} (phases : next.phaseOf = view.phases)
    (marked : next.marked = view.marked)
    (rest : next.view = { view with phases := next.phaseOf, marked := next.marked }) :
    next.view = view := by
  rw [rest, phases, marked]

/-- Settling the queued object writes history only. -/
theorem settleQueued_eq (fate : Fate) :
    slice.settleQueued fate = { slice with fates := (slice.settleQueued fate).fates } := by
  unfold settleQueued
  split <;> rfl

/-- A stop callback that finds a queued object. -/
theorem onVIPReconcilerStopped_queued (dies : slice.deleting = some id)
    (waits : slice.pendingRecreates = some queued) :
    slice.onVIPReconcilerStopped id =
      { (slice.setPhase id (.relaunching slice.nextId queued)).publish queued.vip .created with
        deleting := none
        pendingRecreates := none
        fates := (slice.settleQueued (.taken slice.nextId)).fates } := by
  simp [onVIPReconcilerStopped, dies, settleQueued, setPhase, modify, waits, setFate, publish]

/-- A stop callback that finds none. -/
theorem onVIPReconcilerStopped_empty (dies : slice.deleting = some id)
    (empty : slice.pendingRecreates = none) :
    slice.onVIPReconcilerStopped id = { slice.setPhase id .stopped with deleting := none } := by
  simp [onVIPReconcilerStopped, dies, empty]

/-- The positions after a queued object is found. -/
theorem phaseOf_onVIPReconcilerStopped {phase : Phase} (point : slice.phaseOf id = some phase)
    (dies : slice.deleting = some id) (waits : slice.pendingRecreates = some queued) :
    (slice.onVIPReconcilerStopped id).phaseOf =
      Function.update
        (Function.update slice.phaseOf id (some (.relaunching slice.nextId queued)))
        slice.nextId (some .created) := by
  rw [onVIPReconcilerStopped_queued slice id dies waits]
  change (publish _ _ _).phaseOf = _
  rw [phaseOf_publish, phaseOf_setPhase, point]
  rfl

end Projections

end Slice

/-- What a run loop can do to its reconciler. -/
theorem Reconciler.run_cases {reconciler after : Reconciler} {step : RunStep}
    (moves : reconciler.run step = some after) :
    reconciler.phase.active = true ∧ after.phase.present = true ∧ after.phase ≠ .created ∧
      after.current = reconciler.current ∧ after.origin = reconciler.origin ∧
      after.knows = reconciler.knows ∧
      (after.phase.pastDelete = true →
        reconciler.phase.pastDelete = true ∨ after.knows = true) := by
  cases step with
  | wake ticker | retry =>
    obtain ⟨enabled, ⟨⟩⟩ := Option.ite_none_right_eq_some.mp moves
    cases known : reconciler.deleteVIP <;>
      simp [enabled.1, Phase.active, Phase.present, Phase.pastDelete, Reconciler.knows, known]
  | finishPass =>
    obtain ⟨enabled, ⟨⟩⟩ := Option.ite_none_right_eq_some.mp moves
    simp [enabled, Phase.active, Phase.present, Phase.pastDelete, Reconciler.knows]
  | receive =>
    simp only [Reconciler.run] at moves
    split at moves
    · cases moves
    · rename_i vip rest events
      obtain ⟨enabled, ⟨⟩⟩ := Option.ite_none_right_eq_some.mp moves
      simp [enabled, events, Phase.active, Phase.present, Phase.pastDelete, Reconciler.knows]
  | finishDelete succeeded =>
    obtain ⟨enabled, ⟨⟩⟩ := Option.ite_none_right_eq_some.mp moves
    cases succeeded <;>
      simp [enabled, Phase.active, Phase.present, Phase.pastDelete, Reconciler.knows]

/-- What every run of a slice maintains. -/
structure Coherent (slice : Slice) : Prop where
  fresh : ∀ id, slice.phaseOf id ≠ none → id < slice.nextId
  live : ∀ id, slice.vips = some id → id + 1 = slice.nextId ∧ slice.marked id = false ∧
    ∃ phase, slice.phaseOf id = some phase ∧ phase.present = true
  dying : ∀ id, slice.deleting = some id → id + 1 = slice.nextId ∧
    (slice.marked id = true ∨ ∃ vip, slice.handler = .marking id vip) ∧
    ∃ phase, slice.phaseOf id = some phase ∧ phase.present = true
  apart : slice.vips = none ∨ slice.deleting = none
  tracked : ∀ id phase, slice.phaseOf id = some phase → phase.present = true →
    slice.vips = some id ∨ slice.deleting = some id
  known : ∀ id phase, slice.phaseOf id = some phase → phase.pastDelete = true →
    slice.marked id = true
  queue : slice.pendingRecreates ≠ none → slice.deleting ≠ none
  delivers : ∀ id vip, slice.handler = .delivering id vip → slice.vips = some id
  marks : ∀ id vip, slice.handler = .marking id vip →
    slice.deleting = some id ∧ slice.marked id = false
  relaunches : ∀ id next queued, slice.phaseOf id = some (.relaunching next queued) →
    next = id + 1 ∧ slice.phaseOf next = some .created
  hands : ∀ id next queued, slice.phaseOf id = some (.handing next queued) →
    next = id + 1 ∧ slice.phaseOf next ≠ none ∧ slice.phaseOf next ≠ some .created
  announced : ∀ id, slice.phaseOf id = some .created →
    ∃ source queued, slice.phaseOf source = some (.relaunching id queued)

namespace Coherent

variable {slice next : Slice} {id : RecId}

variable (coherent : Coherent slice)
include coherent

/-- A number that is not given out yet belongs to no reconciler. -/
theorem unused : slice.phaseOf slice.nextId = none := by
  by_contra used
  exact absurd (coherent.fresh _ used) (lt_irrefl _)

/-- A reconciler that finished its deletion is the one in the map of deleting ones. -/
theorem deleting_of_stopping
    (point : slice.phaseOf id = some .stopping) : slice.deleting = some id := by
  have known : slice.marked id = true := coherent.known id .stopping point rfl
  rcases coherent.tracked id .stopping point rfl with lives | dies
  · obtain ⟨_, unmarked, _⟩ := coherent.live id lives
    rw [known] at unmarked
    cases unmarked
  · exact dies

/-- Its deletion was delivered before. -/
theorem not_marking_of_stopping (point : slice.phaseOf id = some .stopping) (vip : VirtualIP) :
    slice.handler ≠ .marking id vip := by
  intro marking
  have known : slice.marked id = true := coherent.known id .stopping point rfl
  obtain ⟨_, unmarked⟩ := coherent.marks id vip marking
  rw [known] at unmarked
  cases unmarked

/-- The number of a successor is a new one. -/
theorem relaunches_ne {successor : RecId}
    (point : slice.phaseOf id = some (.relaunching successor queued)) : id ≠ successor := by
  rw [(coherent.relaunches id successor queued point).1]
  exact Nat.ne_of_lt (Nat.lt_succ_self id)

/-- A step that moves neither a reconciler nor a map entry. -/
theorem quiet (after : next.view =
      { slice.view with pending := next.pendingRecreates, handler := next.handler })
    (queue : next.pendingRecreates ≠ none → slice.deleting ≠ none)
    (delivers : ∀ id vip, next.handler = .delivering id vip → slice.vips = some id)
    (marks : ∀ id vip, next.handler = .marking id vip ↔ slice.handler = .marking id vip) :
    Coherent next := by
  simp only [Slice.view, Slice.View.mk.injEq] at after
  obtain ⟨fresh, live, dying, apart, tracked, known, _, _, marking, relaunches, hands,
    announced⟩ := coherent
  constructor <;> simp only [after, marks] <;> assumption

variable {vip : VirtualIP}

/-- An update that finds no reconciler publishes one. -/
theorem published (noVips : slice.vips = none) (noDeleting : slice.deleting = none)
    (after : next.view =
      { slice.view with
        vips := some slice.nextId
        nextId := slice.nextId + 1
        handler := .delivering slice.nextId vip
        phases := Function.update slice.phaseOf slice.nextId (some .waiting)
        marked := Function.update slice.marked slice.nextId false }) : Coherent next := by
  have unused := coherent.unused
  simp only [Slice.view, Slice.View.mk.injEq] at after
  cases coherent
  constructor <;> simp only [after] <;>
    grind [Function.update_apply, Phase.present, Phase.pastDelete]

/-- A delete event moves the live reconciler to the deleting ones. -/
theorem moved (lives : slice.vips = some id) (after : next.view =
      { slice.view with vips := none, deleting := some id, handler := .marking id vip }) :
    Coherent next := by
  simp only [Slice.view, Slice.View.mk.injEq] at after
  cases coherent
  constructor <;> simp only [after] <;> grind

/-- The deletion reaches the event channel of its reconciler. -/
theorem delivered (marking : slice.handler = .marking id vip) (after : next.view =
      { slice.view with handler := .idle, marked := Function.update slice.marked id true }) :
    Coherent next := by
  simp only [Slice.view, Slice.View.mk.injEq] at after
  cases coherent
  constructor <;> simp only [after] <;> grind [Function.update_apply]

/-- The goroutine of a reconciler moves within its run loop or leaves it; it turns to a
deletion only if it is marked. -/
theorem advanced {before later : Phase} (point : slice.phaseOf id = some before)
    (acts : before.active = true) (stays : later.present = true) (launched : later ≠ .created)
    (deletes : later.pastDelete = true → slice.marked id = true) (after : next.view =
      { slice.view with phases := Function.update slice.phaseOf id (some later) }) :
    Coherent next := by
  have present := Phase.present_of_active acts
  simp only [Slice.view, Slice.View.mk.injEq] at after
  cases coherent
  constructor <;> simp only [after] <;>
    grind [Function.update_apply, Phase.present, Phase.active]

/-- The stop callback of a deleted reconciler publishes its successor. -/
theorem recreated (queued : Queued) (point : slice.phaseOf id = some .stopping) (after : next.view =
      { slice.view with
        vips := some slice.nextId
        deleting := none
        pending := none
        nextId := slice.nextId + 1
        phases := Function.update
          (Function.update slice.phaseOf id (some (.relaunching slice.nextId queued)))
          slice.nextId (some .created)
        marked := Function.update slice.marked slice.nextId false }) : Coherent next := by
  have unused := coherent.unused
  have dies := coherent.deleting_of_stopping point
  have notMarking := coherent.not_marking_of_stopping point
  have older : id ≠ slice.nextId := Nat.ne_of_lt (coherent.fresh id (by simp [point]))
  simp only [Slice.view, Slice.View.mk.injEq] at after
  obtain ⟨fresh, live, dying, apart, tracked, known, queue, delivers, marks, relaunches, hands,
    announced⟩ := coherent
  constructor
  case announced =>
    intro later created
    simp only [after] at created ⊢
    by_cases same : later = slice.nextId
    · exact ⟨id, queued, by simp [same, older]⟩
    · have newer : later ≠ id := by
        rintro rfl
        simp [older] at created
      rw [Function.update_of_ne same, Function.update_of_ne newer] at created
      -- A reconciler that is created but not launched is the last one.
      have last := tracked later .created created rfl
      grind
  all_goals
    simp only [after]
    grind [Function.update_apply, Phase.present, Phase.pastDelete]

/-- The stop callback of a deleted reconciler without successor. -/
theorem retired (point : slice.phaseOf id = some .stopping) (empty : slice.pendingRecreates = none)
    (after : next.view =
      { slice.view with
        deleting := none
        phases := Function.update slice.phaseOf id (some .stopped) }) : Coherent next := by
  have dies := coherent.deleting_of_stopping point
  have notMarking := coherent.not_marking_of_stopping point
  simp only [Slice.view, Slice.View.mk.injEq] at after
  cases coherent
  constructor <;> simp only [after] <;>
    grind [Function.update_apply, Phase.present, Phase.pastDelete]

/-- The stop callback launches the successor. -/
theorem relaunched {successor : RecId}
    (point : slice.phaseOf id = some (.relaunching successor queued)) (after : next.view =
      { slice.view with
        phases := Function.update (Function.update slice.phaseOf successor (some .waiting)) id
          (some (.handing successor queued)) }) : Coherent next := by
  simp only [Slice.view, Slice.View.mk.injEq] at after
  cases coherent
  constructor <;> simp only [after] <;>
    grind [Function.update_apply, Phase.present, Phase.pastDelete]

/-- The stop callback signals a reconciler, or ends. -/
theorem settled {before later : Phase} (point : slice.phaseOf id = some before)
    (gone : before.present = false)
    (launched : ∀ successor queued, before ≠ .relaunching successor queued)
    (past : later = .stopped ∨ ∃ target, later = .signalling target) (after : next.view =
      { slice.view with phases := Function.update slice.phaseOf id (some later) }) :
    Coherent next := by
  simp only [Slice.view, Slice.View.mk.injEq] at after
  obtain ⟨fresh, live, dying, apart, tracked, known, queue, delivers, marks, relaunches, hands,
    announced⟩ := coherent
  constructor
  case announced =>
    intro newer created
    simp only [after] at created ⊢
    have other : newer ≠ id := by
      rintro rfl
      rcases past with rfl | ⟨target, rfl⟩ <;> simp at created
    rw [Function.update_of_ne other] at created
    obtain ⟨source, queued, relaunching⟩ := announced newer created
    refine ⟨source, queued, ?_⟩
    have elsewhere : source ≠ id := by
      rintro rfl
      rw [point, Option.some.injEq] at relaunching
      exact launched newer queued relaunching
    rw [Function.update_of_ne elsewhere]
    exact relaunching
  all_goals
    simp only [after]
    grind [Function.update_apply, Phase.present, Phase.pastDelete]

/-- The locked section of `OnVIPUpdate` keeps the maps coherent. -/
theorem onVIPUpdate {arrival : Nat} (point : slice.handler = .updating vip arrival) :
    Coherent (slice.onVIPUpdate vip arrival) := by
  unfold Slice.onVIPUpdate
  split
  · rename_i id dies
    rw [slice.settleQueued_eq]
    exact coherent.quiet rfl (by simp [dies]) (by simp) (by simp [point])
  · rename_i dies
    split
    · rename_i id lives
      refine coherent.quiet rfl coherent.queue ?_ (by simp [point])
      intro target delivered delivering
      cases delivering
      exact lives
    · rename_i lives
      exact coherent.published lives dies (Slice.view_eq (slice.phaseOf_publish vip .waiting)
        (slice.marked_publish vip .waiting) rfl)

/-- So does that of `OnVIPDelete`. -/
theorem onVIPDelete (point : slice.handler = .deleting vip) : Coherent (slice.onVIPDelete vip) := by
  unfold Slice.onVIPDelete
  split
  · rename_i id lives
    exact coherent.moved lives rfl
  · split
    · split
      · rw [slice.settleQueued_eq]
        exact coherent.quiet rfl (by simp) (by simp) (by simp [point])
      · exact coherent.quiet rfl coherent.queue (by simp) (by simp [point])
    · exact coherent.quiet rfl coherent.queue (by simp) (by simp [point])

/-- And that of `onVIPReconcilerStopped`. -/
theorem onVIPReconcilerStopped (point : slice.phaseOf id = some .stopping) :
    Coherent (slice.onVIPReconcilerStopped id) := by
  have dies := coherent.deleting_of_stopping point
  cases waits : slice.pendingRecreates with
  | some queued =>
    have phases := slice.phaseOf_onVIPReconcilerStopped id point dies waits
    rw [slice.onVIPReconcilerStopped_queued id dies waits] at phases ⊢
    refine coherent.recreated queued point (Slice.view_eq phases ?_ rfl)
    change (Slice.publish _ _ _).marked = _
    rw [Slice.marked_publish, Slice.marked_setPhase]
    rfl
  | none =>
    rw [slice.onVIPReconcilerStopped_empty id dies waits]
    refine coherent.retired point waits (Slice.view_eq ?_ (slice.marked_setPhase id _) rfl)
    change (slice.setPhase id _).phaseOf = _
    rw [Slice.phaseOf_setPhase, point]
    rfl

/-- The event handler keeps the maps coherent. -/
theorem handle (moves : slice.handle = some next) : Coherent next := by
  unfold Slice.handle at moves
  split at moves
  next => cases moves
  next vip arrival point =>
    cases moves
    exact coherent.onVIPUpdate point
  next target vip point =>
    cases moves
    exact coherent.quiet (Slice.view_eq (slice.phaseOf_setCurrent target vip)
      (slice.marked_setCurrent target vip) rfl) coherent.queue (by simp) (by simp [point])
  next target point =>
    cases moves
    exact coherent.quiet (Slice.view_eq (slice.phaseOf_triggerReconcile target)
      (slice.marked_triggerReconcile target) rfl) coherent.queue (by simp) (by simp [point])
  next vip point =>
    cases moves
    exact coherent.onVIPDelete point
  next target vip point =>
    cases moves
    have dies := (coherent.marks target vip point).1
    obtain ⟨_, _, phase, found, _⟩ := coherent.dying target dies
    have allocated : (slice.reconcilers target).isSome = true := by
      obtain ⟨reconciler, present, _⟩ := Option.map_eq_some_iff.mp found
      simp [present]
    refine coherent.delivered point
      (Slice.view_eq (slice.phaseOf_markDeleted target vip) ?_ rfl)
    rw [← allocated]
    exact slice.marked_markDeleted target vip

/-- A stop callback keeps the maps coherent. -/
theorem callback (moves : slice.callback id = some next) : Coherent next := by
  unfold Slice.callback at moves
  split at moves
  next point =>
    cases moves
    exact coherent.onVIPReconcilerStopped point
  next successor queued point =>
    cases moves
    have created := (coherent.relaunches id successor queued point).2
    have distinct := coherent.relaunches_ne point
    refine coherent.relaunched point (Slice.view_eq ?_ ?_ rfl)
    · change ((slice.setPhase successor .waiting).setPhase id _).phaseOf = _
      simp [created, point, distinct]
    · change ((slice.setPhase successor .waiting).setPhase id _).marked = slice.marked
      simp
  next successor queued point =>
    cases moves
    exact coherent.settled point rfl (by simp) (.inr ⟨successor, rfl⟩)
      (Slice.view_eq (by simp [point]) (by simp [Slice.view]) rfl)
  next target point =>
    cases moves
    exact coherent.settled point rfl (by simp) (.inl rfl)
      (Slice.view_eq (by simp [point]) (by simp [Slice.view]) rfl)
  next => cases moves

/-- A run loop keeps the maps coherent. -/
theorem run {reconciler after : Reconciler} {step : RunStep}
    (present : slice.reconcilers id = some reconciler) (moves : reconciler.run step = some after) :
    Coherent { slice with reconcilers := Function.update slice.reconcilers id (some after) } := by
  obtain ⟨acts, stays, launched, _, _, knows, deletes⟩ := Reconciler.run_cases moves
  have point : slice.phaseOf id = some reconciler.phase := by
    simp [Slice.phaseOf, present]
  have marks : slice.marked id = after.knows := by
    simp [Slice.marked, present, knows]
  refine coherent.advanced point acts stays launched ?_
    (Slice.view_eq (Function.comp_update (Option.map Reconciler.phase) ..) ?_ rfl)
  · intro past
    rcases deletes past with before | learnt
    · exact coherent.known id _ point before
    · exact marks.trans learnt
  · refine (Function.comp_update (Option.any Reconciler.knows) ..).trans ?_
    exact Function.update_eq_self_iff.mpr marks.symm

end Coherent

/-- What a step of a run loop does to its slice. -/
theorem Slice.step_run {slice next : Slice} {id : RecId} {step : RunStep}
    (moves : slice.step (.run id step) = some next) :
    ∃ reconciler after, slice.reconcilers id = some reconciler ∧
      reconciler.run step = some after ∧
      next = { slice with reconcilers := Function.update slice.reconcilers id (some after) } := by
  simp only [Slice.step] at moves
  split at moves
  · rename_i reconciler present
    obtain ⟨after, moved, rfl⟩ := Option.map_eq_some_iff.mp moves
    exact ⟨reconciler, after, present, moved, rfl⟩
  · cases moves

/-- **Coherence.** Every reachable slice is coherent. -/
theorem coherent_of_reachable {guard : Slice → Label → Prop} {slice : Slice}
    (reached : slices.Reachable guard slice) : Coherent slice := by
  apply reached.invariant
  · intro slice starts
    obtain rfl : slice = {} := starts
    constructor <;> simp [Slice.phaseOf, Slice.marked]
  · intro slice label next coherent _ moves
    change slice.step label = some next at moves
    cases label with
    | update vip | delete vip =>
      obtain ⟨idle, ⟨⟩⟩ := Option.ite_none_right_eq_some.mp moves
      exact coherent.quiet rfl coherent.queue (by simp) (by simp [idle])
    | handle => exact coherent.handle moves
    | healthChange =>
      simp only [Slice.step] at moves
      split at moves
      · cases moves
        exact coherent.quiet (Slice.view_eq (Slice.phaseOf_triggerReconcile ..)
          (Slice.marked_triggerReconcile ..) rfl) coherent.queue coherent.delivers
          fun _ _ => Iff.rfl
      · cases moves
        exact coherent
    | run id step =>
      obtain ⟨reconciler, after, present, moved, rfl⟩ := Slice.step_run moves
      exact coherent.run present moved
    | callback id => exact coherent.callback moves

end ArcaLB.Manager
