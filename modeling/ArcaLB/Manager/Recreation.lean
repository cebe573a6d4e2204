import ArcaLB.Manager.Incarnations

/-!
# Updates that arrive during a deletion

An update that finds a deletion of its key in progress is queued.  Its fate is
accounted for in every state: it waits, it was replaced by a later update, a delete
event with its own UID cancelled it, or the stop callback took it and started a
reconciler for it.
-/

namespace ArcaLB.Manager

/-- What a recorded fate says about the slice. -/
def Fate.Accounted (slice : Slice) (arrival : Nat) (vip : VirtualIP) : Fate → Prop
  | .waiting => slice.pendingRecreates = some ⟨vip, arrival⟩ ∧ slice.deleting ≠ none
  | .replaced later => arrival < later ∧ later < slice.arrivals
  | .cancelled event => event.uid = vip.uid
  | .taken next => ∃ source, slice.phaseOf source = some (.relaunching next ⟨vip, arrival⟩)
  | .started next => ∃ reconciler, slice.reconcilers next = some reconciler ∧
      reconciler.origin = vip ∧ reconciler.phase ≠ .created

/-- Reconcilers are kept: none is freed, changes its origin or goes back to being
unlaunched. -/
def Keeps (before after : Slice) : Prop :=
  ∀ id reconciler, before.reconcilers id = some reconciler →
    ∃ later, after.reconcilers id = some later ∧ later.origin = reconciler.origin ∧
      (reconciler.phase ≠ .created → later.phase ≠ .created)

namespace Keeps

variable {slice next : Slice} {id : RecId}

theorem of_eq (same : next.reconcilers = slice.reconcilers) : Keeps slice next := by
  intro id reconciler present
  exact ⟨reconciler, by rw [same, present], rfl, fun launched => launched⟩

theorem trans {middle : Slice} (first : Keeps slice middle) (second : Keeps middle next) :
    Keeps slice next := by
  intro id reconciler present
  obtain ⟨between, found, origin, launched⟩ := first id reconciler present
  obtain ⟨later, foundLater, originLater, launchedLater⟩ := second id between found
  exact ⟨later, foundLater, originLater.trans origin,
    fun started => launchedLater (launched started)⟩

/-- Changing one reconciler without touching its origin. -/
theorem of_update {before after : Reconciler} (present : slice.reconcilers id = some before)
    (updated : next.reconcilers = Function.update slice.reconcilers id (some after))
    (origin : after.origin = before.origin)
    (launched : before.phase ≠ .created → after.phase ≠ .created) : Keeps slice next := by
  intro other reconciler found
  by_cases same : other = id
  · subst same
    rw [present, Option.some.injEq] at found
    subst found
    exact ⟨after, by rw [updated, Function.update_self], origin, launched⟩
  · exact ⟨reconciler, by rw [updated, Function.update_of_ne same, found], rfl,
      fun launched => launched⟩

theorem of_modify {change : Reconciler → Reconciler}
    (origin : ∀ reconciler, (change reconciler).origin = reconciler.origin)
    (launched : ∀ reconciler, reconciler.phase ≠ .created →
      (change reconciler).phase ≠ .created) : Keeps slice (slice.modify id change) := by
  cases present : slice.reconcilers id with
  | none =>
    apply of_eq
    simp [Slice.modify, present]
  | some before =>
    have updated : (slice.modify id change).reconcilers =
        Function.update slice.reconcilers id (some (change before)) := by
      simp [Slice.modify, present]
    exact of_update present updated (origin before) (launched before)

/-- A goroutine moves on. -/
theorem of_setPhase {after : Phase} (launched : after ≠ .created) :
    Keeps slice (slice.setPhase id after) :=
  of_modify (fun _ => rfl) fun _ _ => launched

/-- A reconciler is published under a number that is not in use. -/
theorem of_publish {origin : VirtualIP} {phase : Phase}
    (unused : slice.phaseOf slice.nextId = none) : Keeps slice (slice.publish origin phase) := by
  intro other reconciler found
  have distinct : other ≠ slice.nextId := by
    rintro rfl
    simp [Slice.phaseOf, found] at unused
  exact ⟨reconciler, by simp [Slice.publish, distinct, found], rfl, fun launched => launched⟩

end Keeps

/-- What every run of a slice maintains about the queue. -/
structure Accounting (slice : Slice) : Prop where
  coherent : Coherent slice
  accounted : ∀ arrival vip fate, slice.fates arrival = some (vip, fate) →
    fate.Accounted slice arrival vip
  numbered : ∀ arrival, slice.fates arrival ≠ none → arrival < slice.arrivals
  entering : ∀ vip arrival, slice.handler = .updating vip arrival →
    arrival + 1 = slice.arrivals ∧ slice.fates arrival = none
  queued : ∀ queued, slice.pendingRecreates = some queued →
    slice.fates queued.arrival = some (queued.vip, .waiting)
  launches : ∀ source target queued,
    slice.phaseOf source = some (.relaunching target queued) →
    slice.fates queued.arrival = some (queued.vip, .taken target) ∧
      ∃ reconciler, slice.reconcilers target = some reconciler ∧
        reconciler.origin = queued.vip

namespace Accounting

variable {slice next : Slice} {id : RecId} {vip : VirtualIP} {arrival : Nat}

/-- Fates stay accounted for while reconcilers are kept and the queue is left alone. -/
theorem accounted_of_keeps {fate : Fate} (keeps : Keeps slice next)
    (arrivals : slice.arrivals ≤ next.arrivals)
    (pending : fate = .waiting → next.pendingRecreates = slice.pendingRecreates ∧
      next.deleting ≠ none) (launches : ∀ source target,
      slice.phaseOf source = some (.relaunching target ⟨vip, arrival⟩) →
      next.phaseOf source = some (.relaunching target ⟨vip, arrival⟩))
    (before : fate.Accounted slice arrival vip) : fate.Accounted next arrival vip := by
  cases fate with
  | waiting =>
    obtain ⟨same, dies⟩ := pending rfl
    exact ⟨same.trans before.1, dies⟩
  | replaced later => exact ⟨before.1, Nat.lt_of_lt_of_le before.2 arrivals⟩
  | cancelled event => exact before
  | taken target =>
    obtain ⟨source, relaunching⟩ := before
    exact ⟨source, launches source target relaunching⟩
  | started target =>
    obtain ⟨reconciler, present, origin, launched⟩ := before
    obtain ⟨later, found, same, started⟩ := keeps target reconciler present
    exact ⟨later, found, same.trans origin, started launched⟩

variable (accounting : Accounting slice)
include accounting

/-- A launch that was outstanding before is known after. -/
theorem launch_of_keeps (keeps : Keeps slice next)
    (fates : ∀ arrival vip target, slice.fates arrival = some (vip, .taken target) →
      next.fates arrival = some (vip, .taken target)) {source target : RecId} {queued : Queued}
    (relaunching : slice.phaseOf source = some (.relaunching target queued)) :
    next.fates queued.arrival = some (queued.vip, .taken target) ∧
      ∃ reconciler, next.reconcilers target = some reconciler ∧
        reconciler.origin = queued.vip := by
  obtain ⟨taken, reconciler, present, origin⟩ :=
    accounting.launches source target queued relaunching
  obtain ⟨later, found, same, _⟩ := keeps target reconciler present
  exact ⟨fates _ _ _ taken, later, found, same.trans origin⟩

/-- Steps that leave the queue, its history and outstanding launches alone. -/
theorem quiet (coherent : Coherent next) (keeps : Keeps slice next)
    (launches : ∀ source target queued,
      next.phaseOf source = some (.relaunching target queued) ↔
        slice.phaseOf source = some (.relaunching target queued)) (fates : next.fates = slice.fates)
    (arrivals : slice.arrivals ≤ next.arrivals)
    (pending : next.pendingRecreates = slice.pendingRecreates)
    (entering : ∀ vip arrival, next.handler = .updating vip arrival →
      arrival + 1 = next.arrivals ∧ slice.fates arrival = none) : Accounting next where
  coherent := coherent
  accounted := by
    intro arrival vip fate recorded
    rw [fates] at recorded
    have before := accounting.accounted arrival vip fate recorded
    refine accounted_of_keeps keeps arrivals ?_ (fun source target => (launches ..).mpr) before
    intro waits
    subst waits
    refine ⟨pending, coherent.queue ?_⟩
    simp [pending, before.1]
  numbered := by
    intro arrival recorded
    rw [fates] at recorded
    exact Nat.lt_of_lt_of_le (accounting.numbered arrival recorded) arrivals
  entering := by
    rw [fates]
    exact entering
  queued := by
    rw [fates, pending]
    exact accounting.queued
  launches := by
    intro source target queued relaunching
    refine accounting.launch_of_keeps keeps ?_ ((launches source target queued).mp relaunching)
    rw [fates]
    exact fun _ _ _ taken => taken

/-- Only the queued object waits. -/
theorem waiting_eq_queued (waits : slice.fates arrival = some (vip, .waiting)) :
    slice.pendingRecreates = some ⟨vip, arrival⟩ :=
  (accounting.accounted arrival vip .waiting waits).1

/-- The fates after the queued object got one: its own and those of the others. -/
theorem fates_settleQueued {settled fate : Fate}
    (recorded : (slice.settleQueued settled).fates arrival = some (vip, fate)) :
    (slice.pendingRecreates = some ⟨vip, arrival⟩ ∧ fate = settled) ∨
      (slice.fates arrival = some (vip, fate) ∧ fate ≠ .waiting) := by
  unfold Slice.settleQueued at recorded
  split at recorded
  · rename_i empty
    refine .inr ⟨recorded, fun waits => ?_⟩
    subst waits
    rw [accounting.waiting_eq_queued recorded] at empty
    cases empty
  · rename_i queued present
    simp only [Slice.setFate, Function.update_apply] at recorded
    split at recorded
    · rename_i same
      subst same
      simp only [Option.some.injEq, Prod.mk.injEq] at recorded
      obtain ⟨rfl, rfl⟩ := recorded
      exact .inl ⟨present, rfl⟩
    · rename_i other
      refine .inr ⟨recorded, fun waits => other ?_⟩
      subst waits
      rw [accounting.waiting_eq_queued recorded, Option.some.injEq] at present
      rw [← present]

/-- Settling the queued object leaves the fates of taken ones alone. -/
theorem taken_settleQueued {settled : Fate} {target : RecId}
    (taken : slice.fates arrival = some (vip, .taken target)) :
    (slice.settleQueued settled).fates arrival = some (vip, .taken target) := by
  unfold Slice.settleQueued
  split
  · exact taken
  · rename_i queued present
    have waits := accounting.queued queued present
    have other : arrival ≠ queued.arrival := by
      rintro rfl
      rw [taken] at waits
      cases waits
    simp only [Slice.setFate, Function.update_of_ne other]
    exact taken

/-- Settling the queued object keeps the recorded arrivals. -/
theorem numbered_settleQueued {settled : Fate}
    (recorded : (slice.settleQueued settled).fates arrival ≠ none) : arrival < slice.arrivals := by
  obtain ⟨⟨vip, fate⟩, recorded⟩ := Option.ne_none_iff_exists'.mp recorded
  rcases accounting.fates_settleQueued recorded with ⟨present, _⟩ | ⟨before, _⟩
  · apply accounting.numbered
    simp [accounting.queued _ present]
  · apply accounting.numbered
    simp [before]

/-- An update that finds no deletion leaves the queue alone. -/
theorem onVIPUpdate_free
    (point : slice.handler = .updating vip arrival) (free : slice.deleting = none) :
    Accounting (slice.onVIPUpdate vip arrival) := by
  have coherent := accounting.coherent.onVIPUpdate point
  have unused := accounting.coherent.unused
  have untouched : (slice.onVIPUpdate vip arrival).fates = slice.fates ∧
      (slice.onVIPUpdate vip arrival).arrivals = slice.arrivals ∧
      (slice.onVIPUpdate vip arrival).pendingRecreates = slice.pendingRecreates := by
    simp only [Slice.onVIPUpdate, free]
    split <;> exact ⟨rfl, rfl, rfl⟩
  obtain ⟨fates, arrivals, pending⟩ := untouched
  refine accounting.quiet coherent ?_ ?_ fates (le_of_eq arrivals.symm) pending ?_
  · simp only [Slice.onVIPUpdate, free]
    split
    · exact Keeps.of_eq rfl
    · exact (Keeps.of_publish unused).trans (Keeps.of_eq rfl)
  · intro source target queued
    simp only [Slice.onVIPUpdate, free]
    split
    · rfl
    · change (slice.publish vip .waiting).phaseOf source = _ ↔ _
      by_cases same : source = slice.nextId
      · simp [same, unused]
      · simp [same]
  · intro handled number entering
    simp only [Slice.onVIPUpdate, free] at entering
    split at entering <;> cases entering

/-- The queued object leaves the queue with the given fate. -/
theorem dequeued {settled : Fate} (coherent : Coherent next) (keeps : Keeps slice next)
    (fates : next.fates = (slice.settleQueued settled).fates)
    (arrivals : next.arrivals = slice.arrivals) (pending : next.pendingRecreates = none)
    (handler : ∀ vip arrival, next.handler = .updating vip arrival →
      slice.handler = .updating vip arrival) (launches : ∀ source target queued,
      slice.phaseOf source = some (.relaunching target queued) →
      next.phaseOf source = some (.relaunching target queued)) (launched : ∀ source target queued,
      next.phaseOf source = some (.relaunching target queued) →
      slice.phaseOf source = some (.relaunching target queued) ∨
        slice.pendingRecreates = some queued ∧ settled = .taken target ∧
          ∃ reconciler, next.reconcilers target = some reconciler ∧
            reconciler.origin = queued.vip)
    (accounted : ∀ queued, slice.pendingRecreates = some queued →
      settled.Accounted next queued.arrival queued.vip) : Accounting next where
  coherent := coherent
  accounted := by
    intro number vip fate recorded
    rw [fates] at recorded
    rcases accounting.fates_settleQueued recorded with ⟨present, rfl⟩ | ⟨before, done⟩
    · exact accounted _ present
    · exact accounted_of_keeps keeps (le_of_eq arrivals.symm) (fun waits => absurd waits done)
        (fun source target => launches source target _) (accounting.accounted _ _ _ before)
  numbered := by
    intro number recorded
    rw [fates] at recorded
    rw [arrivals]
    exact accounting.numbered_settleQueued recorded
  entering := by
    intro vip number entering
    obtain ⟨last, unrecorded⟩ := accounting.entering vip number (handler vip number entering)
    refine ⟨by rw [arrivals, last], ?_⟩
    rw [fates]
    by_contra recorded
    obtain ⟨⟨settledVip, fate⟩, recorded⟩ := Option.ne_none_iff_exists'.mp recorded
    rcases accounting.fates_settleQueued recorded with ⟨present, _⟩ | ⟨before, _⟩
    · have waits := accounting.queued _ present
      simp only [unrecorded] at waits
      cases waits
    · rw [unrecorded] at before
      cases before
  queued := by
    simp [pending]
  launches := by
    intro source target queued relaunching
    rcases launched source target queued relaunching with before | ⟨present, taken, known⟩
    · refine accounting.launch_of_keeps keeps ?_ before
      rw [fates]
      exact fun _ _ _ taken => accounting.taken_settleQueued taken
    · refine ⟨?_, known⟩
      rw [fates]
      simp [Slice.settleQueued, present, Slice.setFate, taken]

/-- An update is put into the empty queue. -/
theorem enqueued (empty : slice.pendingRecreates = none)
    (point : slice.handler = .updating vip arrival)
    (after : next = { slice.setFate arrival vip .waiting with
      pendingRecreates := some ⟨vip, arrival⟩
      handler := .idle }) (coherent : Coherent next) : Accounting next := by
  subst after
  obtain ⟨last, unrecorded⟩ := accounting.entering vip arrival point
  constructor
  case coherent => exact coherent
  case accounted =>
    intro number recordedVip fate recorded
    simp only [Slice.setFate, Function.update_apply] at recorded
    split at recorded
    · rename_i same
      subst same
      cases recorded
      exact ⟨rfl, coherent.queue (by simp)⟩
    · have before := accounting.accounted number recordedVip fate recorded
      refine accounted_of_keeps (@Keeps.of_eq slice _ rfl) le_rfl ?_ (fun _ _ same => same) before
      rintro rfl
      cases empty.symm.trans before.1
  case numbered =>
    intro number recorded
    simp only [Slice.setFate, Function.update_apply] at recorded ⊢
    split at recorded
    · omega
    · exact accounting.numbered number recorded
  case entering => simp
  case queued =>
    rintro _ ⟨⟩
    exact Function.update_self ..
  case launches =>
    intro source target queued relaunching
    apply accounting.launch_of_keeps (Keeps.of_eq _) _ relaunching
    · rfl
    intro number takenVip launched taken
    have other : number ≠ arrival := by
      rintro rfl
      cases unrecorded.symm.trans taken
    exact (Function.update_of_ne other ..).trans taken

/-- An update during a deletion is queued, in place of an earlier one. -/
theorem onVIPUpdate_queued
    (point : slice.handler = .updating vip arrival) (dies : slice.deleting = some id) :
    Accounting (slice.onVIPUpdate vip arrival) := by
  have coherent := accounting.coherent.onVIPUpdate point
  obtain ⟨last, unrecorded⟩ := accounting.entering vip arrival point
  have emptied : Coherent { slice with
      fates := (slice.settleQueued (.replaced arrival)).fates
      pendingRecreates := none } :=
    accounting.coherent.quiet rfl (by simp) accounting.coherent.delivers fun _ _ => Iff.rfl
  have replaced := accounting.dequeued emptied (Keeps.of_eq rfl) rfl rfl rfl
    (fun _ _ entering => entering) (fun _ _ _ relaunching => relaunching)
    (fun _ _ _ relaunching => .inl relaunching) fun queued present => by
      have waits := accounting.queued _ present
      have bound := accounting.numbered queued.arrival (by simp [waits])
      have other : queued.arrival ≠ arrival := by
        intro same
        rw [same, unrecorded] at waits
        cases waits
      simp only [Fate.Accounted]
      omega
  refine replaced.enqueued rfl point ?_ coherent
  unfold Slice.onVIPUpdate
  split
  · rw [slice.settleQueued_eq]
    rfl
  · rename_i free
    cases dies.symm.trans free

/-- A delete event cancels the queued object only if it carries its UID. -/
theorem onVIPDelete
    (point : slice.handler = .deleting vip) : Accounting (slice.onVIPDelete vip) := by
  have coherent := accounting.coherent.onVIPDelete point
  revert coherent
  unfold Slice.onVIPDelete
  split <;> intro coherent
  · exact accounting.quiet coherent (Keeps.of_eq rfl) (fun _ _ _ => Iff.rfl) rfl le_rfl rfl
      (by simp)
  · revert coherent
    split <;> intro coherent
    · rename_i queued present
      revert coherent
      split <;> intro coherent
      · rename_i sameUID
        rw [slice.settleQueued_eq] at coherent ⊢
        refine accounting.dequeued coherent (Keeps.of_eq rfl) rfl rfl rfl (by simp)
          (fun _ _ _ relaunching => relaunching) (fun _ _ _ relaunching => .inl relaunching) ?_
        intro cancelled waits
        rw [present, Option.some.injEq] at waits
        subst waits
        exact sameUID.symm
      · exact accounting.quiet coherent (Keeps.of_eq rfl) (fun _ _ _ => Iff.rfl) rfl le_rfl rfl
          (by simp)
    · exact accounting.quiet coherent (Keeps.of_eq rfl) (fun _ _ _ => Iff.rfl) rfl le_rfl rfl
        (by simp)

/-- The stop callback takes the queued object and publishes a reconciler for it. -/
theorem onVIPReconcilerStopped (point : slice.phaseOf id = some .stopping) :
    Accounting (slice.onVIPReconcilerStopped id) := by
  have coherent := accounting.coherent.onVIPReconcilerStopped point
  have unused := accounting.coherent.unused
  have dies := accounting.coherent.deleting_of_stopping point
  have older : id ≠ slice.nextId := Nat.ne_of_lt (accounting.coherent.fresh id (by simp [point]))
  cases waits : slice.pendingRecreates with
  | some queued =>
    have phases : ∀ source, (slice.onVIPReconcilerStopped id).phaseOf source =
        if source = slice.nextId then some .created
        else if source = id then some (.relaunching slice.nextId queued)
        else slice.phaseOf source := by
      intro source
      rw [slice.phaseOf_onVIPReconcilerStopped id point dies waits]
      simp only [Function.update_apply]
    have shape := slice.onVIPReconcilerStopped_queued id dies waits
    refine accounting.dequeued coherent ?_ (by rw [shape]) (by rw [shape]; rfl) (by rw [shape])
      ?_ ?_ ?_ ?_
    · rw [shape]
      refine ((Keeps.of_setPhase ?_).trans (Keeps.of_publish ?_)).trans (Keeps.of_eq rfl)
      · simp
      · change (slice.setPhase id _).phaseOf slice.nextId = none
        simp [Ne.symm older, unused]
    · rw [shape]
      exact fun _ _ entering => entering
    · intro source target earlier relaunching
      have distinct : source ≠ slice.nextId := by
        intro isNew
        simp [isNew, unused] at relaunching
      have other : source ≠ id := by
        intro isThis
        simp [isThis, point] at relaunching
      rw [phases, if_neg distinct, if_neg other]
      exact relaunching
    · intro source target earlier relaunching
      rw [phases] at relaunching
      split at relaunching
      · cases relaunching
      · split at relaunching
        · right
          simp only [Option.some.injEq, Phase.relaunching.injEq] at relaunching
          obtain ⟨rfl, rfl⟩ := relaunching
          refine ⟨waits, rfl, { origin := queued.vip, phase := .created }, ?_, rfl⟩
          rw [shape]
          simp [Slice.publish, Slice.setPhase, Slice.modify]
        · exact .inl relaunching
    · intro taken found
      rw [waits, Option.some.injEq] at found
      subst found
      exact ⟨id, by rw [phases, if_neg older, if_pos rfl]⟩
  | none =>
    rw [slice.onVIPReconcilerStopped_empty id dies waits] at coherent ⊢
    refine accounting.quiet coherent ?_ ?_ rfl le_rfl rfl ?_
    · exact (Keeps.of_setPhase (by simp)).trans (Keeps.of_eq rfl)
    · intro source target queued
      change (slice.setPhase id .stopped).phaseOf source = _ ↔ _
      by_cases same : source = id
      · simp [same, point]
      · simp [same]
    · exact accounting.entering

/-- The stop callback launches the reconciler it published. -/
theorem relaunch {target : RecId} {queued : Queued}
    (point : slice.phaseOf id = some (.relaunching target queued))
    (after : next = ((slice.setPhase target .waiting).setPhase id
      (.handing target queued)).setFate queued.arrival queued.vip (.started target))
    (coherent : Coherent next) : Accounting next := by
  subst after
  have created := (accounting.coherent.relaunches id target queued point).2
  have distinct := accounting.coherent.relaunches_ne point
  obtain ⟨taken, reconciler, present, origin⟩ := accounting.launches id target queued point
  have phases : ∀ source, Slice.phaseOf (((slice.setPhase target .waiting).setPhase id
      (.handing target queued)).setFate queued.arrival queued.vip (.started target)) source =
      if source = id then some (.handing target queued)
      else if source = target then some .waiting
      else slice.phaseOf source := by
    intro source
    change ((slice.setPhase target .waiting).setPhase id _).phaseOf source = _
    simp [Function.update_apply, created, point, distinct]
  have keeps : Keeps slice (((slice.setPhase target .waiting).setPhase id
      (.handing target queued)).setFate queued.arrival queued.vip (.started target)) :=
    ((Keeps.of_setPhase (by simp)).trans (Keeps.of_setPhase (by simp))).trans (Keeps.of_eq rfl)
  -- Launches other than this one belong to other arrivals.
  have others : ∀ source launched earlier, earlier.arrival ≠ queued.arrival →
      slice.phaseOf source = some (.relaunching launched earlier) →
      source ≠ id ∧ source ≠ target := by
    intro source launched earlier different relaunching
    constructor
    · rintro rfl
      cases point.symm.trans relaunching
      exact different rfl
    · rintro rfl
      cases created.symm.trans relaunching
  have elsewhere : ∀ {number vip fate}, slice.fates number = some (vip, fate) →
      fate ≠ .taken target → number ≠ queued.arrival := by
    rintro number vip fate recorded different rfl
    cases taken.symm.trans recorded
    exact different rfl
  constructor
  case coherent => exact coherent
  case accounted =>
    intro number vip fate recorded
    simp only [Slice.setFate, Function.update_apply] at recorded
    split at recorded
    · rename_i same
      subst same
      cases recorded
      obtain ⟨later, found, same, _⟩ := keeps target reconciler present
      refine ⟨later, found, same.trans origin, ?_⟩
      have waits := phases target
      rw [if_neg (Ne.symm distinct), if_pos rfl, Slice.phaseOf, found] at waits
      simp [Option.some.inj waits]
    · rename_i other
      have before := accounting.accounted number vip fate recorded
      refine accounted_of_keeps keeps le_rfl ?_ ?_ before
      · rintro rfl
        exact ⟨rfl, before.2⟩
      · intro source launched relaunching
        obtain ⟨notThis, notTarget⟩ := others source launched ⟨vip, number⟩ other relaunching
        rw [phases, if_neg notThis, if_neg notTarget]
        exact relaunching
  case numbered =>
    intro number recorded
    simp only [Slice.setFate, Function.update_apply] at recorded
    split at recorded
    · rename_i same
      subst same
      exact accounting.numbered _ (by simp [taken])
    · exact accounting.numbered number recorded
  case entering =>
    intro vip number entering
    obtain ⟨last, unrecorded⟩ := accounting.entering vip number entering
    have other : number ≠ queued.arrival := by
      rintro rfl
      cases unrecorded.symm.trans taken
    exact ⟨last, (Function.update_of_ne other ..).trans unrecorded⟩
  case queued =>
    intro waiting found
    have waits := accounting.queued waiting found
    exact (Function.update_of_ne (elsewhere waits (by simp)) ..).trans waits
  case launches =>
    intro source launched earlier relaunching
    rw [phases] at relaunching
    split at relaunching
    · cases relaunching
    · rename_i notThis
      split at relaunching
      · cases relaunching
      · obtain ⟨earlierTaken, reconciler, found, origin⟩ :=
          accounting.launches source launched earlier relaunching
        have successor := (accounting.coherent.relaunches source launched earlier relaunching).1
        have this := (accounting.coherent.relaunches id target queued point).1
        have different := elsewhere earlierTaken (by grind)
        obtain ⟨later, foundLater, same, _⟩ := keeps launched reconciler found
        exact ⟨(Function.update_of_ne different ..).trans earlierTaken, later, foundLater,
          same.trans origin⟩

/-- A step that moves no reconciler to another phase. -/
theorem unmoved (coherent : Coherent next)
    (keeps : Keeps slice next) (phases : next.phaseOf = slice.phaseOf)
    (fates : next.fates = slice.fates) (arrivals : next.arrivals = slice.arrivals)
    (pending : next.pendingRecreates = slice.pendingRecreates)
    (handler : ∀ vip arrival, next.handler = .updating vip arrival →
      slice.handler = .updating vip arrival) : Accounting next := by
  refine accounting.quiet coherent keeps ?_ fates (le_of_eq arrivals.symm) pending ?_
  · intro source target queued
    rw [phases]
  · intro vip arrival entering
    rw [arrivals]
    exact accounting.entering vip arrival (handler vip arrival entering)

/-- The event handler accounts for the queue. -/
theorem handle (moves : slice.handle = some next) : Accounting next := by
  have coherent := accounting.coherent.handle moves
  unfold Slice.handle at moves
  split at moves
  next => cases moves
  next vip arrival point =>
    cases moves
    cases dies : slice.deleting with
    | none => exact accounting.onVIPUpdate_free point dies
    | some id => exact accounting.onVIPUpdate_queued point dies
  next target vip point =>
    cases moves
    exact accounting.unmoved coherent (.of_modify (fun _ => rfl) fun _ launched => launched)
      (slice.phaseOf_setCurrent target vip) rfl rfl rfl (by simp)
  next target point =>
    cases moves
    exact accounting.unmoved coherent (.of_modify (fun _ => rfl) fun _ launched => launched)
      (slice.phaseOf_triggerReconcile target) rfl rfl rfl (by simp)
  next vip point =>
    cases moves
    exact accounting.onVIPDelete point
  next target vip point =>
    cases moves
    exact accounting.unmoved coherent (.of_modify (fun _ => rfl) fun _ launched => launched)
      (slice.phaseOf_markDeleted target vip) rfl rfl rfl (by simp)

/-- The last steps of a stop callback: it changes a reconciler in place and moves on. -/
theorem passes {target : RecId} {change : Reconciler → Reconciler}
    {before phase : Phase} (point : slice.phaseOf id = some before)
    (done : ∀ target queued, before ≠ .relaunching target queued)
    (outstanding : ∀ target queued, phase ≠ .relaunching target queued)
    (launched : phase ≠ .created)
    (origin : ∀ reconciler, (change reconciler).origin = reconciler.origin)
    (phases : ∀ reconciler, (change reconciler).phase = reconciler.phase)
    (coherent : Coherent ((slice.modify target change).setPhase id phase)) :
    Accounting ((slice.modify target change).setPhase id phase) := by
  refine accounting.quiet coherent ((Keeps.of_modify origin fun reconciler started => ?_).trans
    (Keeps.of_setPhase launched)) ?_ rfl le_rfl rfl accounting.entering
  · rw [phases]
    exact started
  · intro source successor queued
    have same : (slice.modify target change).phaseOf = slice.phaseOf :=
      slice.comp_modify target (Option.map Reconciler.phase) fun reconciler =>
        congrArg some (phases reconciler)
    rw [Slice.phaseOf_setPhase, same, point]
    by_cases here : source = id
    · simp [here, point, done, outstanding]
    · simp [here]

/-- A stop callback accounts for the queue. -/
theorem callback (moves : slice.callback id = some next) : Accounting next := by
  have coherent := accounting.coherent.callback moves
  unfold Slice.callback at moves
  split at moves
  next point =>
    cases moves
    exact accounting.onVIPReconcilerStopped point
  next target queued point =>
    exact accounting.relaunch point (Option.some.inj moves).symm coherent
  next target queued point =>
    cases moves
    exact accounting.passes point (by simp) (by simp) (by simp) (fun _ => rfl) (fun _ => rfl)
      coherent
  next target point =>
    cases moves
    exact accounting.passes point (by simp) (by simp) (by simp) (fun _ => rfl) (fun _ => rfl)
      coherent
  next => cases moves

end Accounting

variable {slice : Slice}

/-- Every reachable slice accounts for its queue. -/
theorem accounting_of_reachable {guard : Slice → Label → Prop}
    (reached : slices.Reachable guard slice) : Accounting slice := by
  induction reached with
  | initial starts =>
    obtain rfl := starts
    have empty : slices.Reachable guard {} := .initial rfl
    have coherent := coherent_of_reachable empty
    constructor
    case coherent => exact coherent
    all_goals simp [Slice.phaseOf]
  | @step slice next label reached meets moves accounting =>
    have coherent := coherent_of_reachable (reached.step meets moves)
    change slice.step label = some next at moves
    cases label with
    | update vip =>
      obtain ⟨-, ⟨⟩⟩ := Option.ite_none_right_eq_some.mp moves
      refine accounting.quiet coherent (Keeps.of_eq rfl) (fun _ _ _ => Iff.rfl) rfl
        (Nat.le_succ _) rfl ?_
      intro handled number entering
      cases entering
      refine ⟨rfl, ?_⟩
      by_contra recorded
      exact absurd (accounting.numbered _ recorded) (lt_irrefl _)
    | delete vip =>
      obtain ⟨-, ⟨⟩⟩ := Option.ite_none_right_eq_some.mp moves
      exact accounting.quiet coherent (Keeps.of_eq rfl) (fun _ _ _ => Iff.rfl) rfl
        le_rfl rfl (by simp)
    | handle => exact accounting.handle moves
    | healthChange =>
      simp only [Slice.step] at moves
      split at moves
      · cases moves
        exact accounting.unmoved coherent (.of_modify (fun _ => rfl) fun _ launched => launched)
          (Slice.phaseOf_triggerReconcile ..) rfl rfl rfl fun _ _ entering => entering
      · cases moves
        exact accounting
    | run id step =>
      obtain ⟨reconciler, after, present, moved, rfl⟩ := Slice.step_run moves
      obtain ⟨acts, stays, launched, _, origin, _⟩ := Reconciler.run_cases moved
      refine accounting.quiet coherent
        (Keeps.of_update present rfl origin fun _ => launched) ?_ rfl le_rfl rfl
        accounting.entering
      intro source target queued
      by_cases same : source = id
      · subst same
        have notBefore : reconciler.phase ≠ .relaunching target queued := by
          intro relaunching
          simp [relaunching, Phase.active] at acts
        have notAfter : after.phase ≠ .relaunching target queued := by
          intro relaunching
          simp [relaunching, Phase.present] at stays
        simp [Slice.phaseOf, present, notBefore, notAfter]
      · simp [Slice.phaseOf, same]
    | callback id => exact accounting.callback moves

/-- The reconciler is in its run loop without a deletion to work on, or stopped. -/
def Reconciler.Settled (reconciler : Reconciler) : Prop :=
  (reconciler.phase.active = true ∧ reconciler.knows = false) ∨ reconciler.phase = .stopped

instance (reconciler : Reconciler) : Decidable reconciler.Settled :=
  inferInstanceAs (Decidable (_ ∨ _))

/-- All calls have returned and no cleanup is left to do. -/
structure Quiet (slice : Slice) : Prop where
  handler : slice.handler = .idle
  settled : ∀ id reconciler, slice.reconcilers id = some reconciler → reconciler.Settled

/-- The reconcilers of a slice are those that were created. -/
theorem Coherent.created (coherent : Coherent slice) {id : RecId}
    {reconciler : Reconciler} (found : slice.reconcilers id = some reconciler) :
    id < slice.nextId := by
  apply coherent.fresh
  simp [Slice.phaseOf, found]

theorem Coherent.quiet_of_created (coherent : Coherent slice) (idle : slice.handler = .idle)
    (settled : ∀ id < slice.nextId, ∀ reconciler ∈ slice.reconcilers id, reconciler.Settled) :
    Quiet slice where
  handler := idle
  settled := fun id reconciler found => settled id (coherent.created found) reconciler found

/-- Once everything is quiet, no deletion is in progress. -/
theorem Quiet.deleting_eq_none (quiet : Quiet slice) (coherent : Coherent slice) :
    slice.deleting = none := by
  by_contra dies
  obtain ⟨id, dies⟩ := Option.ne_none_iff_exists'.mp dies
  obtain ⟨_, delivered, phase, point, present⟩ := coherent.dying id dies
  obtain ⟨reconciler, found, rfl⟩ := Option.map_eq_some_iff.mp point
  have marked : slice.marked id = true := by
    rcases delivered with marked | ⟨vip, marking⟩
    · exact marked
    · rw [quiet.handler] at marking
      cases marking
  simp only [Slice.marked, found, Option.any_some] at marked
  rcases quiet.settled id reconciler found with ⟨_, ignorant⟩ | stopped
  · rw [marked] at ignorant
    cases ignorant
  · simp [stopped, Phase.present] at present

/-- A reconciler that may act is the last one that was created. -/
theorem Coherent.last_of_present (coherent : Coherent slice) {id : RecId}
    {phase : Phase} (point : slice.phaseOf id = some phase) (present : phase.present = true) :
    id + 1 = slice.nextId := by
  rcases coherent.tracked id phase point present with lives | dies
  · exact (coherent.live id lives).1
  · exact (coherent.dying id dies).1

/-- A service is deleted; while the cleanup fails once and then succeeds, updates for
its successors arrive. -/
def recreationRun (key : VIPKey) (first : VirtualIP) (successors : List VirtualIP) :
    List (VIPKey × Label) :=
  let labels : List Label :=
    [.update first, .handle, .handle, .handle, .delete first, .handle, .handle,
        .run 0 .receive, .run 0 (.finishDelete false)] ++
      successors.flatMap (fun vip => [.update vip, .handle]) ++
      [.run 0 .retry, .run 0 (.finishDelete true), .callback 0, .callback 0, .callback 0,
        .callback 0]
  labels.map fun label => (key, label)

end ArcaLB.Manager
