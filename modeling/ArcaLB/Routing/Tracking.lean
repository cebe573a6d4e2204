import ArcaLB.Routing.Alone
import ArcaLB.Routing.Interleaving

/-!
# Where a key is tracked

`vipAddresses` has one address per key, the `serving` maps of the addresses have the keys that
count on them, and both are written in several critical sections with router calls between them.
At every point of every interleaving, a key counts on no address but the one it is tracked on, and
it leaves that address only when a withdrawal has reported success.
-/

namespace ArcaLB.Routing

/-- A removal takes a VIP away from the address that it is tracked on; only `Delete` also removes a
VIP that is tracked nowhere. -/
def AfterRemove.From (tracked address : String) (after : AfterRemove) : Prop :=
  (tracked = address ∧ tracked ≠ "") ∨ (after = .delete ∧ tracked = "")

/-- A removal that goes on from here takes the VIP away from where it is tracked. -/
def AfterRoute.From (tracked address : String) : AfterRoute → Prop
  | .remove after => after.From tracked address
  | .caller => True
  | .beginDrain => True

/-- A call that is about to mark its VIP on an address has left every other one. -/
def Pc.Placed (tracked : String) : Pc → Prop
  | .removeBegin address after => after.From tracked address
  | .removeEnd address after _ _ => after.From tracked address
  | .setServingMark address _ => tracked = "" ∨ tracked = address
  | .drainMark address _ => tracked = "" ∨ tracked = address
  | .routeDecide address after => after.From tracked address
  | .routeCall address _ _ _ after => after.From tracked address
  | .routeRecord address _ _ after => after.From tracked address
  | .start _ => True
  | .drainAbort _ _ => True
  | .done _ _ => True

section Steps

variable {key : VIPKey} {reply : Reply} {shared : Shared} {coordinator : RouteCoordinator}

theorem AfterRemove.From.here {after : AfterRemove} {address : String}
    (leaves : after.From (coordinator.vipAddresses key) address) :
    coordinator.trackedElsewhere key address = false := by
  rcases leaves with ⟨tracked, -⟩ | ⟨-, untracked⟩
  · simp [RouteCoordinator.trackedElsewhere, tracked]
  · simp [RouteCoordinator.trackedElsewhere, untracked]

theorem trackedElsewhere_iff {address : String} :
    coordinator.trackedElsewhere key address = true ↔
      coordinator.vipAddresses key ≠ "" ∧ coordinator.vipAddresses key ≠ address := by
  simp [RouteCoordinator.trackedElsewhere]

theorem AfterRoute.placed_resume {after : AfterRoute} {tracked address : String}
    (leaves : after.From tracked address) (advertised : Bool) (err : Option String) :
    (after.resume address advertised err).Placed tracked := by
  cases after with
  | caller => trivial
  | remove next => exact leaves
  | beginDrain => cases err <;> trivial

theorem AfterRemove.placed_resume (after : AfterRemove) (removed : String) (advertised : Bool)
    (err : Option String) {tracked : String} (left : err = none → tracked = "") :
    (after.resume key removed advertised err).Placed tracked := by
  cases after <;> cases err <;> first | trivial | exact .inl (left rfl)

theorem Call.placed_enter (call : Call) :
    (call.enter key coordinator).1.Placed (coordinator.vipAddresses key) := by
  have here : ∀ {address : String}, ¬coordinator.trackedElsewhere key address = true →
      coordinator.vipAddresses key = "" ∨ coordinator.vipAddresses key = address := by
    intro address here
    rw [trackedElsewhere_iff] at here
    by_cases untracked : coordinator.vipAddresses key = ""
    · exact .inl untracked
    · exact .inr (not_not.mp fun different => here ⟨untracked, different⟩)
  cases call with
  | setServing address serving | beginDrain address force =>
    simp only [Call.enter]
    split
    · trivial
    · split
      · rename_i elsewhere
        exact .inl ⟨rfl, (trackedElsewhere_iff.mp elsewhere).1⟩
      · rename_i stays
        exact here stays
  | finishDrain address =>
    simp only [Call.enter]
    (repeat' split) <;> trivial
  | prepareAddressChange address =>
    simp only [Call.enter]
    split
    · trivial
    · split
      · rename_i elsewhere
        exact .inl ⟨rfl, (trackedElsewhere_iff.mp elsewhere).1⟩
      · trivial
  | delete address =>
    by_cases untracked : coordinator.vipAddresses key = ""
    · simp only [Call.enter, untracked, if_true]
      split
      · trivial
      · exact .inr ⟨rfl, rfl⟩
    · simp only [Call.enter, untracked, if_false]
      exact .inl ⟨rfl, untracked⟩

/-- The tracked address changes only where a VIP is marked or a removal reports success. -/
theorem Pc.tracked_same {pc : Pc} (served : ∀ address serving, pc ≠ .setServingMark address serving)
    (drained : ∀ address force, pc ≠ .drainMark address force)
    (removed : ∀ address after advertised, pc ≠ .removeEnd address after advertised none) :
    (pc.step key reply shared).2.coordinator.vipAddresses key =
      shared.coordinator.vipAddresses key := by
  rcases pc.tracked_step key reply shared with same |
    ⟨address, ⟨serving, point⟩ | ⟨force, point⟩, -⟩ | ⟨address, after, advertised, point, -, -⟩
  · exact same
  · exact absurd point (served address serving)
  · exact absurd point (drained address force)
  · exact absurd point (removed address after advertised)

theorem untracked_finishRemove {address : String}
    (here : coordinator.trackedElsewhere key address = false) :
    (coordinator.finishRemove key address none).vipAddresses key = "" := by
  simp only [RouteCoordinator.finishRemove, RouteCoordinator.cleanupRouteAddress, here]
  (repeat' split) <;> simp_all

/-- **One step keeps a call in its place.** -/
theorem Pc.placed_step {pc : Pc} (placed : pc.Placed (shared.coordinator.vipAddresses key)) :
    (pc.step key reply shared).1.Placed
      ((pc.step key reply shared).2.coordinator.vipAddresses key) := by
  cases pc with
  | start call =>
    rw [Pc.tracked_same (by simp) (by simp) (by simp)]
    exact call.placed_enter
  | removeBegin address after =>
    rw [Pc.tracked_same (by simp) (by simp) (by simp)]
    simp only [Pc.step, placed.here, Bool.false_eq_true, if_false]
    exact placed
  | removeEnd address after advertised err =>
    refine AfterRemove.placed_resume after address advertised err fun success => ?_
    subst success
    exact untracked_finishRemove placed.here
  | setServingMark address serving => trivial
  | drainMark address force =>
    simp only [Pc.step]
    split <;> trivial
  | drainAbort address err => trivial
  | routeDecide address after =>
    rw [Pc.tracked_same (by simp) (by simp) (by simp)]
    simp only [Pc.step, decideRoute]
    split
    · exact AfterRoute.placed_resume placed _ _
    · split
      · exact AfterRoute.placed_resume placed _ _
      · exact placed
  | routeCall address operation advertised time after =>
    rw [Pc.tracked_same (by simp) (by simp) (by simp)]
    simp only [Pc.step]
    split
    · exact AfterRoute.placed_resume placed _ _
    · exact placed
  | routeRecord address operation time after =>
    rw [Pc.tracked_same (by simp) (by simp) (by simp)]
    simp only [Pc.step, afterRecord]
    split
    · exact AfterRoute.placed_resume placed _ _
    · split
      · exact AfterRoute.placed_resume placed _ _
      · exact placed
  | done result err => trivial

/-- A tracked VIP stays where it is until a removal reports success. -/
theorem Pc.tracked_kept {pc : Pc} (placed : pc.Placed (shared.coordinator.vipAddresses key))
    (tracked : shared.coordinator.vipAddresses key ≠ "")
    (removed : ∀ address after advertised, pc ≠ .removeEnd address after advertised none) :
    (pc.step key reply shared).2.coordinator.vipAddresses key =
      shared.coordinator.vipAddresses key := by
  rcases pc.tracked_step key reply shared with same |
    ⟨address, ⟨serving, rfl⟩ | ⟨force, rfl⟩, marked⟩ | ⟨address, after, advertised, point, -, -⟩
  · exact same
  · rw [marked]
    exact (placed.resolve_left tracked).symm
  · rw [marked]
    exact (placed.resolve_left tracked).symm
  · exact absurd point (removed address after advertised)

/-- What a control point says about the marks depends on its VIP only. -/
theorem Pc.Marks.congr {pc : Pc} {call : Call} {before : String → Option Bool}
    {next : RouteCoordinator} (marked : pc.Marks key call before coordinator)
    (marks : next.marks key = coordinator.marks key)
    (tracked : next.vipAddresses key = coordinator.vipAddresses key) :
    pc.Marks key call before next := by
  have elsewhere : next.trackedElsewhere key = coordinator.trackedElsewhere key := by
    funext address
    simp only [RouteCoordinator.trackedElsewhere, tracked]
  unfold Pc.Marks at marked ⊢
  rw [marks, elsewhere]
  exact marked

end Steps

namespace Interleaving

/-- Keys count only where they are tracked, and every call is in its place. -/
structure Accounted (state : State) : Prop where
  tracks : ∀ key, Tracks key state.shared.coordinator
  marks : ∀ key thread, state.threads key = some thread →
    ∃ before, thread.pc.Marks key thread.call before state.shared.coordinator
  placed : ∀ key thread, state.threads key = some thread →
    thread.pc.Placed (state.shared.coordinator.vipAddresses key)

theorem accounted_boot (interval : Int) (routes : String → Bool) :
    Accounted (boot interval routes) where
  tracks _ _ marked := absurd rfl marked
  marks _ _ running := nomatch running
  placed _ _ running := nomatch running

theorem Accounted.step {state next : State} {label : Label} (accounted : Accounted state)
    (moves : step state label = some next) : Accounted next := by
  rcases step_cases moves with ⟨key, call, rfl, absent, rfl⟩ |
    ⟨key, reply, thread, rfl, present, rfl⟩ | ⟨key, call, result, err, rfl, present, rfl⟩
  · refine ⟨accounted.tracks, fun other thread running => ?_, fun other thread running => ?_⟩
    · by_cases same : other = key
      · subst same
        cases (Function.update_self ..).symm.trans running
        exact ⟨_, rfl, rfl⟩
      · exact accounted.marks other thread ((Function.update_of_ne same ..).symm.trans running)
    · by_cases same : other = key
      · subst same
        cases (Function.update_self ..).symm.trans running
        trivial
      · exact accounted.placed other thread ((Function.update_of_ne same ..).symm.trans running)
  · obtain ⟨before, marked⟩ := accounted.marks key thread present
    have own := Pc.marks_step reply (accounted.tracks key) marked
    refine ⟨fun other => ?_, fun other later running => ?_, fun other later running => ?_⟩
    · by_cases same : other = key
      · subst same
        exact own.1
      · exact (accounted.tracks other).congr (Pc.marks_other_step same ..)
          (Pc.tracked_other_step _ _ _ _ same)
    · by_cases same : other = key
      · subst same
        cases (Function.update_self ..).symm.trans running
        exact ⟨before, own.2⟩
      · obtain ⟨before, marked⟩ :=
          accounted.marks other later ((Function.update_of_ne same ..).symm.trans running)
        exact ⟨before, marked.congr (Pc.marks_other_step same ..)
          (Pc.tracked_other_step _ _ _ _ same)⟩
    · by_cases same : other = key
      · subst same
        cases (Function.update_self ..).symm.trans running
        exact Pc.placed_step (accounted.placed other thread present)
      · have placed :=
          accounted.placed other later ((Function.update_of_ne same ..).symm.trans running)
        rw [← Pc.tracked_other_step key reply state.shared thread.pc same] at placed
        exact placed
  · have earlier : ∀ {other thread}, Function.update state.threads key none other = some thread →
        state.threads other = some thread := by
      intro other thread running
      by_cases same : other = key
      · subst same
        cases (Function.update_self ..).symm.trans running
      · exact (Function.update_of_ne same ..).symm.trans running
    exact ⟨accounted.tracks,
      fun other thread running => accounted.marks other thread (earlier running),
      fun other thread running => accounted.placed other thread (earlier running)⟩

theorem accounted_of_reachable {interval : Int} {state : State}
    (reached : (system interval).Reachable TransitionSystem.unguarded state) : Accounted state := by
  induction reached with
  | initial starts =>
    obtain ⟨routes, rfl⟩ := starts
    exact accounted_boot interval routes
  | step _ _ moves accounted => exact accounted.step moves

/-- The step is not one in which a removal for the key reports success. -/
def unreported (key : VIPKey) (state : State) : Label → Prop
  | .step caller _ => caller = key → ∀ call address after advertised,
      state.threads key ≠ some ⟨call, .removeEnd address after advertised none⟩
  | _ => True

theorem Accounted.tracked_step {state next : State} {label : Label} {key : VIPKey}
    (accounted : Accounted state) (moves : Interleaving.step state label = some next)
    (silent : unreported key state label)
    (tracked : state.shared.coordinator.vipAddresses key ≠ "") :
    next.shared.coordinator.vipAddresses key = state.shared.coordinator.vipAddresses key := by
  rcases step_cases moves with ⟨caller, call, rfl, absent, rfl⟩ |
    ⟨caller, reply, thread, rfl, present, rfl⟩ | ⟨caller, call, result, err, rfl, present, rfl⟩
  · rfl
  · by_cases same : key = caller
    · subst same
      refine Pc.tracked_kept (accounted.placed key thread present) tracked ?_
      rintro address after advertised point
      exact silent rfl thread.call address after advertised (by rw [present, ← point])
    · exact Pc.tracked_other_step _ _ _ _ same
  · rfl

/-- A tracked key stays on its address through every run without a successful removal. -/
theorem tracked_run {interval : Int} {labels : List Label} {state final : State} {key : VIPKey}
    (accounted : Accounted state) (tracked : state.shared.coordinator.vipAddresses key ≠ "")
    (runs : (system interval).run state labels = some final)
    (silent : (system interval).Meets (unreported key) state labels) :
    final.shared.coordinator.vipAddresses key = state.shared.coordinator.vipAddresses key := by
  induction labels generalizing state with
  | nil =>
    cases runs
    rfl
  | cons label rest ih =>
    obtain ⟨next, moves, continues⟩ := Option.bind_eq_some_iff.mp runs
    obtain ⟨now, later⟩ := silent
    rw [moves] at later
    have same := accounted.tracked_step moves now tracked
    rw [ih (accounted.step moves) (same ▸ tracked) continues later, same]

/-- **A key counts where it is tracked.** However the calls of any number of keys interleave and
whichever router calls fail, a key in the serving map of an address is tracked on that address, so
it is in the map of no other one.  Where the withdrawal from the previous address of a key fails,
the key stays tracked on it in every run from there on until a removal of the key reports
success. -/
theorem keys_tracked_where_serving {interval : Int} {state : State}
    (reached : (system interval).Reachable TransitionSystem.unguarded state) :
    (∀ key address entry, state.shared.coordinator.addresses address = some entry →
      key ∈ entry.serving → state.shared.coordinator.vipAddresses key = address) ∧
    (∀ key one two first second, state.shared.coordinator.addresses one = some first →
      state.shared.coordinator.addresses two = some second →
      key ∈ first.serving → key ∈ second.serving → one = two) ∧
    ∀ key call previous after advertised err,
      state.threads key = some ⟨call, .removeEnd previous after advertised (some err)⟩ →
      (after = .delete → state.shared.coordinator.vipAddresses key ≠ "") →
      ∀ labels final, (system interval).run state labels = some final →
        (system interval).Meets (unreported key) state labels →
        final.shared.coordinator.vipAddresses key = previous := by
  have accounted := accounted_of_reachable reached
  have tracked : ∀ key address entry, state.shared.coordinator.addresses address = some entry →
      key ∈ entry.serving → state.shared.coordinator.vipAddresses key = address := by
    intro key address entry found serves
    refine (accounted.tracks key address ?_).1
    obtain ⟨serving, marked⟩ := Option.isSome_iff_exists.mp (AList.lookup_isSome.mpr serves)
    simp [RouteCoordinator.marks, found, marked]
  refine ⟨tracked, ?_, ?_⟩
  · intro key one two first second here there serves also
    exact (tracked key one first here serves).symm.trans (tracked key two second there also)
  · intro key call previous after advertised err running known labels final runs silent
    rcases accounted.placed key _ running with ⟨same, named⟩ | ⟨deletes, untracked⟩
    · rw [tracked_run accounted named runs silent, same]
    · exact absurd untracked (known deletes)

/-- A key moves to another address, and the withdrawal from the old one fails. -/
def failedMove (key : VIPKey) : List Label :=
  let ok : Reply := ⟨0, none⟩
  [.call key (.setServing "192.0.2.1" true), .step key ok, .step key ok, .step key ok,
    .step key ok, .step key ok, .finish key] ++
    [.call key (.setServing "192.0.2.2" true), .step key ok, .step key ok, .step key ok,
      .step key ⟨0, some "vtysh failed"⟩]

/-- The call returns the error, and the key starts to be deleted. -/
def failedMoveReturns (key : VIPKey) : List Label :=
  let ok : Reply := ⟨0, none⟩
  [.step key ok, .finish key, .call key (.delete "192.0.2.2"), .step key ok, .step key ok]

theorem keys_tracked_where_serving_failed_move :
    ∃ state final,
      (system 0).run (boot 0 fun _ => false) (failedMove ⟨"default", "a"⟩) = some state ∧
      (system 0).run state (failedMoveReturns ⟨"default", "a"⟩) = some final ∧
      final.shared.coordinator.vipAddresses ⟨"default", "a"⟩ = "192.0.2.1" := by
  have runs : (system 0).run (boot 0 fun _ => false) (failedMove ⟨"default", "a"⟩) = some _ := rfl
  refine ⟨_, _, runs, rfl, ?_⟩
  have starts : (system 0).Reachable TransitionSystem.unguarded (boot 0 fun _ => false) :=
    .initial ⟨_, rfl⟩
  have reached := starts.run (TransitionSystem.meets_unguarded _ _ _) runs
  refine (keys_tracked_where_serving reached).2.2 ⟨"default", "a"⟩ _ _ _ _ _ rfl (by simp)
    (failedMoveReturns ⟨"default", "a"⟩) _ rfl ⟨?_, trivial, trivial, ?_, ?_, trivial⟩
  all_goals
    intro _ _ _ _ _ point
    cases point

end Interleaving

end ArcaLB.Routing
