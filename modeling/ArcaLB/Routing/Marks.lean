import ArcaLB.Routing.Sequential

/-!
# Where a VIP is recorded as serving

A VIP has at most one tracked address, and it is marked, as serving or as not serving, on
no other one.  Each call that runs alone leaves the marks of its VIP as its name says,
whatever the router answers.
-/

namespace ArcaLB.Routing

namespace RouteCoordinator

/-- The mark of a VIP on each address: whether it serves there, `none` where it is not
recorded. -/
def marks (coordinator : RouteCoordinator) (key : VIPKey) (address : String) : Option Bool :=
  (coordinator.addresses address).bind fun state => state.serving.lookup key

variable (coordinator : RouteCoordinator) (key : VIPKey) (address : String)

@[simp] theorem marks_setAddress (state : Option RouteAddressState) :
    (coordinator.setAddress address state).marks key =
      Function.update (coordinator.marks key) address
        (state.bind fun state => state.serving.lookup key) := by
  funext other
  by_cases same : other = address
  · subst same
    simp [marks]
  · simp [marks, Function.update_of_ne same]

@[simp] theorem marks_track (other : VIPKey) :
    (coordinator.track other address).marks key = coordinator.marks key := rfl

/-- Writing an entry with the same record of the VIP leaves its marks. -/
theorem marks_setAddress_self {state : Option RouteAddressState}
    (same : (state.bind fun state => state.serving.lookup key) = coordinator.marks key address) :
    (coordinator.setAddress address state).marks key = coordinator.marks key := by
  rw [marks_setAddress, same, Function.update_eq_self]

@[simp] theorem marks_recordRoute (operation : RouteOperation) (time : Time) :
    (coordinator.recordRoute address operation time).marks key = coordinator.marks key := by
  unfold recordRoute
  split
  · rfl
  · rename_i state found
    apply marks_setAddress_self
    simp [marks, found]

@[simp] theorem marks_clearDrain (owner : VIPKey) :
    (coordinator.clearDrain owner address).marks key = coordinator.marks key := by
  unfold clearDrain
  split
  · rfl
  · rename_i state found
    split
    · apply marks_setAddress_self
      simp [marks, found]
    · rfl

/-- An entry is dropped only where nothing is marked. -/
@[simp] theorem marks_cleanupRouteAddress :
    (coordinator.cleanupRouteAddress address).marks key = coordinator.marks key := by
  unfold cleanupRouteAddress
  split
  · rfl
  · rename_i state found
    split
    · rename_i empty
      apply marks_setAddress_self
      simp only [Bool.and_eq_true, List.isEmpty_iff] at empty
      have absent : key ∉ state.serving := by
        rw [AList.mem_keys, AList.keys, empty.1]
        exact List.not_mem_nil
      simp [marks, found, AList.lookup_eq_none.mpr absent]
    · rfl

@[simp] theorem marks_forgetServing :
    (coordinator.forgetServing key address).marks key =
      Function.update (coordinator.marks key) address none := by
  unfold forgetServing
  split
  · rename_i absent
    rw [show (none : Option Bool) = coordinator.marks key address by simp [marks, absent],
      Function.update_eq_self]
  · rw [marks_setAddress]
    simp

@[simp] theorem marks_finishRemove (err : Option String) :
    (coordinator.finishRemove key address err).marks key = coordinator.marks key := by
  unfold finishRemove
  dsimp only
  split <;> simp

@[simp] theorem marks_markServing (serving : Bool) :
    (coordinator.markServing key address serving).marks key =
      Function.update (coordinator.marks key) address (some serving) := by
  simp [markServing]

/-- The entry that is created where there is none marks nothing. -/
theorem lookup_ensure :
    (coordinator.ensureRouteAddressState address).serving.lookup key =
      coordinator.marks key address := by
  unfold ensureRouteAddressState marks
  cases coordinator.addresses address with
  | none | some state => rfl

theorem marks_markDraining (force : Bool) :
    (coordinator.markDraining key address force).marks key =
      if coordinator.drainAdmitted key address force then
        Function.update (coordinator.marks key) address (some false)
      else coordinator.marks key := by
  unfold markDraining
  split
  · simp
  · apply marks_setAddress_self
    exact coordinator.lookup_ensure key address

section Others

variable {key} {other : VIPKey} (distinct : other ≠ key)

include distinct

theorem marks_other_forgetServing :
    (coordinator.forgetServing key address).marks other = coordinator.marks other := by
  unfold forgetServing
  split
  · rfl
  · rename_i state found
    apply marks_setAddress_self
    simp [marks, found, AList.lookup_erase_ne distinct]

theorem marks_other_markServing (serving : Bool) :
    (coordinator.markServing key address serving).marks other = coordinator.marks other := by
  apply marks_setAddress_self
  exact (AList.lookup_insert_ne distinct).trans (coordinator.lookup_ensure other address)

theorem marks_other_markDraining (force : Bool) :
    (coordinator.markDraining key address force).marks other = coordinator.marks other := by
  unfold markDraining
  split
  · apply marks_setAddress_self
    exact (AList.lookup_insert_ne distinct).trans (coordinator.lookup_ensure other address)
  · apply marks_setAddress_self
    exact coordinator.lookup_ensure other address

end Others

end RouteCoordinator

/-- The VIP is marked only where it is tracked. -/
def Tracks (key : VIPKey) (coordinator : RouteCoordinator) : Prop :=
  ∀ address, coordinator.marks key address ≠ none →
    coordinator.vipAddresses key = address ∧ address ≠ ""

/-- What a call that returned leaves of the marks of its VIP. -/
def Call.Leaves (call : Call) (before : String → Option Bool) (result : Bool)
    (err : Option String) (marks : String → Option Bool) : Prop :=
  match call with
  | .setServing address serving =>
    address ≠ "" → ∀ other, marks other = some true → other = address ∧ serving = true
  | .beginDrain address _ =>
    address ≠ "" → (∀ other, marks other = some true → before other = some true) ∧
      (result = true ∨ err ≠ none → ∀ other, marks other ≠ some true)
  | .finishDrain _ => marks = before
  | .prepareAddressChange address =>
    address ≠ "" → ∀ other, marks other = some true → other = address ∧ before other = some true
  | .delete _ => ∀ other, marks other = none

/-- The continuation belongs to the call. -/
def AfterRemove.Of (after : AfterRemove) (call : Call) : Prop :=
  match after with
  | .setServing address serving => call = .setServing address serving ∧ address ≠ ""
  | .beginDrain address force => call = .beginDrain address force ∧ address ≠ ""
  | .prepareAddressChange => ∃ address, call = .prepareAddressChange address
  | .delete => ∃ address, call = .delete address

/-- The marks while `reconcileRoute` runs for the call. -/
def AfterRoute.Marks (after : AfterRoute) (call : Call) (before marks : String → Option Bool) :
    Prop :=
  match after with
  | .caller => ∀ result err, call.Leaves before result err marks
  | .remove next => next.Of call ∧ ∀ other, marks other = none
  | .beginDrain => (∃ address force, call = .beginDrain address force) ∧
      ∀ other, marks other ≠ some true

/-- The marks at each control point of the call. -/
def Pc.Marks (key : VIPKey) (call : Call) (before : String → Option Bool) (pc : Pc)
    (coordinator : RouteCoordinator) : Prop :=
  match pc with
  | .start actual => actual = call ∧ coordinator.marks key = before
  | .removeBegin address after =>
    after.Of call ∧ coordinator.trackedElsewhere key address = false ∧
      coordinator.marks key = before
  | .removeEnd _ after _ _ => after.Of call ∧ ∀ other, coordinator.marks key other = none
  | .setServingMark address serving =>
    call = .setServing address serving ∧ address ≠ "" ∧
      ∀ other, other ≠ address → coordinator.marks key other = none
  | .drainMark address force =>
    call = .beginDrain address force ∧ address ≠ "" ∧
      (∀ other, other ≠ address → coordinator.marks key other = none) ∧
      ∀ other, coordinator.marks key other = some true → before other = some true
  | .drainAbort _ _ => (∃ address force, call = .beginDrain address force) ∧
      ∀ other, coordinator.marks key other ≠ some true
  | .routeDecide _ after => after.Marks call before (coordinator.marks key)
  | .routeCall _ _ _ _ after => after.Marks call before (coordinator.marks key)
  | .routeRecord _ _ _ after => after.Marks call before (coordinator.marks key)
  | .done result err => call.Leaves before result err (coordinator.marks key)

section Steps

variable {key : VIPKey} {call : Call} {before : String → Option Bool}
  {coordinator : RouteCoordinator}

/-- Returning from `removeVIPFromAddress`, which leaves no mark. -/
theorem AfterRemove.marks_resume {after : AfterRemove} (belongs : after.Of call)
    (unmarked : ∀ other, coordinator.marks key other = none) (removed : String)
    (advertised : Bool) (err : Option String) :
    (after.resume key removed advertised err).Marks key call before coordinator := by
  have idle : ∀ other, coordinator.marks key other = some true → False := by
    intro other serves
    rw [unmarked other] at serves
    cases serves
  cases after with
  | setServing address serving =>
    obtain ⟨rfl, named⟩ := belongs
    cases err with
    | some text => exact fun _ other serves => absurd serves (idle other)
    | none => exact ⟨rfl, named, fun other _ => unmarked other⟩
  | beginDrain address force =>
    obtain ⟨rfl, named⟩ := belongs
    cases err with
    | some text =>
      exact fun _ => ⟨fun other serves => absurd serves (idle other), fun _ other => idle other⟩
    | none =>
      exact ⟨rfl, named, fun other _ => unmarked other,
        fun other serves => absurd serves (idle other)⟩
  | prepareAddressChange =>
    obtain ⟨address, rfl⟩ := belongs
    cases err <;> exact fun _ other serves => absurd serves (idle other)
  | delete =>
    obtain ⟨address, rfl⟩ := belongs
    exact unmarked

/-- Returning from `reconcileRoute`. -/
theorem AfterRoute.marks_resume {after : AfterRoute}
    (marked : after.Marks call before (coordinator.marks key)) (address : String)
    (advertised : Bool) (err : Option String) :
    (after.resume address advertised err).Marks key call before coordinator := by
  cases after with
  | caller => exact marked advertised err
  | remove next => exact marked
  | beginDrain =>
    cases err with
    | some text => exact marked
    | none =>
      obtain ⟨⟨target, force, rfl⟩, idle⟩ := marked
      exact fun _ => ⟨fun other serves => absurd serves (idle other), fun _ => idle⟩

variable (tracks : Tracks key coordinator)
include tracks

/-- A VIP that is not tracked elsewhere is marked nowhere else. -/
theorem Tracks.unmarked {address other : String}
    (here : coordinator.trackedElsewhere key address = false) (different : other ≠ address) :
    coordinator.marks key other = none := by
  by_contra marked
  obtain ⟨tracked, named⟩ := tracks other marked
  simp [RouteCoordinator.trackedElsewhere, tracked, named, different] at here

/-- Tracking depends on the marks and on the tracked address only. -/
theorem Tracks.congr {next : RouteCoordinator} (marks : next.marks key = coordinator.marks key)
    (tracked : next.vipAddresses key = coordinator.vipAddresses key) : Tracks key next := by
  intro address marked
  rw [marks] at marked
  rw [tracked]
  exact tracks address marked

/-- The first locked section. -/
theorem Call.marks_enter :
    Tracks key (call.enter key coordinator).2 ∧
      (call.enter key coordinator).1.Marks key call (coordinator.marks key)
        (call.enter key coordinator).2 := by
  cases call with
  | setServing address serving =>
    simp only [Call.enter]
    split
    · exact ⟨tracks, fun named => absurd ‹address = ""› named⟩
    · rename_i named
      split
      · rename_i elsewhere
        refine ⟨tracks, ⟨rfl, named⟩, ?_, rfl⟩
        simp [RouteCoordinator.trackedElsewhere]
      · rename_i here
        exact ⟨tracks, rfl, named,
          fun other different => tracks.unmarked (Bool.not_eq_true _ ▸ here) different⟩
  | beginDrain address force =>
    simp only [Call.enter]
    split
    · exact ⟨tracks, fun named => absurd ‹address = ""› named⟩
    · rename_i named
      split
      · rename_i elsewhere
        refine ⟨tracks, ⟨rfl, named⟩, ?_, rfl⟩
        simp [RouteCoordinator.trackedElsewhere]
      · rename_i here
        exact ⟨tracks, rfl, named,
          fun other different => tracks.unmarked (Bool.not_eq_true _ ▸ here) different,
          fun _ serves => serves⟩
  | finishDrain address =>
    simp only [Call.enter]
    split
    · exact ⟨tracks, rfl⟩
    · split
      · refine ⟨tracks.congr (by simp) ?_, ?_⟩
        · unfold RouteCoordinator.clearDrain
          split
          · rfl
          · split <;> rfl
        · intro _ _
          simp [Call.Leaves]
      · exact ⟨tracks, rfl⟩
  | prepareAddressChange address =>
    simp only [Call.enter]
    split
    · exact ⟨tracks, fun named => absurd ‹address = ""› named⟩
    · rename_i named
      split
      · rename_i elsewhere
        refine ⟨tracks, ⟨address, rfl⟩, ?_, rfl⟩
        simp [RouteCoordinator.trackedElsewhere]
      · rename_i here
        refine ⟨tracks, fun _ other serves => ⟨?_, serves⟩⟩
        by_contra different
        rw [tracks.unmarked (Bool.not_eq_true _ ▸ here) different] at serves
        cases serves
  | delete address =>
    by_cases untracked : coordinator.vipAddresses key = ""
    · have unmarked : ∀ other, coordinator.marks key other = none := by
        intro other
        by_contra marked
        obtain ⟨tracked, named⟩ := tracks other marked
        exact named (tracked.symm.trans untracked)
      simp only [Call.enter, untracked, if_true]
      split
      · exact ⟨tracks, unmarked⟩
      · refine ⟨tracks, ⟨address, rfl⟩, ?_, rfl⟩
        simp [RouteCoordinator.trackedElsewhere, untracked]
    · simp only [Call.enter, untracked, if_false]
      refine ⟨tracks, ⟨address, rfl⟩, ?_, rfl⟩
      simp [RouteCoordinator.trackedElsewhere]

/-- Removing the mark of a VIP that is not tracked elsewhere leaves none. -/
theorem Tracks.forgetServing {address : String}
    (here : coordinator.trackedElsewhere key address = false) (other : String) :
    (coordinator.forgetServing key address).marks key other = none := by
  rw [RouteCoordinator.marks_forgetServing]
  by_cases same : other = address
  · rw [same, Function.update_self]
  · rw [Function.update_of_ne same]
    exact tracks.unmarked here same

omit tracks

theorem tracks_of_unmarked (unmarked : ∀ other, coordinator.marks key other = none) :
    Tracks key coordinator := by
  intro address marked
  exact absurd (unmarked address) marked

/-- Marking a VIP that is marked nowhere else, on the address it is then tracked on. -/
theorem tracks_of_marked {next : RouteCoordinator} {address : String} {mark : Option Bool}
    (named : address ≠ "")
    (elsewhere : ∀ other, other ≠ address → coordinator.marks key other = none)
    (marks : next.marks key = Function.update (coordinator.marks key) address mark)
    (tracked : next.vipAddresses key = address) : Tracks key next := by
  intro other marked
  by_cases same : other = address
  · rw [same, tracked]
    exact ⟨rfl, named⟩
  · rw [marks, Function.update_of_ne same, elsewhere other same] at marked
    exact absurd rfl marked

/-- **One step keeps the marks in order.** -/
theorem Pc.marks_step {pc : Pc} {shared : Shared} (reply : Reply)
    (tracks : Tracks key shared.coordinator)
    (marked : pc.Marks key call before shared.coordinator) :
    Tracks key (pc.step key reply shared).2.coordinator ∧
      (pc.step key reply shared).1.Marks key call before
        (pc.step key reply shared).2.coordinator := by
  cases pc with
  | start actual =>
    obtain ⟨rfl, rfl⟩ := marked
    exact Call.marks_enter tracks
  | removeBegin address after =>
    obtain ⟨belongs, here, rfl⟩ := marked
    simp only [Pc.step, here, Bool.false_eq_true, if_false]
    have unmarked := tracks.forgetServing here
    exact ⟨tracks_of_unmarked unmarked, belongs, unmarked⟩
  | removeEnd address after advertised err =>
    obtain ⟨belongs, unmarked⟩ := marked
    have kept : ∀ other,
        (shared.coordinator.finishRemove key address err).marks key other = none := by
      intro other
      rw [RouteCoordinator.marks_finishRemove]
      exact unmarked other
    exact ⟨tracks_of_unmarked kept, AfterRemove.marks_resume belongs kept _ _ _⟩
  | setServingMark address serving =>
    obtain ⟨rfl, named, elsewhere⟩ := marked
    have marks := RouteCoordinator.marks_markServing shared.coordinator key address serving
    refine ⟨tracks_of_marked named elsewhere marks ?_, ?_⟩
    · simp [Pc.step, RouteCoordinator.markServing]
    · intro _ _ _ other serves
      simp only [Pc.step, marks] at serves
      by_cases same : other = address
      · rw [same, Function.update_self, Option.some.injEq] at serves
        exact ⟨same, serves⟩
      · rw [Function.update_of_ne same, elsewhere other same] at serves
        cases serves
  | drainMark address force =>
    obtain ⟨rfl, named, elsewhere, bounded⟩ := marked
    have marks := RouteCoordinator.marks_markDraining shared.coordinator key address force
    simp only [Pc.step]
    cases admitted : shared.coordinator.drainAdmitted key address force with
    | true =>
      rw [admitted, if_pos rfl] at marks
      refine ⟨tracks_of_marked named elsewhere marks ?_, ⟨address, force, rfl⟩, ?_⟩
      · simp [RouteCoordinator.markDraining, admitted]
      · intro other serves
        rw [marks] at serves
        by_cases same : other = address
        · simp [same] at serves
        · rw [Function.update_of_ne same, elsewhere other same] at serves
          cases serves
    | false =>
      rw [admitted, if_neg Bool.false_ne_true] at marks
      refine ⟨tracks.congr marks ?_, fun _ => ⟨?_, ?_⟩⟩
      · simp [RouteCoordinator.markDraining, admitted]
      · intro other serves
        rw [marks] at serves
        exact bounded other serves
      · intro ended
        simp at ended
  | drainAbort address err =>
    obtain ⟨⟨target, force, rfl⟩, idle⟩ := marked
    have marks := RouteCoordinator.marks_clearDrain shared.coordinator key address key
    refine ⟨tracks.congr marks ?_, fun _ => ⟨?_, ?_⟩⟩
    · simp only [Pc.step, RouteCoordinator.clearDrain]
      split
      · rfl
      · split <;> rfl
    · intro other serves
      simp only [Pc.step, marks] at serves
      exact absurd serves (idle other)
    · intro _ other serves
      simp only [Pc.step, marks] at serves
      exact idle other serves
  | routeDecide address after =>
    refine ⟨tracks, ?_⟩
    simp only [Pc.step, decideRoute]
    split
    · exact AfterRoute.marks_resume marked _ _ _
    · split
      · exact AfterRoute.marks_resume marked _ _ _
      · exact marked
  | routeCall address operation advertised time after =>
    simp only [Pc.step]
    split
    · exact ⟨tracks, AfterRoute.marks_resume marked _ _ _⟩
    · exact ⟨tracks, marked⟩
  | routeRecord address operation time after =>
    have marks := RouteCoordinator.marks_recordRoute shared.coordinator key address operation time
    have marked : after.Marks call before
        ((shared.coordinator.recordRoute address operation time).marks key) := by
      rw [marks]
      exact marked
    refine ⟨tracks.congr marks ?_, ?_⟩
    · simp only [Pc.step, RouteCoordinator.recordRoute]
      split <;> rfl
    · simp only [Pc.step, afterRecord]
      split
      · exact AfterRoute.marks_resume marked _ _ _
      · split
        · exact AfterRoute.marks_resume marked _ _ _
        · exact marked
  | done result err => exact ⟨tracks, marked⟩

/-- A step leaves the marks of the other VIPs alone. -/
theorem Pc.marks_other_step {other : VIPKey} (distinct : other ≠ key) (pc : Pc)
    (shared : Shared) (reply : Reply) :
    (pc.step key reply shared).2.coordinator.marks other = shared.coordinator.marks other := by
  cases pc with
  | start call =>
    cases call with
    | finishDrain address =>
      simp only [Pc.step, Call.enter]
      split
      · rfl
      · split
        · exact RouteCoordinator.marks_clearDrain ..
        · rfl
    | _ =>
      simp only [Pc.step, Call.enter]
      (repeat' split) <;> rfl
  | removeBegin address after =>
    simp only [Pc.step]
    split
    · rfl
    · exact RouteCoordinator.marks_other_forgetServing _ _ distinct
  | removeEnd address after advertised err =>
    simp only [Pc.step, RouteCoordinator.finishRemove, RouteCoordinator.marks_cleanupRouteAddress]
    split <;> rfl
  | setServingMark address serving =>
    exact RouteCoordinator.marks_other_markServing _ _ distinct serving
  | drainMark address force => exact RouteCoordinator.marks_other_markDraining _ _ distinct force
  | drainAbort address err => exact RouteCoordinator.marks_clearDrain ..
  | routeCall address operation advertised time after =>
    simp only [Pc.step]
    split <;> rfl
  | routeRecord address operation time after => exact RouteCoordinator.marks_recordRoute ..
  | routeDecide address after | done result err => rfl

/-- **The marks after a call.** -/
theorem ensures_perform_marks (call : Call) {sequential : Sequential}
    (tracks : Tracks key sequential.shared.coordinator) :
    Effect.Ensures (perform key call) (fun _ => True)
      (fun returned next => Tracks key next.shared.coordinator ∧
        call.Leaves (sequential.shared.coordinator.marks key) returned.1 returned.2
          (next.shared.coordinator.marks key)) sequential := by
  apply (ensures_perform
    (fun pc shared => Tracks key shared.coordinator ∧
      pc.Marks key call (sequential.shared.coordinator.marks key) shared.coordinator)
    (fun pc shared reply holds => Pc.marks_step reply holds.1 holds.2)
    ⟨tracks, rfl, rfl⟩).forget
  exact fun _ _ holds => holds

end Steps

end ArcaLB.Routing
