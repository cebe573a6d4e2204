import ArcaLB.Routing.Call
import Mathlib.Data.Nat.Find
import Mathlib.Order.Monotone.Defs

/-!
# When reconciling a route comes to an end

`reconcileRoute` loops until nothing is due.  It reads the clock before it calls the router and
records that time as the time of verification, so an announce that takes as long as the
verification interval is out of date once it is recorded, and the next round announces again.
Other calls may take steps in between, as long as they leave alone who serves and who drains the
address.
-/

namespace ArcaLB.Routing

/-- The VIPs of an address and the drain that is held on it. -/
def RouteCoordinator.demand (coordinator : RouteCoordinator) (address : String) :
    AList (fun _ : VIPKey => Bool) × Option VIPKey :=
  ((coordinator.ensureRouteAddressState address).serving,
    (coordinator.ensureRouteAddressState address).drainOwner)

/-- The route of the address is wanted. -/
def RouteCoordinator.wants (coordinator : RouteCoordinator) (address : String) : Bool :=
  (coordinator.ensureRouteAddressState address).routeShouldAdvertise

/-- The route is recorded as announced and need not be verified yet. -/
def RouteCoordinator.verified (coordinator : RouteCoordinator) (address : String) (now : Time) :
    Bool :=
  (coordinator.addresses address).any fun state =>
    state.advertised && !state.shouldVerifyAdvertisedRoute coordinator.routeVerificationInterval now

/-- What a call meets: the answers to its steps, and the state that each step finds after the
other calls have taken theirs. -/
structure Encounter where
  replies : ℕ → Reply
  found : ℕ → Shared

namespace Encounter

variable (encounter : Encounter) (key : VIPKey) (start : Pc)

/-- Where the call stands after some steps. -/
def stands : ℕ → Pc
  | 0 => start
  | n + 1 => ((stands n).step key (encounter.replies n) (encounter.found n)).1

/-- What a step leaves to the other calls. -/
def leaves (n : ℕ) : Shared :=
  ((encounter.stands key start n).step key (encounter.replies n) (encounter.found n)).2

/-- The clock never goes back, and the other calls change neither who serves on the address nor
who drains it. -/
structure Undisturbed (address : String) (interval : Time) : Prop where
  clock : Monotone fun n => (encounter.replies n).now
  interval : ∀ n, (encounter.found n).coordinator.routeVerificationInterval = interval
  demand : ∀ n, (encounter.found (n + 1)).coordinator.demand address =
    (encounter.leaves key start n).coordinator.demand address

/-- A round that starts at step `n` ends the loop: the route need not be verified, or the router
fails, or it answers before the verification interval is over. -/
def EndsAt (address : String) (interval : Time) (n : ℕ) : Prop :=
  (encounter.found n).coordinator.verified address (encounter.replies n).now = true ∨
    (encounter.replies (n + 1)).err ≠ none ∨
    (encounter.replies (n + 2)).now < (encounter.replies n).now + interval

/-- The call returns from `reconcileRoute`. -/
def Returns (address : String) (after : AfterRoute) : Prop :=
  ∃ n advertised err, encounter.stands key start n = after.resume address advertised err

end Encounter

/-! ## One round -/

section Round

variable {coordinator : RouteCoordinator} {address : String}

theorem RouteCoordinator.wants_of_demand {other : RouteCoordinator}
    (same : other.demand address = coordinator.demand address) :
    other.wants address = coordinator.wants address := by
  obtain ⟨serving, drainOwner⟩ := Prod.mk.inj same
  simp only [wants, RouteAddressState.routeShouldAdvertise, serving, drainOwner]

theorem RouteCoordinator.demand_recordRoute (operation : RouteOperation) (time : Time) :
    (coordinator.recordRoute address operation time).demand address =
      coordinator.demand address := by
  cases found : coordinator.addresses address with
  | none => simp [recordRoute, found]
  | some state => simp [recordRoute, found, demand, ensureRouteAddressState]

variable (wanted : coordinator.wants address = true)
include wanted

theorem RouteCoordinator.exists_of_wants :
    ∃ state, coordinator.addresses address = some state ∧ state.routeShouldAdvertise = true := by
  cases found : coordinator.addresses address with
  | none =>
    rw [wants, ensureRouteAddressState, found] at wanted
    cases wanted
  | some state =>
    rw [wants, ensureRouteAddressState, found] at wanted
    exact ⟨state, rfl, wanted⟩

/-- The decision on a route that is wanted. -/
theorem decideRoute_of_wants (now : Time) (after : AfterRoute) :
    decideRoute coordinator address now after =
      if coordinator.verified address now then after.resume address true none
      else .routeCall address .announce (coordinator.isAdvertised address) now after := by
  obtain ⟨state, found, advertise⟩ := RouteCoordinator.exists_of_wants wanted
  simp only [decideRoute, found, RouteAddressState.nextRouteOperation, advertise, if_true,
    RouteCoordinator.verified, RouteCoordinator.isAdvertised, Option.any_some]
  by_cases fresh : (state.advertised &&
      !state.shouldVerifyAdvertisedRoute coordinator.routeVerificationInterval now) = true
  · simp only [fresh, if_true]
  · simp only [fresh, if_false, Bool.false_eq_true]

/-- Once an announce is recorded, the loop goes on if the interval is over. -/
theorem afterRecord_announce (time now : Time) (after : AfterRoute) :
    afterRecord (coordinator.recordRoute address .announce time) address .announce now after =
      if now < time + coordinator.routeVerificationInterval then after.resume address true none
      else .routeDecide address after := by
  obtain ⟨state, found, advertise⟩ := RouteCoordinator.exists_of_wants wanted
  have kept : (state.applyRouteOperation .announce time).routeShouldAdvertise = true := by
    simpa [RouteAddressState.routeShouldAdvertise] using advertise
  simp only [afterRecord, RouteCoordinator.recordRoute, found,
    RouteCoordinator.setAddress_addresses, Function.update_self,
    RouteCoordinator.setAddress_interval, RouteAddressState.nextRouteOperation, kept, if_true]
  simp only [RouteAddressState.applyRouteOperation,
    RouteAddressState.shouldVerifyAdvertisedRoute, Bool.true_and, Bool.not_eq_eq_eq_not,
    Bool.not_true, decide_eq_false_iff_not, Nat.not_le]
  by_cases fresh : now < time + coordinator.routeVerificationInterval
  · simp only [fresh, if_true]
  · simp only [fresh, if_false]

omit wanted in
/-- A route that is not wanted is withdrawn at most once. -/
theorem decideRoute_of_unwanted (unwanted : coordinator.wants address = false) (now : Time)
    (after : AfterRoute) :
    (∃ advertised, decideRoute coordinator address now after =
        after.resume address advertised none) ∨
      ∃ advertised, decideRoute coordinator address now after =
        .routeCall address .withdraw advertised now after := by
  cases found : coordinator.addresses address with
  | none => exact .inl ⟨false, by simp [decideRoute, found]⟩
  | some state =>
    have unwanted : state.routeShouldAdvertise = false := by
      rwa [RouteCoordinator.wants, RouteCoordinator.ensureRouteAddressState, found] at unwanted
    by_cases due : (state.advertised || !state.reconciled) = true
    · exact .inr ⟨state.advertised, by
        simp [decideRoute, found, RouteAddressState.nextRouteOperation, unwanted, due]⟩
    · exact .inl ⟨false, by
        simp [decideRoute, found, RouteAddressState.nextRouteOperation, unwanted, due]⟩

/-- An announce that was recorded is verified until the interval is over. -/
theorem RouteCoordinator.verified_recordRoute (time now : Time) :
    (coordinator.recordRoute address .announce time).verified address now =
      decide (now < time + coordinator.routeVerificationInterval) := by
  obtain ⟨state, found, -⟩ := exists_of_wants wanted
  simp [verified, recordRoute, found, RouteAddressState.shouldVerifyAdvertisedRoute,
    RouteAddressState.applyRouteOperation, ← decide_not]

omit wanted

theorem afterRecord_withdraw (unwanted : coordinator.wants address = false) (time now : Time)
    (after : AfterRoute) :
    afterRecord (coordinator.recordRoute address .withdraw time) address .withdraw now after =
      after.resume address false none := by
  cases found : coordinator.addresses address with
  | none => simp [afterRecord, RouteCoordinator.recordRoute, found, RouteOperation.effect]
  | some state =>
    rw [RouteCoordinator.wants, RouteCoordinator.ensureRouteAddressState, found] at unwanted
    have kept : (state.applyRouteOperation .withdraw time).routeShouldAdvertise = false := by
      simpa [RouteAddressState.routeShouldAdvertise] using unwanted
    simp [afterRecord, RouteCoordinator.recordRoute, found,
      RouteAddressState.nextRouteOperation, kept, RouteOperation.effect]

end Round

/-- Whether a call is inside of `reconcileRoute`. -/
def Pc.reconciles : Pc → Bool
  | .routeDecide _ _ => true
  | .routeCall _ _ _ _ _ => true
  | .routeRecord _ _ _ _ => true
  | _ => false

theorem AfterRoute.reconciles_resume (after : AfterRoute) (address : String) (advertised : Bool)
    (err : Option String) : (after.resume address advertised err).reconciles = false := by
  cases after <;> cases err <;> rfl

/-! ## The loop -/

namespace Encounter

variable {encounter : Encounter} {key : VIPKey} {start : Pc} {address : String} {interval : Time}
  {after : AfterRoute} {n : ℕ}

theorem stands_succ {pc : Pc} (stood : encounter.stands key start n = pc) :
    encounter.stands key start (n + 1) =
      (pc.step key (encounter.replies n) (encounter.found n)).1 := by
  rw [stands, stood]

section Call

variable (undisturbed : encounter.Undisturbed key start address interval)
include undisturbed

/-- Steps that keep who serves and who drains keep whether the route is wanted. -/
theorem Undisturbed.wants_succ {pc : Pc} (stood : encounter.stands key start n = pc)
    (kept : (pc.step key (encounter.replies n) (encounter.found n)).2.coordinator.demand address =
      (encounter.found n).coordinator.demand address) :
    (encounter.found (n + 1)).coordinator.wants address =
      (encounter.found n).coordinator.wants address := by
  apply RouteCoordinator.wants_of_demand
  rw [undisturbed.demand n, leaves, stood, kept]

/-- **The router call.** A failure ends the loop; else the operation is to be recorded. -/
theorem Undisturbed.call {operation : RouteOperation} {advertised : Bool} {time : Time}
    (stood : encounter.stands key start n =
      .routeCall address operation advertised time after) :
    (encounter.replies n).err ≠ none ∧
        encounter.stands key start (n + 1) =
          after.resume address advertised (encounter.replies n).err ∨
      (encounter.replies n).err = none ∧
        encounter.stands key start (n + 1) = .routeRecord address operation time after ∧
        (encounter.found (n + 1)).coordinator.wants address =
          (encounter.found n).coordinator.wants address := by
  have next := stands_succ stood
  cases failed : (encounter.replies n).err with
  | some text =>
    left
    rw [next, Pc.step, failed]
    exact ⟨nofun, rfl⟩
  | none =>
    right
    refine ⟨rfl, ?_, undisturbed.wants_succ stood ?_⟩
    · rw [next, Pc.step, failed]
    · rw [Pc.step, failed]

/-- **One round.** A round of a wanted route announces it; the loop ends with it or is back at
its beginning. -/
theorem Undisturbed.round (stood : encounter.stands key start n = .routeDecide address after)
    (wanted : (encounter.found n).coordinator.wants address = true) :
    encounter.EndsAt address interval n ∧ encounter.Returns key start address after ∨
      ¬ encounter.EndsAt address interval n ∧
        (∃ advertised, encounter.stands key start (n + 1) =
          .routeCall address .announce advertised (encounter.replies n).now after) ∧
        encounter.stands key start (n + 2) =
          .routeRecord address .announce (encounter.replies n).now after ∧
        encounter.stands key start (n + 3) = .routeDecide address after ∧
        (encounter.found (n + 3)).coordinator.wants address = true := by
  have decided := stands_succ stood
  have wanted' := (undisturbed.wants_succ stood rfl).trans wanted
  rw [Pc.step, decideRoute_of_wants wanted] at decided
  by_cases fresh : (encounter.found n).coordinator.verified address
      (encounter.replies n).now = true
  · rw [if_pos fresh] at decided
    exact .inl ⟨.inl fresh, n + 1, true, none, decided⟩
  rw [if_neg fresh] at decided
  rcases undisturbed.call decided with ⟨failed, returned⟩ | ⟨answered, stood, kept⟩
  · exact .inl ⟨.inr (.inl failed), n + 2, _, _, returned⟩
  have wanted := kept.trans wanted'
  have recorded := stands_succ stood
  simp only [Pc.step, afterRecord_announce wanted, undisturbed.interval] at recorded
  by_cases late : (encounter.replies (n + 2)).now < (encounter.replies n).now + interval
  · rw [if_pos late] at recorded
    exact .inl ⟨.inr (.inr late), n + 3, true, none, recorded⟩
  · rw [if_neg late] at recorded
    refine .inr ⟨?_, ⟨_, decided⟩, stood, recorded, ?_⟩
    · rintro (verified | failed | quick)
      · exact fresh verified
      · exact failed answered
      · exact late quick
    · rw [undisturbed.wants_succ stood (RouteCoordinator.demand_recordRoute _ _), wanted]

end Call

variable (undisturbed : encounter.Undisturbed key (.routeDecide address after) address interval)
include undisturbed

/-- As long as no round ends the loop, the call is back at its beginning after each. -/
theorem Undisturbed.rounds (wanted : (encounter.found 0).coordinator.wants address = true)
    (round : ℕ) (goesOn : ∀ earlier < round, ¬ encounter.EndsAt address interval (3 * earlier)) :
    encounter.stands key (.routeDecide address after) (3 * round) = .routeDecide address after ∧
      (encounter.found (3 * round)).coordinator.wants address = true := by
  induction round with
  | zero => exact ⟨rfl, wanted⟩
  | succ round ih =>
    obtain ⟨stood, wanted⟩ := ih fun earlier before => goesOn earlier (by omega)
    rcases undisturbed.round stood wanted with ⟨ends, -⟩ | ⟨-, -, -, next⟩
    · exact absurd ends (goesOn round (by omega))
    · exact next

/-- A loop that no round ends announces forever. -/
theorem Undisturbed.endless (wanted : (encounter.found 0).coordinator.wants address = true)
    (goesOn : ∀ round, ¬ encounter.EndsAt address interval (3 * round)) :
    (∀ round, ∃ advertised time, encounter.stands key (.routeDecide address after)
        (3 * round + 1) = .routeCall address .announce advertised time after) ∧
      ¬ encounter.Returns key (.routeDecide address after) address after := by
  have each (round : ℕ) := (undisturbed.round
    (undisturbed.rounds wanted round fun earlier _ => goesOn earlier).1
    (undisturbed.rounds wanted round fun earlier _ => goesOn earlier).2).resolve_left
      fun ends => goesOn round ends.1
  refine ⟨fun round => ?_, ?_⟩
  · obtain ⟨-, ⟨advertised, called⟩, -⟩ := each round
    exact ⟨advertised, _, called⟩
  · rintro ⟨n, advertised, err, returned⟩
    have left := AfterRoute.reconciles_resume after address advertised err
    rw [← returned] at left
    revert left
    rw [imp_false, Bool.not_eq_false]
    obtain ⟨round, rest, small, rfl⟩ : ∃ round rest, rest < 3 ∧ n = 3 * round + rest :=
      ⟨n / 3, n % 3, Nat.mod_lt _ (by omega), (Nat.div_add_mod n 3).symm⟩
    obtain ⟨-, ⟨advertised, called⟩, recorded, -⟩ := each round
    obtain rfl | rfl | rfl : rest = 0 ∨ rest = 1 ∨ rest = 2 := by omega
    · rw [Nat.add_zero, (undisturbed.rounds wanted round fun earlier _ => goesOn earlier).1]
      rfl
    · rw [called]
      rfl
    · rw [recorded]
      rfl

/-- A route that is not wanted is withdrawn at most once. -/
theorem Undisturbed.returns_of_unwanted
    (unwanted : (encounter.found 0).coordinator.wants address = false) :
    encounter.Returns key (.routeDecide address after) address after := by
  have stood : encounter.stands key (.routeDecide address after) 0 =
      .routeDecide address after := rfl
  have decided := stands_succ stood
  have unwanted' := (undisturbed.wants_succ stood rfl).trans unwanted
  rw [Pc.step] at decided
  rcases decideRoute_of_unwanted unwanted (encounter.replies 0).now after with
    ⟨advertised, idle⟩ | ⟨advertised, due⟩
  · exact ⟨1, advertised, none, decided.trans idle⟩
  rcases undisturbed.call (decided.trans due) with ⟨-, returned⟩ | ⟨-, stood, kept⟩
  · exact ⟨2, _, _, returned⟩
  have recorded := stands_succ stood
  simp only [Pc.step, afterRecord_withdraw (kept.trans unwanted')] at recorded
  exact ⟨3, false, none, recorded⟩

end Encounter

variable {after : AfterRoute}

section Alone

variable (key : VIPKey) (pc : Pc) (shared : Shared) (replies : ℕ → Reply)

/-- The call and the state after some steps, each of which finds what the one before it left. -/
def Pc.runAlone : ℕ → Pc × Shared
  | 0 => (pc, shared)
  | n + 1 => (runAlone n).1.step key (replies n) (runAlone n).2

/-- The run of a call that nobody interrupts. -/
def Encounter.alone : Encounter :=
  ⟨replies, fun n => (pc.runAlone key shared replies n).2⟩

theorem Encounter.stands_alone (n : ℕ) :
    (alone key pc shared replies).stands key pc n = (pc.runAlone key shared replies n).1 := by
  induction n with
  | zero => rfl
  | succ n ih =>
    rw [stands, ih]
    rfl

theorem Encounter.found_alone (n : ℕ) :
    (alone key pc shared replies).found (n + 1) =
      (alone key pc shared replies).leaves key pc n := by
  rw [leaves, stands_alone]
  rfl

theorem Pc.interval_step (reply : Reply) :
    (pc.step key reply shared).2.coordinator.routeVerificationInterval =
      shared.coordinator.routeVerificationInterval := by
  have cleared (address : String) :
      (shared.coordinator.clearDrain key address).routeVerificationInterval =
        shared.coordinator.routeVerificationInterval := by
    unfold RouteCoordinator.clearDrain
    (repeat' split) <;> rfl
  cases pc with
  | start call =>
    cases call <;> simp only [Pc.step, Call.enter] <;> (repeat' split) <;> simp only [cleared]
  | removeBegin address after =>
    simp only [Pc.step, RouteCoordinator.forgetServing]
    (repeat' split) <;> rfl
  | removeEnd address after advertised err =>
    simp only [Pc.step, RouteCoordinator.finishRemove, RouteCoordinator.cleanupRouteAddress]
    (repeat' split) <;> rfl
  | setServingMark address serving => rfl
  | drainMark address force =>
    simp only [Pc.step, RouteCoordinator.markDraining]
    split <;> rfl
  | drainAbort address err => exact cleared address
  | routeDecide address after => rfl
  | routeCall address operation advertised time after =>
    simp only [Pc.step]
    split <;> rfl
  | routeRecord address operation time after =>
    simp only [Pc.step, RouteCoordinator.recordRoute]
    split <;> rfl
  | done result err => rfl

variable {key pc shared replies}

theorem Encounter.undisturbed_alone (clock : Monotone fun n => (replies n).now) (address : String) :
    (alone key pc shared replies).Undisturbed key pc address
      shared.coordinator.routeVerificationInterval where
  clock := clock
  interval n := by
    induction n with
    | zero => rfl
    | succ n ih => rw [found_alone, leaves, Pc.interval_step, ih]
  demand n := by
    rw [found_alone]

/-- A round that goes on leaves its announce recorded. -/
theorem Encounter.coordinator_round {address : String} {advertised : Bool}
    {time : Time} {n : ℕ} (answered : (replies (n + 1)).err = none)
    (decides : (alone key pc shared replies).stands key pc n = .routeDecide address after)
    (calls : (alone key pc shared replies).stands key pc (n + 1) =
      .routeCall address .announce advertised time after)
    (records : (alone key pc shared replies).stands key pc (n + 2) =
      .routeRecord address .announce time after) :
    ((alone key pc shared replies).found (n + 3)).coordinator =
      ((alone key pc shared replies).found n).coordinator.recordRoute address .announce time := by
  have called : (alone key pc shared replies).replies (n + 1) = replies (n + 1) := rfl
  rw [found_alone, leaves, records, Pc.step, found_alone, leaves, calls, Pc.step, called, answered,
    found_alone, leaves, decides]
  rfl

/-- Announces that all take as long as the verification interval never come to an end. -/
theorem Encounter.endless_alone {address : String} (clock : Monotone fun n => (replies n).now)
    (wanted : shared.coordinator.wants address = true)
    (due : shared.coordinator.verified address (replies 0).now = false)
    (answered : ∀ n, (replies n).err = none)
    (slow : ∀ n, (replies n).now + shared.coordinator.routeVerificationInterval ≤
      (replies (n + 2)).now) (round : ℕ) :
    ¬ (alone key (.routeDecide address after) shared replies).EndsAt address
      shared.coordinator.routeVerificationInterval (3 * round) := by
  have undisturbed : (alone key (.routeDecide address after) shared replies).Undisturbed key
      (.routeDecide address after) address shared.coordinator.routeVerificationInterval :=
    undisturbed_alone clock address
  induction round using Nat.strong_induction_on with
  | _ round ih =>
    rintro (fresh | failed | quick)
    · cases round with
      | zero => exact Bool.false_ne_true (due.symm.trans fresh)
      | succ round =>
        obtain ⟨decides, wanted⟩ := undisturbed.rounds wanted round
          fun earlier before => ih earlier (by omega)
        rcases undisturbed.round decides wanted with
          ⟨ends, -⟩ | ⟨-, ⟨advertised, calls⟩, records, -⟩
        · exact ih round (by omega) ends
        · rw [Nat.mul_succ, coordinator_round (answered _) decides calls records,
            RouteCoordinator.verified_recordRoute wanted, undisturbed.interval,
            decide_eq_true_eq] at fresh
          have late := (slow (3 * round)).trans (clock (by omega : 3 * round + 2 ≤ 3 * round + 3))
          exact Nat.not_lt.mpr late fresh
    · exact failed (answered _)
    · exact Nat.not_lt.mpr (slow _) quick

end Alone

/-- One VIP serves on an address that was never announced. -/
def oneServing : Shared where
  coordinator := (newRouteCoordinator 0).markServing .web "192.0.2.10" true
  routes := fun _ => false

end ArcaLB.Routing
