import ArcaLB.Library.Transition
import ArcaLB.Status.Updater
import Mathlib.Data.List.Nodup

/-!
# Agents, operator and users on one object

Agents, the operator and users write one VirtualIP.  A status write is computed from some
version of the object, which may be old by then, and is accepted only if that version is
still the current one.  A user's write changes the spec and the generation and leaves the
status alone.
-/

namespace ArcaLB.Status

/-- The agents that report on the object, and its operator. -/
structure Fleet where
  agents : List String
  distinct : agents.Nodup
  bounded : agents.length ≤ maxVirtualIPStatusAgentStatuses
  operator : Operator

/-- A computed status that has not reached the API server; `report` is the report that an
agent made with it. -/
structure Write where
  base : Nat
  status : VirtualIPStatus
  report : Option AgentStatus := none
  deriving DecidableEq, Repr

/-- The object's versions so far, the present one, and the writes on their way.  `observed` is
history: the last report of each agent that was stored. -/
structure State where
  clock : Time
  version : Nat
  history : Nat → Object
  writes : List Write
  observed : String → Option AgentStatus

/-- The object as it is stored. -/
def State.current (state : State) : Object := state.history state.version

/-- The moves of the API server and its writers. -/
inductive Label where
  | advance (time : Time)
  /-- A user changes the spec. -/
  | spec (spec : VirtualIPSpec)
  /-- A user deletes the object, which has a finalizer. -/
  | terminate
  /-- The metadata is written, a finalizer for instance. -/
  | touch
  /-- An agent that observed version `view` computes `UpdateVIPStatus` on version `base`. -/
  | report (updater : Updater) (view base : Nat) (healthyBackends : List BackendSpec)
      (conditions : List Condition)
  /-- An agent computes `UpdateHealthCheckCondition`. -/
  | healthCheck (updater : Updater) (view base : Nat) (condition : Condition)
  /-- The operator computes `updateStatus` on version `base`. -/
  | operator (base : Nat)
  /-- A write reaches the API server. -/
  | land (index : Nat)
  deriving DecidableEq, Repr

/-- The state after the server stored a new version. -/
def State.store (state : State) (object : Object) : State :=
  { state with
    version := state.version + 1
    history := Function.update state.history (state.version + 1) object }

section Store

variable {state : State} {object : Object}

@[simp] theorem State.current_store : (state.store object).current = object := by
  simp [State.current, State.store]

theorem State.history_store_last : (state.store object).history (state.version + 1) = object :=
  State.current_store

theorem State.history_store {version : Nat} (le : version ≤ state.version) :
    (state.store object).history version = state.history version :=
  Function.update_of_ne (by omega) _ _

/-- What holds of the versions so far and of the new one holds of all versions. -/
theorem State.forall_store (holds : Object → Prop)
    (old : ∀ version ≤ state.version, holds (state.history version)) (new : holds object) :
    ∀ version ≤ (state.store object).version, holds ((state.store object).history version) := by
  intro version le
  rcases Nat.le_succ_iff.mp le with le | rfl
  · rw [State.history_store le]
    exact old version le
  · rw [State.history_store_last]
    exact new

/-- The versions are ordered by `precedes`. -/
def State.Ordered (precedes : Object → Object → Prop) (state : State) : Prop :=
  ∀ newer ≤ state.version, ∀ older ≤ newer,
    precedes (state.history older) (state.history newer)

theorem State.Ordered.store {precedes : Object → Object → Prop} [IsPreorder Object precedes]
    (ordered : state.Ordered precedes) (next : precedes state.current object) :
    (state.store object).Ordered precedes := by
  intro newer le older earlier
  rcases Nat.le_succ_iff.mp le with le | rfl
  · rw [State.history_store le, State.history_store (earlier.trans le)]
    exact ordered newer le older earlier
  · rw [State.history_store_last]
    rcases Nat.le_succ_iff.mp earlier with earlier | rfl
    · rw [State.history_store earlier]
      exact trans_of precedes (ordered _ (Nat.le_refl _) older earlier) next
    · rw [State.history_store_last]
      exact refl_of precedes object

end Store

/-- The state after a status was computed. -/
def State.send (state : State) (write : Write) : State :=
  { state with writes := write :: state.writes }

/-- The state after the server handled a write. -/
def State.landed (state : State) (index : Nat) (write : Write) : State :=
  let handled := { state with writes := state.writes.eraseIdx index }
  if write.base = state.version then
    { handled.store { state.current with status := write.status } with
      observed := match write.report with
        | none => state.observed
        | some report => Function.update state.observed report.agentID (some report) }
  else handled

/-- One step of the fleet. -/
def Fleet.step (fleet : Fleet) (state : State) : Label → Option State
  | .advance time => if state.clock ≤ time then some { state with clock := time } else none
  | .spec spec =>
    let vip := state.current.vip
    if spec = vip.spec then none
    else some (state.store { state.current with
      vip := { vip with spec, generation := vip.generation + 1 } })
  | .terminate =>
    let vip := state.current.vip
    if vip.terminating then none
    else some (state.store { state.current with
      vip := { vip with terminating := true, generation := vip.generation + 1 } })
  | .touch => some (state.store state.current)
  | .report updater view base healthyBackends conditions =>
    if updater.agentID ∈ fleet.agents ∧ view ≤ state.version ∧ base ≤ state.version then
      let vip := (state.history view).vip
      (updater.updateVIPStatus vip healthyBackends conditions state.clock
        (state.history base)).map fun status =>
          state.send ⟨base, status,
            some (updater.report vip healthyBackends conditions state.clock)⟩
    else none
  | .healthCheck updater view base condition =>
    if updater.agentID ∈ fleet.agents ∧ view ≤ state.version ∧ base ≤ state.version then
      (updater.updateHealthCheckCondition (state.history view).vip condition state.clock
        (state.history base)).map fun status => state.send ⟨base, status, none⟩
    else none
  | .operator base =>
    let current := state.history base
    if base ≤ state.version ∧ current.vip.terminating = false ∧
        fleet.operator.updateStatus state.clock current ≠ current.status then
      some (state.send ⟨base, fleet.operator.updateStatus state.clock current, none⟩)
    else none
  | .land index => state.writes[index]?.map (state.landed index)

/-- The runs from an object that meets `start`. -/
def Fleet.system (fleet : Fleet) (start : Object → Prop) : TransitionSystem State Label where
  initial := fun state => state.version = 0 ∧ start (state.history 0) ∧ state.writes = [] ∧
    ∀ agent, state.observed agent = none
  step := fleet.step

/-- The writes that are computed in a state. -/
inductive Computed (fleet : Fleet) (state : State) : Label → Write → Prop where
  | report {updater : Updater} {view base : Nat} {healthyBackends : List BackendSpec}
      {conditions : List Condition} {status : VirtualIPStatus}
      (member : updater.agentID ∈ fleet.agents) (seen : view ≤ state.version)
      (read : base ≤ state.version)
      (computes : updater.updateVIPStatus (state.history view).vip healthyBackends conditions
        state.clock (state.history base) = some status) :
      Computed fleet state (.report updater view base healthyBackends conditions)
        ⟨base, status, some (updater.report (state.history view).vip healthyBackends conditions
          state.clock)⟩
  | healthCheck {updater : Updater} {view base : Nat} {condition : Condition}
      {status : VirtualIPStatus} (read : base ≤ state.version)
      (computes : updater.updateHealthCheckCondition (state.history view).vip condition
        state.clock (state.history base) = some status) :
      Computed fleet state (.healthCheck updater view base condition) ⟨base, status, none⟩
  | operator {base : Nat} (read : base ≤ state.version) :
      Computed fleet state (.operator base)
        ⟨base, fleet.operator.updateStatus state.clock (state.history base), none⟩

theorem Computed.base_le {fleet : Fleet} {state : State} {label : Label} {write : Write}
    (computed : Computed fleet state label write) : write.base ≤ state.version := by
  cases computed with
  | report _ _ read => exact read
  | healthCheck read => exact read
  | operator read => exact read

/-- What a step can do. -/
inductive Fleet.Moves (fleet : Fleet) (state : State) : Label → State → Prop where
  | advance {time : Time} (le : state.clock ≤ time) :
      Moves fleet state (.advance time) { state with clock := time }
  | edit {label : Label} (vip : VirtualIP)
      (later : state.current.vip.generation ≤ vip.generation)
      (same : vip.generation = state.current.vip.generation →
        vip.spec = state.current.vip.spec) :
      Moves fleet state label (state.store { state.current with vip })
  | send {label : Label} {write : Write} (computed : Computed fleet state label write) :
      Moves fleet state label (state.send write)
  | land {index : Nat} {write : Write} (present : write ∈ state.writes) :
      Moves fleet state (.land index) (state.landed index write)

theorem Fleet.moves_of_step {fleet : Fleet} {state next : State} {label : Label}
    (steps : fleet.step state label = some next) : fleet.Moves state label next := by
  cases label with
  | advance time =>
    simp only [Fleet.step] at steps
    split at steps <;> cases steps
    rename_i le
    exact .advance le
  | spec spec =>
    simp only [Fleet.step] at steps
    split at steps <;> cases steps
    have later : state.current.vip.generation < state.current.vip.generation + 1 := by omega
    exact .edit { state.current.vip with
      spec, generation := state.current.vip.generation + 1 } (Int.le_of_lt later)
      fun same => absurd same (Int.ne_of_gt later)
  | terminate =>
    simp only [Fleet.step] at steps
    split at steps <;> cases steps
    have later : state.current.vip.generation < state.current.vip.generation + 1 := by omega
    exact .edit { state.current.vip with
      terminating := true, generation := state.current.vip.generation + 1 }
      (Int.le_of_lt later) fun _ => rfl
  | touch =>
    cases steps
    exact .edit state.current.vip (Int.le_refl _) fun _ => rfl
  | report updater view base healthyBackends conditions =>
    simp only [Fleet.step] at steps
    split at steps
    · rename_i enabled
      obtain ⟨status, computes, rfl⟩ := Option.map_eq_some_iff.mp steps
      exact .send (.report enabled.1 enabled.2.1 enabled.2.2 computes)
    · cases steps
  | healthCheck updater view base condition =>
    simp only [Fleet.step] at steps
    split at steps
    · rename_i enabled
      obtain ⟨status, computes, rfl⟩ := Option.map_eq_some_iff.mp steps
      exact .send (.healthCheck enabled.2.2 computes)
    · cases steps
  | operator base =>
    simp only [Fleet.step] at steps
    split at steps <;> cases steps
    rename_i enabled
    exact .send (.operator enabled.1)
  | land index =>
    obtain ⟨write, present, rfl⟩ := Option.map_eq_some_iff.mp steps
    exact .land (List.mem_of_getElem? present)

/-- Two agents and an operator, for concrete runs. -/
def nodes : Fleet where
  agents := ["node-a", "node-b"]
  distinct := by decide
  bounded := by decide
  operator := ⟨0, fun _ => none⟩

/-- Two backends. -/
def webBackends : List BackendSpec := [⟨"10.0.0.1", "", 1⟩, ⟨"10.0.0.2", "", 1⟩]

/-- The spec of a VIP with the given backends. -/
def webSpec (backends : List BackendSpec) : VirtualIPSpec :=
  { (VirtualIP.web .web "1" "192.0.2.1").spec with backends }

/-- A VIP with two backends on which nothing was reported. -/
def unreportedWeb : State where
  clock := 0
  version := 0
  history := fun _ => ⟨{ VirtualIP.web .web "1" "192.0.2.1" with spec := webSpec webBackends }, {}⟩
  writes := []
  observed := fun _ => none

end ArcaLB.Status
