import ArcaLB.Rollout.Session

/-!
# Coordinators that share the leases

Any number of coordinators with distinct holder identities, one clock, and an API server
that holds the leases.  The steps of their sessions interleave freely with the clock and
with the writes that sessions gave up on.
-/

namespace ArcaLB.Rollout

/-- The coordinators of a cluster.  `keyHash` is the hash that names a key's lease. -/
structure Cluster (Agent Key : Type) where
  coordinator : Agent → Coordinator
  keyHash : Key → String
  distinct : Function.Injective fun agent => (coordinator agent).holderIdentity

variable {Agent Key : Type}

/-- The name of the lease of a key. -/
def Cluster.leaseName (cluster : Cluster Agent Key) (key : Key) : String :=
  "arca-lb-rollout-" ++ cluster.keyHash key

/-- `orphans` are the writes that a coordinator gave up on while they were on their way. -/
structure State (Agent Key : Type) where
  clock : Time
  leases : String → Option (Versioned LeaseSpec)
  sessions : Agent → Key → Session
  orphans : Agent → String → List Write

/-- Time passes, a session acts, or a sent write arrives. -/
inductive Label (Agent Key : Type) where
  | advance (time : Time)
  | session (agent : Agent) (key : Key) (action : Action)
  | arrive (agent : Agent) (name : String) (index : Nat)
  deriving DecidableEq, Repr

section Steps

variable [DecidableEq Agent] [DecidableEq Key]

/-- The state after a step of one session. -/
def State.moved (state : State Agent Key) (agent : Agent) (key : Key) (name : String)
    (moved : Session.Moved) : State Agent Key :=
  { state with
    leases := Function.update state.leases name moved.lease
    sessions := Function.update state.sessions agent
      (Function.update (state.sessions agent) key moved.session)
    orphans := Function.update state.orphans agent
      (Function.update (state.orphans agent) name
        (moved.abandoned.toList ++ state.orphans agent name)) }

/-- The state after the server handled a write that its sender gave up on. -/
def State.arrived (state : State Agent Key) (agent : Agent) (name : String) (index : Nat)
    (write : Write) : State Agent Key :=
  { state with
    leases := Function.update state.leases name
      ((write.land (state.leases name)).or (state.leases name))
    orphans := Function.update state.orphans agent
      (Function.update (state.orphans agent) name
        ((state.orphans agent name).eraseIdx index)) }

/-- One step of the cluster. -/
def Cluster.step (cluster : Cluster Agent Key) (state : State Agent Key) :
    Label Agent Key → Option (State Agent Key)
  | .advance time => if state.clock ≤ time then some { state with clock := time } else none
  | .session agent key action =>
    (Session.step (cluster.coordinator agent) state.clock
      (state.leases (cluster.leaseName key)) (state.sessions agent key) action).map
      (state.moved agent key (cluster.leaseName key))
  | .arrive agent name index =>
    ((state.orphans agent name)[index]?).map (state.arrived agent name index)

/-- The runs of the cluster, over any leases at the start. -/
def Cluster.system (cluster : Cluster Agent Key) :
    TransitionSystem (State Agent Key) (Label Agent Key) where
  initial := fun state => (∀ agent key, state.sessions agent key = {}) ∧
    ∀ agent name, state.orphans agent name = []
  step := cluster.step

/-- The write that a label brings to the server, and its sender. -/
def Cluster.landing (cluster : Cluster Agent Key) (state : State Agent Key) :
    Label Agent Key → Option (Agent × String × Write)
  | .session agent key .deliver =>
    match (state.sessions agent key).call with
    | .writing write => some (agent, cluster.leaseName key, write)
    | _ => none
  | .arrive agent name index =>
    ((state.orphans agent name)[index]?).map fun write => (agent, name, write)
  | _ => none

end Steps

/-- A write that the server has not handled. -/
def Cluster.InFlight (cluster : Cluster Agent Key) (state : State Agent Key) (agent : Agent)
    (name : String) (write : Write) : Prop :=
  (∃ key, cluster.leaseName key = name ∧ (state.sessions agent key).call = .writing write) ∨
    write ∈ state.orphans agent name

variable {agent other : Agent}

section Arrivals

variable [DecidableEq Agent] {cluster : Cluster Agent Key} {state : State Agent Key}

/-- What the server holds after it handled a write that was given up on. -/
theorem State.leases_arrived (state : State Agent Key) (agent : Agent) (name other : String)
    (index : Nat) (write : Write) :
    (state.arrived agent name index write).leases other = state.leases other ∨
      ∃ stored, other = name ∧ write.land (state.leases name) = some stored ∧
        (state.arrived agent name index write).leases name = some stored := by
  by_cases same : other = name
  · subst same
    have updated : (state.arrived agent other index write).leases other =
        (write.land (state.leases other)).or (state.leases other) := Function.update_self _ _ _
    rw [updated]
    cases lands : write.land (state.leases other) with
    | none => exact .inl rfl
    | some stored => exact .inr ⟨stored, rfl, rfl, rfl⟩
  · exact .inl (Function.update_of_ne same _ _)

theorem Cluster.inFlight_arrived {name otherName : String} {index : Nat} {write orphan : Write}
    (flies : cluster.InFlight (state.arrived agent name index orphan) other otherName write) :
    cluster.InFlight state other otherName write := by
  rcases flies with session | mem
  · exact .inl session
  · right
    by_cases same : other = agent
    · subst same
      by_cases sameName : otherName = name
      · subst sameName
        simp only [State.arrived, Function.update_self] at mem
        exact List.mem_of_mem_eraseIdx mem
      · simpa only [State.arrived, Function.update_self, Function.update_of_ne sameName] using mem
    · simpa only [State.arrived, Function.update_of_ne same] using mem

end Arrivals

section Steps

variable [DecidableEq Agent] [DecidableEq Key] {cluster : Cluster Agent Key}
  {state next : State Agent Key}

@[simp] theorem State.sessions_moved_self (state : State Agent Key) (agent : Agent) (key : Key)
    (name : String) (moved : Session.Moved) :
    (state.moved agent key name moved).sessions agent key = moved.session := by
  simp [State.moved]

variable {moved : Session.Moved} {key another : Key}

theorem State.sessions_moved_of_ne {name : String} (distinct : ¬ (other = agent ∧ another = key)) :
    (state.moved agent key name moved).sessions other another =
      state.sessions other another := by
  by_cases same : other = agent
  · subst same
    have different : another ≠ key := fun equal => distinct ⟨rfl, equal⟩
    simp [State.moved, different]
  · simp [State.moved, same]

theorem State.mem_orphans_moved {name otherName : String} {write : Write}
    (orphan : write ∈ (state.moved agent key name moved).orphans other otherName) :
    write ∈ state.orphans other otherName ∨
      other = agent ∧ otherName = name ∧ write ∈ moved.abandoned := by
  by_cases same : other = agent
  · subst same
    by_cases sameName : otherName = name
    · subst sameName
      simp only [State.moved, Function.update_self, List.mem_append, Option.mem_toList] at orphan
      exact orphan.symm.imp_right fun abandoned => ⟨rfl, rfl, abandoned⟩
    · simp only [State.moved, Function.update_self, Function.update_of_ne sameName] at orphan
      exact .inl orphan
  · simp only [State.moved, Function.update_of_ne same] at orphan
    exact .inl orphan

variable {action : Action}
  (moves : (state.sessions agent key).Moves (cluster.coordinator agent) state.clock
    (state.leases (cluster.leaseName key)) action moved)
include moves

/-- A write in flight after a step of a session was in flight before it, or the session
sends it. -/
theorem Cluster.inFlight_moved {name : String} {write : Write}
    (flies : cluster.InFlight (state.moved agent key (cluster.leaseName key) moved)
      other name write) :
    cluster.InFlight state other name write ∨
      (other = agent ∧ name = cluster.leaseName key ∧ action = .proceed ∧
        (state.sessions agent key).Sends (cluster.coordinator agent) state.clock write) := by
  rcases flies with ⟨sender, named, call⟩ | orphan
  · by_cases same : other = agent ∧ sender = key
    · obtain ⟨rfl, rfl⟩ := same
      rw [State.sessions_moved_self] at call
      cases moves with
      | start phase resting => simp [resting] at call
      | keeps kept => exact .inl (.inl ⟨sender, named, kept ▸ call⟩)
      | rests rests => rcases rests with rests | rests | rests <;> simp [rests] at call
      | sends sends =>
        cases call
        exact .inr ⟨rfl, named.symm, rfl, sends⟩
      | _ => cases call
    · rw [State.sessions_moved_of_ne same] at call
      exact .inl (.inl ⟨sender, named, call⟩)
  · rcases State.mem_orphans_moved orphan with orphan | ⟨rfl, rfl, abandoned⟩
    · exact .inl (.inr orphan)
    · cases moves with
      | rests _ _ _ sent => exact .inl (.inl ⟨key, rfl, sent write abandoned⟩)
      | _ => cases abandoned

theorem Cluster.read_moved {read : Versioned LeaseSpec}
    (reads : ((state.moved agent key (cluster.leaseName key) moved).sessions
      other another).call.read = some read) :
    (state.sessions other another).call.read = some read ∨
      state.leases (cluster.leaseName another) = some read := by
  by_cases same : other = agent ∧ another = key
  · obtain ⟨rfl, rfl⟩ := same
    rw [State.sessions_moved_self] at reads
    cases moves with
    | start phase resting => simp [resting, Call.read] at reads
    | keeps kept => exact .inl (kept ▸ reads)
    | rests rests => rcases rests with rests | rests | rests <;> simp [rests, Call.read] at reads
    | reads _ present =>
      cases reads
      exact .inr present
    | considers _ call =>
      cases reads
      exact .inl (by rw [call]; rfl)
    | _ => cases reads
  · rw [State.sessions_moved_of_ne same] at reads
    exact .inl reads

theorem Cluster.claiming_moved {read : Versioned LeaseSpec}
    (claims : ((state.moved agent key (cluster.leaseName key) moved).sessions
      other another).call = .claiming read) :
    (state.sessions other another).call = .claiming read ∨
      (cluster.coordinator other).leaseAvailable state.clock read.value = true := by
  by_cases same : other = agent ∧ another = key
  · obtain ⟨rfl, rfl⟩ := same
    rw [State.sessions_moved_self] at claims
    cases moves with
    | start phase resting => simp [resting] at claims
    | keeps kept => exact .inl (kept ▸ claims)
    | rests rests => rcases rests with rests | rests | rests <;> simp [rests] at claims
    | considers _ _ available =>
      cases claims
      exact .inr available
    | _ => cases claims
  · rw [State.sessions_moved_of_ne same] at claims
    exact .inl claims

/-- What the server holds after a step of a session. -/
theorem Cluster.leases_moved (name : String) :
    (state.moved agent key (cluster.leaseName key) moved).leases name = state.leases name ∨
      ∃ write stored, name = cluster.leaseName key ∧ action = .deliver ∧
        (state.sessions agent key).call = .writing write ∧
        moved.session = { state.sessions agent key with call := .written stored } ∧
        write.land (state.leases name) = some stored ∧
        (state.moved agent key (cluster.leaseName key) moved).leases name = some stored := by
  by_cases same : name = cluster.leaseName key
  · subst same
    have updated : (state.moved agent key (cluster.leaseName key) moved).leases
        (cluster.leaseName key) = moved.lease := Function.update_self _ _ _
    rw [updated]
    cases moves with
    | lands call lands => exact .inr ⟨_, _, rfl, rfl, call, rfl, lands, rfl⟩
    | _ => exact .inl rfl
  · exact .inl (Function.update_of_ne same _ _)

/-- What any step of the cluster can do. -/
structure Cluster.Change (cluster : Cluster Agent Key) (state : State Agent Key)
    (label : Label Agent Key) (next : State Agent Key) : Prop where
  clock : state.clock ≤ next.clock
  leases : ∀ name, next.leases name = state.leases name ∨
    ∃ agent write stored, cluster.landing state label = some (agent, name, write) ∧
      cluster.InFlight state agent name write ∧
      write.land (state.leases name) = some stored ∧ next.leases name = some stored
  inFlight : ∀ agent name write, cluster.InFlight next agent name write →
    cluster.InFlight state agent name write ∨
      ∃ key, cluster.leaseName key = name ∧ (state.sessions agent key).Sends
        (cluster.coordinator agent) state.clock write
  read : ∀ agent key read, (next.sessions agent key).call.read = some read →
    (state.sessions agent key).call.read = some read ∨
      state.leases (cluster.leaseName key) = some read
  claiming : ∀ agent key read, (next.sessions agent key).call = .claiming read →
    (state.sessions agent key).call = .claiming read ∨
      (cluster.coordinator agent).leaseAvailable state.clock read.value = true

omit moves in
theorem Cluster.change_of_step {label : Label Agent Key}
    (steps : cluster.step state label = some next) : cluster.Change state label next := by
  cases label with
  | advance time =>
    simp only [Cluster.step] at steps
    split at steps <;> cases steps
    rename_i le
    exact ⟨le, fun _ => .inl rfl, fun _ _ _ flies => .inl flies, fun _ _ _ reads => .inl reads,
      fun _ _ _ claims => .inl claims⟩
  | session agent key action =>
    obtain ⟨moved, moves, rfl⟩ := Option.map_eq_some_iff.mp steps
    have moves := Session.moves_of_step moves
    refine ⟨Nat.le_refl _, fun name => ?_, fun other name write flies => ?_,
      fun _ _ _ reads => read_moved moves reads, fun _ _ _ claims => claiming_moved moves claims⟩
    · apply (leases_moved moves name).imp_right
      intro ⟨write, stored, named, delivers, call, _, lands, leases⟩
      refine ⟨agent, write, stored, ?_, .inl ⟨key, named.symm, call⟩, lands, leases⟩
      simp [landing, delivers, call, named]
    · exact (inFlight_moved moves flies).imp_right
        fun ⟨sameAgent, named, _, sends⟩ => ⟨key, named.symm, sameAgent ▸ sends⟩
  | arrive agent name index =>
    obtain ⟨write, orphan, rfl⟩ := Option.map_eq_some_iff.mp steps
    refine ⟨Nat.le_refl _, fun other => ?_, fun _ _ _ flies => .inl (inFlight_arrived flies),
      fun _ _ _ reads => .inl reads, fun _ _ _ claims => .inl claims⟩
    apply (state.leases_arrived agent name other index write).imp_right
    intro ⟨stored, same, lands, leases⟩
    subst same
    refine ⟨agent, write, stored, ?_, .inr (List.mem_of_getElem? orphan), lands, leases⟩
    simp [landing, orphan]

end Steps

end ArcaLB.Rollout
