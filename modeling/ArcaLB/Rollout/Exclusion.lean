import ArcaLB.Rollout.Handover
import Mathlib.Data.Fintype.Basic

/-!
# Mutual exclusion of rollouts

A coordinator runs its function as long as it believes to hold the lease.  It takes note of
the time neither when a claim is answered nor while a renewal is on its way, so the belief
outlives the lease if an API call takes longer than the lease lasts.  In runs in which that
does not happen, and in which a coordinator does not use two keys with one lease name at a
time, no two coordinators are in the function of a key with contexts that are not cancelled.
-/

namespace ArcaLB.Rollout

variable {Agent Key : Type}

/-- **The timing that exclusion rests on.** The clock does not reach the recorded expiry of
a lease while its holder runs its function with a context that is not cancelled; a claim is
answered before the claimed lease expires; and a coordinator starts a session only while it
has none for another key with the same lease name. -/
def Cluster.timely (cluster : Cluster Agent Key) (state : State Agent Key) :
    Label Agent Key → Prop
  | .advance time => ∀ agent key, (state.sessions agent key).Live →
      ∀ stored ∈ state.leases (cluster.leaseName key), ∀ renewed ∈ stored.value.renewTime,
        time < (cluster.coordinator agent).expiry renewed
  | .session agent key .reply => (state.sessions agent key).phase = .acquiring →
      ∀ stored ∈ (state.sessions agent key).call.accepted,
        ∀ renewed ∈ stored.value.renewTime,
          state.clock < (cluster.coordinator agent).expiry renewed
  | .session agent key .start => ∀ other, cluster.leaseName other = cluster.leaseName key →
      (state.sessions agent other).phase = .idle
  | _ => True

/-- The coordinator holds the lease, which it recorded at `renewed`, and what it has in
flight for the stored version only renews it. -/
structure Holds (cluster : Cluster Agent Key) (state : State Agent Key) (agent : Agent)
    (name : String) (stored : Versioned LeaseSpec) (renewed : Time) : Prop where
  recorded : state.leases name = some stored
  owns : (cluster.coordinator agent).Owns stored.value renewed
  past : renewed ≤ newMicroTime state.clock
  writes : ∀ write, cluster.InFlight state agent name write →
    write.version = some stored.version → write.op = .renew ∧
      ∃ time, (cluster.coordinator agent).Owns write.spec time ∧ renewed ≤ time ∧
        time ≤ newMicroTime state.clock

/-- The coordinator holds a lease that it recorded at `renewed` or later. -/
def HoldsSince (cluster : Cluster Agent Key) (state : State Agent Key) (agent : Agent)
    (name : String) (renewed : Time) : Prop :=
  ∃ stored time, Holds cluster state agent name stored time ∧ renewed ≤ time

/-- The invariant of the timely runs. -/
structure Exclusive (cluster : Cluster Agent Key) (state : State Agent Key) : Prop where
  consistent : Consistent cluster state
  single : ∀ agent key other, (state.sessions agent key).phase ≠ .idle →
    (state.sessions agent other).phase ≠ .idle →
    cluster.leaseName key = cluster.leaseName other → key = other
  claims : ∀ agent key write, (state.sessions agent key).phase = .acquiring →
    (state.sessions agent key).call = .writing write →
    ∃ time, (cluster.coordinator agent).Owns write.spec time ∧ time ≤ newMicroTime state.clock
  claimed : ∀ agent key stored, (state.sessions agent key).phase = .acquiring →
    (state.sessions agent key).call = .written stored →
    ∃ renewed, (cluster.coordinator agent).Owns stored.value renewed ∧
      (state.clock < (cluster.coordinator agent).expiry renewed →
        HoldsSince cluster state agent (cluster.leaseName key) renewed)
  live : ∀ agent key, (state.sessions agent key).Live →
    ∃ renewed, state.clock < (cluster.coordinator agent).expiry renewed ∧
      HoldsSince cluster state agent (cluster.leaseName key) renewed

theorem Coordinator.expiry_mono (coordinator : Coordinator) {earlier later : Time}
    (le : earlier ≤ later) : coordinator.expiry earlier ≤ coordinator.expiry later :=
  Nat.add_le_add_right le _

variable {cluster : Cluster Agent Key} {state next : State Agent Key} {label : Label Agent Key}
  {agent : Agent}

/-- No write in flight is for the version that just landed. -/
theorem Consistent.stale_of_land (consistent : Consistent cluster state)
    (change : cluster.Change state label next) {name : String} {landed write : Write}
    {later : Versioned LeaseSpec} (lands : landed.land (state.leases name) = some later)
    (flies : cluster.InFlight next agent name write) : write.version ≠ some later.version := by
  intro current
  obtain ⟨stored, held, le⟩ : ∃ stored, state.leases name = some stored ∧
      later.version ≤ stored.version := by
    rcases change.inFlight agent name write flies with earlier | ⟨key, rfl, sends⟩
    · obtain ⟨stored, held, le, -⟩ := consistent.update agent name write _ earlier current
      exact ⟨stored, held, le⟩
    · obtain ⟨read, reads, same, -⟩ := sends.checked current (consistent.claimable agent key)
      obtain ⟨stored, held, precedes⟩ := consistent.read agent key read reads
      exact ⟨stored, held, same ▸ precedes.le⟩
  rw [held] at lands
  obtain ⟨-, rfl⟩ := Write.land_some.mp lands
  exact absurd le (Nat.not_succ_le_self _)

variable {renewed : Time}

/-- Before a lease expires, only renewals of its holder land on it. -/
theorem Holds.landing (consistent : Consistent cluster state) {agent sender : Agent}
    {name : String} {stored later : Versioned LeaseSpec} {write : Write}
    (holds : Holds cluster state agent name stored renewed)
    (unexpired : state.clock < (cluster.coordinator agent).expiry renewed)
    (flies : cluster.InFlight state sender name write)
    (lands : write.land (state.leases name) = some later) :
    ∃ time, (cluster.coordinator agent).Owns later.value time ∧ renewed ≤ time ∧
      time ≤ newMicroTime state.clock := by
  obtain ⟨replaced, checked⟩ := consistent.checked_of_land flies holds.recorded lands
  rw [replaced]
  by_cases own : sender = agent
  · subst own
    rw [holds.recorded] at lands
    exact (holds.writes write flies (Write.land_some.mp lands).1).2
  · have other : (cluster.coordinator agent).holderIdentity ≠
        (cluster.coordinator sender).holderIdentity :=
      fun same => own (cluster.distinct same).symm
    exfalso
    unfold Coordinator.Checked at checked
    cases op : write.op <;> simp only [op, holds.owns.holder] at checked
    · exact absurd (holds.owns.expiry_le other checked.1) (Nat.not_le.mpr unexpired)
    · exact other checked.1
    · exact other checked.1

variable {stored : Versioned LeaseSpec}

/-- **A holder keeps the lease** through any step before it expires, while it sends nothing
but renewals. -/
theorem Holds.step (consistent : Consistent cluster state) {name : String}
    (holds : Holds cluster state agent name stored renewed)
    (unexpired : state.clock < (cluster.coordinator agent).expiry renewed)
    (change : cluster.Change state label next) (renews : ∀ key write, cluster.leaseName key = name →
      (state.sessions agent key).Sends (cluster.coordinator agent) state.clock write →
      write.op = .renew ∧
        (cluster.coordinator agent).Owns write.spec (newMicroTime state.clock)) :
    HoldsSince cluster next agent name renewed := by
  have clock := newMicroTime_mono change.clock
  rcases change.leases name with same | ⟨sender, write, later, _, flies, lands, leases⟩
  · refine ⟨stored, renewed, ⟨same.trans holds.recorded, holds.owns,
      Nat.le_trans holds.past clock, ?_⟩, Nat.le_refl _⟩
    intro write flies current
    rcases change.inFlight agent name write flies with earlier | ⟨key, named, sends⟩
    · obtain ⟨renewal, time, owns, after, before⟩ := holds.writes write earlier current
      exact ⟨renewal, time, owns, after, Nat.le_trans before clock⟩
    · obtain ⟨renewal, owns⟩ := renews key write named sends
      exact ⟨renewal, _, owns, holds.past, clock⟩
  · obtain ⟨time, owns, after, before⟩ := holds.landing consistent unexpired flies lands
    refine ⟨later, time, ⟨leases, owns, Nat.le_trans before clock, ?_⟩, after⟩
    intro write flies current
    exact absurd current (consistent.stale_of_land change lands flies)

variable (exclusive : Exclusive cluster state)
include exclusive

/-- What a coordinator sends for a lease that one of its sessions has. -/
theorem Exclusive.renews {key other : Key} (holding : (state.sessions agent key).Holding)
    {write : Write} (named : cluster.leaseName other = cluster.leaseName key)
    (sends : (state.sessions agent other).Sends (cluster.coordinator agent) state.clock write) :
    write.op = .renew ∧
      (cluster.coordinator agent).Owns write.spec (newMicroTime state.clock) := by
  have same := exclusive.single agent other key sends.active holding.active named
  subst same
  exact holding.sends sends

variable {key : Key}

theorem HoldsSince.step (holds : HoldsSince cluster state agent (cluster.leaseName key) renewed)
    (holding : (state.sessions agent key).Holding)
    (unexpired : state.clock < (cluster.coordinator agent).expiry renewed)
    (change : cluster.Change state label next) :
    HoldsSince cluster next agent (cluster.leaseName key) renewed := by
  obtain ⟨stored, time, holds, since⟩ := holds
  have later := (cluster.coordinator agent).expiry_mono since
  obtain ⟨current, renewal, kept, after⟩ :=
    holds.step exclusive.consistent (Nat.lt_of_lt_of_le unexpired later) change
      fun _ _ named sends => exclusive.renews holding named sends
  exact ⟨current, renewal, kept, Nat.le_trans since after⟩

/-- What any step can do to the sessions. -/
structure Cluster.Progress (cluster : Cluster Agent Key) (state : State Agent Key)
    (label : Label Agent Key) (next : State Agent Key) : Prop where
  active : ∀ agent key, (next.sessions agent key).phase ≠ .idle →
    (state.sessions agent key).phase ≠ .idle ∨ label = .session agent key .start
  claims : ∀ agent key write, (next.sessions agent key).phase = .acquiring →
    (next.sessions agent key).call = .writing write →
    (state.sessions agent key).phase = .acquiring ∧
        (state.sessions agent key).call = .writing write ∨
      (cluster.coordinator agent).Owns write.spec (newMicroTime state.clock)
  claimed : ∀ agent key stored, (next.sessions agent key).phase = .acquiring →
    (next.sessions agent key).call = .written stored →
    (state.sessions agent key).phase = .acquiring ∧
      ((state.sessions agent key).call = .written stored ∨
        ∃ write, (state.sessions agent key).call = .writing write ∧
          write.land (state.leases (cluster.leaseName key)) = some stored ∧
          next.leases (cluster.leaseName key) = some stored)
  live : ∀ agent key, (next.sessions agent key).Live → (state.sessions agent key).Live ∨
    label = .session agent key .reply ∧ (state.sessions agent key).phase = .acquiring ∧
      ∃ stored, (state.sessions agent key).call = .written stored

omit exclusive in
theorem Cluster.progress_of_same (same : next.sessions = state.sessions) :
    cluster.Progress state label next where
  active := fun _ _ active => .inl (same ▸ active)
  claims := fun _ _ _ phase call => .inl ⟨same ▸ phase, same ▸ call⟩
  claimed := fun _ _ _ phase call => ⟨same ▸ phase, .inl (same ▸ call)⟩
  live := fun _ _ live => .inl (same ▸ live)

theorem Exclusive.single_step
    (progress : cluster.Progress state label next) (timely : cluster.timely state label)
    (agent : Agent) (key other : Key) (active : (next.sessions agent key).phase ≠ .idle)
    (otherActive : (next.sessions agent other).phase ≠ .idle)
    (named : cluster.leaseName key = cluster.leaseName other) : key = other := by
  rcases progress.active agent key active with was | starts
  · rcases progress.active agent other otherActive with otherWas | starts
    · exact exclusive.single agent key other was otherWas named
    · subst starts
      exact absurd (timely key named) was
  · subst starts
    rcases progress.active agent other otherActive with otherWas | starts
    · exact absurd (timely other named.symm) otherWas
    · cases starts
      rfl

theorem Exclusive.claimed_step
    (change : cluster.Change state label next) (progress : cluster.Progress state label next)
    (phase : (next.sessions agent key).phase = .acquiring)
    (call : (next.sessions agent key).call = .written stored) :
    ∃ renewed, (cluster.coordinator agent).Owns stored.value renewed ∧
      (next.clock < (cluster.coordinator agent).expiry renewed →
        HoldsSince cluster next agent (cluster.leaseName key) renewed) := by
  obtain ⟨acquiring, written | ⟨write, writing, lands, leases⟩⟩ :=
    progress.claimed agent key stored phase call
  · obtain ⟨renewed, owns, holds⟩ := exclusive.claimed agent key stored acquiring written
    refine ⟨renewed, owns, fun unexpired => ?_⟩
    have before := Nat.lt_of_le_of_lt change.clock unexpired
    exact (holds before).step exclusive (.inr ⟨acquiring, stored, written⟩) before change
  · -- the claim lands: the lease is new, and nothing in flight is for its version
    obtain ⟨time, owns, past⟩ := exclusive.claims agent key write acquiring writing
    have replaced := Write.value_of_land lands
    refine ⟨time, replaced ▸ owns, fun _ => ⟨stored, time, ⟨leases, replaced ▸ owns, ?_, ?_⟩,
      Nat.le_refl _⟩⟩
    · exact Nat.le_trans past (newMicroTime_mono change.clock)
    · intro other flies current
      exact absurd current (exclusive.consistent.stale_of_land change lands flies)

section Runs

variable [DecidableEq Agent] [DecidableEq Key]

omit exclusive in
theorem Cluster.progress_of_moves {action : Action} {moved : Session.Moved}
    (moves : (state.sessions agent key).Moves (cluster.coordinator agent) state.clock
      (state.leases (cluster.leaseName key)) action moved) :
    cluster.Progress state (.session agent key action)
      (state.moved agent key (cluster.leaseName key) moved) := by
  constructor
  · intro other another active
    by_cases same : other = agent ∧ another = key
    · obtain ⟨rfl, rfl⟩ := same
      rw [State.sessions_moved_self] at active
      exact (moves.active active).imp_right fun start => by rw [start]
    · rw [State.sessions_moved_of_ne same] at active
      exact .inl active
  · intro other another write phase call
    by_cases same : other = agent ∧ another = key
    · obtain ⟨rfl, rfl⟩ := same
      rw [State.sessions_moved_self] at phase call
      exact moves.claims phase call
    · rw [State.sessions_moved_of_ne same] at phase call
      exact .inl ⟨phase, call⟩
  · intro other another stored phase call
    by_cases same : other = agent ∧ another = key
    · obtain ⟨rfl, rfl⟩ := same
      rw [State.sessions_moved_self] at phase call
      refine (moves.claimed phase call).imp_right fun claimed => claimed.imp_right ?_
      intro ⟨write, writing, lands, lease⟩
      exact ⟨write, writing, lands, (Function.update_self _ _ _).trans lease⟩
    · rw [State.sessions_moved_of_ne same] at phase call
      exact ⟨phase, .inl call⟩
  · intro other another live
    by_cases same : other = agent ∧ another = key
    · obtain ⟨rfl, rfl⟩ := same
      rw [State.sessions_moved_self] at live
      exact (moves.live live).imp_right fun ⟨reply, claimed⟩ => ⟨by rw [reply], claimed⟩
    · rw [State.sessions_moved_of_ne same] at live
      exact .inl live

omit exclusive in
theorem Cluster.progress_of_step (steps : cluster.step state label = some next) :
    cluster.Progress state label next := by
  cases label with
  | advance time =>
    simp only [Cluster.step] at steps
    split at steps <;> cases steps
    exact progress_of_same rfl
  | session agent key action =>
    obtain ⟨moved, moves, rfl⟩ := Option.map_eq_some_iff.mp steps
    exact progress_of_moves (Session.moves_of_step moves)
  | arrive agent name index =>
    obtain ⟨write, _, rfl⟩ := Option.map_eq_some_iff.mp steps
    exact progress_of_same rfl

omit exclusive in
/-- In a timely step a live session does not see its lease expire. -/
theorem Holds.unexpired (holds : Holds cluster state agent (cluster.leaseName key) stored renewed)
    (live : (state.sessions agent key).Live)
    (unexpired : state.clock < (cluster.coordinator agent).expiry renewed)
    (timely : cluster.timely state label) (steps : cluster.step state label = some next) :
    next.clock < (cluster.coordinator agent).expiry renewed := by
  cases label with
  | advance time =>
    simp only [Cluster.step] at steps
    split at steps <;> cases steps
    exact timely agent key live stored holds.recorded renewed holds.owns.renewTime
  | session agent key action =>
    obtain ⟨moved, moves, rfl⟩ := Option.map_eq_some_iff.mp steps
    exact unexpired
  | arrive agent name index =>
    obtain ⟨write, _, rfl⟩ := Option.map_eq_some_iff.mp steps
    exact unexpired

theorem Exclusive.live_step (change : cluster.Change state label next)
    (progress : cluster.Progress state label next) (timely : cluster.timely state label)
    (steps : cluster.step state label = some next) (live : (next.sessions agent key).Live) :
    ∃ renewed, next.clock < (cluster.coordinator agent).expiry renewed ∧
      HoldsSince cluster next agent (cluster.leaseName key) renewed := by
  rcases progress.live agent key live with was | ⟨rfl, acquiring, stored, written⟩
  · obtain ⟨renewed, unexpired, stored, time, holds, since⟩ := exclusive.live agent key was
    have unexpired := Nat.lt_of_lt_of_le unexpired
      ((cluster.coordinator agent).expiry_mono since)
    refine ⟨time, holds.unexpired was unexpired timely steps, ?_⟩
    exact HoldsSince.step exclusive ⟨stored, time, holds, Nat.le_refl _⟩ (.inl was) unexpired
      change
  · -- the claim is answered in time
    obtain ⟨renewed, owns, holds⟩ := exclusive.claimed agent key stored acquiring written
    have unexpired : state.clock < (cluster.coordinator agent).expiry renewed :=
      timely acquiring stored (by rw [written]; rfl) renewed owns.renewTime
    have clock : next.clock = state.clock := by
      obtain ⟨moved, _, rfl⟩ := Option.map_eq_some_iff.mp steps
      rfl
    refine ⟨renewed, clock ▸ unexpired, ?_⟩
    exact (holds unexpired).step exclusive (.inr ⟨acquiring, stored, written⟩) unexpired change

theorem Exclusive.preserved
    (timely : cluster.timely state label) (steps : cluster.step state label = some next) :
    Exclusive cluster next := by
  have change := Cluster.change_of_step steps
  have progress := Cluster.progress_of_step steps
  constructor
  · exact exclusive.consistent.preserved change
  · exact exclusive.single_step progress timely
  · intro agent key write phase call
    have clock := newMicroTime_mono change.clock
    rcases progress.claims agent key write phase call with ⟨acquiring, writing⟩ | owns
    · obtain ⟨time, owns, past⟩ := exclusive.claims agent key write acquiring writing
      exact ⟨time, owns, Nat.le_trans past clock⟩
    · exact ⟨_, owns, clock⟩
  · intro agent key stored phase call
    exact exclusive.claimed_step change progress phase call
  · intro agent key live
    exact exclusive.live_step change progress timely steps live

omit exclusive in
theorem exclusive_of_reachable (reached : cluster.system.Reachable cluster.timely state) :
    Exclusive cluster state := by
  apply reached.invariant
  · intro state initial
    obtain ⟨idle, none⟩ := initial
    refine ⟨consistent_of_initial ⟨idle, none⟩, ?_, ?_, ?_, ?_⟩
    all_goals simp [idle, Session.Live]
  · intro state label next exclusive timely steps
    exact exclusive.preserved timely steps

omit exclusive in
/-- **Rollouts exclude each other.** In every timely run, from any leases at the start: two
coordinators that run their function for one key, with contexts that are not cancelled, are
the same. -/
theorem rollouts_exclusive (reached : cluster.system.Reachable cluster.timely state)
    {agent other : Agent} (live : (state.sessions agent key).Live)
    (otherLive : (state.sessions other key).Live) : agent = other := by
  have exclusive := exclusive_of_reachable reached
  obtain ⟨_, _, stored, _, holds, _⟩ := exclusive.live agent key live
  obtain ⟨_, _, otherStored, _, otherHolds, _⟩ := exclusive.live other key otherLive
  cases holds.recorded.symm.trans otherHolds.recorded
  exact cluster.distinct
    (Option.some.inj (holds.owns.holder.symm.trans otherHolds.owns.holder))

end Runs

omit exclusive

instance decidableTimely [Fintype Agent] [Fintype Key] (cluster : Cluster Agent Key)
    (state : State Agent Key) (label : Label Agent Key) :
    Decidable (cluster.timely state label) := by
  unfold Cluster.timely
  split <;> infer_instance

/-- The steps of one of the two coordinators. -/
def acts (agent : Bool) (actions : List Action) : List (Label Bool Unit) :=
  actions.map (.session agent ())

/-- The first coordinator creates the lease and runs its function. -/
def firstEnters : List (Label Bool Unit) :=
  acts false [.start, .issue, .read, .proceed, .deliver, .reply]

/-- While the first coordinator runs its function, the second one does not. -/
theorem rollouts_exclusive_pair :
    ∃ state, pair.system.run (quiet 0 none)
        (firstEnters ++ acts true [.start, .issue, .read, .proceed]) = some state ∧
      (state.sessions false ()).Live ∧ ¬ (state.sessions true ()).Live := by
  obtain ⟨state, runs, live⟩ :=
    pair.system.exists_run_of_check (quiet 0 none)
      (firstEnters ++ acts true [.start, .issue, .read, .proceed])
      (fun state => (state.sessions false ()).Live) (by decide +kernel)
  have starts : pair.system.initial (quiet 0 none) := ⟨fun _ _ => rfl, fun _ _ => rfl⟩
  have meets : pair.system.Meets pair.timely (quiet 0 none)
      (firstEnters ++ acts true [.start, .issue, .read, .proceed]) := by decide +kernel
  have reached := (TransitionSystem.Reachable.initial starts).run meets runs
  refine ⟨state, runs, live, fun otherLive => ?_⟩
  exact absurd (rollouts_exclusive reached live otherLive) (by decide)

/-- **Two rollouts at once.** A renewal that is still on its way when the lease expires, or
a claim that is answered after the claimed lease expired, leaves its coordinator in the
function with a context that is not cancelled, while the other one takes the lease. -/
theorem rollouts_overlap :
    (∃ state, pair.system.run (quiet 0 none)
        (firstEnters ++ acts false [.issue, .read, .proceed] ++ [.advance (120 * second)] ++
          acts true [.start, .issue, .read, .proceed, .proceed, .deliver, .reply]) =
          some state ∧
      (state.sessions false ()).Live ∧ (state.sessions true ()).Live) ∧
    ∃ state, pair.system.run (quiet 0 none)
        (acts false [.start, .issue, .read, .proceed, .deliver] ++ [.advance (120 * second)] ++
          acts true [.start, .issue, .read, .proceed, .proceed, .deliver, .reply] ++
          acts false [.reply]) = some state ∧
      (state.sessions false ()).Live ∧ (state.sessions true ()).Live :=
  ⟨pair.system.exists_run_of_check _ _ _ (by decide +kernel),
    pair.system.exists_run_of_check _ _ _ (by decide +kernel)⟩

end ArcaLB.Rollout
