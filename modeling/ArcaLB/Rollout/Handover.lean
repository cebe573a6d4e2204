import ArcaLB.Rollout.Cluster

/-!
# Who may take a lease over

A write in flight was computed from the lease that its sender read, and lands only on that
lease.  So what was checked before the write was sent still holds when it lands: a claim
finds the lease free, its own or expired, and a renewal or a release finds it its own.
-/

namespace ArcaLB.Rollout

variable {Agent Key : Type} {cluster : Cluster Agent Key} {state next : State Agent Key}
  {label : Label Agent Key}

/-- What the sender of a write checked on the lease that the write replaces. -/
def Coordinator.Checked (coordinator : Coordinator) (now : Time) (old : LeaseSpec)
    (write : Write) : Prop :=
  match write.op with
  | .claim =>
    coordinator.leaseAvailable now old = true ∧
      write.spec.holderIdentity = some coordinator.holderIdentity
  | .renew =>
    valueOrEmpty old.holderIdentity = coordinator.holderIdentity ∧
      write.spec.holderIdentity = old.holderIdentity
  | .release =>
    valueOrEmpty old.holderIdentity = coordinator.holderIdentity ∧
      write.spec.holderIdentity = none

variable {write : Write}

theorem Coordinator.Checked.mono {coordinator : Coordinator} {now later : Time}
    {old : LeaseSpec} (checked : coordinator.Checked now old write)
    (le : now ≤ later) : coordinator.Checked later old write := by
  unfold Checked at checked ⊢
  cases op : write.op <;> simp only [op] at checked ⊢
  · exact ⟨leaseAvailable_mono checked.1 le, checked.2⟩
  · exact checked
  · exact checked

theorem Write.land_some {stored next : Versioned LeaseSpec} :
    write.land (some stored) = some next ↔
      write.version = some stored.version ∧ next = ⟨stored.version + 1, write.spec⟩ := by
  cases version : write.version with
  | none => simp [Write.land, version]
  | some version => simp [Write.land, *, Versioned.replace_eq_some]

/-- Whether it creates or updates the lease, a write that lands leaves its spec. -/
theorem Write.value_of_land {lease : Option (Versioned LeaseSpec)}
    {next : Versioned LeaseSpec} (lands : write.land lease = some next) :
    next.value = write.spec := by
  cases lease with
  | none =>
    cases version : write.version with
    | none =>
      simp only [Write.land, version, Option.some.injEq] at lands
      rw [← lands]
    | some version => simp [Write.land, *] at lands
  | some stored => rw [(Write.land_some.mp lands).2]

theorem Write.precedes_of_land {stored next : Versioned LeaseSpec}
    (lands : write.land (some stored) = some next) : stored.Precedes next := by
  obtain ⟨version, rfl⟩ := Write.land_some.mp lands
  have replaced : stored.replace stored.version write.spec =
      some ⟨stored.version + 1, write.spec⟩ := Versioned.replace_eq_some.mpr ⟨rfl, rfl⟩
  exact Versioned.precedes_of_replace replaced

/-- Everything in flight goes back to a lease that the server held. -/
structure Consistent (cluster : Cluster Agent Key) (state : State Agent Key) : Prop where
  read : ∀ agent key read, (state.sessions agent key).call.read = some read →
    ∃ stored, state.leases (cluster.leaseName key) = some stored ∧ read.Precedes stored
  claimable : ∀ agent key read, (state.sessions agent key).call = .claiming read →
    (cluster.coordinator agent).leaseAvailable state.clock read.value = true
  update : ∀ agent name write version, cluster.InFlight state agent name write →
    write.version = some version → ∃ stored, state.leases name = some stored ∧
      version ≤ stored.version ∧ (version = stored.version →
        (cluster.coordinator agent).Checked state.clock stored.value write)

/-- A lease stays, or is replaced by a later version of it. -/
theorem Cluster.Change.precedes (change : cluster.Change state label next) {name : String}
    {stored : Versioned LeaseSpec} (held : state.leases name = some stored) :
    ∃ later, next.leases name = some later ∧ stored.Precedes later := by
  rcases change.leases name with same | ⟨_, write, later, _, _, lands, leases⟩
  · exact ⟨stored, same.trans held, .refl stored⟩
  · rw [held] at lands
    exact ⟨later, leases, Write.precedes_of_land lands⟩

/-- What a session sends was checked on the lease that it read. -/
theorem Session.Sends.checked {coordinator : Coordinator} {now : Time} {session : Session}
    {version : Nat} (sends : session.Sends coordinator now write)
    (updates : write.version = some version) (claimable : ∀ read, session.call = .claiming read →
      coordinator.leaseAvailable now read.value = true) :
    ∃ read, session.call.read = some read ∧ version = read.version ∧
      coordinator.Checked now read.value write := by
  cases sends with
  | create => cases updates
  | @claim read _ call =>
    cases updates
    exact ⟨read, by rw [call]; rfl, rfl, claimable read call, rfl⟩
  | @renew read _ call held | @release read _ call held =>
    cases updates
    exact ⟨read, by rw [call]; rfl, rfl, held, rfl⟩

theorem Consistent.preserved (consistent : Consistent cluster state)
    (change : cluster.Change state label next) : Consistent cluster next := by
  constructor
  · intro agent key read reads
    obtain ⟨stored, held, precedes⟩ : ∃ stored,
        state.leases (cluster.leaseName key) = some stored ∧ read.Precedes stored := by
      rcases change.read agent key read reads with earlier | present
      · exact consistent.read agent key read earlier
      · exact ⟨read, present, .refl read⟩
    obtain ⟨later, leases, follows⟩ := change.precedes held
    exact ⟨later, leases, precedes.trans follows⟩
  · intro agent key read claims
    rcases change.claiming agent key read claims with earlier | available
    · exact Coordinator.leaseAvailable_mono (consistent.claimable agent key read earlier)
        change.clock
    · exact Coordinator.leaseAvailable_mono available change.clock
  · intro agent name write version flies updates
    obtain ⟨stored, held, le, checked⟩ : ∃ stored, state.leases name = some stored ∧
        version ≤ stored.version ∧ (version = stored.version →
          (cluster.coordinator agent).Checked state.clock stored.value write) := by
      rcases change.inFlight agent name write flies with earlier | ⟨key, rfl, sends⟩
      · exact consistent.update agent name write version earlier updates
      · obtain ⟨read, reads, rfl, checked⟩ :=
          sends.checked updates (consistent.claimable agent key)
        obtain ⟨stored, held, precedes⟩ := consistent.read agent key read reads
        exact ⟨stored, held, precedes.le, fun same => precedes.same same ▸ checked⟩
    obtain ⟨later, leases, follows⟩ := change.precedes held
    refine ⟨later, leases, Nat.le_trans le follows.le, fun current => ?_⟩
    have unchanged : stored.version = later.version :=
      Nat.le_antisymm follows.le (current ▸ le)
    rw [← follows.same unchanged]
    exact (checked (current.trans unchanged.symm)).mono change.clock

/-- A write that lands on a lease was checked on that lease. -/
theorem Consistent.checked_of_land (consistent : Consistent cluster state) {agent : Agent}
    {name : String} {stored later : Versioned LeaseSpec}
    (flies : cluster.InFlight state agent name write) (held : state.leases name = some stored)
    (lands : write.land (state.leases name) = some later) :
    later.value = write.spec ∧
      (cluster.coordinator agent).Checked state.clock stored.value write := by
  rw [held] at lands
  obtain ⟨version, rfl⟩ := Write.land_some.mp lands
  obtain ⟨current, present, -, checked⟩ := consistent.update agent name write _ flies version
  cases held.symm.trans present
  exact ⟨rfl, checked rfl⟩

section Runs

variable [DecidableEq Agent] [DecidableEq Key]

theorem consistent_of_initial (initial : cluster.system.initial state) :
    Consistent cluster state := by
  obtain ⟨idle, none⟩ := initial
  constructor
  · intro agent key read reads
    simp [idle, Call.read] at reads
  · intro agent key read claims
    simp [idle] at claims
  · intro agent name write version flies
    simp [Cluster.InFlight, idle, none] at flies

theorem consistent_of_reachable {guard : State Agent Key → Label Agent Key → Prop}
    (reached : cluster.system.Reachable guard state) : Consistent cluster state := by
  apply reached.invariant
  · intro state initial
    exact consistent_of_initial initial
  · intro state label next consistent _ steps
    exact consistent.preserved (Cluster.change_of_step steps)

/-- **Handover of a lease.** In every run, for every step: the recorded holder of a lease
changes to another one only when the recorded renew time and duration have passed; and a
renewal or release of one coordinator does not change a lease that another one holds. -/
theorem lease_handover (reached : cluster.system.Reachable TransitionSystem.unguarded state)
    (steps : cluster.step state label = some next) {name : String}
    {stored : Versioned LeaseSpec} (held : state.leases name = some stored) :
    (∀ later holder heir, next.leases name = some later →
      stored.value.holderIdentity = some holder → holder ≠ "" →
      later.value.holderIdentity = some heir → heir ≠ holder →
      ∀ renewed seconds, stored.value.renewTime = some renewed →
        stored.value.leaseDurationSeconds = some seconds →
        (renewed : Int) + seconds * second ≤ state.clock) ∧
    (∀ agent other write, cluster.landing state label = some (agent, name, write) →
      write.op ≠ .claim → other ≠ agent →
      stored.value.holderIdentity = some (cluster.coordinator other).holderIdentity →
      next.leases name = some stored) := by
  have consistent := consistent_of_reachable reached
  have change := Cluster.change_of_step steps
  constructor
  · intro later holder heir present holds named inherits distinct renewed seconds renewedAt lasts
    rcases change.leases name with same | ⟨agent, write, landed, _, flies, lands, leases⟩
    · cases (present.symm.trans same).trans held
      exact absurd (Option.some.inj (inherits.symm.trans holds)) distinct
    · cases present.symm.trans leases
      obtain ⟨replaced, checked⟩ := consistent.checked_of_land flies held lands
      rw [replaced] at inherits
      -- only a claim gives the lease to another holder
      unfold Coordinator.Checked at checked
      cases op : write.op <;> simp only [op] at checked
      · have heirs : heir = (cluster.coordinator agent).holderIdentity :=
          Option.some.inj (inherits.symm.trans checked.2)
        exact Coordinator.expired_of_leaseAvailable checked.1 holds named
          (heirs ▸ distinct.symm) renewedAt lasts
      · exact absurd (Option.some.inj (inherits.symm.trans (checked.2.trans holds))) distinct
      · cases inherits.symm.trans checked.2
  · intro agent other write arrives notClaim distinct holds
    rcases change.leases name with same | ⟨sender, landing, _, arrives', flies, lands, _⟩
    · exact same.trans held
    · cases arrives.symm.trans arrives'
      obtain ⟨_, checked⟩ := consistent.checked_of_land flies held lands
      have own : valueOrEmpty stored.value.holderIdentity =
          (cluster.coordinator agent).holderIdentity := by
        unfold Coordinator.Checked at checked
        cases op : write.op <;> simp only [op] at checked
        · exact absurd op notClaim
        · exact checked.1
        · exact checked.1
      rw [holds] at own
      exact absurd (cluster.distinct own) distinct

end Runs

/-- Two coordinators and the key of one VIP, for the concrete runs below. -/
def pair : Cluster Bool Unit where
  coordinator
    | false => newWithClient "node-a" "1" 0
    | true => newWithClient "node-b" "2" 0
  keyHash := fun _ => "web"
  distinct := by
    unfold Function.Injective
    decide +kernel

/-- A state without sessions in which the server holds `lease`. -/
def quiet (clock : Time) (lease : Option (Versioned LeaseSpec)) : State Bool Unit where
  clock
  leases := fun name => if name = "arca-lb-rollout-web" then lease else none
  sessions := fun _ _ => {}
  orphans := fun _ _ => []

/-- A lease that the first coordinator took for one second at time zero. -/
def takenAtZero : Versioned LeaseSpec where
  version := 0
  value := ⟨some "node-a/1", some 1, some 0, some 0, some 0⟩

/-- The second coordinator takes the lease over after it expired. -/
theorem lease_handover_expired :
    ∃ state next, pair.system.run (quiet (2 * second) (some takenAtZero))
        [.session true () .start, .session true () .issue, .session true () .read,
          .session true () .proceed, .session true () .proceed] = some state ∧
      pair.step state (.session true () .deliver) = some next ∧
      (next.leases "arca-lb-rollout-web").map (fun lease => lease.value.holderIdentity) =
        some (some "node-b/2") ∧
      ((0 : Nat) : Int) + 1 * second ≤ state.clock := by
  obtain ⟨state, runs, held, lands⟩ :=
    pair.system.exists_run_of_check (quiet (2 * second) (some takenAtZero))
      [.session true () .start, .session true () .issue, .session true () .read,
        .session true () .proceed, .session true () .proceed]
      (fun state => state.leases "arca-lb-rollout-web" = some takenAtZero ∧
        ((pair.step state (.session true () .deliver)).bind fun next =>
          (next.leases "arca-lb-rollout-web").map fun lease => lease.value.holderIdentity) =
          some (some "node-b/2"))
      (by decide +kernel)
  obtain ⟨next, steps, heir⟩ := Option.bind_eq_some_iff.mp lands
  obtain ⟨later, present, holder⟩ := Option.map_eq_some_iff.mp heir
  have starts : pair.system.initial (quiet (2 * second) (some takenAtZero)) :=
    ⟨fun _ _ => rfl, fun _ _ => rfl⟩
  have reached : pair.system.Reachable TransitionSystem.unguarded state :=
    (TransitionSystem.Reachable.initial starts).run
      (TransitionSystem.meets_unguarded _ _ _) runs
  refine ⟨state, next, runs, steps, heir, ?_⟩
  exact (lease_handover reached steps held).1 later "node-a/1" "node-b/2" present rfl
    (by decide) holder (by decide) 0 1 rfl rfl

end ArcaLB.Rollout
