import ArcaLB.Status.Roster
import ArcaLB.Status.Writers

/-!
# No observation is lost

Every status that is written keeps the reports of the present generation that are not
outdated, puts the writer's report in place of its last one, and has at most one report per
agent.  Since a write is accepted only on the version it was computed from, this carries over
to any interleaving.
-/

namespace ArcaLB.Status

variable {fleet : Fleet}

section Refresh

variable {status : VirtualIPStatus} {vip : VirtualIP} {old : AgentStatus} {now : Time}
  {ttl generation : Int}

theorem roster_refreshed (roster : Roster fleet.agents status.agentStatuses) :
    Roster fleet.agents (sanitizeVirtualIPStatus
      (refreshAggregateStatus vip status generation now ttl)).agentStatuses :=
  (roster.split.sanitize fleet.bounded).sanitize fleet.bounded

theorem mem_refreshed (roster : Roster fleet.agents status.agentStatuses) (reported : Reported old)
    (mem : old ∈ status.agentStatuses) (present : old.observedGeneration = generation) :
    old ∈ (sanitizeVirtualIPStatus
        (refreshAggregateStatus vip status generation now ttl)).agentStatuses ∨
      Outdated old now := by
  cases pruned : outdated old now ttl with
  | true => exact .inr (reported.outdated pruned)
  | false =>
    have stays := mem_splitAgentStatuses.mpr ⟨mem, present, pruned⟩
    exact .inl (reported.mem_sanitize (reported.mem_sanitize stays roster.split fleet.bounded)
      (roster.split.sanitize fleet.bounded) fleet.bounded)

end Refresh

/-- What a status that is computed at time `now` keeps of the object it is computed from;
`report` is the report that is made with it. -/
structure Extends (fleet : Fleet) (base : Object) (now : Time) (status : VirtualIPStatus)
    (report : Option AgentStatus) : Prop where
  roster : Roster fleet.agents status.agentStatuses
  reports : ∀ own, report = some own →
    own ∈ status.agentStatuses ∧ own.observedGeneration = base.vip.generation ∧ Reported own
  keeps : ∀ old, Reported old → old ∈ base.status.agentStatuses →
    old.observedGeneration = base.vip.generation →
    (∀ own, report = some own → own.agentID ≠ old.agentID) →
    old ∈ status.agentStatuses ∨ Outdated old now
  observes : status.observedGeneration = base.status.observedGeneration ∨
    status.observedGeneration = base.vip.generation

theorem not_outdated_report (updater : Updater) (vip : VirtualIP)
    (healthyBackends : List BackendSpec) (conditions : List Condition) (now : Time) :
    ¬ Outdated (updater.report vip healthyBackends conditions now) now := by
  intro ⟨_, old⟩
  have : (now : Int) + defaultExpiredAgentStatusRetention < now := of_decide_eq_true old
  have positive : 0 < defaultExpiredAgentStatusRetention := by decide
  omega

section Computed

variable {base : Object} {vip : VirtualIP} {now : Time} {status : VirtualIPStatus}
  {updater : Updater} (roster : Roster fleet.agents base.status.agentStatuses)
include roster

theorem extends_updateVIPStatus {healthyBackends : List BackendSpec} {conditions : List Condition}
    (member : updater.agentID ∈ fleet.agents)
    (computes : updater.updateVIPStatus vip healthyBackends conditions now base = some status) :
    Extends fleet base now status
      (some (updater.report vip healthyBackends conditions now)) := by
  unfold Updater.updateVIPStatus at computes
  split at computes
  · cases computes
  · rename_i acts
    cases computes
    have same := (observed_of_not_skipped acts).2.1
    have reported := reported_report updater vip healthyBackends conditions now
    have upserted : Roster fleet.agents (upsertAgentStatus base.status.agentStatuses
        (updater.report vip healthyBackends conditions now) vip.generation) :=
      roster.upsert fleet.distinct member
    refine ⟨roster_refreshed upserted, ?_, ?_, .inr same.symm⟩
    · rintro own ⟨⟩
      refine ⟨?_, same.symm, reported⟩
      exact (mem_refreshed upserted reported mem_upsertAgentStatus rfl).resolve_right
        (not_outdated_report updater vip healthyBackends conditions now)
    · intro old reported mem present other
      rw [same] at present
      exact mem_refreshed upserted reported
        (mem_upsertAgentStatus_of_ne mem present (other _ rfl)) present

theorem extends_refreshed (carried : VirtualIPStatus)
    (same : carried.agentStatuses = base.status.agentStatuses) (ttl : Int) :
    Extends fleet base now (sanitizeVirtualIPStatus
      (refreshAggregateStatus base.vip carried base.vip.generation now ttl)) none := by
  rw [← same] at roster
  refine ⟨roster_refreshed roster, by simp, ?_, .inr rfl⟩
  intro old reported mem present _
  exact mem_refreshed roster reported (same ▸ mem) present

theorem extends_carried (carried : VirtualIPStatus)
    (same : carried.agentStatuses = base.status.agentStatuses ∨
      carried.agentStatuses = sanitizeAgentStatuses base.status.agentStatuses)
    (observes : carried.observedGeneration = base.status.observedGeneration) :
    Extends fleet base now (sanitizeVirtualIPStatus carried) none := by
  have kept : Roster fleet.agents carried.agentStatuses := by
    rcases same with same | same
    · exact same ▸ roster
    · exact same ▸ roster.sanitize fleet.bounded
  refine ⟨kept.sanitize fleet.bounded, by simp, ?_, .inl observes⟩
  intro old reported mem _ _
  have present : old ∈ carried.agentStatuses := by
    rcases same with same | same
    · exact same ▸ mem
    · exact same ▸ reported.mem_sanitize mem roster fleet.bounded
  exact .inl (reported.mem_sanitize present kept fleet.bounded)

theorem extends_updateHealthCheckCondition {condition : Condition}
    (computes : updater.updateHealthCheckCondition vip condition now base = some status) :
    Extends fleet base now status none := by
  unfold Updater.updateHealthCheckCondition at computes
  split at computes
  · cases computes
  · rename_i acts
    rw [← (observed_of_not_skipped acts).2.1] at computes
    cases computes
    dsimp only
    split
    · apply extends_refreshed roster
      rfl
    · apply extends_carried roster
      · exact .inr rfl
      · rfl

theorem extends_updateStatus (operator : Operator) :
    Extends fleet base now (operator.updateStatus now base) none := by
  have refreshed : Extends fleet base now (operator.refreshed now base) none := by
    unfold Operator.refreshed
    dsimp only
    split
    · apply extends_refreshed roster
      rfl
    · apply extends_carried roster
      · exact .inl rfl
      · rfl
  exact ⟨refreshed.roster, refreshed.reports, refreshed.keeps, refreshed.observes⟩

end Computed

/-- An object whose reports are of different agents of the fleet, and on no later generation
than its own. -/
structure Valid (fleet : Fleet) (object : Object) : Prop where
  roster : Roster fleet.agents object.status.agentStatuses
  bounded : object.status.observedGeneration ≤ object.vip.generation

/-- The observed generation does not decrease. -/
def Advances (older newer : Object) : Prop :=
  older.status.observedGeneration ≤ newer.status.observedGeneration

instance : IsPreorder Object Advances where
  refl := fun _ => Int.le_refl _
  trans := fun _ _ _ => Int.le_trans

section Runs

variable {state next : State} {label : Label} {write : Write}

theorem Computed.extends (computed : Computed fleet state label write)
    (valid : ∀ version ≤ state.version, Valid fleet (state.history version)) :
    Extends fleet (state.history write.base) state.clock write.status write.report := by
  cases computed with
  | report member _ read computes =>
    exact extends_updateVIPStatus (valid _ read).roster member computes
  | healthCheck read computes =>
    exact extends_updateHealthCheckCondition (valid _ read).roster computes
  | operator read => exact extends_updateStatus (valid _ read).roster fleet.operator

/-- A report of an agent is in the object, unless the generation moved on or the report is
outdated. -/
structure Remembered (object : Object) (clock : Time) (report : AgentStatus) : Prop where
  reported : Reported report
  bounded : report.observedGeneration ≤ object.vip.generation
  stays : report.observedGeneration = object.vip.generation →
    report ∈ object.status.agentStatuses ∨ Outdated report clock

/-- The invariant of the runs. -/
structure Kept (fleet : Fleet) (state : State) : Prop where
  valid : ∀ version ≤ state.version, Valid fleet (state.history version)
  advances : state.Ordered Advances
  observed : ∀ agent report, state.observed agent = some report →
    report.agentID = agent ∧ Remembered state.current state.clock report
  writes : ∀ write ∈ state.writes, write.base ≤ state.version ∧ ∃ now ≤ state.clock,
    Extends fleet (state.history write.base) now write.status write.report

theorem Kept.initial (starts : (fleet.system (Valid fleet)).initial state) : Kept fleet state := by
  obtain ⟨first, valid, idle, unobserved⟩ := starts
  refine ⟨?_, ?_, ?_, ?_⟩
  · intro version le
    obtain rfl : version = 0 := Nat.le_zero.mp (first ▸ le)
    exact valid
  · intro newer le older earlier
    obtain rfl : newer = 0 := Nat.le_zero.mp (first ▸ le)
    obtain rfl := Nat.le_zero.mp earlier
    exact Int.le_refl _
  · simp [unobserved]
  · simp [idle]

variable (kept : Kept fleet state)
include kept

theorem Kept.advance {time : Time} (le : state.clock ≤ time) :
    Kept fleet { state with clock := time } where
  valid := kept.valid
  advances := kept.advances
  observed := by
    intro agent report observed
    obtain ⟨named, reported, bounded, stays⟩ := kept.observed agent report observed
    exact ⟨named, reported, bounded, fun same => (stays same).imp_right fun old => old.mono le⟩
  writes := by
    intro write mem
    obtain ⟨read, now, earlier, extension⟩ := kept.writes write mem
    exact ⟨read, now, Nat.le_trans earlier le, extension⟩

theorem Kept.send (computed : Computed fleet state label write) :
    Kept fleet (state.send write) where
  valid := kept.valid
  advances := kept.advances
  observed := kept.observed
  writes := by
    intro other mem
    rcases List.mem_cons.mp mem with rfl | mem
    · exact ⟨computed.base_le, state.clock, Nat.le_refl _, computed.extends kept.valid⟩
    · exact kept.writes other mem

/-- Writes that are on their way stay computed from their version. -/
theorem Kept.writes_store {object : Object} (mem : write ∈ state.writes) :
    write.base ≤ (state.store object).version ∧ ∃ now ≤ state.clock,
      Extends fleet ((state.store object).history write.base) now write.status write.report := by
  obtain ⟨read, now, le, extension⟩ := kept.writes write mem
  rw [State.history_store read]
  exact ⟨Nat.le_succ_of_le read, now, le, extension⟩

theorem Kept.edit {vip : VirtualIP} (later : state.current.vip.generation ≤ vip.generation) :
    Kept fleet (state.store { state.current with vip }) where
  valid := by
    have current := kept.valid _ (Nat.le_refl _)
    exact State.forall_store (Valid fleet) kept.valid
      ⟨current.roster, Int.le_trans current.bounded later⟩
  advances := kept.advances.store (Int.le_refl _)
  observed := by
    intro agent report observed
    obtain ⟨named, reported, le, stays⟩ := kept.observed agent report observed
    rw [State.current_store]
    refine ⟨named, reported, Int.le_trans le later, fun same => ?_⟩
    -- a report on the new generation is on the present one, which is not later
    exact stays (Int.le_antisymm le (same ▸ later))
  writes := fun _ mem => kept.writes_store mem

omit kept in
/-- What the server remembers of a report after it stored an extension of the object. -/
theorem Extends.remembered {object : Object} {clock now : Time} {status : VirtualIPStatus}
    {own : Option AgentStatus} {report : AgentStatus}
    (extension : Extends fleet object now status own) (le : now ≤ clock)
    (remembered : Remembered object clock report)
    (other : ∀ new, own = some new → new.agentID ≠ report.agentID) :
    Remembered { object with status } clock report where
  reported := remembered.reported
  bounded := remembered.bounded
  stays := by
    intro same
    rcases remembered.stays same with mem | old
    · exact (extension.keeps report remembered.reported mem same other).imp_right
        fun old => old.mono le
    · exact .inr old

theorem Kept.store {now : Time} (le : now ≤ state.clock)
    (extension : Extends fleet state.current now write.status write.report) :
    Kept fleet { state.store { state.current with status := write.status } with
      observed := match write.report with
        | none => state.observed
        | some report => Function.update state.observed report.agentID (some report) } where
  valid := by
    have current : Valid fleet state.current := kept.valid _ (Nat.le_refl _)
    refine State.forall_store (Valid fleet) kept.valid ⟨extension.roster, ?_⟩
    rcases extension.observes with same | same
    · exact same ▸ current.bounded
    · exact Int.le_of_eq same
  advances := by
    have current : Valid fleet state.current := kept.valid _ (Nat.le_refl _)
    refine kept.advances.store ?_
    rcases extension.observes with same | same
    · exact Int.le_of_eq same.symm
    · exact Int.le_trans current.bounded (Int.le_of_eq same.symm)
  observed := by
    intro agent report observed
    change report.agentID = agent ∧ Remembered
      (state.store { state.current with status := write.status }).current state.clock report
    rw [State.current_store]
    cases own : write.report with
    | none =>
      simp only [own] at observed
      obtain ⟨named, remembered⟩ := kept.observed agent report observed
      exact ⟨named, extension.remembered le remembered (by simp [own])⟩
    | some new =>
      simp only [own] at observed
      by_cases same : agent = new.agentID
      · subst same
        rw [Function.update_self] at observed
        cases observed
        obtain ⟨mem, present, reported⟩ := extension.reports report own
        exact ⟨rfl, reported, Int.le_of_eq present, fun _ => .inl mem⟩
      · rw [Function.update_of_ne same] at observed
        obtain ⟨named, remembered⟩ := kept.observed agent report observed
        refine ⟨named, extension.remembered le remembered fun other made => ?_⟩
        cases own.symm.trans made
        exact fun ids => same (named ▸ ids.symm)
  writes := fun _ mem => kept.writes_store mem

theorem Kept.land {index : Nat} (present : write ∈ state.writes) :
    Kept fleet (state.landed index write) := by
  have handled : Kept fleet { state with writes := state.writes.eraseIdx index } :=
    ⟨kept.valid, kept.advances, kept.observed,
      fun other mem => kept.writes other (List.mem_of_mem_eraseIdx mem)⟩
  unfold State.landed
  dsimp only
  split
  · rename_i current
    obtain ⟨-, now, le, extension⟩ := kept.writes write present
    rw [current] at extension
    exact handled.store le extension
  · exact handled

omit kept

theorem kept_of_reachable
    (reached : (fleet.system (Valid fleet)).Reachable TransitionSystem.unguarded state) :
    Kept fleet state := by
  apply reached.invariant
  · intro state starts
    exact .initial starts
  · intro state label next kept _ steps
    cases Fleet.moves_of_step steps with
    | advance le => exact kept.advance le
    | edit vip later => exact kept.edit later
    | send computed => exact kept.send computed
    | land present => exact kept.land present

/-- **No observation is lost or doubled.** In every state that the agents, the operator and
the users reach: every stored version has at most one report per agent; the last report of an
agent on the present generation is stored, unless it is older than its TTL and the retention
period; and over the stored versions the observed generation never decreases and never
exceeds the generation. -/
theorem observations_kept (fleet : Fleet) (state : State)
    (reached : (fleet.system (Valid fleet)).Reachable TransitionSystem.unguarded state) :
    (∀ version ≤ state.version, (ids (state.history version).status.agentStatuses).Nodup) ∧
    (∀ agent report, state.observed agent = some report →
      report.observedGeneration = state.current.vip.generation →
      report ∈ state.current.status.agentStatuses ∨ Outdated report state.clock) ∧
    (∀ newer ≤ state.version, ∀ older ≤ newer,
      (state.history older).status.observedGeneration ≤
        (state.history newer).status.observedGeneration) ∧
    ∀ version ≤ state.version,
      (state.history version).status.observedGeneration ≤
        (state.history version).vip.generation := by
  have kept := kept_of_reachable reached
  refine ⟨?_, ?_, kept.advances, ?_⟩
  · intro version le
    exact (kept.valid version le).roster.nodup fleet.distinct
  · intro agent report observed
    exact (kept.observed agent report observed).2.stays
  · intro version le
    exact (kept.valid version le).bounded

end Runs

/-- The second agent's first write is computed from a version that the first agent's write
replaced.  It is refused, and its second one leaves both reports in the status. -/
theorem observations_kept_conflict :
    ∃ state, (nodes.system (Valid nodes)).run unreportedWeb
        [.report ⟨"node-a", 0⟩ 0 0 webBackends [], .report ⟨"node-b", 0⟩ 0 0 webBackends [],
          .land 1, .land 0, .report ⟨"node-b", 0⟩ 0 1 webBackends [], .land 0] = some state ∧
      state.version = 2 ∧ (ids state.current.status.agentStatuses).length = 2 ∧
      (ids state.current.status.agentStatuses).Nodup := by
  obtain ⟨state, runs, stored, both⟩ :=
    (nodes.system (Valid nodes)).exists_run_of_check unreportedWeb
      [.report ⟨"node-a", 0⟩ 0 0 webBackends [], .report ⟨"node-b", 0⟩ 0 0 webBackends [],
        .land 1, .land 0, .report ⟨"node-b", 0⟩ 0 1 webBackends [], .land 0]
      (fun state => state.version = 2 ∧ (ids state.current.status.agentStatuses).length = 2)
      (by decide +kernel)
  have starts : (nodes.system (Valid nodes)).initial unreportedWeb :=
    ⟨rfl, ⟨List.nil_subperm, by decide⟩, rfl, fun _ => rfl⟩
  have reached : (nodes.system (Valid nodes)).Reachable TransitionSystem.unguarded state :=
    (TransitionSystem.Reachable.initial starts).run
      (TransitionSystem.meets_unguarded _ _ _) runs
  exact ⟨state, runs, stored, both,
    (observations_kept nodes state reached).1 state.version (Nat.le_refl _)⟩

end ArcaLB.Status
