import ArcaLB.Status.Roster
import ArcaLB.Status.Writers

/-!
# Healthy and total backends

An aggregate that is computed from reports on one generation counts no more healthy backends
than the spec of that generation has.  The operator however carries the healthy count over to
the total of a newer spec as long as no agent has reported on its generation, so the count
stays within the total only if that spec has at least as many backends.
-/

namespace ArcaLB.Status

/-- The configured addresses. -/
def addresses (backends : List BackendSpec) : Finset String :=
  (backends.map (·.address)).toFinset

theorem card_addresses_le (backends : List BackendSpec) :
    (addresses backends).card ≤ backends.length :=
  (List.toFinset_card_le _).trans_eq (List.length_map _)

/-- The report names backends of the spec only. -/
def Backed (backends : List BackendSpec) (report : AgentStatus) : Prop :=
  ∀ status ∈ report.backends, status.address ∈ addresses backends

section Aggregate

variable {backends : List BackendSpec} {report : AgentStatus} {statuses : List AgentStatus}

theorem Backed.sanitize (backed : Backed backends report) : Backed backends report.sanitize :=
  fun status mem => backed status (List.mem_of_mem_take mem)

theorem backed_report (updater : Updater) (vip : VirtualIP)
    (healthyBackends : List BackendSpec) (conditions : List Condition) (now : Time) :
    Backed vip.spec.backends (updater.report vip healthyBackends conditions now) := by
  intro status mem
  obtain ⟨backend, present, rfl⟩ := List.mem_map.mp mem
  exact List.mem_toFinset.mpr (List.mem_map.mpr ⟨backend, List.mem_of_mem_take present, rfl⟩)

theorem healthyBackendsFromBitmap_subset {bitmap : String} {marked : Finset String}
    (marks : healthyBackendsFromBitmap backends bitmap = some marked) :
    marked ⊆ addresses backends := by
  unfold healthyBackendsFromBitmap at marks
  split at marks
  · cases marks
  · obtain ⟨decoded, -, rfl⟩ := Option.map_eq_some_iff.mp marks
    intro address mem
    obtain ⟨entry, kept, rfl⟩ := List.mem_map.mp (List.mem_toFinset.mp mem)
    have present := List.fst_mem_of_mem_zipIdx (List.mem_of_mem_filter kept)
    exact List.mem_toFinset.mpr (List.mem_map.mpr ⟨entry.1, present, rfl⟩)

/-- A healthy set and count within the spec. -/
structure Within (backends : List BackendSpec) (healthy : Finset String × Int) : Prop where
  configured : healthy.1 ⊆ addresses backends
  nonneg : 0 ≤ healthy.2
  le : healthy.2 ≤ backends.length

theorem clampHealthyBackendCount_bounds (count : Int) {total : Int} (nonneg : 0 ≤ total) :
    0 ≤ clampHealthyBackendCount count total ∧ clampHealthyBackendCount count total ≤ total := by
  unfold clampHealthyBackendCount
  split
  · omega
  · split <;> omega

theorem Within.addReport {healthy : Finset String × Int} (within : Within backends healthy)
    (backed : Backed backends report) : Within backends (addReport backends healthy report) := by
  unfold Status.addReport
  split
  · rename_i marked marks
    exact ⟨Finset.union_subset within.configured (healthyBackendsFromBitmap_subset marks),
      within.nonneg, within.le⟩
  · obtain ⟨clampNonneg, clampLe⟩ := clampHealthyBackendCount_bounds report.healthyBackends
      (Int.natCast_nonneg backends.length)
    have reported : ((report.backends.filter (·.healthy)).map (·.address)).toFinset ⊆
        addresses backends := by
      intro address mem
      obtain ⟨status, present, rfl⟩ := List.mem_map.mp (List.mem_toFinset.mp mem)
      exact backed status (List.mem_of_mem_filter present)
    refine ⟨?_, le_max_of_le_left within.nonneg, max_le within.le clampLe⟩
    dsimp only
    split
    · exact Finset.union_subset (Finset.union_subset within.configured reported)
        (Finset.Subset.refl _)
    · exact Finset.union_subset within.configured reported

theorem Within.foldl {healthy : Finset String × Int} (within : Within backends healthy)
    (backed : ∀ report ∈ statuses, Backed backends report) :
    Within backends (statuses.foldl (Status.addReport backends) healthy) := by
  induction statuses generalizing healthy with
  | nil => exact within
  | cons first rest ih =>
    exact ih (within.addReport (backed first (by simp)))
      fun report mem => backed report (List.mem_cons_of_mem _ mem)

/-- Reports on the backends of a spec count no more than these. -/
theorem aggregateHealthyBackends_within (backed : ∀ report ∈ statuses, Backed backends report) :
    Within backends (aggregateHealthyBackends backends statuses) := by
  have folded : Within backends (statuses.foldl (addReport backends) (∅, 0)) :=
    Within.foldl ⟨Finset.empty_subset _, Int.le_refl _, Int.natCast_nonneg _⟩ backed
  have card : ((statuses.foldl (addReport backends) (∅, 0)).1.card : Int) ≤ backends.length :=
    Int.ofNat_le.mpr ((Finset.card_le_card folded.configured).trans (card_addresses_le backends))
  exact ⟨folded.configured, le_max_of_le_left folded.nonneg, max_le folded.le card⟩

end Aggregate

/-- The healthy backends are among the total. -/
def Counted (status : VirtualIPStatus) : Prop :=
  0 ≤ status.healthyBackends ∧ status.healthyBackends ≤ status.totalBackends

section Refresh

variable {vip : VirtualIP} {status : VirtualIPStatus} {now : Time} {ttl : Int}
  {statuses : List AgentStatus} {holds : AgentStatus → Prop}

theorem counted_refreshed
    (backed : ∀ report ∈ status.agentStatuses, report.observedGeneration = vip.generation →
      Backed vip.spec.backends report) :
    Counted (sanitizeVirtualIPStatus
      (refreshAggregateStatus vip status vip.generation now ttl)) := by
  have within : Within vip.spec.backends (aggregateHealthyBackends vip.spec.backends
      (splitAgentStatuses status.agentStatuses vip.generation now ttl).1) := by
    apply aggregateHealthyBackends_within
    intro report mem
    have observed := List.mem_filter.mp (List.mem_of_mem_filter mem)
    exact backed report observed.1 (of_decide_eq_true observed.2)
  exact ⟨within.nonneg, within.le⟩

theorem forall_sanitizeAgentStatuses (sanitized : ∀ report, holds report → holds report.sanitize)
    (all : ∀ report ∈ statuses, holds report) :
    ∀ report ∈ sanitizeAgentStatuses statuses, holds report := by
  have mapped : ∀ report ∈ statuses.map AgentStatus.sanitize, holds report := by
    intro report mem
    obtain ⟨old, present, rfl⟩ := List.mem_map.mp mem
    exact sanitized old (all old present)
  intro report mem
  unfold sanitizeAgentStatuses capAgentStatuses at mem
  split at mem
  · exact mapped report mem
  · exact mapped report (List.mem_mergeSort.mp (List.mem_of_mem_take mem))

theorem forall_refreshed (sanitized : ∀ report, holds report → holds report.sanitize)
    (all : ∀ report ∈ status.agentStatuses, holds report) (generation : Int) :
    ∀ report ∈ (sanitizeVirtualIPStatus
      (refreshAggregateStatus vip status generation now ttl)).agentStatuses, holds report := by
  apply forall_sanitizeAgentStatuses sanitized
  apply forall_sanitizeAgentStatuses sanitized
  intro report mem
  apply all
  rcases List.mem_append.mp mem with mem | mem
  · exact List.mem_of_mem_filter (List.mem_of_mem_filter mem)
  · exact List.mem_of_mem_filter (List.mem_of_mem_filter mem)

theorem forall_upsertAgentStatus {next : AgentStatus} (new : holds next)
    (all : ∀ report ∈ statuses, holds report) (generation : Int) :
    ∀ report ∈ upsertAgentStatus statuses next generation, holds report := by
  have stays : ∀ report ∈ kept statuses next generation, holds report := by
    intro report mem
    obtain ⟨old, present, chosen⟩ := List.mem_filterMap.mp mem
    split at chosen
    · cases chosen
      exact new
    · split at chosen <;> cases chosen
      exact all report present
  unfold upsertAgentStatus
  dsimp only
  split
  · exact stays
  · intro report mem
    rcases List.mem_append.mp mem with mem | mem
    · exact stays report mem
    · exact List.mem_singleton.mp mem ▸ new

end Refresh

/-- The generation does not decrease, and one generation has one spec. -/
structure Earlier (older newer : Object) : Prop where
  le : older.vip.generation ≤ newer.vip.generation
  same : older.vip.generation = newer.vip.generation → older.vip.spec = newer.vip.spec

instance : IsPreorder Object Earlier where
  refl := fun _ => ⟨Int.le_refl _, fun _ => rfl⟩
  trans := by
    intro first second third before after
    refine ⟨Int.le_trans before.le after.le, fun same => ?_⟩
    have middle : first.vip.generation = second.vip.generation :=
      Int.le_antisymm before.le (same ▸ after.le)
    exact (before.same middle).trans (after.same (middle.symm.trans same))

/-- The report is on the spec that some version had at the observed generation. -/
def Sourced (state : State) (report : AgentStatus) : Prop :=
  ∃ version ≤ state.version, (state.history version).vip.generation = report.observedGeneration ∧
    Backed (state.history version).vip.spec.backends report

/-- A status whose counts are in order, and whose reports are on the object's specs. -/
structure Accountable (state : State) (status : VirtualIPStatus) : Prop where
  counted : Counted status
  sourced : ∀ report ∈ status.agentStatuses, Sourced state report

/-- The operator acts on an object whose generation was observed, or whose spec has as many
backends as its status counts. -/
def covered (state : State) : Label → Prop
  | .operator base =>
    let read := state.history base
    read.status.observedGeneration = read.vip.generation ∨
      read.status.healthyBackends ≤ read.vip.spec.backends.length
  | _ => True

instance (state : State) (label : Label) : Decidable (covered state label) := by
  unfold covered
  split <;> infer_instance

section Runs

variable {fleet : Fleet} {state next : State} {label : Label} {write : Write}
  {report : AgentStatus} {status : VirtualIPStatus} {object : Object}

theorem Sourced.sanitize (sourced : Sourced state report) : Sourced state report.sanitize := by
  obtain ⟨version, le, same, backed⟩ := sourced
  exact ⟨version, le, same, backed.sanitize⟩

theorem Sourced.store (sourced : Sourced state report) : Sourced (state.store object) report := by
  obtain ⟨version, le, source⟩ := sourced
  rw [← State.history_store le] at source
  exact ⟨version, Nat.le_succ_of_le le, source⟩

theorem Accountable.store (accountable : Accountable state status) :
    Accountable (state.store object) status :=
  ⟨accountable.counted, fun report mem => (accountable.sourced report mem).store⟩

/-- All versions of one generation have the same spec. -/
theorem State.Ordered.spec_eq (ordered : state.Ordered Earlier) {left right : Nat}
    (leftLe : left ≤ state.version) (rightLe : right ≤ state.version)
    (same : (state.history left).vip.generation = (state.history right).vip.generation) :
    (state.history left).vip.spec = (state.history right).vip.spec := by
  rcases Nat.le_total left right with le | le
  · exact (ordered right rightLe left le).same same
  · exact ((ordered left leftLe right le).same same.symm).symm

variable {version : Nat}

theorem Sourced.backed (sourced : Sourced state report) (ordered : state.Ordered Earlier)
    (le : version ≤ state.version)
    (same : report.observedGeneration = (state.history version).vip.generation) :
    Backed (state.history version).vip.spec.backends report := by
  obtain ⟨source, sourceLe, observed, backed⟩ := sourced
  rw [ordered.spec_eq le sourceLe (same.symm.trans observed.symm)]
  exact backed

/-- A refreshed status is accountable if the reports it is computed from are sourced. -/
theorem accountable_refreshed (ordered : state.Ordered Earlier)
    (le : version ≤ state.version) (sourced : ∀ report ∈ status.agentStatuses,
      Sourced state report) {now : Time} {ttl : Int} :
    Accountable state (sanitizeVirtualIPStatus (refreshAggregateStatus
      (state.history version).vip status (state.history version).vip.generation now ttl)) where
  counted := counted_refreshed fun report mem same => (sourced report mem).backed ordered le same
  sourced := by
    apply forall_refreshed _ sourced
    exact fun report sourced => sourced.sanitize

theorem accountable_sanitized (counted : Counted status)
    (sourced : ∀ report ∈ status.agentStatuses, Sourced state report) :
    Accountable state (sanitizeVirtualIPStatus status) where
  counted
  sourced := by
    apply forall_sanitizeAgentStatuses _ sourced
    exact fun report sourced => sourced.sanitize

theorem accountable_updateStatus (operator : Operator) (ordered : state.Ordered Earlier)
    (le : version ≤ state.version) (accountable : Accountable state (state.history version).status)
    (covers : covered state (.operator version)) :
    Accountable state (operator.updateStatus state.clock (state.history version)) := by
  have refreshed : Accountable state
      (operator.refreshed state.clock (state.history version)) := by
    unfold Operator.refreshed
    dsimp only
    split
    · apply accountable_refreshed ordered le
      exact accountable.sourced
    · rename_i unobserved
      apply accountable_sanitized
      · exact ⟨accountable.counted.1, covers.resolve_left unobserved⟩
      · exact accountable.sourced
  exact ⟨refreshed.counted, refreshed.sourced⟩

/-- The operator's count is in order only if its object is covered. -/
theorem covered_of_counted (operator : Operator)
    (counted : Counted (operator.updateStatus state.clock (state.history version))) :
    covered state (.operator version) := by
  have refreshed : Counted (operator.refreshed state.clock (state.history version)) := counted
  unfold Operator.refreshed at refreshed
  dsimp only at refreshed
  split at refreshed
  · rename_i observed
    exact .inl observed
  · exact .inr refreshed.2

/-- The invariant of the runs. -/
structure Accounted (state : State) : Prop where
  ordered : state.Ordered Earlier
  stored : ∀ version ≤ state.version, Accountable state (state.history version).status
  writes : ∀ write ∈ state.writes, Accountable state write.status

variable (accounted : Accounted state)
include accounted

theorem Computed.accountable (computed : Computed fleet state label write)
    (covers : covered state label) : Accountable state write.status := by
  cases computed with
  | @report updater view base healthyBackends conditions status _ seen read computes =>
    unfold Updater.updateVIPStatus at computes
    split at computes
    · cases computes
    · rename_i acts
      obtain ⟨_, same, _⟩ := observed_of_not_skipped acts
      cases computes
      rw [← same]
      apply accountable_refreshed accounted.ordered read
      apply forall_upsertAgentStatus
      · exact ⟨view, seen, rfl, backed_report _ _ _ _ _⟩
      · exact (accounted.stored base read).sourced
  | @healthCheck updater view base condition status read computes =>
    have accountable := accounted.stored base read
    unfold Updater.updateHealthCheckCondition at computes
    split at computes
    · cases computes
    · rename_i acts
      rw [← (observed_of_not_skipped acts).2.1] at computes
      cases computes
      dsimp only
      split
      · apply accountable_refreshed accounted.ordered read
        exact accountable.sourced
      · apply accountable_sanitized
        · exact accountable.counted
        · apply forall_sanitizeAgentStatuses _ accountable.sourced
          exact fun report sourced => sourced.sanitize
  | operator read =>
    exact accountable_updateStatus fleet.operator accounted.ordered read
      (accounted.stored _ read) covers

/-- A new version with an accountable status, on the present spec or a newer generation. -/
theorem Accounted.store (next : Earlier state.current object)
    (accountable : Accountable state object.status) : Accounted (state.store object) where
  ordered := accounted.ordered.store next
  stored := by
    have holds : ∀ version ≤ (state.store object).version,
        Accountable state ((state.store object).history version).status :=
      State.forall_store (fun object => Accountable state object.status) accounted.stored
        accountable
    exact fun version le => (holds version le).store
  writes := fun write mem => (accounted.writes write mem).store

/-- The clock and the history variable do not matter, and writes may be added and dropped. -/
theorem Accounted.of_eq (version : next.version = state.version)
    (history : next.history = state.history)
    (writes : ∀ write ∈ next.writes, write ∈ state.writes ∨ Accountable state write.status) :
    Accounted next := by
  obtain ⟨clock, _, _, pending, observed⟩ := next
  obtain rfl := version
  obtain rfl := history
  have moved : ∀ {status}, Accountable state status →
      Accountable ⟨clock, state.version, state.history, pending, observed⟩ status :=
    fun accountable => ⟨accountable.counted, accountable.sourced⟩
  refine ⟨accounted.ordered, fun version le => moved (accounted.stored version le), ?_⟩
  intro write mem
  rcases writes write mem with old | new
  · exact moved (accounted.writes write old)
  · exact moved new

theorem Accounted.land {index : Nat}
    (present : write ∈ state.writes) : Accounted (state.landed index write) := by
  have others : ∀ other ∈ state.writes.eraseIdx index, other ∈ state.writes :=
    fun other mem => List.mem_of_mem_eraseIdx mem
  unfold State.landed
  dsimp only
  split
  · have next : Earlier state.current { state.current with status := write.status } :=
      ⟨Int.le_refl _, fun _ => rfl⟩
    exact (accounted.store next (accounted.writes write present)).of_eq rfl rfl
      fun other mem => .inl (others other mem)
  · exact accounted.of_eq rfl rfl fun other mem => .inl (others other mem)

omit accounted

theorem Accounted.initial (starts : (fleet.system fun object => object.status = {}).initial state) :
    Accounted state := by
  obtain ⟨first, fresh, idle, -⟩ := starts
  refine ⟨?_, ?_, by simp [idle]⟩
  · intro newer le older earlier
    obtain rfl : newer = 0 := Nat.le_zero.mp (first ▸ le)
    obtain rfl := Nat.le_zero.mp earlier
    exact refl_of Earlier _
  · intro version le
    obtain rfl : version = 0 := Nat.le_zero.mp (first ▸ le)
    rw [fresh]
    exact ⟨⟨Int.le_refl _, Int.le_refl _⟩, by simp⟩

theorem accounted_of_reachable
    (reached : (fleet.system fun object => object.status = {}).Reachable covered state) :
    Accounted state := by
  apply reached.invariant
  · intro state starts
    exact .initial starts
  · intro state label next accounted covers steps
    cases Fleet.moves_of_step steps with
    | advance le => exact accounted.of_eq rfl rfl fun write mem => .inl mem
    | edit vip later same =>
      have current := accounted.stored _ (Nat.le_refl _)
      exact accounted.store ⟨later, fun same' => (same same'.symm).symm⟩ current
    | send computed =>
      refine accounted.of_eq rfl rfl fun write mem => ?_
      rcases List.mem_cons.mp mem with rfl | mem
      · exact .inr (computed.accountable accounted covers)
      · exact .inl mem
    | land present => exact accounted.land present

/-- **Healthy backends are among the total.** Start with a fresh object.  In every run in
which the operator acts only on objects whose generation was observed, or whose spec has as
many backends as the status counts as healthy, every status that is stored or on its way
counts between none and all of the backends as healthy.  In the states of these runs the
operator's next status does so exactly if its object meets the condition. -/
theorem healthy_within_total (fleet : Fleet) (state : State)
    (reached : (fleet.system fun object => object.status = {}).Reachable covered state) :
    (∀ version ≤ state.version, 0 ≤ (state.history version).status.healthyBackends ∧
      (state.history version).status.healthyBackends ≤
        (state.history version).status.totalBackends) ∧
    (∀ write ∈ state.writes, 0 ≤ write.status.healthyBackends ∧
      write.status.healthyBackends ≤ write.status.totalBackends) ∧
    ∀ base ≤ state.version,
      (0 ≤ (fleet.operator.updateStatus state.clock (state.history base)).healthyBackends ∧
        (fleet.operator.updateStatus state.clock (state.history base)).healthyBackends ≤
          (fleet.operator.updateStatus state.clock (state.history base)).totalBackends) ↔
      covered state (.operator base) := by
  have accounted := accounted_of_reachable reached
  refine ⟨?_, ?_, ?_⟩
  · intro version le
    exact (accounted.stored version le).counted
  · intro write mem
    exact (accounted.writes write mem).counted
  · intro base le
    constructor
    · intro counted
      exact covered_of_counted fleet.operator counted
    · intro covers
      exact (accountable_updateStatus fleet.operator accounted.ordered le
        (accounted.stored base le) covers).counted

end Runs

/-- Both backends are reported healthy and the operator refreshes the status. -/
theorem healthy_within_total_observed :
    ∃ state, (nodes.system fun object => object.status = {}).run unreportedWeb
        [.report ⟨"node-a", 0⟩ 0 0 webBackends [], .land 0, .operator 1, .land 0] = some state ∧
      state.version = 2 ∧ state.current.status.healthyBackends = 2 ∧
      state.current.status.healthyBackends ≤ state.current.status.totalBackends := by
  have meets : (nodes.system fun object => object.status = {}).Meets covered unreportedWeb
      [.report ⟨"node-a", 0⟩ 0 0 webBackends [], .land 0, .operator 1, .land 0] := by
    decide +kernel
  obtain ⟨state, runs, stored, healthy⟩ :=
    (nodes.system fun object => object.status = {}).exists_run_of_check unreportedWeb
      [.report ⟨"node-a", 0⟩ 0 0 webBackends [], .land 0, .operator 1, .land 0]
      (fun state => state.version = 2 ∧ state.current.status.healthyBackends = 2)
      (by decide +kernel)
  have starts : (nodes.system fun object => object.status = {}).initial unreportedWeb :=
    ⟨rfl, rfl, rfl, fun _ => rfl⟩
  have reached := (TransitionSystem.Reachable.initial starts).run meets runs
  exact ⟨state, runs, stored, healthy,
    ((healthy_within_total nodes state reached).1 state.version (Nat.le_refl _)).2⟩

/-- **More healthy backends than backends.** Both backends are reported healthy, a user
removes one of them, and the operator writes the new total before an agent has reported on
the new generation: two of one backends are healthy. -/
theorem healthy_exceeds_total :
    ∃ state, (nodes.system fun object => object.status = {}).run unreportedWeb
        [.report ⟨"node-a", 0⟩ 0 0 webBackends [], .land 0, .spec (webSpec [⟨"10.0.0.1", "", 1⟩]),
          .operator 2, .land 0] = some state ∧
      state.version = 3 ∧ state.current.status.healthyBackends = 2 ∧
      state.current.status.totalBackends = 1 :=
  (nodes.system fun object => object.status = {}).exists_run_of_check unreportedWeb _
    (fun state => state.version = 3 ∧ state.current.status.healthyBackends = 2 ∧
      state.current.status.totalBackends = 1) (by decide +kernel)

end ArcaLB.Status
