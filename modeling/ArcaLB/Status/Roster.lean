import ArcaLB.Status.Updater
import Mathlib.Data.List.Perm.Subperm

/-!
# The reports of a fleet

What pruning, capping and replacing do to a list of reports: as long as the reports are of
different agents of one fleet, nothing is capped, the fleet's reports are pruned only once
they are outdated, and a new report takes the place of the agent's last one.
-/

namespace ArcaLB.Status

/-- The agents that a list of reports names. -/
def ids (statuses : List AgentStatus) : List String := statuses.map (·.agentID)

/-- A report as agents write it, within the limits of the schema. -/
structure Reported (status : AgentStatus) : Prop where
  positive : 0 < status.ttlSeconds
  limited : status.ttlSeconds ≤ 3600
  backends : status.backends.length ≤ maxVirtualIPStatusBackends

/-- The report is older than its TTL and than the retention period. -/
def Outdated (status : AgentStatus) (now : Time) : Prop :=
  agentStatusExpired status now (seconds status.ttlSeconds) = true ∧
    agentStatusExpired status now defaultExpiredAgentStatusRetention = true

section Reports

variable {status report : AgentStatus} {statuses : List AgentStatus} {now later : Time}
  {ttl generation : Int}

theorem agentStatusExpired_mono (expired : agentStatusExpired status now ttl = true)
    (le : now ≤ later) : agentStatusExpired status later ttl = true := by
  unfold agentStatusExpired at expired ⊢
  split at expired
  · rfl
  · simp only [decide_eq_true_eq] at expired ⊢
    have : (now : Int) ≤ later := Int.ofNat_le.mpr le
    omega

theorem Outdated.mono (outdated : Outdated status now) (le : now ≤ later) : Outdated status later :=
  ⟨agentStatusExpired_mono outdated.1 le, agentStatusExpired_mono outdated.2 le⟩

theorem normalizeAgentStatusTTL_of_seconds (positive : 0 < ttl) (limited : ttl ≤ 3600) :
    normalizeAgentStatusTTL (seconds ttl) = seconds ttl := by
  have above : ¬ seconds ttl ≤ 0 := by unfold seconds; omega
  have below : ¬ maxAgentStatusTTL < seconds ttl := by unfold maxAgentStatusTTL seconds; omega
  rw [normalizeAgentStatusTTL, if_neg above, if_neg below]

/-- What is pruned of an agent's reports is outdated, whatever the pruner's TTL. -/
theorem Reported.outdated (reported : Reported status)
    (pruned : outdated status now ttl = true) : Outdated status now := by
  simp only [Status.outdated, agentStatusTTL, reported.positive, ↓reduceIte,
    Int.not_lt.mpr reported.limited,
    normalizeAgentStatusTTL_of_seconds reported.positive reported.limited,
    Bool.and_eq_true] at pruned
  exact pruned

theorem Reported.sanitize (reported : Reported status) : status.sanitize = status := by
  have ttl : sanitizeAgentStatusTTLSeconds status.ttlSeconds = status.ttlSeconds := by
    simp [sanitizeAgentStatusTTLSeconds, Int.not_le.mpr reported.positive,
      Int.not_lt.mpr reported.limited]
  have backends : sanitizeBackendStatuses status.backends = status.backends :=
    List.take_of_length_le reported.backends
  simp [AgentStatus.sanitize, ttl, backends]

theorem normalizeAgentStatusTTL_bounds (ttl : Int) :
    0 < normalizeAgentStatusTTL ttl ∧ normalizeAgentStatusTTL ttl ≤ maxAgentStatusTTL := by
  unfold normalizeAgentStatusTTL
  split
  · decide
  · split
    · decide
    · omega

theorem durationSeconds_bounds (ttl : Int) :
    0 < durationSeconds ttl ∧ durationSeconds ttl ≤ 3600 := by
  obtain ⟨positive, limited⟩ := normalizeAgentStatusTTL_bounds ttl
  unfold maxAgentStatusTTL at limited
  unfold durationSeconds
  dsimp only
  split <;> unfold seconds at * <;> omega

theorem reported_report (updater : Updater) (vip : VirtualIP)
    (healthyBackends : List BackendSpec) (conditions : List Condition) (now : Time) :
    Reported (updater.report vip healthyBackends conditions now) where
  positive := (durationSeconds_bounds _).1
  limited := (durationSeconds_bounds _).2
  backends := by simp [Updater.report, buildBackendStatuses]

/-- The reports that a refresh keeps: those of the generation that are not outdated. -/
theorem mem_splitAgentStatuses :
    status ∈ (splitAgentStatuses statuses generation now ttl).1 ++
        (splitAgentStatuses statuses generation now ttl).2 ↔
      status ∈ statuses ∧ status.observedGeneration = generation ∧
        outdated status now ttl = false := by
  simp only [splitAgentStatuses, List.mem_append, List.mem_filter, decide_eq_true_eq,
    Bool.not_eq_eq_eq_not, Bool.not_true, Bool.and_eq_true]
  cases expires : agentStatusExpired status now
      (agentStatusTTL status (normalizeAgentStatusTTL ttl)) with
  | true => simp [and_assoc]
  | false =>
    have fresh : outdated status now ttl = false := by simp [outdated, expires]
    simp [fresh]

theorem subperm_splitAgentStatuses (statuses : List AgentStatus) (generation : Int) (now : Time)
    (ttl : Int) :
    ((splitAgentStatuses statuses generation now ttl).1 ++
      (splitAgentStatuses statuses generation now ttl).2).Subperm statuses := by
  unfold splitAgentStatuses
  dsimp only
  set expires := fun status : AgentStatus =>
    agentStatusExpired status now (agentStatusTTL status (normalizeAgentStatusTTL ttl))
  set observed := statuses.filter (·.observedGeneration = generation)
  have parts : (observed.filter (!expires ·) ++
      observed.filter (fun status => !!expires status)).Perm observed :=
    List.filter_append_perm _ _
  have fewer : (observed.filter fun status => expires status && !outdated status now ttl).Sublist
      (observed.filter fun status => !!expires status) :=
    List.monotone_filter_right _ fun status => by cases expires status <;> simp
  exact (((List.Sublist.refl _).append fewer).subperm.trans parts.subperm).trans
    List.filter_sublist.subperm

end Reports

section Roster

variable {agents : List String} {statuses : List AgentStatus} {next : AgentStatus}
  {status : AgentStatus} {now : Time} {ttl generation : Int}

/-- The reports are of different agents of the fleet. -/
def Roster (agents : List String) (statuses : List AgentStatus) : Prop :=
  (ids statuses).Subperm agents

theorem Roster.nodup (roster : Roster agents statuses) (distinct : agents.Nodup) :
    (ids statuses).Nodup := by
  obtain ⟨part, perm, sublist⟩ := roster
  exact perm.nodup_iff.mp (distinct.sublist sublist)

theorem Roster.split (roster : Roster agents statuses) :
    Roster agents ((splitAgentStatuses statuses generation now ttl).1 ++
      (splitAgentStatuses statuses generation now ttl).2) := by
  obtain ⟨part, perm, sublist⟩ := subperm_splitAgentStatuses statuses generation now ttl
  exact List.Subperm.trans ⟨ids part, perm.map _, sublist.map _⟩ roster

theorem sanitizeAgentStatuses_of_roster (roster : Roster agents statuses)
    (bounded : agents.length ≤ maxVirtualIPStatusAgentStatuses) :
    sanitizeAgentStatuses statuses = statuses.map AgentStatus.sanitize := by
  have fits : (statuses.map AgentStatus.sanitize).length ≤ maxVirtualIPStatusAgentStatuses := by
    have := roster.length_le
    simp only [ids, List.length_map] at this ⊢
    exact this.trans bounded
  rw [sanitizeAgentStatuses, capAgentStatuses, if_pos fits]

theorem ids_map_sanitize : ids (statuses.map AgentStatus.sanitize) = ids statuses := by
  simp only [ids, List.map_map]
  rfl

theorem Roster.sanitize (roster : Roster agents statuses)
    (bounded : agents.length ≤ maxVirtualIPStatusAgentStatuses) :
    Roster agents (sanitizeAgentStatuses statuses) := by
  rw [sanitizeAgentStatuses_of_roster roster bounded, Roster, ids_map_sanitize]
  exact roster

theorem Reported.mem_sanitize (reported : Reported status) (mem : status ∈ statuses)
    (roster : Roster agents statuses) (bounded : agents.length ≤ maxVirtualIPStatusAgentStatuses) :
    status ∈ sanitizeAgentStatuses statuses := by
  rw [sanitizeAgentStatuses_of_roster roster bounded]
  exact List.mem_map.mpr ⟨status, mem, reported.sanitize⟩

/-- The reports that an agent's new report leaves, with the new one in place of the old. -/
def kept (statuses : List AgentStatus) (next : AgentStatus) (generation : Int) :
    List AgentStatus :=
  statuses.filterMap fun status =>
    if status.agentID = next.agentID then some next
    else if status.observedGeneration = generation then some status
    else none

theorem ids_kept_sublist : (ids (kept statuses next generation)).Sublist (ids statuses) := by
  induction statuses with
  | nil => exact .slnil
  | cons first rest ih =>
    by_cases own : first.agentID = next.agentID
    · simpa [kept, ids, own] using ih
    · by_cases present : first.observedGeneration = generation
      · simpa [kept, ids, own, present] using ih
      · simpa [kept, ids, own, present] using ih.cons first.agentID

theorem mem_upsertAgentStatus : next ∈ upsertAgentStatus statuses next generation := by
  unfold upsertAgentStatus
  dsimp only
  split
  · rename_i replaced
    obtain ⟨old, mem, own⟩ := List.any_eq_true.mp replaced
    exact List.mem_filterMap.mpr ⟨old, mem, if_pos (of_decide_eq_true own)⟩
  · simp

theorem mem_upsertAgentStatus_of_ne (mem : status ∈ statuses)
    (present : status.observedGeneration = generation) (other : next.agentID ≠ status.agentID) :
    status ∈ upsertAgentStatus statuses next generation := by
  have stays : status ∈ kept statuses next generation :=
    List.mem_filterMap.mpr ⟨status, mem, by simp [other.symm, present]⟩
  unfold upsertAgentStatus
  dsimp only
  split
  · exact stays
  · exact List.mem_append_left _ stays

theorem Roster.upsert (roster : Roster agents statuses) (distinct : agents.Nodup)
    (member : next.agentID ∈ agents) :
    Roster agents (upsertAgentStatus statuses next generation) := by
  have stays : Roster agents (kept statuses next generation) :=
    ids_kept_sublist.subperm.trans roster
  unfold upsertAgentStatus
  dsimp only
  split
  · exact stays
  · rename_i absent
    have fresh : next.agentID ∉ ids (kept statuses next generation) := by
      intro mem
      obtain ⟨old, present, own⟩ := List.mem_map.mp (ids_kept_sublist.subset mem)
      exact absent (List.any_eq_true.mpr ⟨old, present, decide_eq_true own⟩)
    have nodup : (ids (kept statuses next generation ++ [next])).Nodup := by
      rw [ids, List.map_append, List.nodup_append]
      refine ⟨stays.nodup distinct, List.nodup_singleton _, ?_⟩
      rintro id mem _ last rfl
      rw [List.map_singleton, List.mem_singleton] at last
      exact fresh (last ▸ mem)
    apply nodup.subperm
    intro id mem
    rw [ids, List.map_append, List.mem_append, List.map_singleton, List.mem_singleton] at mem
    rcases mem with mem | rfl
    · exact stays.subset mem
    · exact member

end Roster

end ArcaLB.Status
