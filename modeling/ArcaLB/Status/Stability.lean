import ArcaLB.Status.Updater

/-!
# Recomputing the aggregate status

The operator drops the three aggregate conditions and sets them anew, so each of them gets
the time of the recomputation as its transition time.  A recomputation from the same reports
therefore reproduces the status only if it reads the same time; and the Ready condition has
to be there before the first one, since it is put behind the aggregate conditions when it is
new, and stays before them afterwards.
-/

namespace ArcaLB.Status

variable {now later : Time} {new : Condition} {conditions front back : List Condition}

/-- A condition that was just added. -/
def Condition.stamped (condition : Condition) (now : Time) : Condition :=
  { condition with lastTransitionTime := condition.lastTransitionTime.or (some now) }

/-- There is a condition of the type. -/
def Has (conditions : List Condition) (type : ConditionType) : Prop :=
  ∃ condition ∈ conditions, condition.type = type

instance (conditions : List Condition) (type : ConditionType) : Decidable (Has conditions type) :=
  inferInstanceAs (Decidable (∃ condition ∈ conditions, condition.type = type))

variable {type : ConditionType}

@[simp] theorem has_nil : ¬ Has [] type := by
  simp [Has]

@[simp] theorem has_cons :
    Has (new :: conditions) type ↔ new.type = type ∨ Has conditions type := by
  simp [Has]

@[simp] theorem has_append : Has (front ++ back) type ↔ Has front type ∨ Has back type := by
  simp only [Has, List.mem_append, or_and_right, exists_or]

theorem setStatusCondition_of_absent (absent : ¬ Has conditions new.type) :
    setStatusCondition now new conditions = conditions ++ [new.stamped now] := by
  induction conditions with
  | nil => rfl
  | cons first rest ih =>
    rw [has_cons, not_or] at absent
    rw [setStatusCondition, if_neg absent.1, ih absent.2]
    rfl

theorem setStatusCondition_append (present : Has front new.type) :
    setStatusCondition now new (front ++ back) = setStatusCondition now new front ++ back := by
  induction front with
  | nil => exact absurd present has_nil
  | cons first rest ih =>
    by_cases same : first.type = new.type
    · simp [setStatusCondition, same]
    · have remaining := (has_cons.mp present).resolve_left same
      simp [setStatusCondition, same, ih remaining]

theorem setStatusCondition_append_of_absent (absent : ¬ Has front new.type) :
    setStatusCondition now new (front ++ back) = front ++ setStatusCondition now new back := by
  induction front with
  | nil => rfl
  | cons first rest ih =>
    rw [has_cons, not_or] at absent
    rw [List.cons_append, setStatusCondition, if_neg absent.1, ih absent.2, List.cons_append]

theorem has_setStatusCondition :
    Has (setStatusCondition now new conditions) type ↔ Has conditions type ∨ type = new.type := by
  induction conditions with
  | nil => simp [setStatusCondition, eq_comm]
  | cons first rest ih =>
    by_cases same : first.type = new.type
    · have kept : (first.set new now).type = new.type := rfl
      rw [setStatusCondition, if_pos same, has_cons, has_cons, kept, same, or_right_comm,
        eq_comm, or_self]
    · rw [setStatusCondition, if_neg same, has_cons, has_cons, ih, or_assoc]

/-- Setting a condition a second time changes nothing. -/
theorem setStatusCondition_again (present : Has conditions new.type) :
    setStatusCondition later new (setStatusCondition now new conditions) =
      setStatusCondition now new conditions := by
  induction conditions with
  | nil => exact absurd present has_nil
  | cons first rest ih =>
    by_cases same : first.type = new.type
    · simp [setStatusCondition, same, Condition.set]
    · have remaining := (has_cons.mp present).resolve_left same
      simp [setStatusCondition, same, ih remaining]

/-- The types that the aggregate sets. -/
def isAggregate (type : ConditionType) : Prop :=
  type = .serving ∨ type = .routeAdvertised ∨ type = .dataPlaneReady

theorem preserveNonAgentConditions_append :
    preserveNonAgentConditions (front ++ back) =
      preserveNonAgentConditions front ++ preserveNonAgentConditions back :=
  List.filter_append _ _

theorem preserveNonAgentConditions_eq_self
    (foreign : ∀ condition ∈ conditions, ¬ isAggregate condition.type) :
    preserveNonAgentConditions conditions = conditions := by
  apply List.filter_eq_self.mpr
  intro condition mem
  have := foreign condition mem
  simpa [isAggregate] using this

theorem preserveNonAgentConditions_eq_nil
    (own : ∀ condition ∈ conditions, isAggregate condition.type) :
    preserveNonAgentConditions conditions = [] := by
  apply List.filter_eq_nil_iff.mpr
  intro condition mem
  have := own condition mem
  simpa [isAggregate, imp_iff_not_or] using this

variable {condition : Condition}

theorem not_aggregate_of_mem_preserve (mem : condition ∈ preserveNonAgentConditions conditions) :
    ¬ isAggregate condition.type := by
  have kept := (List.mem_filter.mp mem).2
  simpa [isAggregate] using kept

theorem has_preserve (foreign : ¬ isAggregate type) :
    Has (preserveNonAgentConditions conditions) type ↔ Has conditions type := by
  constructor
  · intro ⟨condition, mem, named⟩
    exact ⟨condition, List.mem_of_mem_filter mem, named⟩
  · intro ⟨condition, mem, named⟩
    refine ⟨condition, List.mem_filter.mpr ⟨mem, ?_⟩, named⟩
    rw [← named] at foreign
    simpa [isAggregate] using foreign

section Aggregate

variable (vip : VirtualIP) (fresh expired : List AgentStatus)

theorem type_aggregateServingCondition :
    (aggregateServingCondition vip fresh expired).type = .serving := by
  unfold aggregateServingCondition
  repeat' split
  all_goals rfl

theorem type_aggregateRouteAdvertisedCondition :
    (aggregateRouteAdvertisedCondition vip fresh expired).type = .routeAdvertised := by
  unfold aggregateRouteAdvertisedCondition
  dsimp only
  repeat' split
  all_goals rfl

theorem type_aggregateDataPlaneReadyCondition :
    ∀ condition ∈ aggregateDataPlaneReadyCondition vip fresh expired,
      condition.type = .dataPlaneReady := by
  intro condition present
  unfold aggregateDataPlaneReadyCondition at present
  repeat' split at present
  all_goals cases present
  all_goals rfl

theorem isAggregate_of_mem
    (mem : condition ∈ aggregateConditions vip fresh expired) : isAggregate condition.type := by
  simp only [aggregateConditions, List.mem_append, List.mem_cons, List.not_mem_nil, or_false,
    Option.mem_toList] at mem
  rcases mem with (rfl | rfl) | dataPlane
  · exact .inl (type_aggregateServingCondition vip fresh expired)
  · exact .inr (.inl (type_aggregateRouteAdvertisedCondition vip fresh expired))
  · exact .inr (.inr (type_aggregateDataPlaneReadyCondition vip fresh expired _ dataPlane))

theorem pairwise_aggregateConditions :
    (aggregateConditions vip fresh expired).Pairwise fun first second =>
      first.type ≠ second.type := by
  have serving := type_aggregateServingCondition vip fresh expired
  have route := type_aggregateRouteAdvertisedCondition vip fresh expired
  have dataPlane := type_aggregateDataPlaneReadyCondition vip fresh expired
  unfold aggregateConditions
  cases ready : aggregateDataPlaneReadyCondition vip fresh expired with
  | none => simp [serving, route]
  | some condition => simp [serving, route, dataPlane condition ready]

/-- New conditions of distinct types are added in order, with the present time. -/
theorem foldl_setStatusCondition {news base : List Condition}
    (distinct : news.Pairwise fun first second => first.type ≠ second.type)
    (absent : ∀ condition ∈ news, ¬ Has base condition.type) :
    news.foldl (fun conditions condition => setStatusCondition now condition conditions) base =
      base ++ news.map (·.stamped now) := by
  induction news generalizing base with
  | nil => simp
  | cons first rest ih =>
    obtain ⟨others, distinct⟩ := List.pairwise_cons.mp distinct
    rw [List.foldl_cons, setStatusCondition_of_absent (absent first (by simp)), ih distinct]
    · simp
    · intro condition mem
      rw [has_append, has_cons, not_or, not_or]
      exact ⟨absent condition (List.mem_cons_of_mem _ mem), others condition mem, has_nil⟩

theorem conditions_applyAggregateStatus (status : VirtualIPStatus) (generation : Int) (now : Time) :
    (applyAggregateStatus vip status generation now fresh expired).conditions =
      preserveNonAgentConditions status.conditions ++
        (aggregateConditions vip fresh expired).map (·.stamped now) := by
  apply foldl_setStatusCondition (pairwise_aggregateConditions vip fresh expired)
  intro condition mem ⟨kept, present, same⟩
  exact not_aggregate_of_mem_preserve present
    (same ▸ isAggregate_of_mem vip fresh expired mem)

end Aggregate

section Recomputation

variable (vip : VirtualIP) (fresh expired : List AgentStatus) {ready : Condition}

/-- The conditions of one recomputation, from those that the operator keeps. -/
def recomputed (ready : Condition) (now : Time) (kept : List Condition) : List Condition :=
  setStatusCondition now ready
    (kept ++ (aggregateConditions vip fresh expired).map (·.stamped now))

theorem aggregate_of_mem_stamped
    (mem : condition ∈ (aggregateConditions vip fresh expired).map (·.stamped now)) :
    isAggregate condition.type := by
  obtain ⟨original, present, rfl⟩ := List.mem_map.mp mem
  have own : isAggregate original.type := isAggregate_of_mem vip fresh expired present
  exact own

variable {kept : List Condition}

/-- The operator keeps the Ready condition in its place, if it is there. -/
theorem recomputed_of_has (present : Has kept ready.type) :
    recomputed vip fresh expired ready now kept =
      setStatusCondition now ready kept ++
        (aggregateConditions vip fresh expired).map (·.stamped now) :=
  setStatusCondition_append present

/-- A new Ready condition comes behind the aggregate conditions. -/
theorem recomputed_of_absent (foreign : ¬ isAggregate ready.type) (absent : ¬ Has kept ready.type) :
    recomputed vip fresh expired ready now kept =
      kept ++ ((aggregateConditions vip fresh expired).map (·.stamped now) ++
        [ready.stamped now]) := by
  rw [recomputed, setStatusCondition_of_absent, List.append_assoc]
  rw [has_append, not_or]
  refine ⟨absent, fun ⟨condition, mem, same⟩ => foreign ?_⟩
  exact same ▸ aggregate_of_mem_stamped vip fresh expired mem

theorem lastTransitionTime_aggregateServingCondition :
    (aggregateServingCondition vip fresh expired).lastTransitionTime = none := by
  unfold aggregateServingCondition
  repeat' split
  all_goals rfl

/-- **When a recomputation reproduces the conditions.** -/
theorem recomputed_again_iff (now later : Time) (foreign : ¬ isAggregate ready.type)
    (own : ∀ condition ∈ kept, ¬ isAggregate condition.type) :
    recomputed vip fresh expired ready later
        (preserveNonAgentConditions (recomputed vip fresh expired ready now kept)) =
      recomputed vip fresh expired ready now kept ↔ later = now ∧ Has kept ready.type := by
  have dropped : preserveNonAgentConditions
      ((aggregateConditions vip fresh expired).map (·.stamped now)) = [] :=
    preserveNonAgentConditions_eq_nil fun _ mem => aggregate_of_mem_stamped vip fresh expired mem
  by_cases present : Has kept ready.type
  · have keeps : preserveNonAgentConditions (setStatusCondition now ready kept) =
        setStatusCondition now ready kept := by
      apply preserveNonAgentConditions_eq_self
      intro condition mem
      rcases has_setStatusCondition.mp ⟨condition, mem, rfl⟩ with ⟨old, mem, same⟩ | same
      · exact same ▸ own old mem
      · exact same ▸ foreign
    have still : Has (setStatusCondition now ready kept) ready.type :=
      has_setStatusCondition.mpr (.inr rfl)
    rw [recomputed_of_has vip fresh expired present, preserveNonAgentConditions_append, dropped,
      keeps, List.append_nil, recomputed_of_has vip fresh expired still,
      setStatusCondition_again present, List.append_right_inj]
    constructor
    · intro same
      refine ⟨?_, present⟩
      have heads := congrArg List.head? same
      simpa [aggregateConditions, Condition.stamped,
        lastTransitionTime_aggregateServingCondition] using heads
    · intro ⟨same, _⟩
      rw [same]
  · have keeps : preserveNonAgentConditions kept = kept :=
      preserveNonAgentConditions_eq_self own
    have added : preserveNonAgentConditions [ready.stamped now] = [ready.stamped now] :=
      preserveNonAgentConditions_eq_self fun condition mem => by
        rw [List.mem_singleton.mp mem]
        exact foreign
    have still : Has (kept ++ [ready.stamped now]) ready.type := by simp [Condition.stamped]
    rw [recomputed_of_absent vip fresh expired foreign present,
      preserveNonAgentConditions_append, preserveNonAgentConditions_append, dropped, keeps, added,
      List.nil_append, recomputed_of_has vip fresh expired still,
      setStatusCondition_append_of_absent present, List.append_assoc, List.append_right_inj]
    constructor
    · intro same
      -- Ready stands where the first aggregate condition stood
      have heads := congrArg (fun conditions => conditions.head?.map (·.type)) same
      have types : ready.type = .serving := by
        simpa [setStatusCondition, Condition.stamped, Condition.set, aggregateConditions,
          type_aggregateServingCondition] using heads
      exact absurd (.inl types) foreign
    · intro ⟨_, has⟩
      exact absurd has present

end Recomputation

/-- The aggregate of the reports, with the given conditions. -/
def settled (vip : VirtualIP) (reports : List AgentStatus × List AgentStatus)
    (conditions : List Condition) : VirtualIPStatus :=
  let healthy := aggregateHealthyBackends vip.spec.backends reports.1
  { observedGeneration := vip.generation
    healthyBackends := healthy.2
    totalBackends := vip.spec.backends.length
    backends := sanitizeBackendStatuses (buildBackendStatuses vip.spec.backends healthy.1)
    agentStatuses := sanitizeAgentStatuses (sanitizeAgentStatuses (reports.1 ++ reports.2))
    conditions }

/-- What the operator computes for an object whose generation was observed: everything but
the conditions depends on the reports only. -/
theorem updateStatus_of_observed (operator : Operator) {vip : VirtualIP}
    {status : VirtualIPStatus} (observed : status.observedGeneration = vip.generation)
    {now : Time} {reports : List AgentStatus × List AgentStatus}
    (split : splitAgentStatuses status.agentStatuses vip.generation now
      operator.effectiveAgentStatusTTL = reports) :
    operator.updateStatus now ⟨vip, status⟩ = settled vip reports
      (recomputed vip reports.1 reports.2
        (operator.readyCondition vip vip.spec.backends.length) now
        (preserveNonAgentConditions status.conditions)) := by
  subst split
  simp only [Operator.updateStatus, Operator.refreshed, observed, ↓reduceIte,
    sanitizeVirtualIPStatus, refreshAggregateStatus]
  rw [conditions_applyAggregateStatus]
  rfl

theorem type_readyCondition (operator : Operator) (vip : VirtualIP) (totalBackends : Int) :
    (operator.readyCondition vip totalBackends).type = .ready := by
  unfold Operator.readyCondition
  repeat' split
  all_goals rfl

/-- **When a recomputation writes nothing.** For every object whose generation was observed,
and every two times at which the reports split in the same way: recomputing the status gives
it back exactly when both recomputations read the same time and the Ready condition was there
before the first one. -/
theorem recomputation_stable_iff (operator : Operator) (vip : VirtualIP) (status : VirtualIPStatus)
    (observed : status.observedGeneration = vip.generation) (earlier later : Time)
    (sameSplit : splitAgentStatuses (operator.updateStatus earlier ⟨vip, status⟩).agentStatuses
        vip.generation later operator.effectiveAgentStatusTTL =
      splitAgentStatuses status.agentStatuses vip.generation earlier
        operator.effectiveAgentStatusTTL) :
    operator.updateStatus later ⟨vip, operator.updateStatus earlier ⟨vip, status⟩⟩ =
      operator.updateStatus earlier ⟨vip, status⟩ ↔
    later = earlier ∧ ∃ condition ∈ status.conditions, condition.type = .ready := by
  generalize split : splitAgentStatuses status.agentStatuses vip.generation earlier
    operator.effectiveAgentStatusTTL = reports at sameSplit
  have first := updateStatus_of_observed operator observed split
  have again : (operator.updateStatus earlier ⟨vip, status⟩).observedGeneration =
      vip.generation := by
    rw [first]
    rfl
  have second := updateStatus_of_observed operator again sameSplit
  have foreign : ¬ isAggregate ConditionType.ready := by simp [isAggregate]
  have ready := type_readyCondition operator vip vip.spec.backends.length
  have kept : (operator.updateStatus earlier ⟨vip, status⟩).conditions =
      recomputed vip reports.1 reports.2
        (operator.readyCondition vip vip.spec.backends.length) earlier
        (preserveNonAgentConditions status.conditions) := by
    rw [first]
    rfl
  have own : ∀ condition ∈ preserveNonAgentConditions status.conditions,
      ¬ isAggregate condition.type := fun _ mem => not_aggregate_of_mem_preserve mem
  have stable := recomputed_again_iff vip reports.1 reports.2 earlier later
    (ready.symm ▸ foreign) own
  rw [ready, has_preserve foreign, ← kept] at stable
  have whole : operator.updateStatus earlier ⟨vip, status⟩ =
      settled vip reports (operator.updateStatus earlier ⟨vip, status⟩).conditions := by
    rw [kept]
    exact first
  rw [second]
  constructor
  · intro same
    exact stable.mp (congrArg VirtualIPStatus.conditions same)
  · intro same
    rw [stable.mpr same]
    exact whole.symm

/-- The operator's status of the web VIP, whose spec is valid. -/
def recomputeWeb (now : Time) (status : VirtualIPStatus) : VirtualIPStatus :=
  Operator.updateStatus ⟨0, fun _ => none⟩ now ⟨VirtualIP.web .web "1" "192.0.2.1", status⟩

/-- A status whose Ready and aggregate conditions were set at time zero, without reports. -/
def unreported : VirtualIPStatus := recomputeWeb 0 { observedGeneration := 1 }

/-- The status with the reports of two agents, one of which is serving. -/
def reported : VirtualIPStatus :=
  { unreported with
    agentStatuses :=
      [⟨"node-a", 1, 1, 1, [⟨"10.0.0.1", true, "healthy"⟩], "01",
          [⟨.serving, .true, 1, some 2, "Serving", ""⟩], some 4, 0⟩,
        ⟨"node-b", 1, 0, 1, [⟨"10.0.0.1", false, "unhealthy"⟩], "",
          [⟨.serving, .false, 1, some 3, "NoHealthyBackends", ""⟩], some 3, 0⟩] }

/-- Recomputed within one reading of the clock, the status stays as it is, and recomputed at a
later time it does not. -/
theorem recomputation_stable_at_once :
    recomputeWeb 5 (recomputeWeb 5 reported) = recomputeWeb 5 reported ∧
      recomputeWeb 6 (recomputeWeb 5 reported) ≠ recomputeWeb 5 reported := by
  have stable := recomputation_stable_iff ⟨0, fun _ => none⟩ (VirtualIP.web .web "1" "192.0.2.1")
    reported rfl 5
  refine ⟨(stable 5 (by decide +kernel)).mpr ⟨rfl, by decide +kernel⟩, fun same => ?_⟩
  exact absurd ((stable 6 (by decide +kernel)).mp same).1 (by decide)

/-- The status and transition time of the Serving condition. -/
def servingAt (status : VirtualIPStatus) : Option (Agent.ConditionStatus × Option Time) :=
  (findStatusCondition status.conditions .serving).map fun condition =>
    (condition.status, condition.lastTransitionTime)

/-- **Every recomputation writes.** With nothing changed but the time, the second result
differs from the first: the Serving condition has the same status and a new transition
time. -/
theorem recomputation_moves_transition_time :
    splitAgentStatuses (recomputeWeb 5 unreported).agentStatuses 1 6 defaultAgentStatusTTL =
      splitAgentStatuses unreported.agentStatuses 1 5 defaultAgentStatusTTL ∧
    recomputeWeb 6 (recomputeWeb 5 unreported) ≠ recomputeWeb 5 unreported ∧
    servingAt (recomputeWeb 5 unreported) = some (.unknown, some 5) ∧
    servingAt (recomputeWeb 6 (recomputeWeb 5 unreported)) = some (.unknown, some 6) := by
  decide +kernel

end ArcaLB.Status
