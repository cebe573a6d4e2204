import ArcaLB.Status.Stability
import Mathlib.Data.List.Perm.Basic

/-!
# The order of the reports

The aggregate is computed by loops with early returns that keep what they see first.  Reasons
and messages may come from whichever report is first, but the healthy backends and the statuses
of the three conditions are functions of which reports there are: each is decided by whether some
report says this or that.
-/

namespace ArcaLB.Status

open Agent (ConditionStatus)

/-- The status of the condition of a type, `none` where there is no such condition. -/
def statusOf (conditions : List Condition) (type : ConditionType) : Option ConditionStatus :=
  (findStatusCondition conditions type).map (·.status)

section Decided

variable (vip : VirtualIP) (fresh expired : List AgentStatus)

/-- Some report leaves the condition open. -/
def anyOpen (type : ConditionType) (state : String) (statuses : List AgentStatus) : Bool :=
  statuses.any fun status => (openReport type state status).isSome

theorem findSome_openReport (type : ConditionType) (state : String) :
    (fresh.findSome? (openReport type state)).isSome = anyOpen type state fresh :=
  List.isSome_findSome? ..

theorem status_aggregateServingCondition :
    (aggregateServingCondition vip fresh expired).status =
      if fresh.any (reportsTrue .serving) then .true
      else if fresh.isEmpty || anyOpen .serving "serving state" fresh || !expired.isEmpty then
        .unknown
      else .false := by
  rw [← findSome_openReport]
  unfold aggregateServingCondition
  by_cases none : fresh.isEmpty = true
  · obtain rfl := List.isEmpty_iff.mp none
    cases expired <;> rfl
  · rw [if_neg none, Bool.eq_false_iff.mpr none]
    split
    · rfl
    · cases fresh.findSome? (openReport .serving "serving state") with
      | some text => rfl
      | none =>
        cases expired with
        | cons first rest => rfl
        | nil =>
          simp only [List.isEmpty_nil, Bool.not_true, Bool.false_eq_true, if_false,
            Option.isSome_none, Bool.or_self]
          split <;> rfl

theorem status_aggregateRouteAdvertisedCondition :
    (aggregateRouteAdvertisedCondition vip fresh expired).status =
      if fresh.isEmpty || anyOpen .routeAdvertised "route advertisement state" fresh then .unknown
      else if fresh.any (reportsTrue .routeAdvertised) then .true
      else if !expired.isEmpty then .unknown
      else .false := by
  rw [← findSome_openReport]
  unfold aggregateRouteAdvertisedCondition
  by_cases none : fresh.isEmpty = true
  · obtain rfl := List.isEmpty_iff.mp none
    cases expired <;> rfl
  · rw [if_neg none, Bool.eq_false_iff.mpr none]
    cases fresh.findSome? (openReport .routeAdvertised "route advertisement state") with
    | some text => rfl
    | none =>
      have advertised : (0 < fresh.countP (reportsTrue .routeAdvertised)) ↔
          fresh.any (reportsTrue .routeAdvertised) = true := by
        rw [List.countP_pos_iff, List.any_eq_true]
      simp only [advertised, Option.isSome_none, Bool.or_self, Bool.false_eq_true, if_false]
      (repeat' split) <;> rfl

/-- Where agents report no data plane condition as unknown. -/
theorem status_aggregateDataPlaneReadyCondition
    (binary : ∀ report ∈ fresh, ∀ condition ∈ findStatusCondition report.conditions .dataPlaneReady,
      condition.status ≠ .unknown) :
    (aggregateDataPlaneReadyCondition vip fresh expired).map (·.status) =
      if fresh.any fun status => (failedDataPlane status).isSome then some .false
      else if fresh.any fun status => (missingDataPlane status).isSome then some .unknown
      else if !fresh.isEmpty then some .true
      else if expired.any fun status =>
          (findStatusCondition status.conditions .dataPlaneReady).isSome then some .unknown
      else none := by
  rw [← List.isSome_findSome?, ← List.isSome_findSome?]
  unfold aggregateDataPlaneReadyCondition
  cases failed : fresh.findSome? failedDataPlane with
  | some dataPlane =>
    obtain ⟨report, member, fails⟩ := List.exists_of_findSome?_eq_some failed
    obtain ⟨found, untrue⟩ := Option.filter_eq_some_iff.mp fails
    have known := binary report member dataPlane found
    have status : dataPlane.status = .false := by
      cases value : dataPlane.status with
      | «true» => simp [value] at untrue
      | «false» => rfl
      | unknown => exact absurd value known
    simp [aggregateCondition, status]
  | none =>
    cases fresh.findSome? missingDataPlane with
    | some text => rfl
    | none =>
      simp only [Option.isSome_none, Bool.false_eq_true, if_false]
      (repeat' split) <;> rfl

end Decided

/-! ## Permutations -/

section Permutations

variable {first second : List AgentStatus}

/-- Reports may be added in any order. -/
instance (backends : List BackendSpec) : RightCommutative (addReport backends) where
  right_comm healthy earlier later := by
    unfold addReport
    cases healthyBackendsFromBitmap backends earlier.healthyBackendBitmap <;>
      cases healthyBackendsFromBitmap backends later.healthyBackendBitmap <;>
      dsimp only
    · refine Prod.ext ?_ (max_right_comm ..)
      (repeat' split) <;> ext <;> simp only [Finset.mem_union] <;> tauto
    · refine Prod.ext ?_ rfl
      split <;> ext <;> simp only [Finset.mem_union] <;> tauto
    · refine Prod.ext ?_ rfl
      split <;> ext <;> simp only [Finset.mem_union] <;> tauto
    · rw [Finset.union_right_comm]

theorem aggregateHealthyBackends_perm (backends : List BackendSpec) (perm : first.Perm second) :
    aggregateHealthyBackends backends first = aggregateHealthyBackends backends second := by
  rw [aggregateHealthyBackends, perm.foldl_eq, aggregateHealthyBackends]

theorem splitAgentStatuses_perm (perm : first.Perm second) (generation : Int) (now : Time)
    (ttl : Int) :
    (splitAgentStatuses first generation now ttl).1.Perm
        (splitAgentStatuses second generation now ttl).1 ∧
      (splitAgentStatuses first generation now ttl).2.Perm
        (splitAgentStatuses second generation now ttl).2 :=
  ⟨(perm.filter _).filter _, (perm.filter _).filter _⟩

variable (vip : VirtualIP) {fresh expired otherFresh otherExpired : List AgentStatus}

/-- The aggregate conditions of permuted reports have the same statuses. -/
theorem statuses_perm (freshPerm : fresh.Perm otherFresh) (expiredPerm : expired.Perm otherExpired)
    (binary : ∀ report ∈ fresh, ∀ condition ∈ findStatusCondition report.conditions .dataPlaneReady,
      condition.status ≠ .unknown) :
    (aggregateServingCondition vip fresh expired).status =
        (aggregateServingCondition vip otherFresh otherExpired).status ∧
      (aggregateRouteAdvertisedCondition vip fresh expired).status =
        (aggregateRouteAdvertisedCondition vip otherFresh otherExpired).status ∧
      (aggregateDataPlaneReadyCondition vip fresh expired).map (·.status) =
        (aggregateDataPlaneReadyCondition vip otherFresh otherExpired).map (·.status) := by
  have otherBinary := fun report member => binary report (freshPerm.mem_iff.mpr member)
  rw [status_aggregateServingCondition, status_aggregateServingCondition,
    status_aggregateRouteAdvertisedCondition, status_aggregateRouteAdvertisedCondition,
    status_aggregateDataPlaneReadyCondition _ _ _ binary,
    status_aggregateDataPlaneReadyCondition _ _ _ otherBinary]
  refine ⟨?_, ?_, ?_⟩
  · rw [anyOpen, anyOpen, freshPerm.any_eq, freshPerm.any_eq, freshPerm.isEmpty_eq,
      expiredPerm.isEmpty_eq]
  · rw [anyOpen, anyOpen, freshPerm.any_eq, freshPerm.any_eq, freshPerm.isEmpty_eq,
      expiredPerm.isEmpty_eq]
  · rw [freshPerm.any_eq, freshPerm.any_eq, freshPerm.isEmpty_eq, expiredPerm.any_eq]

/-- What the status shows of an aggregate condition is what the aggregate has computed. -/
theorem statusOf_applyAggregateStatus (status : VirtualIPStatus) (generation : Int) (now : Time)
    {type : ConditionType} (aggregate : isAggregate type) :
    statusOf (applyAggregateStatus vip status generation now fresh expired).conditions type =
      statusOf (aggregateConditions vip fresh expired) type := by
  have foreign : (preserveNonAgentConditions status.conditions).find? (·.type = type) = none := by
    rw [List.find?_eq_none]
    intro condition kept same
    exact not_aggregate_of_mem_preserve kept (of_decide_eq_true same ▸ aggregate)
  rw [conditions_applyAggregateStatus, statusOf, findStatusCondition, List.find?_append, foreign,
    Option.none_or, List.find?_map, Option.map_map]
  rfl

theorem statusOf_refreshAggregateStatus (status : VirtualIPStatus) (generation : Int) (now : Time)
    (ttl : Int) {type : ConditionType} (aggregate : isAggregate type) :
    statusOf (refreshAggregateStatus vip status generation now ttl).conditions type =
      statusOf (aggregateConditions vip
        (splitAgentStatuses status.agentStatuses generation now ttl).1
        (splitAgentStatuses status.agentStatuses generation now ttl).2) type :=
  statusOf_applyAggregateStatus vip _ generation now aggregate

theorem statusOf_aggregateConditions :
    statusOf (aggregateConditions vip fresh expired) .serving =
        some (aggregateServingCondition vip fresh expired).status ∧
      statusOf (aggregateConditions vip fresh expired) .routeAdvertised =
        some (aggregateRouteAdvertisedCondition vip fresh expired).status ∧
      statusOf (aggregateConditions vip fresh expired) .dataPlaneReady =
        (aggregateDataPlaneReadyCondition vip fresh expired).map (·.status) := by
  have serving := type_aggregateServingCondition vip fresh expired
  have route := type_aggregateRouteAdvertisedCondition vip fresh expired
  have dataPlane := type_aggregateDataPlaneReadyCondition vip fresh expired
  unfold aggregateConditions statusOf findStatusCondition
  cases ready : aggregateDataPlaneReadyCondition vip fresh expired with
  | none => simp [serving, route]
  | some condition => simp [serving, route, dataPlane condition ready]

end Permutations

/-- **Order does not matter.** Reports in another order give the same healthy count, the same
entries of backends and the same statuses of the aggregate conditions, if agents report the data
plane condition as true or false. -/
theorem aggregate_independent_of_order (vip : VirtualIP) (status : VirtualIPStatus)
    (generation : Int) (now : Time) (ttl : Int) {reports permuted : List AgentStatus}
    (perm : reports.Perm permuted) (binary : ∀ report ∈ reports,
      ∀ condition ∈ findStatusCondition report.conditions .dataPlaneReady,
        condition.status ≠ .unknown) :
    let first :=
      refreshAggregateStatus vip { status with agentStatuses := reports } generation now ttl
    let second :=
      refreshAggregateStatus vip { status with agentStatuses := permuted } generation now ttl
    first.healthyBackends = second.healthyBackends ∧
      first.backends = second.backends ∧
      statusOf first.conditions .serving = statusOf second.conditions .serving ∧
      statusOf first.conditions .routeAdvertised = statusOf second.conditions .routeAdvertised ∧
      statusOf first.conditions .dataPlaneReady = statusOf second.conditions .dataPlaneReady := by
  obtain ⟨freshPerm, expiredPerm⟩ := splitAgentStatuses_perm perm generation now ttl
  have healthy := aggregateHealthyBackends_perm vip.spec.backends freshPerm
  obtain ⟨serving, route, dataPlane⟩ := statuses_perm vip freshPerm expiredPerm
    fun report member => binary report (List.mem_of_mem_filter (List.mem_of_mem_filter member))
  refine ⟨congrArg Prod.snd healthy,
    congrArg (buildBackendStatuses vip.spec.backends) (congrArg Prod.fst healthy),
    ?_, ?_, ?_⟩
  · have aggregate : isAggregate .serving := .inl rfl
    simp only [statusOf_refreshAggregateStatus _ _ _ _ _ aggregate, statusOf_aggregateConditions,
      serving]
  · have aggregate : isAggregate .routeAdvertised := .inr (.inl rfl)
    simp only [statusOf_refreshAggregateStatus _ _ _ _ _ aggregate, statusOf_aggregateConditions,
      route]
  · have aggregate : isAggregate .dataPlaneReady := .inr (.inr rfl)
    simp only [statusOf_refreshAggregateStatus _ _ _ _ _ aggregate, statusOf_aggregateConditions,
      dataPlane]

/-- A report on one condition only. -/
def conditionReport (agentID : String) (condition : Condition) : AgentStatus :=
  ⟨agentID, 1, 0, 0, [], "", [condition], some 0, 60⟩

theorem aggregate_independent_of_order_swap :
    let ready := conditionReport "node-a" ⟨.dataPlaneReady, .true, 1, none, "Applied", ""⟩
    let failed := conditionReport "node-b" ⟨.dataPlaneReady, .false, 1, none, "Failed", ""⟩
    let refresh := fun reports => refreshAggregateStatus (VirtualIP.web .web "1" "192.0.2.1")
      { agentStatuses := reports } 1 0 0
    statusOf (refresh [ready, failed]).conditions .dataPlaneReady = some .false ∧
      statusOf (refresh [ready, failed]).conditions .dataPlaneReady =
        statusOf (refresh [failed, ready]).conditions .dataPlaneReady := by
  intro ready failed refresh
  have same := aggregate_independent_of_order (VirtualIP.web .web "1" "192.0.2.1") {} 1 0 0
    (List.Perm.swap failed ready []) (by decide)
  exact ⟨by decide, same.2.2.2.2⟩

end ArcaLB.Status
