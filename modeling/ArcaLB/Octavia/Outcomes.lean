import ArcaLB.Library.Effect
import ArcaLB.Octavia.Mutations

/-!
# What the closures can do

`Mutation.outcome` is what a closure leaves where it does not stop, health check and health
monitor apart.  `Mutation.apply_eq_ok` says so, with the condition that the closure has checked
on the pool, and with what can become of the health check: it is built from a monitor, or it is
the one that was there, pointed at another port, or there is none.
-/

namespace ArcaLB.Octavia

variable {python : Python} {octavia : Database}

/-- A draft with another health check. -/
def Draft.recheck (draft : Draft) (check : Option HealthCheck) (hmID : Option String) : Draft where
  spec := { draft.spec with healthCheck := check }
  annotations := { draft.annotations with hmID := hmID }

/-- The draft with what a list of members stands for. -/
def Draft.relist (draft : Draft) (listing : Listing) : Draft where
  spec := { draft.spec with
    backends := some (backendsForAdminState (listing.annotate draft.annotations)
      listing.backends) }
  annotations := listing.annotate draft.annotations

/-- What `member_create` and `member_update` leave. -/
def Draft.setMember (draft : Draft) (m : Member) : Draft :=
  let annotations := setMemberDrainingState (rememberMemberMapping draft.annotations m) m
    (memberIsDraining m)
  let backends := backendsWithMemberState (m.address.getD "")
    (if memberIsDraining m then none else some (backendFromMember m)) draft.spec.backendList false
  { spec := { draft.spec with backends := some (backendsForAdminState annotations backends) }
    annotations := annotations }

/-- What `member_delete` leaves. -/
def Draft.dropMember (draft : Draft) (m : Member) (address : String) : Draft where
  spec := { draft.spec with
    backends := some (draft.spec.backendList.filter (·.address ≠ address)) }
  annotations := discardDrainingIDs (forgetMemberMapping draft.annotations m)
    (forgottenIDs draft.annotations m ++ m.memberID.toList)

/-- The members of a pool that a restore takes over. -/
def listedMembers (pool : Option Pool) : List Member :=
  ((pool.map Pool.members).getD []).filter fun m => (given m.address).isSome

/-- What a listener that is created again leaves. -/
def Draft.adopt (current desired : Draft) : Draft where
  spec := { current.spec with
    address := desired.spec.address.or current.spec.address
    port := desired.spec.port.or current.spec.port
    protocol := desired.spec.protocol.or current.spec.protocol
    encapType := desired.spec.encapType.or current.spec.encapType
    dscp := desired.spec.dscp }
  annotations := { current.annotations with
    lbID := desired.annotations.lbID.or current.annotations.lbID
    listenerID := desired.annotations.listenerID.or current.annotations.listenerID
    projectID := desired.annotations.projectID.or current.annotations.projectID
    listenerAdminStateUp := desired.annotations.listenerAdminStateUp.or
      current.annotations.listenerAdminStateUp
    poolID :=
      if (given desired.annotations.poolID).isSome ∧
        ((given current.annotations.poolID).isNone ∨
          given current.annotations.poolID = given desired.annotations.poolID)
      then desired.annotations.poolID else current.annotations.poolID }

/-- What a closure leaves, health check and health monitor apart. -/
def Mutation.outcome (octavia : Database) : Mutation → Draft → Draft
  | .adminState scope up clearBackends, draft => {
      spec := if clearBackends then { draft.spec with backends := some [] } else draft.spec
      annotations := setAdminStateAnnotation scope (some up) draft.annotations }
  | .listenerCreate _ _ desired, draft => draft.adopt desired
  | .listenerUpdate change poolDetached, draft => mutateListenerUpdate change poolDetached draft
  | .associatePool poolID, draft =>
    { draft with annotations := { draft.annotations with poolID := some poolID } }
  | .poolDelete _, draft => clearPoolAssociation draft
  | .memberCreate _ m, draft => draft.setMember m
  | .memberUpdate _ m, draft => draft.setMember m
  | .memberDelete _ m, draft =>
    draft.dropMember m ((memberDeleteAddress octavia draft.annotations m).getD "")
  | .memberBatchUpdate _ members, draft => draft.relist (listMembers members)
  | .restore _ pool prepare, draft =>
    (prepare.apply draft).relist (listMembers (listedMembers pool))
  | .healthMonitorCreate _ _, draft => draft
  | .healthMonitorDelete _, draft => draft
  | .healthMonitorUpdate _ _, draft => draft

/-- What a closure has checked where it does not stop. -/
def Mutation.Admits (octavia : Database) : Mutation → Draft → Prop
  | .adminState .., _ => True
  | .listenerCreate _ _ desired, draft =>
    virtualIPHasPoolState draft → listenerCoreFieldsChanged draft.spec desired.spec = false
  | .listenerUpdate .., _ => True
  | .associatePool poolID, draft => ∀ present ∈ given draft.annotations.poolID, present = poolID
  | .poolDelete poolID, draft => draft.annotations.poolID = some poolID
  | .memberCreate poolID _, draft => draft.annotations.poolID = some poolID
  | .memberUpdate poolID _, draft => draft.annotations.poolID = some poolID
  | .memberDelete poolID m, draft => draft.annotations.poolID = some poolID ∧
      (memberDeleteAddress octavia draft.annotations m).isSome
  | .memberBatchUpdate poolID _, draft => draft.annotations.poolID = some poolID
  | .restore poolID _ prepare, draft => (prepare.apply draft).annotations.poolID = some poolID
  | .healthMonitorCreate poolID _, draft => draft.annotations.poolID = some poolID
  | .healthMonitorDelete poolID, draft => draft.annotations.poolID = some poolID
  | .healthMonitorUpdate poolID _, draft => draft.annotations.poolID = some poolID

/-- The monitor that a closure builds a health check from. -/
def Mutation.monitor (octavia : Database) : Mutation → Option HealthMonitor
  | .healthMonitorCreate _ hm | .healthMonitorUpdate _ hm => some hm
  | .restore _ pool _ => (poolHealthMonitor octavia pool).join
  | _ => none

/-! ## Health checks -/

/-- The health check as it was, with a port set, or none. -/
inductive Refreshed (old : Option HealthCheck) : Option HealthCheck → Prop
  | removed : Refreshed old none
  | same : Refreshed old old
  | http {check : HealthCheck} (found : old = some check) (port : Int) :
      Refreshed old (some { check with
        http := some { check.http.getD ⟨none, none, none, none, none, none, none⟩ with
          port := some port } })
  | tcp {check : HealthCheck} (found : old = some check) (port : Int) :
      Refreshed old (some { check with
        tcp := some { check.tcp.getD ⟨none, none, none⟩ with port := some port } })

/-- The shape of a check that is built from a monitor. -/
structure Built (hm : HealthMonitor) (check : HealthCheck) : Prop where
  timed : check.type.isSome ∧ check.intervalSeconds.isSome ∧ check.timeoutSeconds.isSome ∧
    check.riseCount.isSome ∧ check.fallCount.isSome
  http : match check.http with
    | some http => hm.type.getD "TCP" ∈ ["HTTP", "HTTPS"] ∧ http.port.isSome ∧ http.path.isSome ∧
        http.method.isSome ∧ http.expectedCodes.isSome ∧ http.host = given hm.domainName ∧
        http.headers = none ∧ http.skipTLSVerify = none
    | none => hm.type.getD "TCP" ∉ ["HTTP", "HTTPS"]
  tcp : match check.tcp with
    | some tcp => hm.type.getD "TCP" ∈ ["TCP", "TLS-HELLO"] ∧ tcp.port.isSome ∧ tcp.send = none ∧
        tcp.expectedResponse = none
    | none => hm.type.getD "TCP" ∉ ["TCP", "TLS-HELLO"]

/-- What can become of a health check. -/
def Rechecked (hm : Option HealthMonitor) (old new : Option HealthCheck) : Prop :=
  match hm with
  | some hm => ∃ check, new = some check ∧ Built hm check
  | none => Refreshed old new

variable {poolID : String} {members : List Member}

/-- Refreshing the port changes the port of the check at most. -/
theorem refreshHealthCheckPort_eq_ok {vipSpec spec result : Spec}
    (done : refreshHealthCheckPort octavia poolID vipSpec members spec = .ok result) :
    ∃ check, result = { spec with healthCheck := check } ∧ Refreshed spec.healthCheck check := by
  unfold refreshHealthCheckPort at done
  split at done
  next => exact ⟨spec.healthCheck, (Except.ok.inj done).symm, .same⟩
  next check found =>
    split at done
    next =>
      obtain ⟨port, -, done⟩ := Except.exists_of_bind_eq_ok done
      exact ⟨_, (Except.ok.inj done).symm, .http found port⟩
    next =>
      split at done
      next =>
        obtain ⟨port, -, done⟩ := Except.exists_of_bind_eq_ok done
        exact ⟨_, (Except.ok.inj done).symm, .tcp found port⟩
      next => exact ⟨spec.healthCheck, (Except.ok.inj done).symm, .same⟩

/-- The known types of monitors. -/
theorem healthMonitorTypeMap_eq_some {type mapped : String}
    (known : healthMonitorTypeMap type = some mapped) :
    (type, mapped) ∈ [("HTTP", "http"), ("HTTPS", "https"), ("TCP", "tcp"), ("PING", "ping"),
      ("TLS-HELLO", "tls-hello")] := by
  obtain ⟨before, after, split, -⟩ := List.lookup_eq_some_iff.mp known
  rw [split]
  simp

/-- What `_build_health_check` returns. -/
theorem built_of_buildHealthCheck {hm : HealthMonitor} {vipSpec : Spec} {check : HealthCheck}
    (done : buildHealthCheck python octavia poolID hm vipSpec = .ok check) : Built hm check := by
  unfold buildHealthCheck at done
  obtain ⟨type, mapped, done⟩ := Except.exists_of_bind_eq_ok done
  have known : healthMonitorTypeMap (hm.type.getD "TCP") = some type := by
    unfold mapHealthMonitorType at mapped
    split at mapped
    next found => rw [found, Except.ok.inj mapped]
    next => cases mapped
  have listed := healthMonitorTypeMap_eq_some known
  generalize kind : hm.type.getD "TCP" = name at listed
  simp only [List.mem_cons, List.not_mem_nil, or_false, Prod.mk.injEq] at listed
  rcases listed with ⟨rfl, rfl⟩ | ⟨rfl, rfl⟩ | ⟨rfl, rfl⟩ | ⟨rfl, rfl⟩ | ⟨rfl, rfl⟩
  case inl | inr.inl =>
    obtain ⟨port, -, done⟩ := Except.exists_of_bind_eq_ok done
    obtain ⟨codes, -, done⟩ := Except.exists_of_bind_eq_ok done
    cases done
    exact ⟨by simp, by simp [kind], by simp [kind]⟩
  case inr.inr.inl | inr.inr.inr.inr =>
    obtain ⟨port, -, done⟩ := Except.exists_of_bind_eq_ok done
    cases done
    exact ⟨by simp, by simp [kind], by simp [kind]⟩
  case inr.inr.inr.inl =>
    cases done
    exact ⟨by simp, by simp [kind], by simp [kind]⟩

/-! ## The closures -/

theorem ensureVirtualIPPool_eq_ok {annotations : Annotations} {value : Unit}
    (done : ensureVirtualIPPool annotations poolID = .ok value) :
    annotations.poolID = some poolID := by
  unfold ensureVirtualIPPool at done
  split at done
  next same => exact same
  next => cases done

variable {draft result : Draft}

/-- A guarded closure has found its pool. -/
theorem guarded_eq_ok {mutate : Draft → Checked Draft}
    (done : guarded poolID mutate draft = .ok result) :
    draft.annotations.poolID = some poolID ∧ mutate draft = .ok result := by
  obtain ⟨_, ensured, done⟩ := Except.exists_of_bind_eq_ok done
  exact ⟨ensureVirtualIPPool_eq_ok ensured, done⟩

/-- The draft is this one, with a health check that can become of the old one. -/
def Leaves (hm : Option HealthMonitor) (old : Option HealthCheck) (outcome result : Draft) : Prop :=
  ∃ check hmID, result = outcome.recheck check hmID ∧ Rechecked hm old check

/-- What `member_create` and `member_update` leave. -/
theorem mutateMember_eq_ok {m : Member}
    (done : mutateMember python octavia poolID m draft = .ok result) :
    Leaves none draft.spec.healthCheck (draft.setMember m) result := by
  obtain ⟨-, -, done⟩ := Except.exists_of_bind_eq_ok done
  obtain ⟨spec, refreshed, done⟩ := Except.exists_of_bind_eq_ok done
  obtain ⟨check, rfl, fresh⟩ := refreshHealthCheckPort_eq_ok refreshed
  exact ⟨check, _, (Except.ok.inj done).symm, fresh⟩

/-- What `member_delete` leaves. -/
theorem mutateMemberDelete_eq_ok {m : Member}
    (done : mutateMemberDelete octavia poolID m draft = .ok result) :
    (memberDeleteAddress octavia draft.annotations m).isSome ∧
      Leaves none draft.spec.healthCheck
        (draft.dropMember m ((memberDeleteAddress octavia draft.annotations m).getD ""))
        result := by
  unfold mutateMemberDelete at done
  split at done
  next => cases done
  next address found =>
    obtain ⟨spec, refreshed, done⟩ := Except.exists_of_bind_eq_ok done
    obtain ⟨check, rfl, fresh⟩ := refreshHealthCheckPort_eq_ok refreshed
    rw [found]
    exact ⟨rfl, check, _, (Except.ok.inj done).symm, fresh⟩

/-- What `member_batch_update` leaves. -/
theorem mutateMemberBatchUpdate_eq_ok
    (done : mutateMemberBatchUpdate python octavia poolID members draft = .ok result) :
    Leaves none draft.spec.healthCheck (draft.relist (listMembers members)) result := by
  obtain ⟨-, -, done⟩ := Except.exists_of_bind_eq_ok done
  obtain ⟨spec, refreshed, done⟩ := Except.exists_of_bind_eq_ok done
  obtain ⟨check, rfl, fresh⟩ := refreshHealthCheckPort_eq_ok refreshed
  exact ⟨check, _, (Except.ok.inj done).symm, fresh⟩

/-- What a restore makes of the health check. -/
theorem restoreHealthCheck_eq_ok {pool : Option Pool}
    (done : restoreHealthCheck python octavia poolID pool members draft = .ok result) :
    Leaves (poolHealthMonitor octavia pool).join draft.spec.healthCheck draft result := by
  unfold restoreHealthCheck at done
  split at done
  next hm found =>
    obtain ⟨check, built, done⟩ := Except.exists_of_bind_eq_ok done
    rw [found]
    exact ⟨some check, _, (Except.ok.inj done).symm, check, rfl, built_of_buildHealthCheck built⟩
  next found =>
    rw [found]
    exact ⟨none, none, (Except.ok.inj done).symm, .removed⟩
  next found =>
    obtain ⟨spec, refreshed, done⟩ := Except.exists_of_bind_eq_ok done
    obtain ⟨check, rfl, fresh⟩ := refreshHealthCheckPort_eq_ok refreshed
    rw [found]
    exact ⟨check, _, (Except.ok.inj done).symm, fresh⟩

theorem Preparation.healthCheck_apply (prepare : Preparation) (draft : Draft) :
    (prepare.apply draft).spec.healthCheck = draft.spec.healthCheck := by
  cases prepare <;> rfl

/-- What a restore leaves. -/
theorem mutateRestore_eq_ok {pool : Option Pool} {prepare : Preparation}
    (done : mutateRestore python octavia poolID pool prepare draft = .ok result) :
    (prepare.apply draft).annotations.poolID = some poolID ∧
      Leaves (poolHealthMonitor octavia pool).join draft.spec.healthCheck
        ((prepare.apply draft).relist (listMembers (listedMembers pool))) result := by
  obtain ⟨_, ensured, done⟩ := Except.exists_of_bind_eq_ok done
  obtain ⟨-, -, done⟩ := Except.exists_of_bind_eq_ok done
  have leaves := restoreHealthCheck_eq_ok done
  rw [← prepare.healthCheck_apply draft]
  exact ⟨ensureVirtualIPPool_eq_ok ensured, leaves⟩

/-- What the health monitor operations leave. -/
theorem mutateHealthMonitor_eq_ok {hm : HealthMonitor}
    (done : mutateHealthMonitor python octavia poolID hm draft = .ok result) :
    Leaves (some hm) draft.spec.healthCheck draft result := by
  obtain ⟨check, built, done⟩ := Except.exists_of_bind_eq_ok done
  exact ⟨some check, hm.id, (Except.ok.inj done).symm, check, rfl, built_of_buildHealthCheck built⟩

/-- What `listener_create` leaves of an object that is there. -/
theorem mutateListenerCreate_eq_ok {name listenerID : String} {desired draft result : Draft}
    (done : mutateListenerCreate name listenerID desired draft = .ok result) :
    (virtualIPHasPoolState draft →
      listenerCoreFieldsChanged draft.spec desired.spec = false) ∧
      result = draft.adopt desired := by
  unfold mutateListenerCreate at done
  split at done
  next => cases done
  next unchanged =>
    refine ⟨fun stateful => ?_, ?_⟩
    · exact Bool.eq_false_iff.mpr fun changed => unchanged ⟨stateful, changed⟩
    rw [← Except.ok.inj done, Draft.adopt]
    congr 2
    cases given desired.annotations.poolID with
    | none => simp
    | some wanted =>
      cases given draft.annotations.poolID with
      | none => simp
      | some present =>
        by_cases same : present = wanted
        · simp [same]
        · simp [same, Ne.symm same]

/-- A listener that loses its pool loses the health check. -/
theorem healthCheck_mutateListenerUpdate (change : ListenerChange) (poolDetached : Bool)
    (draft : Draft) :
    (mutateListenerUpdate change poolDetached draft).spec.healthCheck =
      if poolDetached then none else draft.spec.healthCheck := by
  unfold mutateListenerUpdate
  cases poolDetached <;> by_cases down : change.adminState = some false <;>
    simp [down, clearPoolAssociation]

/-- What an association leaves. -/
theorem mutateAssociatePool_eq_ok (done : mutateAssociatePool poolID draft = .ok result) :
    (∀ present ∈ given draft.annotations.poolID, present = poolID) ∧
      result = { draft with annotations := { draft.annotations with poolID := some poolID } } := by
  unfold mutateAssociatePool at done
  split at done
  next present found =>
    split at done
    next same =>
      rw [found]
      exact ⟨fun _ is => Option.some.inj is ▸ same, (Except.ok.inj done).symm⟩
    next => cases done
  next found =>
    rw [found]
    exact ⟨nofun, (Except.ok.inj done).symm⟩

/-- **What a closure can do.** -/
theorem Mutation.apply_eq_ok {mutation : Mutation}
    (done : mutation.apply python octavia draft = .ok result) :
    mutation.Admits octavia draft ∧
      Leaves (mutation.monitor octavia) draft.spec.healthCheck (mutation.outcome octavia draft)
        result := by
  cases mutation with
  | adminState scope up clearBackends =>
    refine ⟨trivial, _, _, (Except.ok.inj done).symm, ?_⟩
    cases clearBackends <;> exact .same
  | listenerCreate name listenerID desired =>
    obtain ⟨unchanged, rfl⟩ := mutateListenerCreate_eq_ok done
    exact ⟨unchanged, _, _, rfl, .same⟩
  | listenerUpdate change poolDetached =>
    refine ⟨trivial, (mutateListenerUpdate change poolDetached draft).spec.healthCheck, _,
      (Except.ok.inj done).symm, ?_⟩
    rw [healthCheck_mutateListenerUpdate]
    cases poolDetached with
    | false => exact .same
    | true => exact .removed
  | associatePool poolID =>
    obtain ⟨present, rfl⟩ := mutateAssociatePool_eq_ok done
    exact ⟨present, _, _, rfl, .same⟩
  | poolDelete poolID =>
    rw [apply] at done
    obtain ⟨pool, done⟩ := guarded_eq_ok done
    exact ⟨pool, _, _, (Except.ok.inj done).symm, .removed⟩
  | memberCreate poolID m | memberUpdate poolID m =>
    obtain ⟨pool, done⟩ := guarded_eq_ok done
    exact ⟨pool, mutateMember_eq_ok done⟩
  | memberDelete poolID m =>
    obtain ⟨pool, done⟩ := guarded_eq_ok done
    obtain ⟨found, leaves⟩ := mutateMemberDelete_eq_ok done
    exact ⟨⟨pool, found⟩, leaves⟩
  | memberBatchUpdate poolID members =>
    obtain ⟨pool, done⟩ := guarded_eq_ok done
    exact ⟨pool, mutateMemberBatchUpdate_eq_ok done⟩
  | restore poolID pool prepare => exact mutateRestore_eq_ok done
  | healthMonitorCreate poolID hm | healthMonitorUpdate poolID hm =>
    obtain ⟨pool, done⟩ := guarded_eq_ok done
    exact ⟨pool, mutateHealthMonitor_eq_ok done⟩
  | healthMonitorDelete poolID =>
    rw [apply] at done
    obtain ⟨pool, done⟩ := guarded_eq_ok done
    exact ⟨pool, none, none, (Except.ok.inj done).symm, .removed⟩

end ArcaLB.Octavia
