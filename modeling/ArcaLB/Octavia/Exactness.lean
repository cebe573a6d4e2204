import ArcaLB.Octavia.Outcomes
import ArcaLB.Octavia.Patch

/-!
# Where the patch does what the driver meant

The body of `update_virtualip` names every key that the driver wants gone from the spec and the
annotations, but not what it wants gone inside a health check.  So a patch yields the spec it
was built from exactly if no closure builds a health check over one that has more: another kind
of probe, or settings that a health monitor cannot express.
-/

namespace ArcaLB.Octavia

open Json (record mergePatch)

/-- The object has the spec, the annotations and the identity labels of the draft. -/
structure Exact (texts : AnnotationTexts) (python : Python) (result : Json) (draft : Draft) :
    Prop where
  spec : result.path ["spec"] = some draft.spec.toJson
  annotations : result.path ["metadata", "annotations"] = some (draft.annotations.toJson texts)
  labels : ∀ label ∈ managedLabels, result.path ["metadata", "labels", label] =
    ((identityLabels python draft.annotations).lookup label).join.map .text

/-- The closure is run on the object as it was read, or as `listener_update` has edited it. -/
inductive Mutation.Sees (current : VirtualIP) : Mutation → VirtualIP → Prop
  | asRead (mutation : Mutation) : Sees current mutation current
  | updated (change : ListenerChange) (poolDetached : Bool) :
      Sees current (.listenerUpdate change poolDetached) (change.edit current)
  | restored (change : ListenerChange) (poolID : String) (pool : Option Pool) :
      Sees current (.restore poolID pool (.listener change)) (change.edit current)

/-- A health check built from the monitor has all that the present one has. -/
def HealthMonitor.Fits (hm : HealthMonitor) (current : Option HealthCheck) : Prop :=
  ∀ check ∈ current,
    (∀ http ∈ check.http, hm.type.getD "TCP" ∈ ["HTTP", "HTTPS"] ∧
      (http.host.isSome → (given hm.domainName).isSome) ∧ http.headers = none ∧
      http.skipTLSVerify = none) ∧
    ∀ tcp ∈ check.tcp, hm.type.getD "TCP" ∈ ["TCP", "TLS-HELLO"] ∧ tcp.send = none ∧
      tcp.expectedResponse = none

/-! ## What closures keep -/

/-- Nothing that the patch could not remove is missing from the new draft. -/
structure Draft.Extends (old new : Draft) : Prop where
  address : old.spec.address.isSome → new.spec.address.isSome
  port : old.spec.port.isSome → new.spec.port.isSome
  protocol : old.spec.protocol.isSome → new.spec.protocol.isSome
  encapType : old.spec.encapType.isSome → new.spec.encapType.isSome
  backends : old.spec.backends.isSome → new.spec.backends.isSome
  others : new.annotations.others = old.annotations.others

namespace Draft.Extends

variable {old mid new : Draft}

theorem refl (draft : Draft) : draft.Extends draft :=
  ⟨id, id, id, id, id, rfl⟩

theorem trans (first : old.Extends mid) (second : mid.Extends new) : old.Extends new where
  address := second.address ∘ first.address
  port := second.port ∘ first.port
  protocol := second.protocol ∘ first.protocol
  encapType := second.encapType ∘ first.encapType
  backends := second.backends ∘ first.backends
  others := second.others.trans first.others

/-- Another health check changes none of the required fields. -/
theorem recheck (extended : old.Extends new) (check : Option HealthCheck) (hmID : Option String) :
    old.Extends (new.recheck check hmID) :=
  ⟨extended.address, extended.port, extended.protocol, extended.encapType, extended.backends,
    extended.others⟩

end Draft.Extends

variable {α : Type}

theorem isSome_or (first : Option α) {second : Option α} (present : second.isSome) :
    (first.or second).isSome := by
  cases first <;> simp [present]

theorem others_setAdminStateAnnotation (scope : AdminScope) (adminState : Option Bool)
    (annotations : Annotations) :
    ( setAdminStateAnnotation scope adminState annotations).others = annotations.others := by
  cases scope <;> rfl

/-- Listing members changes none of them. -/
theorem extends_relist (draft : Draft) (listing : Listing) : draft.Extends (draft.relist listing) :=
  ⟨id, id, id, id, fun _ => rfl, rfl⟩

theorem extends_prepare (change : ListenerChange) (draft : Draft) :
    draft.Extends (change.prepare draft) :=
  ⟨id, isSome_or _, isSome_or _, id, id, rfl⟩

theorem Preparation.extends_apply (prepare : Preparation) (draft : Draft) :
    draft.Extends (prepare.apply draft) := by
  cases prepare with
  | nothing | loadbalancerUp => exact ⟨id, id, id, id, id, rfl⟩
  | listener change => exact extends_prepare change draft

theorem extends_setMember (draft : Draft) (m : Member) : draft.Extends (draft.setMember m) := by
  refine ⟨id, id, id, id, fun _ => rfl, ?_⟩
  dsimp only [Draft.setMember, setMemberDrainingState, rememberMemberMapping]
  split <;> split <;> rfl

theorem extends_dropMember (draft : Draft) (m : Member) (address : String) :
    draft.Extends (draft.dropMember m address) := by
  refine ⟨id, id, id, id, fun _ => rfl, ?_⟩
  dsimp only [Draft.dropMember, forgetMemberMapping, discardDrainingIDs, Annotations.setDrainingIDs]
  split <;> rfl

theorem extends_mutateListenerUpdate (change : ListenerChange) (poolDetached : Bool)
    (draft : Draft) : draft.Extends (mutateListenerUpdate change poolDetached draft) := by
  unfold mutateListenerUpdate
  cases poolDetached <;> by_cases down : change.adminState = some false <;>
    exact ⟨by simp [down, clearPoolAssociation], by simp +contextual [down, clearPoolAssociation],
      by simp +contextual [down, clearPoolAssociation], by simp [down, clearPoolAssociation],
      by simp [down, clearPoolAssociation],
      by simp [clearPoolAssociation, others_setAdminStateAnnotation]⟩

/-- **No closure takes a required field away.** -/
theorem Mutation.extends_outcome (octavia : Database) (mutation : Mutation) (draft : Draft) :
    draft.Extends (mutation.outcome octavia draft) := by
  cases mutation with
  | adminState scope up clearBackends =>
    refine ⟨?_, ?_, ?_, ?_, ?_, others_setAdminStateAnnotation ..⟩ <;>
      cases clearBackends <;> simp [outcome]
  | listenerCreate name listenerID desired =>
    exact ⟨isSome_or _, isSome_or _, isSome_or _, isSome_or _, id, rfl⟩
  | listenerUpdate change poolDetached =>
    exact extends_mutateListenerUpdate change poolDetached draft
  | associatePool poolID => exact ⟨id, id, id, id, id, rfl⟩
  | poolDelete poolID => exact ⟨id, id, id, id, fun _ => rfl, rfl⟩
  | memberCreate poolID m | memberUpdate poolID m => exact extends_setMember draft m
  | memberDelete poolID m => exact extends_dropMember draft m _
  | memberBatchUpdate poolID members => exact extends_relist draft _
  | restore poolID pool prepare => exact (prepare.extends_apply draft).trans (extends_relist _ _)
  | healthMonitorCreate | healthMonitorDelete | healthMonitorUpdate => exact .refl draft

/-! ## Health checks -/

theorem map_or_eq_iff {α β : Type} {encode : α → β} {old new : Option α} :
    (new.or old).map encode = new.map encode ↔ (old.isSome → new.isSome) := by
  cases new <;> cases old <;> simp

theorem headersJson_append_self (headers : List (String × String)) :
    headersJson (headers ++ headers) = headersJson headers := by
  simp only [headersJson, List.lookup_append, Option.or_self]

/-- What is merged is what was wanted. -/
def Replaces {α : Type} (merge : α → α → α) (toJson : α → Json) (old new : Option α) : Prop :=
  (mergeWith merge old new).map toJson = new.map toJson

/-- Headers that stay are replaced by themselves. -/
theorem replaces_headers_self (headers : Option (List (String × String))) :
    Replaces (fun old new => new ++ old) headersJson headers headers := by
  cases headers with
  | none => rfl
  | some headers => exact congrArg some (headersJson_append_self headers)

/-- Where there was nothing, the new value is stored. -/
theorem replaces_of_none {merge : α → α → α} {toJson : α → Json} (new : Option α) :
    Replaces merge toJson none new :=
  congrArg _ (mergeWith_none merge new)

theorem replaces_none_iff {merge : α → α → α} {toJson : α → Json} {old : Option α} :
    Replaces merge toJson old none ↔ old = none := by
  cases old <;> simp [Replaces, mergeWith]

theorem replaces_some_iff {merge : α → α → α} {toJson : α → Json} {old new : α} :
    Replaces merge toJson (some old) (some new) ↔ toJson (merge old new) = toJson new := by
  simp [Replaces, mergeWith]

/-- An HTTP section is replaced if the new one has every field of the old one. -/
theorem HttpCheck.toJson_merge_eq_iff (old new : HttpCheck) :
    (old.merge new).toJson = new.toJson ↔
      (old.port.isSome → new.port.isSome) ∧ (old.path.isSome → new.path.isSome) ∧
      (old.method.isSome → new.method.isSome) ∧ (old.host.isSome → new.host.isSome) ∧
      Replaces (fun old new => new ++ old) headersJson old.headers new.headers ∧
      (old.expectedCodes.isSome → new.expectedCodes.isSome) ∧
      (old.skipTLSVerify.isSome → new.skipTLSVerify.isSome) := by
  rw [toJson, toJson, Json.record_inj (by rfl) (by simp [entries])]
  simp only [entries, merge, List.cons.injEq, Prod.mk.injEq, true_and, and_true, map_or_eq_iff,
    Replaces]

/-- The same for a TCP section. -/
theorem TcpCheck.toJson_merge_eq_iff (old new : TcpCheck) :
    (old.merge new).toJson = new.toJson ↔
      (old.port.isSome → new.port.isSome) ∧ (old.send.isSome → new.send.isSome) ∧
      (old.expectedResponse.isSome → new.expectedResponse.isSome) := by
  rw [toJson, toJson, Json.record_inj (by rfl) (by simp [entries])]
  simp only [entries, merge, List.cons.injEq, Prod.mk.injEq, true_and, and_true, map_or_eq_iff]

/-- The same for a health check, section by section. -/
theorem HealthCheck.toJson_merge_eq_iff (old new : HealthCheck) :
    (old.merge new).toJson = new.toJson ↔
      (old.type.isSome → new.type.isSome) ∧
      (old.intervalSeconds.isSome → new.intervalSeconds.isSome) ∧
      (old.timeoutSeconds.isSome → new.timeoutSeconds.isSome) ∧
      (old.riseCount.isSome → new.riseCount.isSome) ∧
      (old.fallCount.isSome → new.fallCount.isSome) ∧
      Replaces HttpCheck.merge HttpCheck.toJson old.http new.http ∧
      Replaces TcpCheck.merge TcpCheck.toJson old.tcp new.tcp := by
  rw [toJson, toJson, Json.record_inj (by rfl) (by simp [entries])]
  simp only [entries, merge, List.cons.injEq, Prod.mk.injEq, true_and, and_true, map_or_eq_iff,
    Replaces]

/-- A section whose port is set replaces the old one. -/
theorem HttpCheck.replaces_port (check : Option HttpCheck) (port : Int) :
    Replaces merge toJson check
      (some { check.getD ⟨none, none, none, none, none, none, none⟩ with port := some port }) := by
  cases check with
  | none => exact replaces_of_none _
  | some check =>
    rw [replaces_some_iff, toJson_merge_eq_iff]
    exact ⟨fun _ => rfl, id, id, id, replaces_headers_self _, id, id⟩

theorem HttpCheck.replaces_self (check : Option HttpCheck) : Replaces merge toJson check check := by
  cases check with
  | none => rfl
  | some check =>
    rw [replaces_some_iff, toJson_merge_eq_iff]
    exact ⟨id, id, id, id, replaces_headers_self _, id, id⟩

theorem TcpCheck.replaces_port (check : Option TcpCheck) (port : Int) :
    Replaces merge toJson check
      (some { check.getD ⟨none, none, none⟩ with port := some port }) := by
  cases check with
  | none => exact replaces_of_none _
  | some check =>
    rw [replaces_some_iff, toJson_merge_eq_iff]
    exact ⟨fun _ => rfl, id, id⟩

theorem TcpCheck.replaces_self (check : Option TcpCheck) : Replaces merge toJson check check := by
  cases check with
  | none => rfl
  | some check =>
    rw [replaces_some_iff, toJson_merge_eq_iff]
    exact ⟨id, id, id⟩

/-- What is left of a health check under a patch that removes it where it is not wanted. -/
def mergedCheck (old new : Option HealthCheck) : Option HealthCheck :=
  new.bind fun check => mergeWith HealthCheck.merge old (some check)

/-- A health check that was not built anew is as it was wanted. -/
theorem Refreshed.merged {old new : Option HealthCheck} (refreshed : Refreshed old new) :
    (mergedCheck old new).map HealthCheck.toJson = new.map HealthCheck.toJson := by
  cases refreshed with
  | removed => rfl
  | same =>
    cases old with
    | none => rfl
    | some check =>
      refine congrArg some ((HealthCheck.toJson_merge_eq_iff check check).mpr ?_)
      exact ⟨id, id, id, id, id, HttpCheck.replaces_self _, TcpCheck.replaces_self _⟩
  | @http check found port =>
    subst found
    refine congrArg some ((HealthCheck.toJson_merge_eq_iff check _).mpr ?_)
    exact ⟨id, id, id, id, id, HttpCheck.replaces_port _ port, TcpCheck.replaces_self _⟩
  | @tcp check found port =>
    subst found
    refine congrArg some ((HealthCheck.toJson_merge_eq_iff check _).mpr ?_)
    exact ⟨id, id, id, id, id, HttpCheck.replaces_self _, TcpCheck.replaces_port _ port⟩

section Built

variable {hm : HealthMonitor} {check : HealthCheck}

/-- When the HTTP section of a built check replaces the old one. -/
theorem Built.replaces_http_iff (built : Built hm check) (old : Option HttpCheck) :
    Replaces HttpCheck.merge HttpCheck.toJson old check.http ↔
      ∀ http ∈ old, hm.type.getD "TCP" ∈ ["HTTP", "HTTPS"] ∧
        (http.host.isSome → (given hm.domainName).isSome) ∧ http.headers = none ∧
        http.skipTLSVerify = none := by
  have shape := built.http
  cases old with
  | none => simp [replaces_of_none]
  | some old =>
    split at shape
    next http found =>
      obtain ⟨kind, port, path, method, codes, host, headers, skip⟩ := shape
      rw [found, replaces_some_iff, HttpCheck.toJson_merge_eq_iff]
      simp [port, path, method, codes, host, headers, skip, kind, replaces_none_iff]
    next found =>
      rw [found, replaces_none_iff]
      simp [shape]

/-- When its TCP section does. -/
theorem Built.replaces_tcp_iff (built : Built hm check) (old : Option TcpCheck) :
    Replaces TcpCheck.merge TcpCheck.toJson old check.tcp ↔
      ∀ tcp ∈ old, hm.type.getD "TCP" ∈ ["TCP", "TLS-HELLO"] ∧ tcp.send = none ∧
        tcp.expectedResponse = none := by
  have shape := built.tcp
  cases old with
  | none => simp [replaces_of_none]
  | some old =>
    split at shape
    next tcp found =>
      obtain ⟨kind, port, send, response⟩ := shape
      rw [found, replaces_some_iff, TcpCheck.toJson_merge_eq_iff]
      simp [port, send, response, kind]
    next found =>
      rw [found, replaces_none_iff]
      simp [shape]

/-- A health check that was built anew is as it was wanted if it has all that was there. -/
theorem Built.merged_iff (built : Built hm check) (old : Option HealthCheck) :
    (mergedCheck old (some check)).map HealthCheck.toJson = (some check).map HealthCheck.toJson ↔
      hm.Fits old := by
  cases old with
  | none => simp [mergedCheck, mergeWith, HealthMonitor.Fits]
  | some old =>
    obtain ⟨type, interval, timeout, rise, fall⟩ := built.timed
    have merged := HealthCheck.toJson_merge_eq_iff old check
    simp only [type, interval, timeout, rise, fall, implies_true, true_and,
      built.replaces_http_iff, built.replaces_tcp_iff] at merged
    simpa [mergedCheck, mergeWith, HealthMonitor.Fits] using merged

end Built

/-- A check is stored as left exactly if the monitor fits the old one. -/
theorem Rechecked.merged_iff {hm : Option HealthMonitor} {old new : Option HealthCheck}
    (rechecked : Rechecked hm old new) :
    (mergedCheck old new).map HealthCheck.toJson = new.map HealthCheck.toJson ↔
      ∀ monitor ∈ hm, monitor.Fits old := by
  cases hm with
  | none =>
    have refreshed : Refreshed old new := rechecked
    simp [refreshed.merged]
  | some hm =>
    obtain ⟨check, rfl, built⟩ := rechecked
    simpa using built.merged_iff old

/-! ## The whole object -/

/-- A spec is stored as left if its health check is. -/
theorem Spec.toJson_merge_eq_iff {old new : Draft} (extended : old.Extends new) :
    (old.spec.merge new.spec).toJson = new.spec.toJson ↔
      (mergedCheck old.spec.healthCheck new.spec.healthCheck).map HealthCheck.toJson =
        new.spec.healthCheck.map HealthCheck.toJson := by
  rw [toJson, toJson, Json.record_inj (by rfl) (by simp [entries])]
  simp only [entries, merge, List.cons.injEq, Prod.mk.injEq, true_and, and_true, map_or_eq_iff]
  exact ⟨fun parts => parts.2.2.2.2.2, fun check => ⟨extended.address, extended.port,
    extended.protocol, extended.encapType, extended.backends, check⟩⟩

/-- An annotation that the driver has seen is stored as left. -/
theorem kept_eq {seen current : Option α} (present : current.isSome → seen.isSome)
    (desired : Option α) : kept seen current desired = desired := by
  cases desired with
  | some desired => rfl
  | none =>
    cases seen with
    | some seen => rfl
    | none =>
      cases current with
      | none => rfl
      | some current => cases present rfl

/-- Annotations are stored as left, whatever pool the driver has put in. -/
theorem Annotations.toJson_merge {texts : AnnotationTexts} {old new : Annotations}
    (others : new.others = old.others) (poolID : Option String) :
    (Annotations.merge { old with poolID := poolID.or old.poolID } old new).toJson texts =
      new.toJson texts := by
  have entries : (Annotations.merge { old with poolID := poolID.or old.poolID } old new).entries
      texts = new.entries texts := by
    simp only [Annotations.entries, values, merge, kept_eq id, kept_eq (isSome_or poolID)]
  rw [toJson, toJson, openRecord, openRecord, entries]
  simp only [merge, others, List.lookup_append, Option.or_self]

section Sees

variable {mutation : Mutation} {current seen : VirtualIP} (sees : mutation.Sees current seen)
include sees

/-- The driver sees all annotations, the pool apart. -/
theorem Mutation.Sees.annotations : ∃ poolID : Option String,
    seen.annotations = { current.annotations with
      poolID := poolID.or current.annotations.poolID } := by
  cases sees with
  | asRead => exact ⟨none, rfl⟩
  | updated change | restored change => exact ⟨change.poolID, rfl⟩

theorem Mutation.Sees.labels : seen.labels = current.labels := by
  cases sees <;> rfl

theorem Mutation.Sees.healthCheck : seen.spec.healthCheck = current.spec.healthCheck := by
  cases sees <;> rfl

omit sees in
/-- The edit of `listener_update` takes nothing away. -/
theorem extends_edit (change : ListenerChange) (vip : VirtualIP) :
    vip.draft.Extends (change.edit vip).draft := by
  refine ⟨id, isSome_or _, isSome_or _, id, fun present => ?_, rfl⟩
  by_cases down : change.adminState = some false
  · simp [ListenerChange.edit, VirtualIP.draft, down]
  · simpa [ListenerChange.edit, VirtualIP.draft, down] using present

theorem Mutation.Sees.resourceVersion : seen.resourceVersion = current.resourceVersion := by
  cases sees <;> rfl

/-- The edit is what the closure does anyway. -/
theorem Mutation.Sees.apply_eq {python : Python} {octavia : Database} :
    mutation.apply python octavia seen.draft = mutation.apply python octavia current.draft := by
  cases sees with
  | asRead => rfl
  | updated change poolDetached =>
    refine congrArg pure ?_
    by_cases down : change.adminState = some false <;> cases poolDetached <;>
      simp [mutateListenerUpdate, ListenerChange.edit, VirtualIP.draft, clearPoolAssociation,
        setAdminStateAnnotation, down, ← Option.or_assoc]
  | restored change poolID pool =>
    simp only [apply, mutateRestore, Preparation.apply, ListenerChange.prepare,
      ListenerChange.edit, VirtualIP.draft, ← Option.or_assoc, Option.or_self]
    rfl

theorem Mutation.Sees.draft : current.draft.Extends seen.draft := by
  cases sees with
  | asRead => exact .refl _
  | updated change | restored change => exact extends_edit change current

end Sees

/-- **Where the patch is exact.** For every object, every closure of the driver run on it and
every answer of Octavia, the merge patch yields the spec, the annotations and the identity labels
that the closure has left exactly if a health check that the closure has built has all that the
present one has. -/
theorem patch_exact_iff_fits {texts : AnnotationTexts} {python : Python} {octavia : Database}
    {current seen : VirtualIP} {mutation : Mutation} {draft : Draft}
    (sees : mutation.Sees current seen)
    (built : mutation.apply python octavia seen.draft = .ok draft) :
    Exact texts python (mergePatch (current.toJson texts) (updateBody texts python seen draft))
        draft ↔
      ∀ hm ∈ mutation.monitor octavia, hm.Fits current.spec.healthCheck := by
  obtain ⟨-, check, hmID, rfl, rechecked⟩ := Mutation.apply_eq_ok built
  have extended := sees.draft.trans
    ((mutation.extends_outcome octavia seen.draft).recheck check hmID)
  have exactSpec := (Spec.toJson_merge_eq_iff extended).trans
    (sees.healthCheck ▸ rechecked.merged_iff)
  obtain ⟨poolID, seenAnnotations⟩ := sees.annotations
  rw [VirtualIP.toJson_patched]
  refine ⟨fun exact => exactSpec.mp (Option.some.inj exact.spec),
    fun fits => ⟨congrArg some (exactSpec.mpr fits), congrArg some ?_, fun label managed => ?_⟩⟩
  · rw [VirtualIP.patched, seenAnnotations]
    exact Annotations.toJson_merge extended.others poolID
  · rw [VirtualIP.patched, sees.labels, Labels.merge]
    simp only [kept_eq id]
    simp only [managedLabels, List.mem_cons, List.not_mem_nil, or_false] at managed
    rcases managed with rfl | rfl | rfl <;> exact Option.bind_fun_some _

/-- The load balancer's only listener, with a health check that probes by HTTP. -/
def probedByHTTP : VirtualIP where
  name := "octavia-1"
  resourceVersion := 7
  labels := ⟨some labelManagedByValue, some "lb", some "listener", some "pool", []⟩
  annotations := { Annotations.none with
    lbID := some "lb", listenerID := some "listener", poolID := some "pool", hmID := some "hm" }
  spec := ⟨some "192.0.2.1", some 80, some "TCP", some "L3DSR", some 10, some [],
    some ⟨some "http", some 5, some 3, some 3, some 2,
      some ⟨some 80, some "/", some "GET", none, none, some [200], none⟩, none⟩⟩

/-- A TCP monitor of the pool. -/
def tcpMonitor : HealthMonitor :=
  ⟨some "hm", some "pool", some "TCP", some 5, some 3, some 3, some 2, none, none, none, none⟩

/-- Annotations whose texts do not matter. -/
def AnnotationTexts.plain : AnnotationTexts := ⟨fun _ => "", fun _ => ""⟩

/-- The draft of `probedByHTTP` with the health check of `tcpMonitor`. -/
def probedByTCP : Draft :=
  probedByHTTP.draft.recheck
    (some ⟨some "tcp", some 5, some 3, some 3, some 2, none, some ⟨some 80, none, none⟩⟩)
    (some "hm")

/-- A first health check is stored as left. -/
theorem patch_exact_iff_fits_first_check :
    let current := { probedByHTTP with spec := { probedByHTTP.spec with healthCheck := none } }
    Exact .plain .plain
      (mergePatch (current.toJson .plain) (updateBody .plain .plain current probedByTCP))
      probedByTCP :=
  (@patch_exact_iff_fits _ _ .empty _ _ (.healthMonitorCreate "pool" tcpMonitor) _ (.asRead _)
    (by decide +kernel)).mpr (by simp [HealthMonitor.Fits, Mutation.monitor])

/-- A monitor that probes by TCP instead of HTTP leaves the HTTP probe where it is. -/
theorem changed_monitor_keeps_http_probe :
    (Mutation.healthMonitorUpdate "pool" tcpMonitor).apply .plain .empty probedByHTTP.draft =
        .ok probedByTCP ∧
      ¬ Exact .plain .plain
        (mergePatch (probedByHTTP.toJson .plain)
          (updateBody .plain .plain probedByHTTP probedByTCP)) probedByTCP := by
  refine ⟨by decide +kernel, fun exact => ?_⟩
  rw [VirtualIP.toJson_patched] at exact
  have spec := Option.some.inj exact.spec
  have http := congrArg (Json.path ["healthCheck", "http"]) spec
  cases http

end ArcaLB.Octavia
