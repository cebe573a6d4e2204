import ArcaLB.Library.MergePatch
import ArcaLB.Octavia.Mutations

/-!
# The patch that the Octavia driver sends

`VirtualIPClient.update_virtualip` turns a spec and annotations into a JSON merge patch.  The
API server applies it to the object that it holds; `VirtualIP.patched` is the outcome as a
VirtualIP, and `toJson_patched` says so.  A merge patch goes into objects, so a health check
is not replaced but merged with the one that is there.
-/

namespace ArcaLB.Octavia

open Json (record mergePatch mergeMember)

/-- The texts of the two annotations that hold JSON. -/
structure AnnotationTexts where
  memberMap : List (String × String) → String
  draining : List String → String

/-! ## VirtualIPs as JSON -/

/-- A backend as the API server stores it. -/
def Backend.toJson (backend : Backend) : Json :=
  record [("address", some (.text backend.address)), ("weight", some (.number backend.weight)),
    ("monitorAddress", backend.monitorAddress.map .text)]

/-- The headers of an HTTP check. -/
def headersJson (headers : List (String × String)) : Json :=
  .object fun name => (headers.lookup name).map .text

/-- The fields of an HTTP check. -/
def HttpCheck.entries (check : HttpCheck) : List (String × Option Json) :=
  [("port", check.port.map .number), ("path", check.path.map .text),
    ("method", check.method.map .text), ("host", check.host.map .text),
    ("headers", check.headers.map headersJson),
    ("expectedCodes", check.expectedCodes.map fun codes => .array (codes.map .number)),
    ("skipTLSVerify", check.skipTLSVerify.map .bool)]

/-- An HTTP check as an object. -/
def HttpCheck.toJson (check : HttpCheck) : Json := record check.entries

/-- The fields of a TCP check. -/
def TcpCheck.entries (check : TcpCheck) : List (String × Option Json) :=
  [("port", check.port.map .number), ("send", check.send.map .text),
    ("expectedResponse", check.expectedResponse.map .text)]

/-- A TCP check as an object. -/
def TcpCheck.toJson (check : TcpCheck) : Json := record check.entries

/-- The fields of a health check. -/
def HealthCheck.entries (check : HealthCheck) : List (String × Option Json) :=
  [("type", check.type.map .text), ("intervalSeconds", check.intervalSeconds.map .number),
    ("timeoutSeconds", check.timeoutSeconds.map .number),
    ("riseCount", check.riseCount.map .number), ("fallCount", check.fallCount.map .number),
    ("http", check.http.map HttpCheck.toJson), ("tcp", check.tcp.map TcpCheck.toJson)]

/-- A health check as an object. -/
def HealthCheck.toJson (check : HealthCheck) : Json := record check.entries

/-- The backends of a spec. -/
def backendsJson (backends : List Backend) : Json := .array (backends.map Backend.toJson)

/-- The fields of a spec. -/
def Spec.entries (spec : Spec) : List (String × Option Json) :=
  [("address", spec.address.map .text), ("port", spec.port.map .number),
    ("protocol", spec.protocol.map .text), ("encapType", spec.encapType.map .text),
    ("dscp", spec.dscp.map .number), ("backends", spec.backends.map backendsJson),
    ("healthCheck", spec.healthCheck.map HealthCheck.toJson)]

/-- A spec as an object. -/
def Spec.toJson (spec : Spec) : Json := record spec.entries

/-- An object with fixed members and others. -/
def openRecord (entries : List (String × Option Json)) (others : List (String × String)) : Json :=
  .object fun name => ((entries.lookup name).getD ((others.lookup name).map .text))

/-- `LABEL_MANAGED_BY`. -/
def labelManagedBy : String := "app.kubernetes.io/managed-by"

/-- `LABEL_MANAGED_BY_VALUE`. -/
def labelManagedByValue : String := "octavia-arca-driver"

/-- The labels of the driver. -/
def Labels.entries (labels : Labels) : List (String × Option Json) :=
  [(labelManagedBy, labels.managedBy.map .text),
    ("arca.io/octavia-loadbalancer-id-hash", labels.lbIDHash.map .text),
    ("arca.io/octavia-listener-id-hash", labels.listenerIDHash.map .text),
    ("arca.io/octavia-pool-id-hash", labels.poolIDHash.map .text)]

/-- All labels. -/
def Labels.toJson (labels : Labels) : Json := openRecord labels.entries labels.others

/-- The labels that hold hashes of identifiers. -/
def managedLabels : List String :=
  ["arca.io/octavia-loadbalancer-id-hash", "arca.io/octavia-listener-id-hash",
    "arca.io/octavia-pool-id-hash"]

/-- The annotations that the driver removes where it leaves them out. -/
def managedAnnotations : List String :=
  ["arca.io/octavia-loadbalancer-id", "arca.io/octavia-listener-id", "arca.io/octavia-pool-id",
    "arca.io/octavia-healthmonitor-id", "arca.io/octavia-project-id",
    "arca.io/octavia-member-map", "arca.io/octavia-draining-member-ids",
    "arca.io/octavia-loadbalancer-admin-state-up", "arca.io/octavia-listener-admin-state-up"]

section Texts

variable (texts : AnnotationTexts) (python : Python)

/-- The values of the driver's annotations. -/
def Annotations.values (annotations : Annotations) : List (Option Json) :=
  [annotations.lbID.map .text, annotations.listenerID.map .text, annotations.poolID.map .text,
    annotations.hmID.map .text, annotations.projectID.map .text,
    annotations.memberMap.map fun memberMap => .text (texts.memberMap memberMap),
    annotations.drainingMemberIDs.map fun ids => .text (texts.draining ids),
    annotations.lbAdminStateUp.map .text, annotations.listenerAdminStateUp.map .text]

/-- The driver's annotations. -/
def Annotations.entries (annotations : Annotations) : List (String × Option Json) :=
  managedAnnotations.zip (annotations.values texts)

/-- All annotations. -/
def Annotations.toJson (annotations : Annotations) : Json :=
  openRecord (annotations.entries texts) annotations.others

/-- The object as far as patches see it. -/
def VirtualIP.toJson (vip : VirtualIP) : Json :=
  record [
    ("metadata", some (record [
      ("name", some (.text vip.name)),
      ("resourceVersion", some (.text (toString vip.resourceVersion))),
      ("labels", some vip.labels.toJson),
      ("annotations", some (vip.annotations.toJson texts))])),
    ("spec", some vip.spec.toJson)]

/-! ## The body of `update_virtualip` -/

/-- `_merge_patch_spec`: an optional field that is left out is removed. -/
def mergePatchSpec (spec : Json) : Json :=
  .object fun name =>
    if name ∈ ["dscp", "healthCheck"] ∧ (spec.member name).isNone then some .null
    else spec.member name

/-- `_merge_patch_annotations`: a managed annotation that is left out is removed. -/
def mergePatchAnnotations (current annotations : Json) : Json :=
  .object fun name =>
    if name ∈ managedAnnotations ∧ (current.member name).isSome ∧ (annotations.member name).isNone
    then some .null
    else annotations.member name

/-- `_identity_labels`. -/
def identityLabels (annotations : Annotations) : List (String × Option String) :=
  managedLabels.zip
    [(given annotations.lbID).map python.identityLabel,
      (given annotations.listenerID).map python.identityLabel,
      (given annotations.poolID).map python.identityLabel]

/-- `_managed_label_patch`. -/
def managedLabelPatch (current : Json) (annotations : Annotations) : Json :=
  .object fun name =>
    if name = labelManagedBy then some (.text labelManagedByValue)
    else
      match ((identityLabels python annotations).lookup name).join with
      | some value => some (.text value)
      | none => if name ∈ managedLabels ∧ (current.member name).isSome then some .null else none

/-- The body, with the object that the closure was run on as `current`. -/
def updateBody (current : VirtualIP) (draft : Draft) : Json :=
  record [
    ("metadata", some (record [
      ("resourceVersion", some (.text (toString current.resourceVersion))),
      ("labels", some (managedLabelPatch python current.labels.toJson draft.annotations)),
      ("annotations", some (mergePatchAnnotations (current.annotations.toJson texts)
        (draft.annotations.toJson texts)))])),
    ("spec", some (mergePatchSpec draft.spec.toJson))]

end Texts

/-! ## The outcome as a VirtualIP -/

/-- What is left under a key that the driver removes where it has seen it. -/
def kept {α : Type} (seen current desired : Option α) : Option α :=
  desired.or (if seen.isSome then none else current)

/-- Merge two values where both are there. -/
def mergeWith {α : Type} (merge : α → α → α) : Option α → Option α → Option α
  | some old, some new => some (merge old new)
  | old, new => new.or old

/-- What a patch makes of an HTTP section. -/
def HttpCheck.merge (old new : HttpCheck) : HttpCheck where
  port := new.port.or old.port
  path := new.path.or old.path
  method := new.method.or old.method
  host := new.host.or old.host
  headers := mergeWith (fun old new => new ++ old) old.headers new.headers
  expectedCodes := new.expectedCodes.or old.expectedCodes
  skipTLSVerify := new.skipTLSVerify.or old.skipTLSVerify

/-- What a patch makes of a TCP section. -/
def TcpCheck.merge (old new : TcpCheck) : TcpCheck where
  port := new.port.or old.port
  send := new.send.or old.send
  expectedResponse := new.expectedResponse.or old.expectedResponse

/-- What a patch makes of a health check. -/
def HealthCheck.merge (old new : HealthCheck) : HealthCheck where
  type := new.type.or old.type
  intervalSeconds := new.intervalSeconds.or old.intervalSeconds
  timeoutSeconds := new.timeoutSeconds.or old.timeoutSeconds
  riseCount := new.riseCount.or old.riseCount
  fallCount := new.fallCount.or old.fallCount
  http := mergeWith HttpCheck.merge old.http new.http
  tcp := mergeWith TcpCheck.merge old.tcp new.tcp

/-- What a patch makes of a spec. -/
def Spec.merge (old new : Spec) : Spec where
  address := new.address.or old.address
  port := new.port.or old.port
  protocol := new.protocol.or old.protocol
  encapType := new.encapType.or old.encapType
  dscp := new.dscp
  backends := new.backends.or old.backends
  healthCheck := new.healthCheck.bind fun check =>
    mergeWith HealthCheck.merge old.healthCheck (some check)

/-- What a patch makes of annotations of which the driver has `seen` some. -/
def Annotations.merge (seen old new : Annotations) : Annotations where
  lbID := kept seen.lbID old.lbID new.lbID
  listenerID := kept seen.listenerID old.listenerID new.listenerID
  poolID := kept seen.poolID old.poolID new.poolID
  hmID := kept seen.hmID old.hmID new.hmID
  projectID := kept seen.projectID old.projectID new.projectID
  memberMap := kept seen.memberMap old.memberMap new.memberMap
  drainingMemberIDs := kept seen.drainingMemberIDs old.drainingMemberIDs new.drainingMemberIDs
  lbAdminStateUp := kept seen.lbAdminStateUp old.lbAdminStateUp new.lbAdminStateUp
  listenerAdminStateUp :=
    kept seen.listenerAdminStateUp old.listenerAdminStateUp new.listenerAdminStateUp
  others := new.others ++ old.others

/-- What a patch makes of the labels. -/
def Labels.merge (python : Python) (seen old : Labels) (annotations : Annotations) : Labels where
  managedBy := some labelManagedByValue
  lbIDHash := kept seen.lbIDHash old.lbIDHash ((given annotations.lbID).map python.identityLabel)
  listenerIDHash := kept seen.listenerIDHash old.listenerIDHash
    ((given annotations.listenerID).map python.identityLabel)
  poolIDHash := kept seen.poolIDHash old.poolIDHash
    ((given annotations.poolID).map python.identityLabel)
  others := old.others

/-- The object after the patch, before the API server gives it a new version. -/
def VirtualIP.patched (python : Python) (current seen : VirtualIP) (draft : Draft) : VirtualIP where
  name := current.name
  resourceVersion := seen.resourceVersion
  labels := Labels.merge python seen.labels current.labels draft.annotations
  annotations := Annotations.merge seen.annotations current.annotations draft.annotations
  spec := Spec.merge current.spec draft.spec

/-! ## The outcome is what the merge patch yields -/

section Members

variable {α : Type} {encode : α → Json}

/-- A patch replaces a leaf or leaves it. -/
theorem mergeMember_map_or (leaf : ∀ value, (encode value).isLeaf) (old new : Option α) :
    mergeMember (old.map encode) (new.map encode) = (new.or old).map encode := by
  cases new with
  | none => simp
  | some new => exact Json.mergeMember_leaf (leaf new) _

/-- A key is removed where it was seen and is not wanted any more. -/
theorem mergeMember_kept (leaf : ∀ value, (encode value).isLeaf) (seen old new : Option α) :
    mergeMember (old.map encode)
        (if (seen.map encode).isSome ∧ (new.map encode).isNone then some .null
          else new.map encode) =
      (kept seen old new).map encode := by
  cases new with
  | none => cases seen <;> simp [kept]
  | some new => simpa [kept] using Json.mergeMember_leaf (leaf new) _

/-- Records are merged where both have one. -/
theorem mergeMember_mergeWith {entries : α → List (String × Option Json)} {merge : α → α → α}
    (names : ∀ old new, (entries old).map Prod.fst = (entries new).map Prod.fst)
    (merges : ∀ old new, Json.merged (entries old) (entries new) = entries (merge old new))
    (plain : ∀ value, ∀ entry ∈ entries value, mergeMember none entry.2 = entry.2)
    (old new : Option α) :
    mergeMember (old.map fun value => record (entries value))
        (new.map fun value => record (entries value)) =
      (mergeWith merge old new).map fun value => record (entries value) := by
  cases new with
  | none => cases old <;> simp [mergeWith]
  | some new =>
    rw [Option.map_some, Json.mergeMember_record]
    cases old with
    | none => exact congrArg some (Json.mergePatch_null_record (plain new))
    | some old =>
      refine congrArg some ?_
      rw [Option.map_some, Option.getD_some, Json.mergePatch_records (names old new), merges]

theorem mergeMember_none_map (leaf : ∀ value, (encode value).isLeaf) (value : Option α) :
    mergeMember none (value.map encode) = value.map encode := by
  simpa using mergeMember_map_or leaf none value

end Members

theorem mergeWith_none {α : Type} (merge : α → α → α) (new : Option α) :
    mergeWith merge none new = new := by
  cases new <;> rfl

theorem mergeMember_text (old new : Option String) :
    mergeMember (old.map .text) (new.map .text) = (new.or old).map .text :=
  mergeMember_map_or (fun _ => rfl) old new

theorem mergeMember_number (old new : Option Int) :
    mergeMember (old.map .number) (new.map .number) = (new.or old).map .number :=
  mergeMember_map_or (fun _ => rfl) old new

theorem mergeMember_none_text (new : Option String) :
    mergeMember none (new.map .text) = new.map .text :=
  mergeMember_none_map (fun _ => rfl) new

theorem mergeMember_none_number (new : Option Int) :
    mergeMember none (new.map .number) = new.map .number :=
  mergeMember_none_map (fun _ => rfl) new

/-- Headers are merged name by name. -/
theorem mergePatch_headers {target : Json} {old : List (String × String)}
    (shown : ∀ name, target.member name = (old.lookup name).map .text)
    (new : List (String × String)) :
    mergePatch target (headersJson new) = headersJson (new ++ old) := by
  simp only [headersJson, Json.mergePatch_object, shown, mergeMember_text, List.lookup_append]

theorem mergeMember_headers (old new : Option (List (String × String))) :
    mergeMember (old.map headersJson) (new.map headersJson) =
      (mergeWith (fun old new => new ++ old) old new).map headersJson := by
  cases new with
  | none => cases old <;> simp [mergeWith]
  | some new =>
    rw [Option.map_some, headersJson, mergeMember, ← headersJson]
    cases old with
    | none =>
      have nothing := @mergePatch_headers .null [] (fun _ => rfl) new
      rw [List.append_nil] at nothing
      exact congrArg some nothing
    | some old => exact congrArg some (mergePatch_headers (fun _ => rfl) new)

/-- An HTTP section is merged field by field. -/
theorem HttpCheck.merged_entries (old new : HttpCheck) :
    Json.merged old.entries new.entries = (old.merge new).entries := by
  have codes := @mergeMember_map_or _ (fun codes : List Int => Json.array (codes.map .number))
    (fun _ => rfl) old.expectedCodes new.expectedCodes
  have skip := @mergeMember_map_or _ Json.bool (fun _ => rfl) old.skipTLSVerify new.skipTLSVerify
  simp only [Json.merged, entries, merge, List.zipWith, mergeMember_text, mergeMember_number,
    mergeMember_headers, codes, skip]

theorem TcpCheck.merged_entries (old new : TcpCheck) :
    Json.merged old.entries new.entries = (old.merge new).entries := by
  simp only [Json.merged, entries, merge, List.zipWith, mergeMember_text, mergeMember_number]

theorem HttpCheck.plain (check : HttpCheck) :
    ∀ entry ∈ check.entries, mergeMember none entry.2 = entry.2 := by
  have headers := mergeMember_headers none check.headers
  rw [Option.map_none, mergeWith_none] at headers
  have codes := @mergeMember_none_map _ (fun codes : List Int => Json.array (codes.map .number))
    (fun _ => rfl) check.expectedCodes
  have skip := @mergeMember_none_map _ Json.bool (fun _ => rfl) check.skipTLSVerify
  simp [entries, headers, codes, skip, mergeMember_none_text, mergeMember_none_number]

theorem TcpCheck.plain (check : TcpCheck) :
    ∀ entry ∈ check.entries, mergeMember none entry.2 = entry.2 := by
  simp [entries, mergeMember_none_text, mergeMember_none_number]

theorem mergeMember_http (old new : Option HttpCheck) :
    mergeMember (old.map HttpCheck.toJson) (new.map HttpCheck.toJson) =
      (mergeWith HttpCheck.merge old new).map HttpCheck.toJson :=
  mergeMember_mergeWith (fun _ _ => rfl) HttpCheck.merged_entries HttpCheck.plain old new

theorem mergeMember_tcp (old new : Option TcpCheck) :
    mergeMember (old.map TcpCheck.toJson) (new.map TcpCheck.toJson) =
      (mergeWith TcpCheck.merge old new).map TcpCheck.toJson :=
  mergeMember_mergeWith (fun _ _ => rfl) TcpCheck.merged_entries TcpCheck.plain old new

/-- A health check is merged field by field. -/
theorem HealthCheck.merged_entries (old new : HealthCheck) :
    Json.merged old.entries new.entries = (old.merge new).entries := by
  simp only [Json.merged, entries, merge, List.zipWith, mergeMember_text, mergeMember_number,
    mergeMember_http, mergeMember_tcp]

theorem HealthCheck.plain (check : HealthCheck) :
    ∀ entry ∈ check.entries, mergeMember none entry.2 = entry.2 := by
  have http := mergeMember_http none check.http
  have tcp := mergeMember_tcp none check.tcp
  rw [Option.map_none, mergeWith_none] at http tcp
  simp [entries, http, tcp, mergeMember_none_text, mergeMember_none_number]

theorem mergeMember_healthCheck (old new : Option HealthCheck) :
    mergeMember (old.map HealthCheck.toJson) (new.map HealthCheck.toJson) =
      (mergeWith HealthCheck.merge old new).map HealthCheck.toJson :=
  mergeMember_mergeWith (fun _ _ => rfl) HealthCheck.merged_entries HealthCheck.plain old new

/-- **Specs.** A patch leaves the merged spec. -/
theorem Spec.mergePatch_toJson (old new : Spec) :
    mergePatch old.toJson (mergePatchSpec new.toJson) = (old.merge new).toJson := by
  have backends := @mergeMember_map_or _ backendsJson (fun _ => rfl) old.backends new.backends
  rw [mergePatchSpec, Json.mergePatch_object, toJson, toJson, toJson, record]
  congr 1
  funext name
  by_cases known : name ∈ old.entries.map Prod.fst
  · simp only [entries, List.map_cons, List.map_nil, List.mem_cons, List.not_mem_nil,
      or_false] at known
    rcases known with rfl | rfl | rfl | rfl | rfl | rfl | rfl
    · simpa [entries, merge] using mergeMember_text old.address new.address
    · simpa [entries, merge, List.lookup_cons] using mergeMember_number old.port new.port
    · simpa [entries, merge, List.lookup_cons] using mergeMember_text old.protocol new.protocol
    · simpa [entries, merge, List.lookup_cons] using mergeMember_text old.encapType new.encapType
    · cases wanted : new.dscp with
      | none => simp [entries, merge, List.lookup_cons, wanted]
      | some dscp =>
        simpa [entries, merge, List.lookup_cons, wanted] using
          mergeMember_number old.dscp (some dscp)
    · simpa [entries, merge, List.lookup_cons] using backends
    · cases wanted : new.healthCheck with
      | none => simp [entries, merge, List.lookup_cons, wanted]
      | some check =>
        simpa [entries, merge, List.lookup_cons, wanted] using
          mergeMember_healthCheck old.healthCheck (some check)
  · have absent (spec : Spec) : spec.entries.lookup name = .none :=
      Json.lookup_eq_none_of_not_mem known
    have optional : name ∉ ["dscp", "healthCheck"] := by
      intro named
      refine known ?_
      simp only [List.mem_cons, List.not_mem_nil, or_false] at named
      rcases named with rfl | rfl <;> simp [entries]
    simp [absent, optional]

theorem mergeMember_kept_text (seen old new : Option String) :
    mergeMember (old.map .text)
        (if (seen.map Json.text).isSome ∧ (new.map Json.text).isNone then some .null
          else new.map .text) =
      (kept seen old new).map .text :=
  mergeMember_kept (fun _ => rfl) seen old new

section Outcome

variable (texts : AnnotationTexts) (python : Python)

/-- **Annotations.** A patch leaves the merged annotations. -/
theorem Annotations.mergePatch_toJson (seen old new : Annotations) :
    mergePatch (old.toJson texts)
        (mergePatchAnnotations (seen.toJson texts) (new.toJson texts)) =
      (Annotations.merge seen old new).toJson texts := by
  rw [mergePatchAnnotations, Json.mergePatch_object, toJson, toJson, toJson, toJson, openRecord]
  congr 1
  funext name
  by_cases managed : name ∈ managedAnnotations
  · simp only [managed, true_and]
    simp only [managedAnnotations, List.mem_cons, List.not_mem_nil, or_false] at managed
    rcases managed with rfl | rfl | rfl | rfl | rfl | rfl | rfl | rfl | rfl
    · exact mergeMember_kept_text seen.lbID old.lbID new.lbID
    · exact mergeMember_kept_text seen.listenerID old.listenerID new.listenerID
    · exact mergeMember_kept_text seen.poolID old.poolID new.poolID
    · exact mergeMember_kept_text seen.hmID old.hmID new.hmID
    · exact mergeMember_kept_text seen.projectID old.projectID new.projectID
    · exact mergeMember_kept (fun _ => rfl) seen.memberMap old.memberMap new.memberMap
    · exact mergeMember_kept (fun _ => rfl) seen.drainingMemberIDs old.drainingMemberIDs
        new.drainingMemberIDs
    · exact mergeMember_kept_text seen.lbAdminStateUp old.lbAdminStateUp new.lbAdminStateUp
    · exact mergeMember_kept_text seen.listenerAdminStateUp old.listenerAdminStateUp
        new.listenerAdminStateUp
  · have absent (annotations : Annotations) : (annotations.entries texts).lookup name = .none :=
      Json.lookup_eq_none_of_not_mem managed
    simp only [openRecord, Json.member_object, absent, managed, false_and, if_false,
      Option.getD_none, mergeMember_text, merge, List.lookup_append]

/-- **Labels.** A patch leaves the merged labels. -/
theorem Labels.mergePatch_toJson (seen old : Labels) (annotations : Annotations) :
    mergePatch old.toJson (managedLabelPatch python seen.toJson annotations) =
      (Labels.merge python seen old annotations).toJson := by
  rw [managedLabelPatch, Json.mergePatch_object, toJson, toJson, toJson, openRecord]
  congr 1
  funext name
  by_cases driver : name = labelManagedBy
  · rw [if_pos driver, driver]
    exact Json.mergeMember_leaf rfl _
  rw [if_neg driver]
  by_cases managed : name ∈ managedLabels
  · simp only [managed, true_and]
    have identity (seen old new : Option String) :
        mergeMember (old.map .text)
            (match new with
              | some value => some (.text value)
              | none => if (seen.map Json.text).isSome then some .null else none) =
          (kept seen old new).map .text := by
      cases new with
      | none => simpa using mergeMember_kept_text seen old none
      | some value => exact Json.mergeMember_leaf rfl _
    simp only [managedLabels, List.mem_cons, List.not_mem_nil, or_false] at managed
    rcases managed with rfl | rfl | rfl
    · exact identity seen.lbIDHash old.lbIDHash _
    · exact identity seen.listenerIDHash old.listenerIDHash _
    · exact identity seen.poolIDHash old.poolIDHash _
  · have absent (labels : Labels) : labels.entries.lookup name = .none := by
      refine Json.lookup_eq_none_of_not_mem fun member => ?_
      rcases List.mem_cons.mp member with equal | member
      · exact driver equal
      · exact managed member
    have unnamed : (identityLabels python annotations).lookup name = .none :=
      Json.lookup_eq_none_of_not_mem managed
    simp [openRecord, absent, unnamed, managed, merge]

/-- The patch of the metadata does not name the object. -/
theorem mergePatch_metadata {name version next labels annotations : Json}
    {labelPatch annotationPatch labels' annotations' : Json} (leaf : next.isLeaf)
    (labelled : mergeMember (some labels) (some labelPatch) = some labels')
    (annotated : mergeMember (some annotations) (some annotationPatch) = some annotations') :
    mergePatch
        (record [("name", some name), ("resourceVersion", some version), ("labels", some labels),
          ("annotations", some annotations)])
        (record [("resourceVersion", some next), ("labels", some labelPatch),
          ("annotations", some annotationPatch)]) =
      record [("name", some name), ("resourceVersion", some next), ("labels", some labels'),
        ("annotations", some annotations')] := by
  have unnamed : "name" ∉ [("resourceVersion", some next), ("labels", some labelPatch),
      ("annotations", some annotationPatch)].map Prod.fst := by
    simp
  rw [← Json.record_cons_none unnamed, Json.mergePatch_records (by rfl)]
  simp only [Json.merged, List.zipWith, Json.mergeMember_none, Json.mergeMember_leaf leaf,
    labelled, annotated]

/-- **The object after the patch.** -/
theorem VirtualIP.toJson_patched (current seen : VirtualIP) (draft : Draft) :
    mergePatch (current.toJson texts) (updateBody texts python seen draft) =
      (current.patched python seen draft).toJson texts := by
  have into (members : String → Option Json) (target : Json) :
      mergeMember (some target) (some (.object members)) =
        some (mergePatch target (.object members)) := by
    rw [mergeMember, Option.getD_some]
  have metadata := @mergePatch_metadata (.text current.name)
    (.text (toString current.resourceVersion)) (.text (toString seen.resourceVersion)) _ _ _ _ _ _
    rfl
    ((into _ _).trans (congrArg some
      (Labels.mergePatch_toJson python seen.labels current.labels draft.annotations)))
    ((into _ _).trans (congrArg some (Annotations.mergePatch_toJson texts seen.annotations
      current.annotations draft.annotations)))
  have spec := (into _ _).trans (congrArg some (Spec.mergePatch_toJson current.spec draft.spec))
  rw [toJson, updateBody, Json.mergePatch_records (by rfl), Json.merged, toJson]
  refine congrArg record ?_
  simp only [List.zipWith, Json.mergeMember_record, Option.getD_some]
  exact congrArg₂ (fun metadata spec => [("metadata", some metadata), ("spec", spec)]) metadata spec

end Outcome

end ArcaLB.Octavia
