import Mathlib.Data.List.Dedup
import Mathlib.Data.List.DropRight
import ArcaLB.Octavia.Objects

/-!
# The changes that the Octavia driver makes to a VirtualIP

Every operation of the driver changes a VirtualIP through a closure that is run on a copy of
its spec and annotations, and run again on a fresh copy after a conflict.  `Mutation` lists
these closures with what they capture; `Mutation.apply` is what they do.
-/

namespace ArcaLB.Octavia

/-- The copies that a closure works on. -/
structure Draft where
  spec : Spec
  annotations : Annotations
  deriving DecidableEq, Repr

/-- The copies that are made of an object. -/
def VirtualIP.draft (vip : VirtualIP) : Draft := ⟨vip.spec, vip.annotations⟩

/-- A text that Python takes for true. -/
def given (text : Option String) : Option String := text.filter (· ≠ "")

/-- Raise `UnsupportedOptionError`. -/
def fault {α : Type} (user operator : String) : Checked α := .error (.fault user operator)

/-! ## Checks -/

/-- `_valid_port`. -/
def validPort (value : Option Int) : Option Int :=
  value.filter fun port => 1 ≤ port && port ≤ 65535

/-- A port in a message. -/
def shownPort (value : Option Int) : String := (value.map toString).getD "None"

/-- `_validate_required_port`. -/
def validateRequiredPort (value : Option Int) (field : String) : Checked Int :=
  match validPort value with
  | some port => pure port
  | none => fault (field ++ " must be between 1 and 65535.")
      ("Invalid " ++ field ++ ": " ++ shownPort value)

/-- `_map_listener_protocol`. -/
def mapListenerProtocol (protocol : String) : Checked String :=
  match protocolMap protocol with
  | some mapped => pure mapped
  | none => fault ("Protocol " ++ protocol ++ " is not supported.")
      ("Unsupported protocol: " ++ protocol)

/-- `_map_health_monitor_type`. -/
def mapHealthMonitorType (type : String) : Checked String :=
  match healthMonitorTypeMap type with
  | some mapped => pure mapped
  | none => fault ("Health monitor type " ++ type ++ " is not supported by ArcaLB.")
      ("Unsupported health monitor type: " ++ type)

/-- `_member_id`. -/
def Member.memberID (m : Member) : Option String := given m.id

/-- A member in a message. -/
def Member.shown (m : Member) : String := (m.memberID.or m.address).getD "None"

/-- `_validate_member_supported`. -/
def validateMemberSupported (m : Member) : Checked Unit :=
  if m.backup.getD false then
    fault "Backup members are not supported by ArcaLB provider."
      ("VirtualIP does not support Octavia backup member failover semantics for member " ++ m.shown)
  else pure ()

/-- `_vip_port`. -/
def Spec.vipPort (spec : Spec) : Option Int := validPort spec.port

/-- `_validate_member_dataplane_port`. -/
def validateMemberDataplanePort (spec : Spec) (m : Member) : Checked Unit :=
  match validPort m.protocolPort with
  | none => pure ()
  | some protocolPort =>
    match spec.vipPort with
    | none => fault "Cannot determine listener port for member."
        ("VirtualIP spec.port is missing while validating Octavia member " ++ m.shown)
    | some vipPort =>
      if protocolPort = vipPort then pure ()
      else fault "ArcaLB requires member protocol_port to match the listener protocol_port."
        ("ArcaLB maps one VirtualIP port to backend addresses only; member " ++ m.shown ++
          " has protocol_port=" ++ toString protocolPort ++ ", listener port=" ++
          toString vipPort)

/-! ## Members and backends -/

/-- `_member_weight`. -/
def memberWeight (m : Member) : Int :=
  match m.weight with
  | none => 1
  | some weight => if weight = 0 then 0 else min (max weight 1) 100

/-- `_member_backend_weight`. -/
def memberBackendWeight (m : Member) : Int :=
  if memberWeight m = 0 then 1 else memberWeight m

/-- `_member_admin_state_up`. -/
def memberAdminStateUp (m : Member) : Bool := m.adminStateUp.getD true

/-- `_member_is_draining`. -/
def memberIsDraining (m : Member) : Bool :=
  !memberAdminStateUp m || memberWeight m == 0

/-- `_backend_from_member`. -/
def backendFromMember (m : Member) : Backend :=
  ⟨m.address.getD "", memberBackendWeight m, given m.monitorAddress⟩

/-- The loop of `_backends_with_member_state`; no backend is given for a draining member. -/
def backendsWithMemberState (address : String) (backend : Option Backend) :
    List Backend → Bool → List Backend
  | [], replaced => if replaced then [] else backend.toList
  | existing :: rest, replaced =>
    if existing.address ≠ address then
      existing :: backendsWithMemberState address backend rest replaced
    else
      match backend, replaced with
      | some backend, false => backend :: backendsWithMemberState address (some backend) rest true
      | backend, replaced => backendsWithMemberState address backend rest replaced

/-! ## Admin states -/

/-- The text of an admin state annotation. -/
def adminText : Bool → String
  | true => "true"
  | false => "false"

/-- `_set_admin_state_annotation` on the value under its key. -/
def setAdminState (noted : Option String) (adminState : Option Bool) : Option String :=
  (adminState.map adminText).or noted

/-- `_virtualip_admin_state_allows_backends`. -/
def Annotations.adminStateAllowsBackends (annotations : Annotations) : Bool :=
  annotations.lbAdminStateUp != some "false" && annotations.listenerAdminStateUp != some "false"

/-- `_backends_for_admin_state`. -/
def backendsForAdminState (annotations : Annotations) (backends : List Backend) : List Backend :=
  if annotations.adminStateAllowsBackends then backends else []

/-! ## Member map and draining members -/

/-- `_member_map_from_annotations`. -/
def Annotations.memberMapping (annotations : Annotations) : List (String × String) :=
  (annotations.memberMap.getD []).filter fun entry => entry.1 ≠ "" && entry.2 ≠ ""

/-- `_set_member_map_annotation`. -/
def Annotations.setMemberMap (annotations : Annotations) (memberMap : List (String × String)) :
    Annotations :=
  { annotations with memberMap := if memberMap = [] then .none else some memberMap }

/-- `_draining_member_ids_from_annotations`. -/
def Annotations.drainingIDs (annotations : Annotations) : List String :=
  (annotations.drainingMemberIDs.getD []).filter (· ≠ "")

/-- `_set_draining_member_ids_annotation`. -/
def Annotations.setDrainingIDs (annotations : Annotations) (ids : List String) : Annotations :=
  let ids := ids.filter (· ≠ "")
  { annotations with drainingMemberIDs := if ids = [] then .none else some ids }

/-- `d[key] = value`. -/
def dictSet (key value : String) : List (String × String) → List (String × String)
  | [] => [(key, value)]
  | entry :: rest => if entry.1 = key then (key, value) :: rest else entry :: dictSet key value rest

/-- `s.add(id)`, with the set as a list without repetitions. -/
def setAdd (id : String) (ids : List String) : List String :=
  if id ∈ ids then ids else ids ++ [id]

/-- `_remember_member_mapping`. -/
def rememberMemberMapping (annotations : Annotations) (m : Member) : Annotations :=
  match m.memberID, given m.address with
  | some id, some address => annotations.setMemberMap (dictSet id address annotations.memberMapping)
  | _, _ => annotations

/-- `_set_member_draining_state`. -/
def setMemberDrainingState (annotations : Annotations) (m : Member) (isDraining : Bool) :
    Annotations :=
  match m.memberID with
  | none => annotations
  | some id => annotations.setDrainingIDs
      (if isDraining then setAdd id annotations.drainingIDs
        else annotations.drainingIDs.filter (· ≠ id))

/-- The ids that `_forget_member_mapping` removes. -/
def forgottenIDs (annotations : Annotations) (m : Member) : List String :=
  let memberMap := annotations.memberMapping
  let byAddress := match given m.address with
    | some address => (memberMap.filter fun entry => entry.2 = address).map Prod.fst
    | none => []
  match m.memberID with
  | some id => if id ∈ memberMap.map Prod.fst then [id] else byAddress
  | none => byAddress

/-- `_forget_member_mapping` on the annotations. -/
def forgetMemberMapping (annotations : Annotations) (m : Member) : Annotations :=
  let removed := forgottenIDs annotations m
  if removed = [] then annotations
  else annotations.setMemberMap (annotations.memberMapping.filter fun entry => entry.1 ∉ removed)

/-- `_member_delete_address`. -/
def memberDeleteAddress (octavia : Database) (annotations : Annotations) (m : Member) :
    Option String :=
  match given m.address, m.memberID with
  | some address, _ => some address
  | none, none => none
  | none, some id =>
    match annotations.memberMapping.lookup id with
    | some address => some address
    | none => given ((octavia.member id).bind Member.address)

/-- `_discard_draining_member_ids`. -/
def discardDrainingIDs (annotations : Annotations) (ids : List String) : Annotations :=
  annotations.setDrainingIDs (annotations.drainingIDs.filter (· ∉ ids))

/-- `_clear_pool_association`. -/
def clearPoolAssociation (draft : Draft) : Draft where
  spec := { draft.spec with backends := some [], healthCheck := none }
  annotations := { draft.annotations with
    poolID := none, hmID := none, memberMap := none, drainingMemberIDs := none }

/-! ## Health checks -/

/-- The members that Octavia lists for a pool. -/
def Database.members (octavia : Database) (poolID : String) : List Member :=
  ((octavia.pool poolID).map Pool.members).getD []

/-- A member with the details that Octavia's record has, if it is given without what is needed. -/
def Database.fetched (octavia : Database) (needed : Bool) (m : Member) : Member :=
  match m.memberID with
  | some id => if needed then (octavia.member id).getD m else m
  | none => m

/-- The member that `_member_probe_port` looks at. -/
def Database.probed (octavia : Database) (m : Member) : Member :=
  let portsMissing := (validPort m.monitorPort).isNone && (validPort m.protocolPort).isNone
  let stateMissing := m.adminStateUp.isNone || m.weight.isNone
  octavia.fetched (portsMissing || stateMissing) m

/-- The member that `_resolved_pool_members` lists. -/
def Database.resolved (octavia : Database) (m : Member) : Member :=
  octavia.fetched ((given m.address).isNone || m.adminStateUp.isNone || m.backup.isNone ||
    m.weight.isNone) m

/-- A pool of Octavia, with its members as `_resolved_pool_members` lists them. -/
def Database.resolvedPool (octavia : Database) (poolID : String) : Option Pool :=
  (octavia.pool poolID).map fun pool =>
    { pool with members := pool.members.map octavia.resolved }

/-- `_resolved_health_monitor`. -/
def resolvedHealthMonitor (octavia : Database) : MonitorEntry → Option HealthMonitor
  | .id hmID => octavia.healthMonitor hmID
  | .object hm =>
    match given hm.id with
    | some hmID =>
      if hm.type.isNone || hm.poolID.isNone then some ((octavia.healthMonitor hmID).getD hm)
      else some hm
    | none => some hm

/-- `_pool_health_monitor`; `none` where the record of the pool says nothing about a monitor. -/
def poolHealthMonitor (octavia : Database) (pool : Option Pool) : Option (Option HealthMonitor) :=
  pool.bind fun pool =>
    match pool.healthmonitor with
    | some entry => some (entry.bind (resolvedHealthMonitor octavia))
    | none => (given pool.healthmonitorID).map octavia.healthMonitor

/-- The port that a member is probed on, unless it is draining. -/
def Member.livePort (m : Member) : Option Int :=
  if memberIsDraining m then none else (validPort m.monitorPort).or (validPort m.protocolPort)

/-- `_member_probe_port`. -/
def memberProbePort (octavia : Database) (m : Member) : Option Int := (octavia.probed m).livePort

/-- What the user is told of members with different ports. -/
def mixedPortsFault : String :=
  "ArcaLB health checks require all pool members to use the same monitor/protocol port."

/-- `_resolve_health_check_port`, with the members that `_pool_members` lists. -/
def resolveHealthCheckPort (octavia : Database) (poolID : String) (vipSpec : Spec)
    (members : List Member) : Checked Int :=
  match (members.filterMap (memberProbePort octavia)).dedup with
  | [port] => pure port
  | [] =>
    match vipSpec.vipPort with
    | some port => pure port
    | none => fault "Cannot determine health monitor probe port."
        ("No member monitor/protocol port or listener port found for pool " ++ poolID)
  | ports => fault mixedPortsFault
      ("Pool " ++ poolID ++ " has multiple health check ports: " ++
        ", ".intercalate ((ports.mergeSort (· ≤ ·)).map toString))

/-- `str.isspace` on one character. -/
def isSpace (c : Char) : Bool :=
  (9 ≤ c.toNat && c.toNat ≤ 13) || (28 ≤ c.toNat && c.toNat ≤ 32) ||
    (0x2000 ≤ c.toNat && c.toNat ≤ 0x200a) ||
    c.toNat ∈ [0x85, 0xa0, 0x1680, 0x2028, 0x2029, 0x202f, 0x205f, 0x3000]

/-- `str.strip`. -/
def strip (text : List Char) : List Char := (text.dropWhile isSpace).rdropWhile isSpace

section Python

variable (python : Python)

/-- `_expected_codes_error`. -/
def expectedCodesError {α : Type} (codes : String) : Checked α :=
  fault ("Health monitor expected_codes must contain HTTP status codes or ascending ranges " ++
    "between 100 and 599.") ("Invalid expected_codes: " ++ codes)

/-- `_validate_expected_code`. -/
def validateExpectedCode (codes : String) (code : Int) : Checked Unit :=
  if 100 ≤ code ∧ code ≤ 599 then pure () else expectedCodesError codes

/-- One round of the loop of `_parse_expected_codes`. -/
def parseExpectedCodesPart (codes : String) (part : List Char) : Checked (List Int) :=
  let part := strip part
  if part = [] then expectedCodesError codes
  else if '-' ∈ part then
    match python.int (String.ofList (part.takeWhile (· ≠ '-'))),
        python.int (String.ofList (part.dropWhile (· ≠ '-')).tail) with
    | some first, some last =>
      if last < first then expectedCodesError codes
      else do
        validateExpectedCode codes first
        validateExpectedCode codes last
        pure ((List.range (last - first + 1).toNat).map fun step => first + step)
    | _, _ => expectedCodesError codes
  else
    match python.int (String.ofList part) with
    | some code => do
        validateExpectedCode codes code
        pure [code]
    | none => expectedCodesError codes

/-- `_parse_expected_codes`. -/
def parseExpectedCodes (codes : String) : Checked (List Int) :=
  if strip codes.toList = [] then pure [200]
  else do
    let parsed ← (codes.toList.splitOn ',').mapM (parseExpectedCodesPart python codes)
    pure (if parsed.flatten = [] then [200] else parsed.flatten)

/-- `_build_health_check`; the pool is the one that the monitor names, or else `poolID`. -/
def buildHealthCheck (octavia : Database) (poolID : String) (hm : HealthMonitor) (vipSpec : Spec) :
    Checked HealthCheck := do
  let type ← mapHealthMonitorType (hm.type.getD "TCP")
  let pool := hm.poolID.getD poolID
  let check : HealthCheck :=
    ⟨some type, some (hm.delay.getD 5), some (hm.timeout.getD 3), some (hm.maxRetries.getD 3),
      some (hm.maxRetriesDown.getD 2), none, none⟩
  if type ∈ ["http", "https"] then
    let port ← resolveHealthCheckPort octavia pool vipSpec (octavia.members pool)
    let codes ← parseExpectedCodes python (hm.expectedCodes.getD "200")
    let method := hm.httpMethod.getD "GET"
    pure { check with http := some {
      port := some port
      path := some (hm.urlPath.getD "/")
      method := some (if method ∈ ["GET", "HEAD", "POST"] then method else "GET")
      host := given hm.domainName
      headers := none
      expectedCodes := some codes
      skipTLSVerify := none } }
  else if type ∈ ["tcp", "tls-hello"] then
    let port ← resolveHealthCheckPort octavia pool vipSpec (octavia.members pool)
    pure { check with tcp := some ⟨some port, none, none⟩ }
  else pure check

/-- `_refresh_health_check_port`, with the members it looks at. -/
def refreshHealthCheckPort (octavia : Database) (poolID : String) (vipSpec : Spec)
    (members : List Member) (spec : Spec) : Checked Spec :=
  match spec.healthCheck with
  | none => pure spec
  | some check =>
    if check.type ∈ [some "http", some "https"] then do
      let port ← resolveHealthCheckPort octavia poolID vipSpec members
      let http := check.http.getD ⟨none, none, none, none, none, none, none⟩
      let http := { http with port := some port }
      pure { spec with healthCheck := some { check with http := some http } }
    else if check.type ∈ [some "tcp", some "tls-hello"] then do
      let port ← resolveHealthCheckPort octavia poolID vipSpec members
      let tcp := check.tcp.getD ⟨none, none, none⟩
      let tcp := { tcp with port := some port }
      pure { spec with healthCheck := some { check with tcp := some tcp } }
    else pure spec

/-! ## Addresses -/

/-- `_validate_ip_address`. -/
def validateIPAddress (value field : String) : Checked Unit :=
  if (python.isIPv4 value).isSome then pure ()
  else fault (field ++ " must be a valid IP address.") ("Invalid " ++ field ++ ": " ++ value)

/-- `_is_ipv4_address`. -/
def isIPv4Address (value : String) : Bool := (python.isIPv4 value).getD false

/-- `_validate_member_addresses`. -/
def validateMemberAddresses (m : Member) : Checked Unit :=
  match given m.address with
  | none => fault "Member address is required."
      ("Octavia member address is required for member " ++ m.memberID.getD "<unknown>")
  | some address => do
      validateIPAddress python address "Member address"
      match given m.monitorAddress with
      | some monitorAddress => validateIPAddress python monitorAddress "Member monitor_address"
      | none => pure ()

/-- `_validate_member_address_family`. -/
def validateMemberAddressFamily (spec : Spec) (m : Member) : Checked Unit :=
  let address := m.address.getD "None"
  let encapType := (given spec.encapType).getD "L3DSR"
  let detail := fun family => "Member " ++ m.memberID.getD address ++ " address " ++ address ++
    " must be " ++ family ++ " for encap_type " ++ encapType
  if encapType ∈ ["GRE4", "L3DSR", "NAT4"] ∧ isIPv4Address python address = false then
    fault ("encap_type " ++ encapType ++ " requires IPv4 member addresses.") (detail "IPv4")
  else if encapType ∈ ["GRE6", "NAT6"] ∧ isIPv4Address python address = true then
    fault ("encap_type " ++ encapType ++ " requires IPv6 member addresses.") (detail "IPv6")
  else pure ()

/-! ## Mutations -/

/-- Whose admin state an annotation holds. -/
inductive AdminScope where
  | loadbalancer
  | listener
  deriving DecidableEq, Repr

/-- `_set_admin_state_annotation`. -/
def setAdminStateAnnotation (scope : AdminScope) (adminState : Option Bool)
    (annotations : Annotations) : Annotations :=
  match scope with
  | .loadbalancer =>
    { annotations with lbAdminStateUp := setAdminState annotations.lbAdminStateUp adminState }
  | .listener =>
    { annotations with
      listenerAdminStateUp := setAdminState annotations.listenerAdminStateUp adminState }

/-- What `listener_update` takes from the new listener. -/
structure ListenerChange where
  protocol : Option String
  port : Option Int
  poolID : Option String
  adminState : Option Bool
  deriving DecidableEq, Repr

/-- `prepare_restore_update` of `listener_update`. -/
def ListenerChange.prepare (change : ListenerChange) (draft : Draft) : Draft where
  spec := { draft.spec with
    protocol := change.protocol.or draft.spec.protocol
    port := change.port.or draft.spec.port }
  annotations := setAdminStateAnnotation .listener change.adminState
    { draft.annotations with poolID := change.poolID.or draft.annotations.poolID }

/-- What `listener_update` writes into the object it has found before it runs a closure on it. -/
def ListenerChange.edit (change : ListenerChange) (vip : VirtualIP) : VirtualIP :=
  { vip with
    spec := { vip.spec with
      protocol := change.protocol.or vip.spec.protocol
      port := change.port.or vip.spec.port
      backends := if change.adminState = some false then some [] else vip.spec.backends }
    annotations := { vip.annotations with poolID := change.poolID.or vip.annotations.poolID } }

/-- The `prepare_update` of a restore. -/
inductive Preparation where
  | nothing
  | loadbalancerUp
  | listener (change : ListenerChange)
  deriving DecidableEq, Repr

/-- What a restore does to the copies first. -/
def Preparation.apply : Preparation → Draft → Draft
  | .nothing, draft => draft
  | .loadbalancerUp, draft =>
    { draft with
      annotations := setAdminStateAnnotation .loadbalancer (some true) draft.annotations }
  | .listener change, draft => change.prepare draft

/-- The closures that are run on VirtualIPs, with what they capture. -/
inductive Mutation where
  | adminState (scope : AdminScope) (up clearBackends : Bool)
  | listenerCreate (name listenerID : String) (desired : Draft)
  | listenerUpdate (change : ListenerChange) (poolDetached : Bool)
  | associatePool (poolID : String)
  | poolDelete (poolID : String)
  | memberCreate (poolID : String) (m : Member)
  | memberUpdate (poolID : String) (m : Member)
  | memberDelete (poolID : String) (m : Member)
  | memberBatchUpdate (poolID : String) (members : List Member)
  | restore (poolID : String) (pool : Option Pool) (prepare : Preparation)
  | healthMonitorCreate (poolID : String) (hm : HealthMonitor)
  | healthMonitorDelete (poolID : String)
  | healthMonitorUpdate (poolID : String) (hm : HealthMonitor)
  deriving DecidableEq, Repr

/-- `_ensure_virtualip_pool`. -/
def ensureVirtualIPPool (annotations : Annotations) (poolID : String) : Checked Unit :=
  if annotations.poolID = some poolID then pure () else .error .skipped

/-- `_virtualip_has_pool_state`. -/
def virtualIPHasPoolState (draft : Draft) : Bool :=
  (given draft.annotations.poolID).isSome || (given draft.annotations.hmID).isSome ||
    draft.annotations.memberMap.isSome || draft.annotations.drainingMemberIDs.isSome ||
    draft.spec.backendList ≠ [] || draft.spec.healthCheck.isSome

/-- `_listener_core_fields_changed`. -/
def listenerCoreFieldsChanged (current desired : Spec) : Bool :=
  current.address ≠ desired.address || current.port ≠ desired.port ||
    current.protocol ≠ desired.protocol || current.encapType ≠ desired.encapType ||
    current.dscp ≠ desired.dscp

/-- `mutate` of `_create_or_update_listener_virtualip`. -/
def mutateListenerCreate (name listenerID : String) (desired current : Draft) : Checked Draft :=
  if virtualIPHasPoolState current ∧ listenerCoreFieldsChanged current.spec desired.spec then
    fault "An existing listener VirtualIP has pool state with different listener settings."
      ("VirtualIP " ++ name ++ " already has pool state; refusing to change listener core " ++
        "fields during listener_create retry for listener " ++ listenerID)
  else
    let keepsPool : Bool :=
      match given desired.annotations.poolID, given current.annotations.poolID with
      | some wanted, some present => wanted != present
      | none, _ => true
      | some _, none => false
    pure {
      spec := { current.spec with
        address := desired.spec.address.or current.spec.address
        port := desired.spec.port.or current.spec.port
        protocol := desired.spec.protocol.or current.spec.protocol
        encapType := desired.spec.encapType.or current.spec.encapType
        dscp := desired.spec.dscp }
      annotations := { current.annotations with
        lbID := desired.annotations.lbID.or current.annotations.lbID
        listenerID := desired.annotations.listenerID.or current.annotations.listenerID
        projectID := desired.annotations.projectID.or current.annotations.projectID
        listenerAdminStateUp := desired.annotations.listenerAdminStateUp.or
          current.annotations.listenerAdminStateUp
        poolID := if keepsPool then current.annotations.poolID else desired.annotations.poolID } }

/-- `mutate` of `listener_update`. -/
def mutateListenerUpdate (change : ListenerChange) (poolDetached : Bool) (draft : Draft) : Draft :=
  let changed : Draft := { draft with spec := { draft.spec with
    protocol := change.protocol.or draft.spec.protocol
    port := change.port.or draft.spec.port } }
  let changed : Draft :=
    if poolDetached then clearPoolAssociation changed
    else { changed with annotations := { changed.annotations with
      poolID := change.poolID.or changed.annotations.poolID } }
  { spec := if change.adminState = some false then { changed.spec with backends := some [] }
      else changed.spec
    annotations := setAdminStateAnnotation .listener change.adminState changed.annotations }

/-- `mutate` of `_associate_pool_with_virtualip`. -/
def mutateAssociatePool (poolID : String) (draft : Draft) : Checked Draft :=
  match given draft.annotations.poolID with
  | some present => if present = poolID then associate else .error .skipped
  | none => associate
where
  associate : Checked Draft :=
    pure { draft with annotations := { draft.annotations with poolID := some poolID } }

/-- The checks of a member against the VirtualIP that its pool belongs to. -/
def validateMemberOn (spec : Spec) (m : Member) : Checked Unit := do
  validateMemberDataplanePort spec m
  if memberIsDraining m then pure () else validateMemberAddressFamily python spec m

/-- `mutate` of `member_create` and of `member_update`. -/
def mutateMember (octavia : Database) (poolID : String) (m : Member) (draft : Draft) :
    Checked Draft := do
  validateMemberOn python draft.spec m
  let backends := backendsWithMemberState (m.address.getD "")
    (if memberIsDraining m then none else some (backendFromMember m)) draft.spec.backendList false
  let annotations := setMemberDrainingState (rememberMemberMapping draft.annotations m) m
    (memberIsDraining m)
  let spec ← refreshHealthCheckPort octavia poolID draft.spec (m :: octavia.members poolID)
    { draft.spec with backends := some (backendsForAdminState annotations backends) }
  pure ⟨spec, annotations⟩

/-- `mutate` of `member_delete`. -/
def mutateMemberDelete (octavia : Database) (poolID : String) (m : Member) (draft : Draft) :
    Checked Draft :=
  match memberDeleteAddress octavia draft.annotations m with
  | none => fault "Cannot determine member address for deletion."
      ("Octavia member delete payload and VirtualIP annotations do not identify member " ++ m.shown)
  | some address => do
      let backends := draft.spec.backendList.filter (·.address ≠ address)
      let deleted := forgottenIDs draft.annotations m ++ m.memberID.toList
      let annotations := discardDrainingIDs (forgetMemberMapping draft.annotations m) deleted
      let spec ← refreshHealthCheckPort octavia poolID draft.spec (octavia.members poolID)
        { draft.spec with backends := some backends }
      pure ⟨spec, annotations⟩

/-- Backends, member map and draining members that a list of members stands for. -/
structure Listing where
  backends : List Backend
  memberMap : List (String × String)
  draining : List String
  deriving DecidableEq, Repr

/-- One round of the loops over members. -/
def Listing.add (listing : Listing) (m : Member) : Listing where
  backends := if memberIsDraining m then listing.backends
    else listing.backends ++ [backendFromMember m]
  memberMap := match m.memberID, given m.address with
    | some id, some address => dictSet id address listing.memberMap
    | _, _ => listing.memberMap
  draining := match m.memberID, given m.address with
    | some id, some _ => if memberIsDraining m then setAdd id listing.draining else listing.draining
    | _, _ => listing.draining

/-- The loops over members. -/
def listMembers (members : List Member) : Listing := members.foldl Listing.add ⟨[], [], []⟩

/-- The annotations with the member map and the draining members of a list. -/
def Listing.annotate (listing : Listing) (annotations : Annotations) : Annotations :=
  (annotations.setMemberMap listing.memberMap).setDrainingIDs listing.draining

/-- `mutate` of `member_batch_update`. -/
def mutateMemberBatchUpdate (octavia : Database) (poolID : String) (members : List Member)
    (draft : Draft) : Checked Draft := do
  members.forM (validateMemberOn python draft.spec)
  let listing := listMembers members
  let annotations := listing.annotate draft.annotations
  let spec ← refreshHealthCheckPort octavia poolID draft.spec members
    { draft.spec with backends := some (backendsForAdminState annotations listing.backends) }
  pure ⟨spec, annotations⟩

/-- The checks of the loop of `_restore_virtualip_backends` on a member. -/
def validateRestoredMember (spec : Spec) (m : Member) : Checked Unit := do
  validateMemberSupported m
  validateMemberAddresses python m
  validateMemberOn python spec m

/-- The health check that a restore leaves, with the health monitor of the listed pool. -/
def restoreHealthCheck (octavia : Database) (poolID : String) (pool : Option Pool)
    (members : List Member) (draft : Draft) : Checked Draft :=
  match poolHealthMonitor octavia pool with
  | some (some hm) => do
      let check ← buildHealthCheck python octavia poolID hm draft.spec
      pure {
        spec := { draft.spec with healthCheck := some check }
        annotations := { draft.annotations with hmID := (given hm.id).or draft.annotations.hmID } }
  | some none => pure {
      spec := { draft.spec with healthCheck := none }
      annotations := { draft.annotations with hmID := none } }
  | none => do
      let spec ← refreshHealthCheckPort octavia poolID draft.spec
        (members ++ octavia.members poolID) draft.spec
      pure { draft with spec := spec }

/-- `mutate` of `_restore_virtualip_backends`. -/
def mutateRestore (octavia : Database) (poolID : String) (pool : Option Pool)
    (prepare : Preparation) (draft : Draft) : Checked Draft := do
  let draft := prepare.apply draft
  ensureVirtualIPPool draft.annotations poolID
  let members := (pool.map Pool.members).getD []
  -- Members that are listed without an address are passed over.
  let listed := members.filter fun m => (given m.address).isSome
  listed.forM (validateRestoredMember python draft.spec)
  let listing := listMembers listed
  let annotations := listing.annotate draft.annotations
  restoreHealthCheck python octavia poolID pool members {
    spec := { draft.spec with
      backends := some (backendsForAdminState annotations listing.backends) }
    annotations := annotations }

/-- `mutate` of `health_monitor_create` and `health_monitor_update`. -/
def mutateHealthMonitor (octavia : Database) (poolID : String) (hm : HealthMonitor)
    (draft : Draft) : Checked Draft := do
  let check ← buildHealthCheck python octavia poolID hm draft.spec
  pure {
    spec := { draft.spec with healthCheck := some check }
    annotations := { draft.annotations with hmID := hm.id } }

/-- `_update_pool_virtualip_with_retry` guards the closure that it is given. -/
def guarded (poolID : String) (mutate : Draft → Checked Draft) (draft : Draft) : Checked Draft := do
  ensureVirtualIPPool draft.annotations poolID
  mutate draft

/-- What a closure makes of the spec and annotations it is run on. -/
def Mutation.apply (octavia : Database) : Mutation → Draft → Checked Draft
  | .adminState scope up clearBackends, draft => pure {
      spec := if clearBackends then { draft.spec with backends := some [] } else draft.spec
      annotations := setAdminStateAnnotation scope (some up) draft.annotations }
  | .listenerCreate name listenerID desired, draft =>
    mutateListenerCreate name listenerID desired draft
  | .listenerUpdate change poolDetached, draft =>
    pure (mutateListenerUpdate change poolDetached draft)
  | .associatePool poolID, draft => mutateAssociatePool poolID draft
  | .poolDelete poolID, draft =>
    guarded poolID (fun draft => pure (clearPoolAssociation draft)) draft
  | .memberCreate poolID m, draft => guarded poolID (mutateMember python octavia poolID m) draft
  | .memberUpdate poolID m, draft => guarded poolID (mutateMember python octavia poolID m) draft
  | .memberDelete poolID m, draft => guarded poolID (mutateMemberDelete octavia poolID m) draft
  | .memberBatchUpdate poolID members, draft =>
    guarded poolID (mutateMemberBatchUpdate python octavia poolID members) draft
  | .restore poolID pool prepare, draft => mutateRestore python octavia poolID pool prepare draft
  | .healthMonitorCreate poolID hm, draft =>
    guarded poolID (mutateHealthMonitor python octavia poolID hm) draft
  | .healthMonitorDelete poolID, draft =>
    guarded poolID (fun draft => pure {
      spec := { draft.spec with healthCheck := none }
      annotations := { draft.annotations with hmID := none } }) draft
  | .healthMonitorUpdate poolID hm, draft =>
    guarded poolID (mutateHealthMonitor python octavia poolID hm) draft

end Python

end ArcaLB.Octavia
