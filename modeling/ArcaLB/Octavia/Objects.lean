import Mathlib.Data.List.Basic

/-!
# What the Octavia driver works on

The VirtualIPs of `octavia_arca_driver` and the objects that Octavia passes to it.  A member
of a dictionary that may be missing is an `Option`; a missing member and an empty string are
one where the source does not tell them apart.  The two annotations that hold JSON texts are
the values that these texts stand for.
-/

namespace ArcaLB.Octavia

/-! ## VirtualIPs -/

/-- An entry of `spec.backends`. -/
structure Backend where
  address : String
  weight : Int
  monitorAddress : Option String
  deriving DecidableEq, Repr

/-- `spec.healthCheck.http`. -/
structure HttpCheck where
  port : Option Int
  path : Option String
  method : Option String
  host : Option String
  headers : Option (List (String × String))
  expectedCodes : Option (List Int)
  skipTLSVerify : Option Bool
  deriving DecidableEq, Repr

/-- `spec.healthCheck.tcp`. -/
structure TcpCheck where
  port : Option Int
  send : Option String
  expectedResponse : Option String
  deriving DecidableEq, Repr

/-- `spec.healthCheck`. -/
structure HealthCheck where
  type : Option String
  intervalSeconds : Option Int
  timeoutSeconds : Option Int
  riseCount : Option Int
  fallCount : Option Int
  http : Option HttpCheck
  tcp : Option TcpCheck
  deriving DecidableEq, Repr

/-- The `spec` of a VirtualIP. -/
structure Spec where
  address : Option String
  port : Option Int
  protocol : Option String
  encapType : Option String
  dscp : Option Int
  backends : Option (List Backend)
  healthCheck : Option HealthCheck
  deriving DecidableEq, Repr

/-- `MANAGED_ANNOTATIONS`, and the annotations that are not the driver's. -/
structure Annotations where
  lbID : Option String
  listenerID : Option String
  poolID : Option String
  hmID : Option String
  projectID : Option String
  memberMap : Option (List (String × String))
  drainingMemberIDs : Option (List String)
  lbAdminStateUp : Option String
  listenerAdminStateUp : Option String
  others : List (String × String)
  deriving DecidableEq, Repr

/-- `LABEL_MANAGED_BY`, `MANAGED_LABELS`, and the labels that are not the driver's. -/
structure Labels where
  managedBy : Option String
  lbIDHash : Option String
  listenerIDHash : Option String
  poolIDHash : Option String
  others : List (String × String)
  deriving DecidableEq, Repr

/-- A VirtualIP as the API server holds it. -/
structure VirtualIP where
  name : String
  resourceVersion : Nat
  labels : Labels
  annotations : Annotations
  spec : Spec
  deriving DecidableEq, Repr

/-- No annotation is set. -/
def Annotations.none : Annotations :=
  ⟨.none, .none, .none, .none, .none, .none, .none, .none, .none, []⟩

/-- The backends, of which there may be none. -/
def Spec.backendList (spec : Spec) : List Backend := spec.backends.getD []

/-! ## Objects of Octavia -/

/-- A member of a pool, as a request or a record has it. -/
structure Member where
  id : Option String
  address : Option String
  weight : Option Int
  adminStateUp : Option Bool
  backup : Option Bool
  protocolPort : Option Int
  monitorPort : Option Int
  monitorAddress : Option String
  deriving DecidableEq, Repr

/-- A health monitor.  A setting is there or left out; Octavia gives none of them as `None`. -/
structure HealthMonitor where
  id : Option String
  poolID : Option String
  type : Option String
  delay : Option Int
  timeout : Option Int
  maxRetries : Option Int
  maxRetriesDown : Option Int
  httpMethod : Option String
  urlPath : Option String
  expectedCodes : Option String
  domainName : Option String
  deriving DecidableEq, Repr

/-- What the record of a pool has under `healthmonitor`. -/
inductive MonitorEntry where
  | id (hmID : String)
  | object (hm : HealthMonitor)
  deriving DecidableEq, Repr

/-- A pool as Octavia lists it.  `healthmonitor` is `none` where the record has no such key, and
`some none` where nothing is under it; `healthmonitorID` is what `healthmonitor_id` or
`health_monitor_id` say. -/
structure Pool where
  listenerID : Option String
  loadbalancerID : Option String
  members : List Member
  healthmonitor : Option (Option MonitorEntry)
  healthmonitorID : Option String
  deriving DecidableEq, Repr

/-- What `listener_update` reads of a listener.  `defaultPool` is `some none` where the listener
is given without a default pool, and `none` where nothing is said about it. -/
structure Listener where
  id : String
  protocol : Option String
  protocolPort : Option Int
  adminStateUp : Option Bool
  defaultPool : Option (Option String)
  deriving DecidableEq, Repr

/-- What the driver can ask Octavia for. -/
structure Database where
  pool : String → Option Pool
  member : String → Option Member
  healthMonitor : String → Option HealthMonitor

/-- An Octavia without records. -/
def Database.empty : Database := ⟨fun _ => none, fun _ => none, fun _ => none⟩

/-! ## Ways to stop -/

/-- `UnsupportedOptionError`, `_VirtualIPUpdateSkipped`, or an error of the API server. -/
inductive Stop where
  | fault (user operator : String)
  | skipped
  | api (status : Nat)
  deriving DecidableEq, Repr

/-- What a check or a closure returns or stops with. -/
abbrev Checked (α : Type) := Except Stop α

/-- The library functions that the driver relies on: the family of `ipaddress.ip_address`
(`true` is IPv4), `int` on a text, and the truncated digests of labels. -/
structure Python where
  isIPv4 : String → Option Bool
  int : String → Option Int
  identityLabel : String → String

/-- Python for concrete runs. -/
def Python.plain : Python where
  isIPv4 := fun text => some (!text.toList.contains ':')
  int := fun text => text.toList.foldl (fun number digit =>
    number.bind fun number =>
      if digit.isDigit then some (number * 10 + (digit.toNat - '0'.toNat : Nat)) else none) (some 0)
  identityLabel := fun value => value

/-! ## Constants -/

/-- `PROTOCOL_MAP`. -/
def protocolMap (protocol : String) : Option String :=
  [("TCP", "TCP"), ("UDP", "UDP"), ("HTTP", "TCP"), ("HTTPS", "TCP")].lookup protocol

/-- `HEALTH_MONITOR_TYPE_MAP`. -/
def healthMonitorTypeMap (type : String) : Option String :=
  [("HTTP", "http"), ("HTTPS", "https"), ("TCP", "tcp"), ("PING", "ping"),
    ("TLS-HELLO", "tls-hello")].lookup type

/-- `K8S_UPDATE_MAX_ATTEMPTS`. -/
def updateMaxAttempts : Nat := 5

end ArcaLB.Octavia
