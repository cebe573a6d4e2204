import ArcaLB.Library.IP
import ArcaLB.Api.VirtualIP

/-!
# Validation of VirtualIPs

`internal/virtualip/validation` checks what the schema does not guard in every deployment.
`ValidateDataPlane` is the part that the agent needs before it applies a VirtualIP;
`Validate` checks the health check as well.  The checks run in the order of the source and
stop at the first that fails.
-/

namespace ArcaLB

/-- What `url.Parse` returns of a URL. -/
structure ParsedURL where
  scheme : String
  host : String
  deriving DecidableEq, Repr

/-- The library functions that the checks rely on: `strconv.Quote`, `url.Parse`, and
`ValidHostHeader`, `ValidHeaderFieldName` and `ValidHeaderFieldValue` of `httpguts`. -/
structure TextRules where
  quote : String → String
  parseURL : String → Except String ParsedURL
  validHostHeader : String → Bool
  validHeaderFieldName : String → Bool
  validHeaderFieldValue : String → Bool

/-- Rules that accept every text, for concrete runs. -/
def TextRules.lenient : TextRules where
  quote := fun text => "\"" ++ text ++ "\""
  parseURL := fun _ => .ok ⟨"", ""⟩
  validHostHeader := fun _ => true
  validHeaderFieldName := fun _ => true
  validHeaderFieldValue := fun _ => true

namespace EncapType

/-- The encapsulations the data plane knows. -/
def isValid : EncapType → Bool
  | gre4 | gre6 | l3dsr | nat4 | nat6 => true
  | unset | other _ => false

/-- The encapsulation needs an IPv4 VIP. -/
def requiresIPv4VIP : EncapType → Bool
  | l3dsr | nat4 => true
  | _ => false

/-- The encapsulation needs an IPv6 VIP. -/
def requiresIPv6VIP : EncapType → Bool
  | nat6 => true
  | _ => false

/-- The encapsulation needs IPv4 backends. -/
def requiresIPv4Backend : EncapType → Bool
  | gre4 | l3dsr | nat4 => true
  | _ => false

/-- The encapsulation needs IPv6 backends. -/
def requiresIPv6Backend : EncapType → Bool
  | gre6 | nat6 => true
  | _ => false

end EncapType

namespace Validation

variable (rules : TextRules)

/-- A check with its error. -/
def require (holds : Bool) (err : String) : Except String Unit :=
  if holds then .ok () else .error err

/-- A port of 1 to 65535. -/
def validPort (port : Int) : Bool :=
  decide (1 ≤ port) && decide (port ≤ 65535)

section DataPlane

/-- The VIP's address family fits its encapsulation. -/
def validateEncapAddressFamily (address : String) (encapType : EncapType) : Except String Unit :=
  if encapType = .unset then .ok ()
  else
    match IPAddr.parseAddr address with
    | none => .ok ()
    | some (ip, _) =>
      if encapType.requiresIPv4VIP then
        require ip.is4
          ("spec.encapType " ++ rules.quote encapType.text ++ " requires an IPv4 spec.address")
      else if encapType.requiresIPv6VIP then
        require (!ip.is4)
          ("spec.encapType " ++ rules.quote encapType.text ++ " requires an IPv6 spec.address")
      else .ok ()

/-- The field path of a backend. -/
def backendPath (index : Nat) : String :=
  "spec.backends[" ++ toString index ++ "]"

/-- A backend's address family fits the encapsulation. -/
def validateBackendAddressFamily (index : Nat) (address : String) (ip : IPAddr)
    (encapType : EncapType) : Except String Unit :=
  if encapType = .unset then .ok ()
  else if encapType.requiresIPv4Backend then
    require ip.is4
      (backendPath index ++ ".address " ++ rules.quote address ++ " must be IPv4 for encapType " ++
        rules.quote encapType.text)
  else if encapType.requiresIPv6Backend then
    require (!ip.is4)
      (backendPath index ++ ".address " ++ rules.quote address ++ " must be IPv6 for encapType " ++
        rules.quote encapType.text)
  else .ok ()

/-- The checks of one backend; `seen` are the addresses before it. -/
def validateBackend (encapType : EncapType) (seen : List String) (index : Nat)
    (backend : BackendSpec) : Except String Unit := do
  match IPAddr.parseAddr backend.address with
  | none =>
    .error (backendPath index ++ ".address " ++ rules.quote backend.address ++
      " is not a valid IP")
  | some (ip, _) =>
    validateBackendAddressFamily rules index backend.address ip encapType
    require (backend.monitorAddress = "" || (IPAddr.parseAddr backend.monitorAddress).isSome)
      (backendPath index ++ ".monitorAddress " ++ rules.quote backend.monitorAddress ++
        " is not a valid IP")
    require (!seen.contains backend.address)
      (backendPath index ++ ".address " ++ rules.quote backend.address ++ " is duplicated")
    require (decide (1 ≤ backend.weight) && decide (backend.weight ≤ 100))
      (backendPath index ++ ".weight must be 1-100, got " ++ toString backend.weight)

/-- Checks the backends in order, with the addresses seen so far. -/
def validateBackends (encapType : EncapType) (seen : List String) (index : Nat) :
    List BackendSpec → Except String Unit
  | [] => .ok ()
  | backend :: rest => do
      validateBackend rules encapType seen index backend
      validateBackends encapType (backend.address :: seen) (index + 1) rest

/-- The checks that matter to the data plane. -/
def validateDataPlaneSpec (spec : VirtualIPSpec) : Except String Unit := do
  require (spec.encapType = .unset || spec.encapType.isValid)
    ("spec.encapType " ++ rules.quote spec.encapType.text ++ " is not valid")
  validateEncapAddressFamily rules spec.address spec.encapType
  require (spec.encapType ≠ .l3dsr || spec.dscp.all fun dscp => dscp != 0 && dscp ≤ 63)
    "DSCP must be 1-63 when specified for L3DSR encapsulation"
  validateBackends rules spec.encapType [] 0 spec.backends

/-- Address, port, protocol, then the data-plane checks. -/
def validateCoreSpec (spec : VirtualIPSpec) : Except String Unit := do
  require (IPAddr.parseAddr spec.address).isSome
    ("spec.address " ++ rules.quote spec.address ++ " is not a valid IP address")
  require (validPort spec.port)
    ("spec.port must be between 1 and 65535, got " ++ toString spec.port)
  match spec.protocol with
  | .tcp | .udp => validateDataPlaneSpec rules spec
  | .other text => .error ("spec.protocol must be TCP or UDP, got " ++ rules.quote text)

/-- `ValidateDataPlane`: the core spec only. -/
def validateDataPlane (vip : VirtualIP) : Except String Unit :=
  validateCoreSpec rules vip.spec

end DataPlane

section HealthCheck

/-- The largest `int32`. -/
def maxHealthCheckSeconds : Int := 2147483647

/-- The largest `int32`. -/
def maxHealthCheckCount : Int := 2147483647

/-- The path is relative and has one leading slash. -/
def validateHTTPPath (path : String) : Except String Unit := do
  require (['/'].isPrefixOf path.toList && !(['/', '/'].isPrefixOf path.toList))
    ("spec.healthCheck.http.path must be relative and start with a single slash, got " ++
      rules.quote path)
  match rules.parseURL path with
  | .error err =>
    .error ("spec.healthCheck.http.path " ++ rules.quote path ++ " is not valid: " ++ err)
  | .ok parsed =>
    require (parsed.scheme = "" && parsed.host = "")
      ("spec.healthCheck.http.path must be relative, got " ++ rules.quote path)

/-- Empty, or a valid `Host` header. -/
def validateHTTPHostHeader (host : String) : Except String Unit :=
  require (host = "" || rules.validHostHeader host) "must be a valid HTTP Host header"

/-- A header's name and value are well formed. -/
def validateHTTPHeader (header : String × String) : Except String Unit := do
  require (rules.validHeaderFieldName header.1)
    ("headers contains invalid header name " ++ rules.quote header.1)
  require (rules.validHeaderFieldValue header.2)
    ("headers[" ++ rules.quote header.1 ++ "] contains invalid header value")

/-- The first expected code that is no status code, with its position. -/
def validateExpectedCodes (index : Nat) : List Int → Except String Unit
  | [] => .ok ()
  | code :: rest => do
      require (decide (100 ≤ code) && decide (code ≤ 599))
        ("spec.healthCheck.http.expectedCodes[" ++ toString index ++ "] must be 100-599, got " ++
          toString code)
      validateExpectedCodes (index + 1) rest

/-- The settings of an HTTP or HTTPS probe. -/
def validateHTTPHealthCheck (http : HTTPHealthCheck) : Except String Unit := do
  require (validPort http.port) "spec.healthCheck.http.port must be 1-65535"
  require (["", "GET", "HEAD", "POST"].contains http.method)
    ("spec.healthCheck.http.method must be one of GET, HEAD, POST, got " ++
      rules.quote http.method)
  if http.path ≠ "" then validateHTTPPath rules http.path
  (validateHTTPHostHeader rules http.host).mapError ("spec.healthCheck.http.host " ++ ·)
  (http.headers.forM (validateHTTPHeader rules)).mapError ("spec.healthCheck.http.headers: " ++ ·)
  validateExpectedCodes 0 http.expectedCodes

/-- The probe settings that a type of health check needs. -/
def validateProbe (hc : HealthCheckSpec) : Except String Unit :=
  match hc.type with
  | .http | .https =>
    match hc.http with
    | none => .error ("spec.healthCheck.http is required for type " ++ rules.quote hc.type.text)
    | some http => validateHTTPHealthCheck rules http
  | .tcp | .tlsHello =>
    match hc.tcp with
    | none => .error ("spec.healthCheck.tcp is required for type " ++ rules.quote hc.type.text)
    | some tcp => require (validPort tcp.port) "spec.healthCheck.tcp.port must be 1-65535"
  | .ping => .ok ()
  | .other text => .error ("spec.healthCheck.type " ++ rules.quote text ++ " is not valid")

/-- A duration of the health check in seconds. -/
def validateSeconds (field : String) (seconds : Int) : Except String Unit := do
  require (1 ≤ seconds) ("spec.healthCheck." ++ field ++ " must be >= 1")
  require (seconds ≤ maxHealthCheckSeconds)
    ("spec.healthCheck." ++ field ++ " must be <= " ++ toString maxHealthCheckSeconds)

/-- A threshold of the health check; `ValidateHealthCheckSpec` has no lower bound for it. -/
def validateCount (field : String) (count : Int) : Except String Unit :=
  require (count ≤ maxHealthCheckCount)
    ("spec.healthCheck." ++ field ++ " must be <= " ++ toString maxHealthCheckCount)

/-- The whole health check, if there is one. -/
def validateHealthCheckSpec : Option HealthCheckSpec → Except String Unit
  | none => .ok ()
  | some hc => do
      validateProbe rules hc
      validateSeconds "intervalSeconds" hc.intervalSeconds
      validateSeconds "timeoutSeconds" hc.timeoutSeconds
      require (hc.timeoutSeconds < hc.intervalSeconds)
        "spec.healthCheck.timeoutSeconds must be less than intervalSeconds"
      validateCount "riseCount" hc.riseCount
      validateCount "fallCount" hc.fallCount

/-- What has to hold before a health check is started. -/
def validateHealthCheckRuntimeSpec : Option HealthCheckSpec → Except String Unit
  | none => validateHealthCheckSpec rules none
  | some hc => do
      validateHealthCheckSpec rules (some hc)
      require (1 ≤ hc.riseCount) "spec.healthCheck.riseCount must be >= 1"
      require (1 ≤ hc.fallCount) "spec.healthCheck.fallCount must be >= 1"

end HealthCheck

/-- `Validate`. -/
def validate (vip : VirtualIP) : Except String Unit := do
  validateDataPlane rules vip
  validateHealthCheckSpec rules vip.spec.healthCheck

/-- The admission webhook looks at the new object only. -/
def validateCreate (vip : VirtualIP) : Except String Unit := validate rules vip

/-- A VirtualIP that passes all checks. -/
def Valid (vip : VirtualIP) : Prop :=
  validate rules vip = .ok ()

instance (vip : VirtualIP) : Decidable (Valid rules vip) :=
  inferInstanceAs (Decidable (validate rules vip = .ok ()))

/-- A VirtualIP that the event handler of the agent accepts. -/
def Accepted (vip : VirtualIP) : Prop :=
  validateDataPlane rules vip = .ok ()

instance (vip : VirtualIP) : Decidable (Accepted rules vip) :=
  inferInstanceAs (Decidable (validateDataPlane rules vip = .ok ()))

section Checked

variable {rules : TextRules}

@[simp] theorem require_ok {holds : Bool} {err : String} :
    require holds err = .ok () ↔ holds = true := by
  cases holds <;> simp [require]

/-- Checks in sequence pass when each of them does. -/
theorem seq_ok {first second : Except String Unit} :
    (first >>= fun _ => second) = .ok () ↔ first = .ok () ∧ second = .ok () := by
  cases first <;> simp [bind, Except.bind]

/-- The text of a backend is an IP of the family that the encapsulation needs. -/
structure BackendChecked (encapType : EncapType) (backend : BackendSpec) : Prop where
  address : ∃ ip zone, IPAddr.parseAddr backend.address = some (ip, zone) ∧
    (encapType.requiresIPv4Backend = true → ip.is4 = true) ∧
    (encapType.requiresIPv6Backend = true → ip.is4 = false)

/-- What `ValidateDataPlane` has checked. -/
structure DataPlaneChecked (spec : VirtualIPSpec) : Prop where
  address : ∃ ip zone, IPAddr.parseAddr spec.address = some (ip, zone) ∧
    (spec.encapType.requiresIPv4VIP = true → ip.is4 = true) ∧
    (spec.encapType.requiresIPv6VIP = true → ip.is4 = false)
  port : 1 ≤ spec.port ∧ spec.port ≤ 65535
  protocol : spec.protocol = .tcp ∨ spec.protocol = .udp
  encapType : spec.encapType = .unset ∨ spec.encapType.isValid = true
  dscp : spec.encapType = .l3dsr → ∀ dscp, spec.dscp = some dscp → dscp ≠ 0 ∧ dscp ≤ 63
  backends : ∀ backend ∈ spec.backends, BackendChecked spec.encapType backend
  distinct : (spec.backends.map BackendSpec.address).Nodup

theorem backend_checked {encapType : EncapType} {seen : List String} {index : Nat}
    {backend : BackendSpec} (passed : validateBackend rules encapType seen index backend = .ok ()) :
    BackendChecked encapType backend ∧ backend.address ∉ seen := by
  unfold validateBackend at passed
  cases parsed : IPAddr.parseAddr backend.address with
  | none => simp [parsed] at passed
  | some found =>
    obtain ⟨ip, zone⟩ := found
    simp only [parsed, seq_ok, require_ok] at passed
    obtain ⟨family, _, unseen, _⟩ := passed
    refine ⟨⟨ip, zone, parsed, ?_, ?_⟩, by simpa using unseen⟩
    · intro needed
      unfold validateBackendAddressFamily at family
      have known : encapType ≠ .unset := by
        rintro rfl
        cases needed
      simpa [known, needed] using family
    · intro needed
      unfold validateBackendAddressFamily at family
      have known : encapType ≠ .unset := by
        rintro rfl
        cases needed
      have other : encapType.requiresIPv4Backend = false := by
        cases encapType <;> first | rfl | cases needed
      simpa [known, needed, other] using family

theorem backends_checked {encapType : EncapType} {seen : List String} {index : Nat}
    {backends : List BackendSpec}
    (passed : validateBackends rules encapType seen index backends = .ok ()) :
    (∀ backend ∈ backends, BackendChecked encapType backend ∧ backend.address ∉ seen) ∧
      (backends.map BackendSpec.address).Nodup := by
  induction backends generalizing seen index with
  | nil => simp
  | cons backend rest ih =>
    simp only [validateBackends, seq_ok] at passed
    obtain ⟨first, others⟩ := passed
    obtain ⟨checked, distinct⟩ := ih others
    refine ⟨?_, ?_⟩
    · intro listed member
      obtain rfl | member := List.mem_cons.mp member
      · exact backend_checked first
      · obtain ⟨good, unseen⟩ := checked listed member
        exact ⟨good, fun known => unseen (List.mem_cons_of_mem _ known)⟩
    · rw [List.map_cons, List.nodup_cons]
      refine ⟨?_, distinct⟩
      intro repeated
      obtain ⟨listed, member, same⟩ := List.mem_map.mp repeated
      exact (checked listed member).2 (same ▸ List.mem_cons_self)

/-- **What is accepted has been checked.** -/
theorem Accepted.checked {vip : VirtualIP} (accepted : Accepted rules vip) :
    DataPlaneChecked vip.spec := by
  unfold Accepted validateDataPlane validateCoreSpec at accepted
  simp only [seq_ok, require_ok, validPort, Bool.and_eq_true, decide_eq_true_eq] at accepted
  obtain ⟨parses, port, rest⟩ := accepted
  obtain ⟨⟨ip, zone⟩, parsed⟩ := Option.isSome_iff_exists.mp parses
  have protocol : vip.spec.protocol = .tcp ∨ vip.spec.protocol = .udp := by
    cases known : vip.spec.protocol with
    | tcp => exact .inl rfl
    | udp => exact .inr rfl
    | other text => simp [known] at rest
  have passed : validateDataPlaneSpec rules vip.spec = .ok () := by
    rcases protocol with known | known <;> simpa [known] using rest
  simp only [validateDataPlaneSpec, seq_ok, require_ok] at passed
  obtain ⟨encap, family, dscp, backends⟩ := passed
  obtain ⟨good, distinct⟩ := backends_checked backends
  unfold validateEncapAddressFamily at family
  refine ⟨⟨ip, zone, parsed, ?_, ?_⟩, port, protocol, by simpa using encap, ?_,
    fun backend member => (good backend member).1, distinct⟩
  · intro needed
    have known : vip.spec.encapType ≠ .unset := by
      intro unset
      simp [unset, EncapType.requiresIPv4VIP] at needed
    simpa [known, parsed, needed] using family
  · intro needed
    have known : vip.spec.encapType ≠ .unset := by
      intro unset
      simp [unset, EncapType.requiresIPv6VIP] at needed
    have other : vip.spec.encapType.requiresIPv4VIP = false := by
      cases kind : vip.spec.encapType <;>
        simp_all [EncapType.requiresIPv4VIP, EncapType.requiresIPv6VIP]
    simpa [known, parsed, needed, other] using family
  · intro kind value given
    simpa [kind, given] using dscp

end Checked

end Validation

end ArcaLB
