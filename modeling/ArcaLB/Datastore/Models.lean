import ArcaLB.Api.Validation

/-!
# What the controllers store

The objects of `internal/common/models` and the checks of `internal/common/datastore` that
run before a write.  An absent time is the zero time of the source.  A health check
configuration is a map of dynamic values; the checks look two levels deep, so that is how
deep the model of a value goes.
-/

namespace ArcaLB.Datastore

/-- The errors that callers tell apart. -/
inductive ErrorKind where
  | notFound
  | conflict
  | invalidInput
  | other
  deriving DecidableEq, Repr

/-- An error with its message; wrapping an error keeps its kind. -/
structure Failure where
  kind : ErrorKind
  text : String
  deriving DecidableEq, Repr

namespace Failure

/-- `ErrNotFound`. -/
def notFound : Failure := ⟨.notFound, "resource not found"⟩

/-- `ErrConflict`. -/
def conflict : Failure := ⟨.conflict, "resource conflict"⟩

/-- `ErrInvalidInput`, wrapped with a message. -/
def invalid (message : String) : Failure := ⟨.invalidInput, "invalid input: " ++ message⟩

/-- `fmt.Errorf("context: %w", err)`. -/
def wrap (context : String) (failure : Failure) : Failure :=
  { failure with text := context ++ ": " ++ failure.text }

end Failure

/-- A dynamic value inside a list or an object; `nested` is any deeper list or object. -/
inductive ConfigScalar where
  | null
  | bool (value : Bool)
  | text (value : String)
  | integer (value : Int)
  | fraction (digits : String)
  | nested
  deriving DecidableEq, Repr

/-- A value of a health check configuration. -/
inductive ConfigValue where
  | scalar (value : ConfigScalar)
  | list (values : List ConfigScalar)
  | object (fields : List (String × ConfigScalar))
  deriving DecidableEq, Repr

/-- A VIP's health check as stored. -/
structure HealthCheck where
  id : String
  vipID : String
  type : HCType
  intervalSec : Int
  timeoutSec : Int
  riseCount : Int
  fallCount : Int
  config : Option (List (String × ConfigValue))
  createdAt : Option Time
  updatedAt : Option Time
  deriving DecidableEq, Repr

/-- A backend as stored. -/
structure Backend where
  id : String
  vipID : String
  ip : String
  weight : Int
  createdAt : Option Time
  updatedAt : Option Time
  deriving DecidableEq, Repr

/-- A VIP as stored. -/
structure VIP where
  id : String
  vip : String
  port : Int
  protocol : Protocol
  lbMethod : String
  encapType : EncapType
  dscp : Option UInt8
  createdAt : Option Time
  updatedAt : Option Time
  healthCheck : Option HealthCheck
  backends : List Backend
  deriving DecidableEq, Repr

/-- The address text, port and protocol that identify a service. -/
structure Tuple where
  protocol : Protocol
  port : Int
  address : String
  deriving DecidableEq, Repr

/-- The tuple no two VIPs share. -/
def VIP.tuple (vip : VIP) : Tuple :=
  ⟨vip.protocol, vip.port, vip.vip⟩

/-- `sameVIPTuple`. -/
def sameVIPTuple (first second : VIP) : Bool :=
  first.vip = second.vip && first.port = second.port && first.protocol = second.protocol

/-- `EffectiveEncapType`. -/
def effectiveEncapType (encapType : EncapType) : EncapType :=
  if encapType = .unset then .l3dsr else encapType

/-- A TCP service on port 80, for concrete runs. -/
def VIP.web (id address : String) : VIP where
  id := id
  vip := address
  port := 80
  protocol := .tcp
  lbMethod := "maglev"
  encapType := .unset
  dscp := none
  createdAt := none
  updatedAt := none
  healthCheck := none
  backends := []

/-- A backend, for concrete runs. -/
def Backend.server (id vipID ip : String) : Backend where
  id := id
  vipID := vipID
  ip := ip
  weight := 1
  createdAt := none
  updatedAt := none

/-! ## Checks before a write -/

/-- A check with its error. -/
def require (holds : Bool) (failure : Failure) : Except Failure Unit :=
  if holds then .ok () else .error failure

/-- The longest id, in bytes. -/
def maxResourceIDBytes : Nat := 256

/-- `unicode.IsSpace`. -/
def isSpace (char : Char) : Bool :=
  let code := char.toNat
  decide (9 ≤ code ∧ code ≤ 13 ∨ 0x2000 ≤ code ∧ code ≤ 0x200a) ||
    [0x20, 0x85, 0xa0, 0x1680, 0x2028, 0x2029, 0x202f, 0x205f, 0x3000].contains code

/-- `unicode.IsControl`. -/
def isControl (char : Char) : Bool :=
  decide (char.toNat < 0x20 ∨ 0x7f ≤ char.toNat ∧ char.toNat < 0xa0)

/-- An id that may stand in a key. -/
def validateResourceID (field value : String) : Except Failure Unit := do
  require (value ≠ "") (.invalid (field ++ " is required"))
  require (value.utf8ByteSize ≤ maxResourceIDBytes)
    (.invalid (field ++ " must be at most " ++ toString maxResourceIDBytes ++ " bytes"))
  require (!value.toList.contains '/') (.invalid (field ++ " must not contain '/'"))
  require (!value.toList.any isSpace) (.invalid (field ++ " must not contain whitespace"))
  require (!value.toList.any isControl)
    (.invalid (field ++ " must not contain control characters"))

/-- An id that may be left out. -/
def validateOptionalResourceID (field value : String) : Except Failure Unit :=
  if value = "" then .ok () else validateResourceID field value

section HealthChecks

variable (rules : TextRules)

/-- The largest `int32`. -/
def maxHealthCheckSeconds : Int := 2147483647

/-- The largest `int32`. -/
def maxHealthCheckCount : Int := 2147483647

/-- A bounded field of a health check. -/
def validateRange (field : String) (value bound : Int) : Except String Unit :=
  Validation.require (decide (1 ≤ value) && decide (value ≤ bound))
    ("health check " ++ field ++ " must be between 1 and " ++ toString bound ++ ", got " ++
      toString value)

/-- The check's times and counts. -/
def validateHealthCheckTiming (hc : HealthCheck) : Except String Unit := do
  validateRange "interval_sec" hc.intervalSec maxHealthCheckSeconds
  validateRange "timeout_sec" hc.timeoutSec maxHealthCheckSeconds
  Validation.require (hc.timeoutSec < hc.intervalSec)
    "health check timeout_sec must be less than interval_sec"
  validateRange "rise_count" hc.riseCount maxHealthCheckCount
  validateRange "fall_count" hc.fallCount maxHealthCheckCount

/-- A value of the configuration; a missing key and `null` read the same. -/
def configValue (config : List (String × ConfigValue)) (key : String) : ConfigValue :=
  (config.lookup key).getD (.scalar .null)

/-- The key is absent or holds a string. -/
def optionalString (config : List (String × ConfigValue)) (key : String) : Except String Unit :=
  match configValue config key with
  | .scalar .null | .scalar (.text _) => .ok ()
  | _ => .error (key ++ " must be a string")

/-- The probe's port. -/
def validateConfigPort (config : List (String × ConfigValue)) : Except String Unit :=
  match configValue config "port" with
  | .scalar .null => .error "port is required"
  | .scalar (.integer port) =>
    Validation.require (Validation.validPort port) "port must be an integer between 1 and 65535"
  | _ => .error "port must be an integer between 1 and 65535"

/-- The probe's path. -/
def validateHTTPPathConfig : ConfigValue → Except String Unit
  | .scalar (.text path) =>
    if path = "" then .ok ()
    else
      match rules.parseURL path with
      | .error err => .error ("path must be a valid relative HTTP path: " ++ err)
      | .ok parsed =>
        Validation.require (parsed.scheme = "" && parsed.host = "")
          "path must be a relative HTTP path"
  | _ => .ok ()

/-- `strings.ToUpper` as far as it can yield a letter of a method name: the long s is the one
letter outside ASCII that it maps to one. -/
def toUpper (text : String) : String :=
  text.map fun char => if char = 'ſ' then 'S' else char.toUpper

/-- The probe's method. -/
def validateHTTPMethodConfig : ConfigValue → Except String Unit
  | .scalar (.text method) =>
    Validation.require (method = "" || ["GET", "HEAD", "POST"].contains (toUpper method))
      "method must be one of GET, HEAD, POST"
  | _ => .ok ()

/-- The probe's `Host` header. -/
def validateHTTPHostHeaderConfig : ConfigValue → Except String Unit
  | .scalar (.text host) =>
    (Validation.validateHTTPHostHeader rules host).mapError ("host_header " ++ ·)
  | _ => .ok ()

/-- One expected status code. -/
def validateExpectedCode : ConfigScalar → Except String Unit
  | .integer code =>
    Validation.require (decide (100 ≤ code) && decide (code ≤ 599))
      "expected_codes must be integers between 100 and 599"
  | _ => .error "expected_codes must be integers between 100 and 599"

/-- The expected status codes. -/
def validateExpectedCodes : ConfigValue → Except String Unit
  | .scalar .null => .ok ()
  | .list codes => codes.forM validateExpectedCode
  | _ => .error "expected_codes must be an array of integers"

/-- One request header. -/
def validateHeader : String × ConfigScalar → Except String Unit
  | (_, .null) => .ok ()
  | (name, .text value) => Validation.validateHTTPHeader rules (name, value)
  | _ => .error "headers values must be strings"

/-- The request headers. -/
def validateHeaders : ConfigValue → Except String Unit
  | .scalar .null => .ok ()
  | .object headers => headers.forM (validateHeader rules)
  | _ => .error "headers must be an object"

/-- The configuration of an HTTP or HTTPS probe. -/
def validateHTTPHealthCheckConfig (config : List (String × ConfigValue)) :
    Except String Unit := do
  optionalString config "path"
  validateHTTPPathConfig rules (configValue config "path")
  optionalString config "method"
  validateHTTPMethodConfig (configValue config "method")
  optionalString config "host_header"
  validateHTTPHostHeaderConfig rules (configValue config "host_header")
  match configValue config "tls_skip_verify" with
  | .scalar .null | .scalar (.bool _) => pure ()
  | _ => .error "tls_skip_verify must be a boolean"
  validateExpectedCodes (configValue config "expected_codes")
  validateHeaders rules (configValue config "headers")

/-- The configuration of a TCP probe. -/
def validateTCPHealthCheckConfig (config : List (String × ConfigValue)) : Except String Unit := do
  optionalString config "send"
  optionalString config "expect"

/-- The configuration, by the check's type. -/
def validateHealthCheckConfig (type : HCType) (config : Option (List (String × ConfigValue))) :
    Except String Unit :=
  match type, config with
  | .ping, _ => .ok ()
  | .other text, _ => .error ("unsupported health check type: " ++ text)
  | _, none => .error ("config is required for " ++ type.text ++ " health checks")
  | _, some config => do
      validateConfigPort config
      match type with
      | .http | .https => validateHTTPHealthCheckConfig rules config
      | .tcp => validateTCPHealthCheckConfig config
      | _ => .ok ()

/-- The checks of an optional health check. -/
def validateHealthCheck : Option HealthCheck → Except Failure Unit
  | none => .ok ()
  | some hc => do
      (validateHealthCheckTiming hc).mapError .invalid
      (validateHealthCheckConfig rules hc.type hc.config).mapError fun err =>
        .invalid ("invalid health check config: " ++ err)

end HealthChecks

section Writes

variable (rules : TextRules)

/-- The VIP's address family fits its encapsulation. -/
def validateVIPAddressFamily (ip : IPAddr) (encapType : EncapType) : Except Failure Unit :=
  if encapType.requiresIPv4VIP then
    require ip.is4 (.invalid ("vip must be IPv4 when encap_type is " ++ encapType.text))
  else if encapType.requiresIPv6VIP then
    require (!ip.is4) (.invalid ("vip must be IPv6 when encap_type is " ++ encapType.text))
  else .ok ()

/-- Everything checked of a VIP before a write. -/
def validateVIPForWrite (vip : VIP) : Except Failure Unit := do
  validateOptionalResourceID "vip id" vip.id
  match IPAddr.parseIP vip.vip with
  | none => .error (.invalid "vip must be a valid IP address")
  | some vipIP =>
    require (Validation.validPort vip.port) (.invalid "vip port must be between 1 and 65535")
    require (vip.protocol = .tcp || vip.protocol = .udp)
      (.invalid "vip protocol must be TCP or UDP")
    require (vip.lbMethod = "" || vip.lbMethod = "maglev")
      (.invalid "vip lb_method is unsupported")
    require (vip.encapType = .unset || vip.encapType.isValid)
      (.invalid "vip encap_type is unsupported")
    let encapType := effectiveEncapType vip.encapType
    validateVIPAddressFamily vipIP encapType
    require (vip.dscp.all (· ≤ 63)) (.invalid "vip dscp must be between 0 and 63")
    require (encapType ≠ .l3dsr || vip.dscp ≠ some 0)
      (.invalid "vip dscp must be between 1 and 63 for L3DSR")
    validateHealthCheck rules vip.healthCheck

/-- A backend's own fields. -/
def validateBackendFieldsForWrite (backend : Backend) : Except Failure Unit := do
  validateOptionalResourceID "backend id" backend.id
  require (IPAddr.parseIP backend.ip).isSome (.invalid "backend ip must be a valid IP address")
  require (decide (1 ≤ backend.weight) && decide (backend.weight ≤ 100))
    (.invalid "backend weight must be between 1 and 100")

/-- A backend's fields and its VIP's id. -/
def validateBackendForWrite (backend : Backend) : Except Failure Unit := do
  validateBackendFieldsForWrite backend
  validateResourceID "backend vip_id" backend.vipID

/-- The address family fits the VIP's encapsulation. -/
def validateBackendIPFamilyForVIP (vip : VIP) (backendIP : String) : Except Failure Unit :=
  match IPAddr.parseIP backendIP with
  | none => .error (.invalid "backend ip must be a valid IP address")
  | some ip =>
    let encapType := effectiveEncapType vip.encapType
    if encapType.requiresIPv4Backend then
      require ip.is4 (.invalid ("backend ip must be IPv4 when encap_type is " ++ encapType.text))
    else if encapType.requiresIPv6Backend then
      require (!ip.is4)
        (.invalid ("backend ip must be IPv6 when encap_type is " ++ encapType.text))
    else .ok ()

/-- The same, for a backend. -/
def validateBackendAddressFamilyForVIP (vip : VIP) (backend : Backend) : Except Failure Unit :=
  validateBackendIPFamilyForVIP vip backend.ip

/-- The same, for all backends. -/
def validateBackendFamiliesForVIP (vip : VIP) (backends : List Backend) : Except Failure Unit :=
  backends.forM (validateBackendAddressFamilyForVIP vip)

end Writes

/-- The address family of the backend is the one that the encapsulation of the VIP needs. -/
def FamilyAllowed (vip : VIP) (backend : Backend) : Prop :=
  ∃ ip, IPAddr.parseIP backend.ip = some ip ∧
    ((effectiveEncapType vip.encapType).requiresIPv4Backend = true → ip.is4 = true) ∧
    ((effectiveEncapType vip.encapType).requiresIPv6Backend = true → ip.is4 = false)

theorem validateBackendAddressFamilyForVIP_eq_ok {vip : VIP} {backend : Backend} :
    validateBackendAddressFamilyForVIP vip backend = .ok () ↔ FamilyAllowed vip backend := by
  unfold validateBackendAddressFamilyForVIP validateBackendIPFamilyForVIP FamilyAllowed
  cases parsed : IPAddr.parseIP backend.ip with
  | none => simp
  | some ip =>
    cases effectiveEncapType vip.encapType <;> cases family : ip.is4 <;>
      simp [EncapType.requiresIPv4Backend, EncapType.requiresIPv6Backend, require, family]

theorem validateBackendFamiliesForVIP_eq_ok {vip : VIP} {backends : List Backend} :
    validateBackendFamiliesForVIP vip backends = .ok () ↔
      ∀ backend ∈ backends, FamilyAllowed vip backend := by
  unfold validateBackendFamiliesForVIP
  induction backends with
  | nil => simp [pure, Except.pure]
  | cons backend rest ih =>
    rw [List.forall_mem_cons, ← ih, ← validateBackendAddressFamilyForVIP_eq_ok]
    change (validateBackendAddressFamilyForVIP vip backend >>= fun _ =>
      rest.forM (validateBackendAddressFamilyForVIP vip)) = .ok () ↔ _
    cases validateBackendAddressFamilyForVIP vip backend with
    | error failure | ok value => simp [bind, Except.bind]

end ArcaLB.Datastore
