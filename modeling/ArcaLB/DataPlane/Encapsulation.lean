import ArcaLB.Api.Validation
import ArcaLB.DataPlane.Runs

/-!
# Requests for accepted VIPs

Validation reads an address with `netip.ParseAddr`, which accepts a zone and keeps an
IPv4-mapped address apart from the IPv4 address.  The data plane reads it with `net.ParseIP`,
which refuses a zone and hands VPP the embedded IPv4 address.  The agent's defaults are known to
the data plane only: where the spec leaves the encapsulation empty, validation checks neither
the families nor the DSCP.
-/

namespace ArcaLB.DataPlane

/-- The defaults are valid, as `parseV2VPPSettings` requires of them. -/
structure VPPConfig.Valid (config : VPPConfig) : Prop where
  encapType : config.encapType.isValid = true
  serviceType : config.serviceType = .clusterIP ∨ config.serviceType = .nodePort
  dscp : 1 ≤ config.dscp ∧ config.dscp ≤ 63

section Families

/-- The family of an address meets what is required of it. -/
def Fits (requiresIPv4 requiresIPv6 ipv4 : Bool) : Prop :=
  (requiresIPv4 = true → ipv4 = true) ∧ (requiresIPv6 = true → ipv4 = false)

/-- The family of a VIP's address fits an encapsulation. -/
def FitsVIP (encapType : EncapType) (ipv4 : Bool) : Prop :=
  Fits encapType.requiresIPv4VIP encapType.requiresIPv6VIP ipv4

/-- The family of a backend's address fits an encapsulation. -/
def FitsBackend (encapType : EncapType) (ipv4 : Bool) : Prop :=
  Fits encapType.requiresIPv4Backend encapType.requiresIPv6Backend ipv4

/-- The requests for a VIP and its backends can be built, and the addresses in them are of the
families that the effective encapsulation needs. -/
structure Deliverable (config : VPPConfig) (vip : VirtualIP) : Prop where
  service : ∃ tuple attributes, vipRequest config vip = .ok (tuple, attributes) ∧
    FitsVIP (effectiveEncapType config vip) tuple.ip.is4
  backends : ∀ backend ∈ vip.spec.backends, ∃ tuple ip, asRequest vip backend = .ok (tuple, ip) ∧
    FitsVIP (effectiveEncapType config vip) tuple.ip.is4 ∧
    FitsBackend (effectiveEncapType config vip) ip.is4

end Families

section Texts

/-- The text has a zone. -/
def zoned (address : String) : Bool :=
  match IPAddr.parseAddr address with
  | some (_, zone) => zone ≠ ""
  | none => false

/-- The text is of an IPv4-mapped IPv6 address. -/
def mapped (address : String) : Bool :=
  match IPAddr.parseAddr address with
  | some (ip, _) => !ip.is4 && ip.unmap.is4
  | none => false

/-- The text is of an IPv4 address or of an IPv4-mapped one. -/
def ipv4OrMapped (address : String) : Bool :=
  match IPAddr.parseAddr address with
  | some (ip, _) => ip.unmap.is4
  | none => false

/-- What validation does not look at is in order: no address has a zone; where the spec names
an IPv6 encapsulation, no address is IPv4-mapped; where it names none, the addresses and the
DSCP suit the agent's default. -/
structure Suited (config : VPPConfig) (spec : VirtualIPSpec) : Prop where
  unzoned : zoned spec.address = false ∧ ∀ backend ∈ spec.backends, zoned backend.address = false
  named : spec.encapType ≠ .unset →
    (spec.encapType.requiresIPv6VIP = true → mapped spec.address = false) ∧
    (spec.encapType.requiresIPv6Backend = true →
      ∀ backend ∈ spec.backends, mapped backend.address = false)
  defaulted : spec.encapType = .unset →
    FitsVIP config.encapType (ipv4OrMapped spec.address) ∧
    (∀ backend ∈ spec.backends, FitsBackend config.encapType (ipv4OrMapped backend.address)) ∧
    (config.encapType = .l3dsr → spec.dscp ≠ some 0)

end Texts

section Reading

variable {address : String} {ip : IPAddr} {zone : String}

/-- `net.ParseIP` reads what `netip.ParseAddr` reads without a zone, unmapped. -/
theorem parseIP_of_parseAddr (parsed : IPAddr.parseAddr address = some (ip, zone)) :
    IPAddr.parseIP address = if zoned address then none else some ip.unmap := by
  unfold IPAddr.parseIP zoned
  rw [parsed]
  by_cases empty : zone = ""
  · subst empty
    rfl
  · split
    next given =>
      cases given
      exact absurd rfl empty
    next => simp [empty]

theorem ipv4OrMapped_of_parseAddr (parsed : IPAddr.parseAddr address = some (ip, zone)) :
    ipv4OrMapped address = ip.unmap.is4 := by
  rw [ipv4OrMapped, parsed]

theorem mapped_of_parseAddr (parsed : IPAddr.parseAddr address = some (ip, zone)) :
    mapped address = (!ip.is4 && ip.unmap.is4) := by
  rw [mapped, parsed]

theorem unmap_is4 (holds : ip.is4 = true) : ip.unmap.is4 = true := by
  cases ip with
  | v4 a b c d => rfl
  | v6 groups => cases holds

/-- The request for an accepted address holds the unmapped address, and there is one exactly
for a text without zone. -/
theorem parseIPAddress_eq_ok {found : IPAddr}
    (parsed : IPAddr.parseAddr address = some (ip, zone)) :
    parseIPAddress address = .ok found ↔ zoned address = false ∧ found = ip.unmap := by
  rw [parseIPAddress, parseIP_of_parseAddr parsed]
  cases zoned address with
  | true => simp
  | false => simp [eq_comm]

end Reading

variable {tuple : Tuple}

section Requests

variable {config : VPPConfig} {vip : VirtualIP}

/-- The family that validation has checked is the one in the request unless the address is
IPv4-mapped. -/
theorem checked_family {address : String} {ip : IPAddr} {zone : String}
    (parsed : IPAddr.parseAddr address = some (ip, zone)) {requiresIPv4 requiresIPv6 : Bool}
    (checked : Fits requiresIPv4 requiresIPv6 ip.is4) :
    Fits requiresIPv4 requiresIPv6 ip.unmap.is4 ↔
      (requiresIPv6 = true → mapped address = false) := by
  rw [mapped_of_parseAddr parsed]
  constructor
  · intro fits needed
    simp [fits.2 needed]
  · intro unmapped
    refine ⟨fun needed => unmap_is4 (checked.1 needed), fun needed => ?_⟩
    simpa [checked.2 needed] using unmapped needed

/-- A spec names a tuple if its address and its protocol are understood. -/
theorem specTuple_eq_ok {spec : VirtualIPSpec} :
    specTuple spec = .ok tuple ↔
      ∃ ip protocol, parseIPAddress spec.address = .ok ip ∧
        protocolNumber spec.protocol = .ok protocol ∧
        tuple = ⟨ip, protocol, UInt16.ofInt spec.port⟩ := by
  constructor
  · intro built
    obtain ⟨ip, parsed, built⟩ := Except.exists_of_bind_eq_ok built
    obtain ⟨protocol, known, built⟩ := Except.exists_of_bind_eq_ok built
    cases built
    exact ⟨ip, protocol, parsed, known, rfl⟩
  · rintro ⟨ip, protocol, parsed, known, rfl⟩
    simp [specTuple, parsed, known, bind, Except.bind]

/-- Every valid encapsulation has an API value. -/
theorem encapToAPI_of_isValid {encapType : EncapType} (valid : encapType.isValid = true) :
    ∃ encap, encapToAPI encapType = .ok encap := by
  cases encapType with
  | unset => cases valid
  | other _ => cases valid
  | _ => exact ⟨_, rfl⟩

theorem effectiveEncapType_named (given : vip.spec.encapType ≠ .unset) :
    effectiveEncapType config vip = vip.spec.encapType :=
  if_neg given

theorem effectiveEncapType_defaulted (left : vip.spec.encapType = .unset) :
    effectiveEncapType config vip = config.encapType :=
  if_pos left

/-- The DSCP of an accepted VIP is missing only where the default encapsulation meets a zero in
the spec. -/
theorem effectiveDSCP_of_checked (valid : config.Valid)
    (checked : Validation.DataPlaneChecked vip.spec) :
    (∃ dscp, effectiveDSCP config (effectiveEncapType config vip) vip = .ok dscp) ↔
      (vip.spec.encapType = .unset → config.encapType = .l3dsr → vip.spec.dscp ≠ some 0) := by
  have default : config.dscp ≠ 0 := by
    intro zero
    have least := valid.dscp.1
    rw [zero] at least
    exact absurd least (by decide)
  unfold effectiveDSCP
  by_cases kind : effectiveEncapType config vip = .l3dsr
  · cases given : vip.spec.dscp with
    | none => simp [kind, default]
    | some dscp =>
      by_cases left : vip.spec.encapType = .unset
      · rw [effectiveEncapType_defaulted left] at kind
        by_cases zero : dscp = 0 <;> simp [effectiveEncapType_defaulted left, kind, left, zero]
      · rw [effectiveEncapType_named left] at kind
        have nonzero : dscp ≠ 0 := (checked.dscp kind dscp given).1
        simp [effectiveEncapType_named left, kind, nonzero]
  · simp only [ne_eq, kind, not_false_eq_true, ↓reduceIte, Except.ok.injEq, exists_eq', true_iff]
    intro left same
    exact absurd ((effectiveEncapType_defaulted left).trans same) kind

/-- A request for a checked VIP fails on the tuple or the DSCP only. -/
theorem vipRequest_eq_ok (valid : config.Valid) (checked : Validation.DataPlaneChecked vip.spec) :
    (∃ attributes, vipRequest config vip = .ok (tuple, attributes)) ↔
      tupleOf vip = .ok tuple ∧
        ∃ dscp, effectiveDSCP config (effectiveEncapType config vip) vip = .ok dscp := by
  constructor
  · rintro ⟨attributes, built⟩
    have parts := vipRequest_inv built
    exact ⟨parts.1, attributes.dscp, parts.2.2.2.1⟩
  · rintro ⟨named, dscp, given⟩
    have known : (effectiveEncapType config vip).isValid = true := by
      by_cases left : vip.spec.encapType = .unset
      · rw [effectiveEncapType_defaulted left]
        exact valid.encapType
      · rw [effectiveEncapType_named left]
        exact checked.encapType.resolve_left left
    obtain ⟨encap, encapEq⟩ := encapToAPI_of_isValid known
    obtain ⟨srvType, srvTypeEq⟩ : ∃ srvType, serviceTypeToAPI config.serviceType = .ok srvType := by
      rcases valid.serviceType with kind | kind <;> rw [kind] <;> exact ⟨_, rfl⟩
    simp [vipRequest, named, encapEq, srvTypeEq, given, bind, Except.bind]

/-- A backend request needs the tuple and a literal address. -/
theorem asRequest_eq_ok {backend : BackendSpec} {ip : IPAddr} :
    asRequest vip backend = .ok (tuple, ip) ↔
      tupleOf vip = .ok tuple ∧ parseIPAddress backend.address = .ok ip := by
  unfold asRequest
  cases tupleOf vip with
  | error err => simp [bind, Except.bind]
  | ok found =>
    cases parseIPAddress backend.address with
    | error err => simp [bind, Except.bind]
    | ok parsed => simp [bind, Except.bind]

end Requests

section Agreement

variable {config : VPPConfig} {vip : VirtualIP}

/-- The tuple of an accepted VIP. -/
theorem tupleOf_eq_ok {ip : IPAddr} {zone : String}
    (parsed : IPAddr.parseAddr vip.spec.address = some (ip, zone)) :
    tupleOf vip = .ok tuple ↔
      zoned vip.spec.address = false ∧ ∃ protocol, protocolNumber vip.spec.protocol = .ok protocol ∧
        tuple = ⟨ip.unmap, protocol, UInt16.ofInt vip.spec.port⟩ := by
  rw [tupleOf, specTuple_eq_ok]
  constructor
  · rintro ⟨found, protocol, read, known, rfl⟩
    obtain ⟨unzoned, rfl⟩ := (parseIPAddress_eq_ok parsed).mp read
    exact ⟨unzoned, protocol, known, rfl⟩
  · rintro ⟨unzoned, protocol, known, rfl⟩
    exact ⟨ip.unmap, protocol, (parseIPAddress_eq_ok parsed).mpr ⟨unzoned, rfl⟩, known, rfl⟩

/-- When an address that validation has checked fits the effective encapsulation. -/
theorem fits_effective_iff (requiresIPv4 requiresIPv6 : EncapType → Bool) {address : String}
    {ip : IPAddr} {zone : String} (parsed : IPAddr.parseAddr address = some (ip, zone))
    (checked : Fits (requiresIPv4 vip.spec.encapType) (requiresIPv6 vip.spec.encapType) ip.is4) :
    Fits (requiresIPv4 (effectiveEncapType config vip))
        (requiresIPv6 (effectiveEncapType config vip)) ip.unmap.is4 ↔
      (vip.spec.encapType ≠ .unset → requiresIPv6 vip.spec.encapType = true →
        mapped address = false) ∧
      (vip.spec.encapType = .unset →
        Fits (requiresIPv4 config.encapType) (requiresIPv6 config.encapType)
          (ipv4OrMapped address)) := by
  by_cases left : vip.spec.encapType = .unset
  · rw [effectiveEncapType_defaulted left, ipv4OrMapped_of_parseAddr parsed]
    simp [left]
  · rw [effectiveEncapType_named left]
    simpa [left] using checked_family parsed checked

/-- **Validation and the data plane.** Under valid defaults, the requests for an accepted VIP
and its backends can be built with the families of the effective encapsulation exactly when
what validation does not look at is in order. -/
theorem accepted_deliverable_iff_suited {rules : TextRules}
    (accepted : Validation.Accepted rules vip) (valid : config.Valid) :
    Deliverable config vip ↔ Suited config vip.spec := by
  have checked := accepted.checked
  obtain ⟨ip, zone, parsed, family⟩ := checked.address
  obtain ⟨protocol, known⟩ : ∃ protocol, protocolNumber vip.spec.protocol = .ok protocol := by
    rcases checked.protocol with kind | kind <;> rw [kind] <;> exact ⟨_, rfl⟩
  have fits := @fits_effective_iff config vip EncapType.requiresIPv4VIP EncapType.requiresIPv6VIP
    _ _ _ parsed family
  have asFits := @fits_effective_iff config vip EncapType.requiresIPv4Backend
    EncapType.requiresIPv6Backend
  constructor
  · rintro ⟨⟨tuple, attributes, built, suits⟩, backends⟩
    obtain ⟨named, dscp⟩ := (vipRequest_eq_ok valid checked).mp ⟨attributes, built⟩
    obtain ⟨unzoned, _, _, rfl⟩ := (tupleOf_eq_ok parsed).mp named
    obtain ⟨unmapped, default⟩ := fits.mp suits
    have each : ∀ backend ∈ vip.spec.backends, zoned backend.address = false ∧
        (vip.spec.encapType ≠ .unset → vip.spec.encapType.requiresIPv6Backend = true →
          mapped backend.address = false) ∧
        (vip.spec.encapType = .unset →
          FitsBackend config.encapType (ipv4OrMapped backend.address)) := by
      intro backend listed
      obtain ⟨asIP, asZone, asParsed, asFamily⟩ := (checked.backends backend listed).address
      obtain ⟨_, found, asBuilt, _, asSuits⟩ := backends backend listed
      obtain ⟨asUnzoned, rfl⟩ := (parseIPAddress_eq_ok asParsed).mp (asRequest_eq_ok.mp asBuilt).2
      exact ⟨asUnzoned, (asFits asParsed asFamily).mp asSuits⟩
    exact
      { unzoned := ⟨unzoned, fun backend listed => (each backend listed).1⟩
        named := fun given => ⟨unmapped given, fun needed backend listed =>
          (each backend listed).2.1 given needed⟩
        defaulted := fun left => ⟨default left, fun backend listed =>
          (each backend listed).2.2 left, (effectiveDSCP_of_checked valid checked).mp dscp left⟩ }
  · intro suited
    have named : tupleOf vip = .ok ⟨ip.unmap, protocol, UInt16.ofInt vip.spec.port⟩ :=
      (tupleOf_eq_ok parsed).mpr ⟨suited.unzoned.1, protocol, known, rfl⟩
    have suits : FitsVIP (effectiveEncapType config vip) ip.unmap.is4 :=
      fits.mpr ⟨fun given => (suited.named given).1, fun left => (suited.defaulted left).1⟩
    have dscp := (effectiveDSCP_of_checked valid checked).mpr fun left =>
      (suited.defaulted left).2.2
    obtain ⟨attributes, built⟩ := (vipRequest_eq_ok valid checked).mpr ⟨named, dscp⟩
    refine ⟨⟨_, attributes, built, suits⟩, ?_⟩
    intro backend listed
    obtain ⟨asIP, asZone, asParsed, asFamily⟩ := (checked.backends backend listed).address
    refine ⟨_, asIP.unmap, asRequest_eq_ok.mpr ⟨named, ?_⟩, suits, ?_⟩
    · exact (parseIPAddress_eq_ok asParsed).mpr ⟨suited.unzoned.2 backend listed, rfl⟩
    · exact (asFits asParsed asFamily).mpr
        ⟨fun given needed => (suited.named given).2 needed backend listed,
          fun left => (suited.defaulted left).2.1 backend listed⟩

end Agreement

section Defaults

/-- The settings of an agent that configures none, `defaultV2VPPSettings`. -/
def defaultV2VPPSettings : VPPConfig where
  encapType := .l3dsr
  dscp := 10
  serviceType := .clusterIP
  newFlowsTableLength := 65536
  stateVerificationInterval := 30 * 1000000000
  failOnAllBackendsDown := false

theorem defaultV2VPPSettings_valid : defaultV2VPPSettings.Valid :=
  ⟨rfl, .inl rfl, by decide⟩

/-- A service that leaves its encapsulation to the agent. -/
def plainWeb (address : String) : VirtualIP :=
  { greWeb with spec := { greWeb.spec with address } }

/-- An IPv4 service can be delivered under the default settings. -/
theorem accepted_deliverable_iff_suited_ipv4 :
    Validation.Accepted .lenient (plainWeb "192.0.2.1") ∧
      Deliverable defaultV2VPPSettings (plainWeb "192.0.2.1") := by
  have accepted : Validation.Accepted .lenient (plainWeb "192.0.2.1") := by decide +kernel
  refine ⟨accepted, (accepted_deliverable_iff_suited accepted defaultV2VPPSettings_valid).mpr ?_⟩
  exact
    { unzoned := by decide +kernel
      named := fun given => absurd rfl given
      defaulted := fun _ => by unfold FitsVIP FitsBackend Fits; decide +kernel }

/-- **An accepted VIP that the default encapsulation cannot serve.** An IPv6 service without an
encapsulation of its own is accepted; under the default settings it is requested as an L3DSR
VIP, which needs an IPv4 address. -/
theorem ipv6_accepted_as_l3dsr :
    Validation.Accepted .lenient (plainWeb "2001:db8::1") ∧ defaultV2VPPSettings.Valid ∧
      ¬ Deliverable defaultV2VPPSettings (plainWeb "2001:db8::1") := by
  refine ⟨by decide +kernel, defaultV2VPPSettings_valid, ?_⟩
  rintro ⟨⟨tuple, attributes, built, fits⟩, _⟩
  have named : tupleOf (plainWeb "2001:db8::1") =
      .ok ⟨.v6 #v[0x2001, 0xdb8, 0, 0, 0, 0, 0, 1], 6, 80⟩ := by decide +kernel
  have requested := (tupleOf_of_vipRequest built).symm.trans named
  cases requested
  exact Bool.noConfusion (fits.1 rfl)

end Defaults

end ArcaLB.DataPlane
