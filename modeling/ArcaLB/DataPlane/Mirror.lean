import ArcaLB.Library.IPText
import ArcaLB.Library.Transition
import ArcaLB.DataPlane.Agreement

/-!
# VPP mirrors the cache

Any sequence of calls for VIPs with tuples of their own, from any content of VPP and an
empty cache.  VPP holds every cached VIP as desired and with exactly the cached backends,
and a VIP that was applied with exactly the healthy ones, as long as the VIPs that are
adopted look like those that this agent adds: VPP may hold backends and DSCP values that
the comparison with the desired VIP does not see.
-/

namespace ArcaLB.DataPlane

/-- VPP forwards the VIP as desired. -/
structure Forwards (config : VPPConfig) (vip : VirtualIP) (held : LbVip) : Prop where
  encap : encapToAPI (effectiveEncapType config vip) = .ok held.encap
  dscp : effectiveDSCP config (effectiveEncapType config vip) vip = .ok held.dscp
  srvType : serviceTypeToAPI config.serviceType = .ok held.srvType
  targetPort : held.targetPort = UInt16.ofInt vip.spec.port

/-- The backends in VPP are exactly those with the given addresses. -/
structure Exactly (addresses : String → Prop) (ips : List IPAddr) : Prop where
  listed : ∀ addr, addresses addr → ∃ ip ∈ ips, IPAddr.parseIP addr = some ip
  covered : ∀ ip ∈ ips, ∃ addr, addresses addr ∧ IPAddr.parseIP addr = some ip

/-- VPP holds a VIP as desired and with exactly the cached backends, each under one
address. -/
structure Mirrors (config : VPPConfig) (vip : VirtualIP) (backends : BackendMap)
    (held : LbVip) : Prop where
  forwards : Forwards config vip held
  addressed : ∀ addr backend, backends.lookup addr = some backend → backend.address = addr
  exactly : Exactly (· ∈ backends) held.backends
  injective : ∀ first second, first ∈ backends → second ∈ backends →
    IPAddr.parseIP first = IPAddr.parseIP second → first = second
  distinct : held.backends.Nodup

/-- A VIP in VPP that looks like one that the agent added: its backends have texts of their
own, and a DSCP value only where it matters. -/
def Plain (held : LbVip) : Prop :=
  (∀ ip ∈ held.backends, ip.unmap = ip) ∧ (held.encap = .l3dsr ∨ held.dscp = 0)

instance (held : LbVip) : Decidable (Plain held) :=
  inferInstanceAs (Decidable (_ ∧ _))

section Forwarding

variable {config : VPPConfig} {vip : VirtualIP} {held : LbVip}

/-- Only the encapsulation of that name is L3DSR in VPP. -/
theorem encapType_of_l3dsr {encapType : EncapType} (given : encapToAPI encapType = .ok .l3dsr) :
    encapType = .l3dsr := by
  cases encapType <;> simp [encapToAPI] at given ⊢

/-- Only L3DSR sets a DSCP. -/
theorem effectiveDSCP_of_ne {encapType : EncapType} (other : encapType ≠ .l3dsr) :
    effectiveDSCP config encapType vip = .ok 0 :=
  if_pos other

/-- VIPs with equal attributes are forwarded by the same VIPs of VPP. -/
theorem Forwards.same {first second : VirtualIP} {attrs : VipAttributes}
    (one : effectiveVIPAttributes config first = .ok attrs)
    (other : effectiveVIPAttributes config second = .ok attrs)
    (forwards : Forwards config first held) : Forwards config second held := by
  obtain ⟨firstDSCP, firstEq⟩ := attributes_inv one
  obtain ⟨secondDSCP, secondEq⟩ := attributes_inv other
  rw [firstEq] at secondEq
  simp only [VipAttributes.mk.injEq] at secondEq
  obtain ⟨_, port, _, encapType, _⟩ := secondEq
  constructor
  · rw [← encapType]
    exact forwards.encap
  · rw [secondDSCP, ← firstDSCP]
    exact forwards.dscp
  · exact forwards.srvType
  · rw [← port]
    exact forwards.targetPort

/-- VPP forwards the VIP as desired as far as the comparison sees: it looks at the DSCP value
under L3DSR only. -/
structure ForwardsVisibly (config : VPPConfig) (vip : VirtualIP) (held : LbVip) : Prop where
  encap : encapToAPI (effectiveEncapType config vip) = .ok held.encap
  dscp : effectiveEncapType config vip = .l3dsr →
    effectiveDSCP config (effectiveEncapType config vip) vip = .ok held.dscp
  srvType : serviceTypeToAPI config.serviceType = .ok held.srvType
  targetPort : held.targetPort = UInt16.ofInt vip.spec.port

/-- What the comparison of attributes accepts forwards visibly. -/
theorem forwardsVisibly_of_matches (desired : vipDetailsMatchDesired config vip held = true) :
    ForwardsVisibly config vip held := by
  unfold vipDetailsMatchDesired at desired
  cases given : effectiveVIPAttributes config vip with
  | error err => simp [given] at desired
  | ok attrs =>
    obtain ⟨dscp, eq⟩ := attributes_inv given
    have encapType : attrs.encapType = effectiveEncapType config vip := by rw [eq]
    have port : attrs.port = vip.spec.port := by rw [eq]
    have serviceType : attrs.serviceType = config.serviceType := by rw [eq]
    rw [given] at desired
    simp only [encapType, port, serviceType] at desired
    split at desired
    next encap srvType encapEq srvTypeEq =>
      simp only [Bool.and_eq_true, Bool.or_eq_true, beq_iff_eq, bne_iff_ne] at desired
      obtain ⟨⟨⟨sameEncap, sameDSCP⟩, sameSrvType⟩, samePort⟩ := desired
      refine ⟨sameEncap ▸ encapEq, ?_, sameSrvType ▸ srvTypeEq, samePort⟩
      intro steered
      rw [dscp, sameDSCP.resolve_left (not_not.mpr steered)]
    next => cases desired

/-- A VIP that was found as desired forwards as desired, the DSCP value apart. -/
theorem Forwards.of_matches (desired : vipDetailsMatchDesired config vip held = true)
    (plain : Plain held) : Forwards config vip held := by
  have visibly := forwardsVisibly_of_matches desired
  refine ⟨visibly.encap, ?_, visibly.srvType, visibly.targetPort⟩
  by_cases steered : effectiveEncapType config vip = .l3dsr
  · exact visibly.dscp steered
  · rcases plain.2 with l3dsr | zero
    · exact absurd (encapType_of_l3dsr (l3dsr ▸ visibly.encap)) steered
    · rw [zero]
      exact effectiveDSCP_of_ne steered

theorem Forwards.plain_dscp (forwards : Forwards config vip held) :
    held.encap = .l3dsr ∨ held.dscp = 0 := by
  by_cases steered : effectiveEncapType config vip = .l3dsr
  · have encap := forwards.encap
    rw [steered] at encap
    exact .inl (Except.ok.inj encap).symm
  · have dscp := forwards.dscp
    rw [effectiveDSCP_of_ne steered] at dscp
    exact .inr (Except.ok.inj dscp).symm

end Forwarding

section Backends

variable {config : VPPConfig} {vip : VirtualIP} {backends : BackendMap} {held : LbVip}

theorem recorded_address (desired : List BackendSpec) (ip : IPAddr) :
    (recorded desired ip).address = ip.text := by
  unfold recorded
  cases found : desired.reverse.find? fun backend => backend.address = ip.text with
  | none => rfl
  | some backend => simpa using List.find?_some found

/-- The cached form lists the texts of the backends. -/
theorem mem_dumped {desired : List BackendSpec} {ips : List IPAddr} {addr : String} :
    addr ∈ dumped desired ips ↔ ∃ ip ∈ ips, ip.text = addr :=
  (AList.mem_foldl_insert IPAddr.text (recorded desired) ips ∅ addr).trans
    (or_iff_right (AList.notMem_empty addr))

/-- Each backend is cached under its own address. -/
theorem dumped_addressed {desired : List BackendSpec} {ips : List IPAddr} :
    ∀ addr backend, (dumped desired ips).lookup addr = some backend → backend.address = addr :=
  AList.forall_lookup_foldl_insert IPAddr.text (recorded desired) (recorded_address desired) ips
    (by simp)

/-- A plain VIP is mirrored by its dump. -/
theorem Mirrors.found (desired : List BackendSpec)
    (matches_ : vipDetailsMatchDesired config vip held = true) (plain : Plain held)
    (distinct : held.backends.Nodup) : Mirrors config vip (dumped desired held.backends) held := by
  have parsed : ∀ ip ∈ held.backends, IPAddr.parseIP ip.text = some ip := by
    intro ip listed
    rw [IPAddr.parseIP_text, plain.1 ip listed]
  refine ⟨Forwards.of_matches matches_ plain, dumped_addressed, ⟨?_, ?_⟩, ?_, distinct⟩
  · intro addr listed
    obtain ⟨ip, member, rfl⟩ := mem_dumped.mp listed
    exact ⟨ip, member, parsed ip member⟩
  · intro ip member
    exact ⟨ip.text, mem_dumped.mpr ⟨ip, member, rfl⟩, parsed ip member⟩
  · intro first second one other same
    obtain ⟨firstIP, firstMember, rfl⟩ := mem_dumped.mp one
    obtain ⟨secondIP, secondMember, rfl⟩ := mem_dumped.mp other
    rw [parsed _ firstMember, parsed _ secondMember, Option.some.injEq] at same
    rw [same]

variable (mirrors : Mirrors config vip backends held)
include mirrors

/-- Removing a backend from the cache and from VPP. -/
theorem Mirrors.removed {addr : String} {ip : IPAddr} (cached : addr ∈ backends)
    (parsed : IPAddr.parseIP addr = some ip) :
    Mirrors config vip (backends.erase addr)
      { held with backends := held.backends.erase ip } := by
  refine ⟨⟨mirrors.forwards.encap, mirrors.forwards.dscp, mirrors.forwards.srvType,
    mirrors.forwards.targetPort⟩, ?_, ⟨?_, ?_⟩, ?_, mirrors.distinct.erase ip⟩
  · intro other backend found
    by_cases same : other = addr
    · rw [same, AList.lookup_erase] at found
      cases found
    · rw [AList.lookup_erase_ne same] at found
      exact mirrors.addressed other backend found
  · intro other member
    obtain ⟨different, member⟩ := AList.mem_erase.mp member
    obtain ⟨otherIP, listed, otherParsed⟩ := mirrors.exactly.listed other member
    refine ⟨otherIP, (List.mem_erase_of_ne ?_).mpr listed, otherParsed⟩
    intro same
    apply different
    apply mirrors.injective other addr member cached
    rw [otherParsed, parsed, same]
  · intro otherIP listed
    obtain ⟨distinctIP, listed⟩ := mirrors.distinct.mem_erase_iff.mp listed
    obtain ⟨other, member, otherParsed⟩ := mirrors.exactly.covered otherIP listed
    refine ⟨other, AList.mem_erase.mpr ⟨?_, member⟩, otherParsed⟩
    intro same
    rw [same, parsed, Option.some.injEq] at otherParsed
    exact distinctIP otherParsed.symm
  · intro first second one other
    exact mirrors.injective first second (AList.mem_erase.mp one).2 (AList.mem_erase.mp other).2

theorem Mirrors.addressed_insert (backend : BackendSpec) (addr : String) (found : BackendSpec)
    (present : (backends.insert backend.address backend).lookup addr = some found) :
    found.address = addr := by
  by_cases same : addr = backend.address
  · rw [same, AList.lookup_insert, Option.some.injEq] at present
    rw [← present, same]
  · rw [AList.lookup_insert_ne same] at present
    exact mirrors.addressed addr found present

/-- Adding a backend to VPP and to the cache. -/
theorem Mirrors.inserted {backend : BackendSpec} {ip : IPAddr}
    (parsed : IPAddr.parseIP backend.address = some ip) (fresh : ip ∉ held.backends) :
    Mirrors config vip (backends.insert backend.address backend)
      { held with backends := ip :: held.backends } := by
  -- No cached address is read as the new backend.
  have other_ : ∀ addr ∈ backends, IPAddr.parseIP addr ≠ some ip := by
    intro addr member same
    obtain ⟨found, listed, foundParsed⟩ := mirrors.exactly.listed addr member
    rw [same, Option.some.injEq] at foundParsed
    exact fresh (foundParsed ▸ listed)
  refine ⟨⟨mirrors.forwards.encap, mirrors.forwards.dscp, mirrors.forwards.srvType,
    mirrors.forwards.targetPort⟩, mirrors.addressed_insert backend, ⟨?_, ?_⟩, ?_,
    List.nodup_cons.mpr ⟨fresh, mirrors.distinct⟩⟩
  · intro addr member
    rcases (AList.mem_insert _).mp member with rfl | member
    · exact ⟨ip, List.mem_cons_self, parsed⟩
    · obtain ⟨found, listed, foundParsed⟩ := mirrors.exactly.listed addr member
      exact ⟨found, List.mem_cons_of_mem _ listed, foundParsed⟩
  · intro found listed
    rcases List.mem_cons.mp listed with rfl | listed
    · exact ⟨backend.address, (AList.mem_insert _).mpr (.inl rfl), parsed⟩
    · obtain ⟨addr, member, foundParsed⟩ := mirrors.exactly.covered found listed
      exact ⟨addr, (AList.mem_insert _).mpr (.inr member), foundParsed⟩
  · intro first second one other same
    rcases (AList.mem_insert _).mp one with rfl | one <;>
      rcases (AList.mem_insert _).mp other with rfl | other
    · rfl
    · exact absurd (same.symm.trans parsed) (other_ second other)
    · exact absurd (same.trans parsed) (other_ first one)
    · exact mirrors.injective first second one other same

/-- Replacing the settings of a cached backend. -/
theorem Mirrors.updated {backend : BackendSpec} (cached : backend.address ∈ backends) :
    Mirrors config vip (backends.insert backend.address backend) held := by
  have members : ∀ addr, addr ∈ backends.insert backend.address backend ↔ addr ∈ backends := by
    intro addr
    rw [AList.mem_insert]
    exact or_iff_right_of_imp fun same => same ▸ cached
  refine ⟨mirrors.forwards, mirrors.addressed_insert backend, ⟨?_, ?_⟩, ?_, mirrors.distinct⟩
  · intro addr member
    exact mirrors.exactly.listed addr ((members addr).mp member)
  · intro ip listed
    obtain ⟨addr, member, parsed⟩ := mirrors.exactly.covered ip listed
    exact ⟨addr, (members addr).mpr member, parsed⟩
  · intro first second one other
    exact mirrors.injective first second ((members first).mp one) ((members second).mp other)

/-- Mirrored backends have texts of their own. -/
theorem Mirrors.plain : Plain held := by
  refine ⟨?_, mirrors.forwards.plain_dscp⟩
  intro ip listed
  obtain ⟨addr, _, parsed⟩ := mirrors.exactly.covered ip listed
  exact IPAddr.unmap_of_parseIP parsed

omit mirrors

/-- The requests keep VPP a mirror of the cache. -/
theorem fitting_mirrors (config : VPPConfig) :
    Fitting config (Mirrors config) fun held => Plain held ∧ held.backends.Nodup where
  same := fun one other mirrors =>
    ⟨mirrors.forwards.same one other, mirrors.addressed, mirrors.exactly, mirrors.injective,
      mirrors.distinct⟩
  added := by
    intro vip tuple attributes built
    obtain ⟨_, encap, srvType, dscp, targetPort, empty⟩ := vipRequest_inv built
    refine ⟨⟨encap, dscp, srvType, targetPort⟩, by simp, ⟨by simp, by simp [empty]⟩, by simp, ?_⟩
    rw [empty]
    exact List.nodup_nil
  found := fun matches_ admitted => Mirrors.found _ matches_ admitted.1 admitted.2
  admitted := fun mirrors => ⟨mirrors.plain, mirrors.distinct⟩
  removed := by
    intro vip backends held addr backend tuple ip mirrors listed built member
    have parsed := (asRequest_inv built).2
    rw [mirrors.addressed addr backend listed] at parsed
    exact mirrors.removed (AList.lookup_isSome.mp (by simp [listed])) parsed
  inserted := fun mirrors _ built fresh => mirrors.inserted (asRequest_inv built).2 fresh
  updated := fun mirrors cached => mirrors.updated cached

end Backends

end ArcaLB.DataPlane
