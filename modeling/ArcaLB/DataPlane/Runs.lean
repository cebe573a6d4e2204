import ArcaLB.DataPlane.Mirror

/-!
# Runs of the data plane

Any sequence of calls for any VIPs, each answered in any way and possibly cut off, over
any content of VPP and an empty cache.  No two VIPs have a tuple in common: every tuple
has one owner for the whole run.
-/

namespace ArcaLB.DataPlane

/-- The calls that change the data plane. -/
inductive Operation where
  | apply (vip : VirtualIP) (healthyBackends : List BackendSpec) (now : Time)
  | remove (vip : VirtualIP)
  | recreate (vip : VirtualIP) (healthyBackends : List BackendSpec)

namespace Operation

/-- The VIP of a call. -/
def vip : Operation → VirtualIP
  | apply vip _ _ => vip
  | remove vip => vip
  | recreate vip _ => vip

/-- Carry the call out. -/
def perform (config : VPPConfig) : Operation → Effect VPP String Unit
  | apply vip healthyBackends now => applyVIP config vip healthyBackends now
  | remove vip => removeVIP config vip
  | recreate vip healthyBackends =>
    Effect.mapError VIPRecreateError.text (recreateVIP config vip healthyBackends)

end Operation

/-- A call and VPP's answers to its requests. -/
structure Call where
  operation : Operation
  replies : List Reply

/-- VPP starts with any VIPs, each with a set of backends, and the cache is empty. -/
def calls (config : VPPConfig) : TransitionSystem VPP Call where
  initial := fun vpp =>
    (∀ key, vpp.vips key = none) ∧ (∀ tuple, vpp.addedBy tuple = none) ∧
      ∀ tuple held, vpp.table tuple = some held → held.backends.Nodup
  step := fun vpp call => some (call.operation.perform config (vpp.answered call.replies)).2

/-- The tuple of a VIP is its own. -/
def Owns (owner : Tuple → VIPKey) (key : VIPKey) (vip : VirtualIP) : Prop :=
  ∀ tuple, tupleOf vip = .ok tuple → owner tuple = key

/-- The call is for a VIP with a tuple of its own, and if it applies one that VPP holds as
desired, it is held plainly. -/
def proper (config : VPPConfig) (owner : Tuple → VIPKey) (vpp : VPP) (call : Call) : Prop :=
  match tupleOf call.operation.vip with
  | .error _ => True
  | .ok tuple =>
    owner tuple = call.operation.vip.key ∧
      match call.operation, vpp.table tuple with
      | .apply vip _ _, some held => vipDetailsMatchDesired config vip held = true → Plain held
      | _, _ => True

instance (config : VPPConfig) (owner : Tuple → VIPKey) (vpp : VPP) (call : Call) :
    Decidable (proper config owner vpp call) := by
  unfold proper
  split
  · infer_instance
  · refine @instDecidableAnd _ _ _ ?_
    split <;> infer_instance

section Steps

variable {config : VPPConfig} {owner : Tuple → VIPKey} {vpp : VPP} {vip : VirtualIP}

/-- A proper call is for a VIP with a tuple of its own. -/
theorem owns_of_proper {call : Call} (meets : proper config owner vpp call) :
    Owns owner call.operation.vip.key call.operation.vip := by
  intro tuple named
  unfold proper at meets
  rw [named] at meets
  exact meets.1

/-- Every VIP in VPP has a set of backends. -/
def Distinct (vpp : VPP) : Prop :=
  ∀ tuple held, vpp.table tuple = some held → held.backends.Nodup

/-- What a proper call may adopt is admitted. -/
theorem admitted_of_proper {healthy : List BackendSpec} {now : Time} {replies : List Reply}
    (meets : proper config owner vpp ⟨.apply vip healthy now, replies⟩) (distinct : Distinct vpp) :
    Admitted config (fun held => Plain held ∧ held.backends.Nodup) vip (vpp.answered replies) := by
  intro tuple held named present desired
  change vpp.table tuple = some held at present
  unfold proper at meets
  simp only [Operation.vip, named, present] at meets
  exact ⟨meets.2 desired, distinct tuple held present⟩

/-- VIPs with distinct backends may be written. -/
theorem Distinct.update (distinct : Distinct vpp) {tuple other : Tuple} {written : Option LbVip}
    {held : LbVip} (nodup : ∀ held, written = some held → held.backends.Nodup)
    (present : Function.update vpp.table tuple written other = some held) :
    held.backends.Nodup := by
  by_cases same : other = tuple
  · subst same
    rw [Function.update_self] at present
    exact nodup held present
  · rw [Function.update_of_ne same] at present
    exact distinct other held present

/-- VPP lists every backend of a VIP once. -/
theorem distinct_writeInvariant : WriteInvariant config vip (fun _ => True) Distinct where
  own := trivial
  cached := fun _ _ => trivial
  replies := fun _ distinct => distinct
  drifts := fun _ distinct => distinct
  enters := fun distinct _ => distinct
  adds := by
    intro vpp tuple attributes distinct built other held present
    refine distinct.update ?_ present
    rintro _ ⟨⟩
    rw [(vipRequest_inv built).2.2.2.2.2]
    exact List.nodup_nil
  deletes := by
    intro vpp touched tuple distinct _ _ other held present
    refine distinct.update ?_ present
    rintro _ ⟨⟩
  fills := by
    intro vpp tuple found ip distinct _ listed fresh other held present
    refine distinct.update ?_ present
    rintro _ ⟨⟩
    exact List.nodup_cons.mpr ⟨fresh, distinct tuple found listed⟩
  drains := by
    intro vpp tuple found ip distinct _ listed _ other held present
    refine distinct.update ?_ present
    rintro _ ⟨⟩
    exact (distinct tuple found listed).erase ip

/-- Every cached VIP has a tuple of its own. -/
def Apart (owner : Tuple → VIPKey) (vpp : VPP) : Prop :=
  ∀ key entry, vpp.vips key = some entry → Owns owner key entry.vip

/-- An entry with a tuple of its own keeps the keys apart. -/
theorem Apart.setEntry (apart : Apart owner vpp) {key : VIPKey} {entry : Option VipEntry}
    (owns : ∀ written, entry = some written → Owns owner key written.vip) :
    Apart owner (vpp.setEntry key entry) := by
  intro other written found
  change Function.update vpp.vips key entry other = _ at found
  by_cases same : other = key
  · subst same
    rw [Function.update_self] at found
    exact owns written found
  · rw [Function.update_of_ne same] at found
    exact apart other written found

variable {fits : VirtualIP → BackendMap → LbVip → Prop} {other : VIPKey}

/-- Writing a tuple of another VIP. -/
theorem Agrees.update_other (agrees : Agrees fits other vpp) (apart : Apart owner vpp)
    {key : VIPKey} (distinct : other ≠ key) {tuple : Tuple} (owned : owner tuple = key)
    {table : Tuple → Option LbVip} {addedBy : Tuple → Option VIPKey}
    (elsewhere : ∀ place, place ≠ tuple → table place = vpp.table place)
    (ledger : ∀ place, addedBy place = some other → vpp.addedBy place = some other) :
    Agrees fits other { vpp with table, addedBy } where
  ledger := fun place holder => agrees.ledger place (ledger place holder)
  cached := by
    intro entry found
    obtain ⟨place, held, named, present, fitted⟩ := agrees.cached entry found
    have different : place ≠ tuple := by
      intro same
      apply distinct
      rw [← apart other entry found place named, same, owned]
    exact ⟨place, held, named, (elsewhere place different).trans present, fitted⟩

/-- The cached VIPs have tuples of their own, and those of other keys agree with VPP. -/
structure OthersAgree (owner : Tuple → VIPKey) (fits : VirtualIP → BackendMap → LbVip → Prop)
    (key : VIPKey) (vpp : VPP) : Prop where
  apart : Apart owner vpp
  agrees : ∀ other, other ≠ key → Agrees fits other vpp

/-- A call for one VIP leaves the others and their tuples alone. -/
theorem others_writeInvariant (owns : Owns owner vip.key vip) :
    WriteInvariant config vip (Owns owner vip.key) (OthersAgree owner fits vip.key) where
  own := owns
  cached := fun holds found => holds.apart _ _ found
  replies := fun rest holds =>
    ⟨holds.apart, fun other distinct => (holds.agrees other distinct).answered rest⟩
  drifts := fun drifts holds =>
    ⟨holds.apart, fun other distinct => (holds.agrees other distinct).tuningDrifts _ drifts⟩
  enters := by
    intro vpp entry holds allowed
    refine ⟨holds.apart.setEntry allowed, ?_⟩
    intro other distinct
    have unchanged : (vpp.setEntry vip.key entry).vips other = vpp.vips other :=
      Function.update_of_ne distinct _ vpp.vips
    constructor
    · intro tuple holder
      rw [unchanged]
      exact (holds.agrees other distinct).ledger tuple holder
    · intro written found
      rw [unchanged] at found
      exact (holds.agrees other distinct).cached written found
  adds := by
    intro vpp tuple attributes holds built
    refine ⟨holds.apart, fun other distinct => ?_⟩
    apply (holds.agrees other distinct).update_other holds.apart distinct
      (owns tuple (tupleOf_of_vipRequest built))
      (fun place different => Function.update_of_ne different _ _)
    intro place holder
    by_cases same : place = tuple
    · subst same
      rw [Function.update_self, Option.some.injEq] at holder
      exact absurd holder.symm distinct
    · rwa [Function.update_of_ne same] at holder
  deletes := by
    intro vpp touched tuple holds allowed named
    refine ⟨holds.apart, fun other distinct => ?_⟩
    apply (holds.agrees other distinct).update_other holds.apart distinct (allowed tuple named)
      (fun place different => Function.update_of_ne different _ _)
    intro place holder
    by_cases same : place = tuple
    · subst same
      rw [Function.update_self] at holder
      cases holder
    · rwa [Function.update_of_ne same] at holder
  fills := fun holds named _ _ =>
    ⟨holds.apart, fun other distinct =>
      (holds.agrees other distinct).update_other holds.apart distinct (owns _ named)
        (fun _ different => Function.update_of_ne different _ _) fun _ holder => holder⟩
  drains := fun holds named _ _ =>
    ⟨holds.apart, fun other distinct =>
      (holds.agrees other distinct).update_other holds.apart distinct (owns _ named)
        (fun _ different => Function.update_of_ne different _ _) fun _ holder => holder⟩

/-- Every call keeps what its writes keep. -/
theorem WriteInvariant.perform {allowed : VirtualIP → Prop} {invariant : VPP → Prop}
    (operation : Operation) (writes : WriteInvariant config operation.vip allowed invariant) :
    Effect.Keeps invariant (operation.perform config) := by
  cases operation with
  | apply vip healthy now => exact writes.applyVIP healthy now
  | remove vip => exact writes.rebuilds.removeVIP
  | recreate vip healthy => exact Effect.Keeps.mapError _ (writes.rebuilds.recreateVIP healthy)

end Steps

section Run

variable {config : VPPConfig} {owner : Tuple → VIPKey} {vpp : VPP}

/-- What holds between the calls. -/
structure Mirrored (config : VPPConfig) (owner : Tuple → VIPKey) (vpp : VPP) : Prop where
  apart : Apart owner vpp
  distinct : Distinct vpp
  agrees : ∀ key, Agrees (Mirrors config) key vpp

/-- A call keeps the agreement of its own VIP. -/
theorem Mirrored.own (mirrored : Mirrored config owner vpp) {call : Call}
    (meets : proper config owner vpp call) :
    Agrees (Mirrors config) call.operation.vip.key
      (call.operation.perform config (vpp.answered call.replies)).2 := by
  have fitting := fitting_mirrors config
  obtain ⟨operation, replies⟩ := call
  have agrees := (mirrored.agrees operation.vip.key).answered replies
  cases operation with
  | apply vip healthy now =>
    have applied := ensures_applyVIP_holds fitting healthy now agrees
      (admitted_of_proper meets mirrored.distinct)
    exact (applied.mono (fun _ kept => kept) fun _ _ holds => holds.agrees fitting).last
  | remove vip =>
    have removed : Effect.Ensures (removeVIP config vip) _ _ _ := ensures_removeVIP agrees
    exact (removed.mono (fun _ kept => kept) fun _ _ cleared => cleared.agrees).last
  | recreate vip healthy =>
    have rebuilt := wp_recreateVIP_rebuilt fitting healthy agrees
    have kept : Effect.Ensures (recreateVIP config vip healthy) (Agrees (Mirrors config) vip.key)
        (fun _ => Agrees (Mirrors config) vip.key) (vpp.answered replies) := by
      apply Effect.wp_mono rebuilt
      intro outcome next after
      cases outcome with
      | ok _ => exact Holds.agrees fitting after
      | error err => exact after.1
      | crashed => exact after
    exact (kept.mapError _).last

/-- **One call.** -/
theorem Mirrored.step (mirrored : Mirrored config owner vpp) {call : Call}
    (meets : proper config owner vpp call) :
    Mirrored config owner (call.operation.perform config (vpp.answered call.replies)).2 := by
  have others : OthersAgree owner (Mirrors config) call.operation.vip.key
      (vpp.answered call.replies) :=
    ⟨mirrored.apart, fun other _ => (mirrored.agrees other).answered call.replies⟩
  have writes : WriteInvariant config call.operation.vip (Owns owner call.operation.vip.key)
      (OthersAgree owner (Mirrors config) call.operation.vip.key) :=
    others_writeInvariant (owns_of_proper meets)
  have kept := writes.perform call.operation _ others
  refine ⟨kept.apart, ?_, ?_⟩
  · exact distinct_writeInvariant.perform call.operation (vpp.answered call.replies)
      mirrored.distinct
  · intro key
    by_cases same : key = call.operation.vip.key
    · rw [same]
      exact mirrored.own meets
    · exact kept.agrees key same

/-- **Any number of calls.** -/
theorem mirrored_of_reachable (reached : (calls config).Reachable (proper config owner) vpp) :
    Mirrored config owner vpp := by
  refine reached.invariant ?_ ?_
  · intro vpp starts
    obtain ⟨cached, ledger, distinct⟩ := starts
    refine ⟨?_, distinct, ?_⟩
    · intro key entry found
      rw [cached key] at found
      cases found
    · intro key
      constructor
      · intro tuple holder
        rw [ledger tuple] at holder
        cases holder
      · intro entry found
        rw [cached key] at found
        cases found
  · intro vpp call next mirrored meets moves
    obtain rfl := Option.some.inj moves
    exact mirrored.step meets

/-- **VPP mirrors the cache.** After any proper calls every cached VIP is in VPP with
exactly the cached backends, and when the next proper call to `ApplyVIP` succeeds, the VIP
is in VPP as desired and with exactly the healthy backends. -/
theorem vpp_mirrors_cache (reached : (calls config).Reachable (proper config owner) vpp) :
    (∀ key entry, vpp.vips key = some entry →
      ∃ tuple held, tupleOf entry.vip = .ok tuple ∧ vpp.table tuple = some held ∧
        Exactly (· ∈ entry.backends) held.backends) ∧
      ∀ vip healthy now replies next, proper config owner vpp ⟨.apply vip healthy now, replies⟩ →
        applyVIP config vip healthy now (vpp.answered replies) = (.ok (), next) →
        ∃ tuple held, tupleOf vip = .ok tuple ∧ next.table tuple = some held ∧
          Forwards config vip held ∧
          Exactly (fun addr => ∃ backend ∈ healthy, backend.address = addr) held.backends := by
  have mirrored := mirrored_of_reachable reached
  constructor
  · intro key entry found
    obtain ⟨tuple, held, named, present, mirrors⟩ := (mirrored.agrees key).cached entry found
    exact ⟨tuple, held, named, present, mirrors.exactly⟩
  · intro vip healthy now replies next meets ended
    have applied := ensures_applyVIP_holds (fitting_mirrors config) healthy now
      ((mirrored.agrees vip.key).answered replies) (admitted_of_proper meets mirrored.distinct)
    obtain ⟨entry, tuple, held, installed, _, healthy_⟩ := applied.returned ended
    refine ⟨tuple, held, installed.named, installed.present, installed.fits.forwards, ?_, ?_⟩
    · intro addr listed
      exact installed.fits.exactly.listed addr ((healthy_ addr).mpr (mem_byAddress.mpr listed))
    · intro ip member
      obtain ⟨addr, cached, parsed⟩ := installed.fits.exactly.covered ip member
      exact ⟨addr, mem_byAddress.mp ((healthy_ addr).mp cached), parsed⟩

end Run

section Retained

/-- Settings with GRE encapsulation, for concrete runs. -/
def greSettings : VPPConfig where
  encapType := .gre4
  dscp := 0
  serviceType := .clusterIP
  newFlowsTableLength := 1024
  stateVerificationInterval := 0
  failOnAllBackendsDown := false

/-- A service without an encapsulation of its own. -/
def greWeb : VirtualIP :=
  { VirtualIP.web .web "1" "192.0.2.1" with
    spec := { (VirtualIP.web .web "1" "192.0.2.1").spec with encapType := .unset, dscp := none } }

/-- The tuple of the VIPs below. -/
def greTuple : Tuple := ⟨.v4 192 0 2 1, 6, 80⟩

/-- The service as an earlier process left it in VPP. -/
def retained (dscp : UInt8) (backends : List IPAddr) : VPP where
  table := Function.update (fun _ => none) greTuple
    (some
      { encap := .gre4
        dscp
        srvType := .clusterIP
        targetPort := 80
        flowTableLength := 1024
        backends })

/-- A node may start with a VIP that another process left. -/
theorem retained_initial {dscp : UInt8} {backends : List IPAddr} (distinct : backends.Nodup) :
    (calls greSettings).initial (retained dscp backends) := by
  refine ⟨fun _ => rfl, fun _ => rfl, ?_⟩
  intro tuple held present
  by_cases same : tuple = greTuple
  · subst same
    simp only [retained, Function.update_self, Option.some.injEq] at present
    subst present
    exact distinct
  · simp only [retained, Function.update_of_ne same] at present
    cases present

/-- The backend that is healthy now. -/
def healthyWeb : List BackendSpec :=
  [{ address := "10.0.0.2", monitorAddress := "", weight := 1 }]

/-- Applying the service to what was retained, with every request carried out. -/
def adoptWeb (dscp : UInt8) (backends : List IPAddr) : Outcome String Unit × VPP :=
  applyVIP greSettings greWeb healthyWeb 0 ((retained dscp backends).answered [.ok, .ok, .ok, .ok])

/-- The service is adopted, and its backend replaced by the healthy one. -/
theorem vpp_mirrors_cache_adopted :
    ∃ next, adoptWeb 0 [.v4 10 0 0 1] = (.ok (), next) ∧
      ∃ tuple held, tupleOf greWeb = .ok tuple ∧ next.table tuple = some held ∧
        Forwards greSettings greWeb held ∧
        Exactly (fun addr => ∃ backend ∈ healthyWeb, backend.address = addr) held.backends := by
  have reached : (calls greSettings).Reachable (proper greSettings fun _ => .web)
      (retained 0 [.v4 10 0 0 1]) :=
    .initial (retained_initial (List.nodup_singleton _))
  have ended : adoptWeb 0 [.v4 10 0 0 1] = (.ok (), (adoptWeb 0 [.v4 10 0 0 1]).2) :=
    Effect.eq_of_outcome (by decide +kernel)
  exact ⟨_, ended, (vpp_mirrors_cache reached).2 greWeb healthyWeb 0 [.ok, .ok, .ok, .ok] _
    (by decide +kernel) ended⟩

/-- The IPv6 address that embeds `10.0.0.1`. -/
def embedding : IPAddr := .v6 #v[0, 0, 0, 0, 0, 0xffff, 0x0a00, 0x0001]

/-- **A foreign DSCP value and a foreign backend stay.** VPP holds the service with a DSCP
value, and with the backend `10.0.0.1` besides the IPv6 backend that embeds it.  Both have
one text, so the cache knows one backend, and after `ApplyVIP` succeeded for `10.0.0.2`
alone the IPv6 backend is still in VPP. -/
theorem retained_backend_not_mirrored :
    (calls greSettings).initial (retained 46 [embedding, .v4 10 0 0 1]) ∧
      (adoptWeb 46 [embedding, .v4 10 0 0 1]).1 = .ok () ∧
      (∃ entry, (adoptWeb 46 [embedding, .v4 10 0 0 1]).2.vips .web = some entry ∧
        entry.backends.keys = ["10.0.0.2"]) ∧
      ∃ held, (adoptWeb 46 [embedding, .v4 10 0 0 1]).2.table greTuple = some held ∧
        ¬Forwards greSettings greWeb held ∧
        ¬Exactly (· ∈ ["10.0.0.2"]) held.backends := by
  refine ⟨retained_initial (by decide), by decide +kernel, ?_, ?_⟩
  · apply Option.map_eq_some_iff.mp
    decide +kernel
  · have kept : (adoptWeb 46 [embedding, .v4 10 0 0 1]).2.table greTuple =
        some ⟨.gre4, 46, .clusterIP, 80, 1024, [.v4 10 0 0 2, embedding]⟩ := by decide +kernel
    refine ⟨_, kept, ?_, ?_⟩
    · intro forwards
      exact absurd forwards.dscp (by decide +kernel)
    · intro exactly
      obtain ⟨addr, listed, parsed⟩ := exactly.covered embedding (by simp)
      rw [List.mem_singleton.mp listed] at parsed
      exact absurd parsed (by decide +kernel)

end Retained

end ArcaLB.DataPlane
