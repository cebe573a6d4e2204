import ArcaLB.Library.Maps
import ArcaLB.DataPlane.Confined

/-!
# The cache agrees with VPP

For a VIP that only this agent works on, the cache entry tells the truth: its tuple is in
VPP, and it is the only tuple that the agent added for the key and did not delete.  How
closely the VIP in VPP fits the cached one is a parameter: a relation that every request
preserves is kept by the data plane methods, wherever they are cut off.
-/

namespace ArcaLB.DataPlane

open Effect (Ensures)

/-- How a cached VIP with its backends relates to the VIP that VPP holds for it. -/
abbrev Fit := VirtualIP → BackendMap → LbVip → Prop

/-- A relation between a cached VIP with its backends and the VIP that VPP holds for it,
with the condition under which a VIP found in VPP may be cached. -/
structure Fitting (config : VPPConfig) (fits : Fit)
    (admits : LbVip → Prop) : Prop where
  same : ∀ {first second attrs backends held}, effectiveVIPAttributes config first = .ok attrs →
    effectiveVIPAttributes config second = .ok attrs → fits first backends held →
    fits second backends held
  added : ∀ {vip tuple attributes}, vipRequest config vip = .ok (tuple, attributes) →
    fits vip ∅ attributes
  found : ∀ {vip desired held}, vipDetailsMatchDesired config vip held = true → admits held →
    fits vip (dumped desired held.backends) held
  admitted : ∀ {vip backends held}, fits vip backends held → admits held
  removed : ∀ {vip backends held addr backend tuple ip}, fits vip backends held →
    backends.lookup addr = some backend → asRequest vip backend = .ok (tuple, ip) →
    ip ∈ held.backends →
    fits vip (backends.erase addr) { held with backends := held.backends.erase ip }
  inserted : ∀ {vip backends held backend tuple ip}, fits vip backends held →
    backend.address ∉ backends → asRequest vip backend = .ok (tuple, ip) → ip ∉ held.backends →
    fits vip (backends.insert backend.address backend)
      { held with backends := ip :: held.backends }
  updated : ∀ {vip backends held backend}, fits vip backends held →
    backend.address ∈ backends → fits vip (backends.insert backend.address backend) held

/-- The cache entry of a key agrees with VPP. -/
structure Agrees (fits : Fit) (key : VIPKey) (vpp : VPP) :
    Prop where
  ledger : ∀ tuple, vpp.addedBy tuple = some key →
    ∃ entry, vpp.vips key = some entry ∧ tupleOf entry.vip = .ok tuple
  cached : ∀ entry, vpp.vips key = some entry →
    ∃ tuple held, tupleOf entry.vip = .ok tuple ∧ vpp.table tuple = some held ∧
      fits entry.vip entry.backends held

/-- Nothing is cached for the VIP, and none of its tuples is left in VPP. -/
structure Cleared (vip : VirtualIP) (vpp : VPP) : Prop where
  cached : vpp.vips vip.key = none
  ledger : ∀ tuple, vpp.addedBy tuple ≠ some vip.key

/-- The VIP is cached with its own attributes, and VPP holds it as `held`. -/
structure InstalledAs (config : VPPConfig) (fits : Fit)
    (vip : VirtualIP) (entry : VipEntry) (tuple : Tuple) (held : LbVip) (vpp : VPP) : Prop where
  cached : vpp.vips vip.key = some entry
  attributes : ∃ attrs, effectiveVIPAttributes config entry.vip = .ok attrs ∧
    effectiveVIPAttributes config vip = .ok attrs
  named : tupleOf vip = .ok tuple
  present : vpp.table tuple = some held
  fits : fits vip entry.backends held
  ledger : ∀ other, vpp.addedBy other = some vip.key → other = tuple

/-- The VIP is cached with its own attributes, and VPP holds it. -/
def Installed (config : VPPConfig) (fits : Fit) (vip : VirtualIP) (vpp : VPP) : Prop :=
  ∃ entry tuple held, InstalledAs config fits vip entry tuple held vpp

/-- The cached backends of a VIP. -/
def VPP.cachedBackends (vpp : VPP) (key : VIPKey) : BackendMap :=
  ((vpp.vips key).map VipEntry.backends).getD ∅

/-- The VIP is cached as it was applied, with exactly the healthy backends. -/
def Holds (config : VPPConfig) (fits : Fit)
    (vip : VirtualIP) (healthy : List BackendSpec) (vpp : VPP) : Prop :=
  ∃ entry tuple held, InstalledAs config fits vip entry tuple held vpp ∧ entry.vip = vip ∧
    ∀ addr, addr ∈ entry.backends ↔ addr ∈ byAddress healthy

section Attributes

variable {config : VPPConfig} {first second vip : VirtualIP} {attrs : VipAttributes}

/-- The attributes of a VIP are those of its spec and of the configuration. -/
theorem attributes_inv (given : effectiveVIPAttributes config vip = .ok attrs) :
    effectiveDSCP config (effectiveEncapType config vip) vip = .ok attrs.dscp ∧
      attrs = { address := vip.spec.address
                port := vip.spec.port
                protocol := vip.spec.protocol
                encapType := effectiveEncapType config vip
                dscp := attrs.dscp
                serviceType := config.serviceType
                newFlowsTableLength := config.newFlowsTableLength } := by
  obtain ⟨dscp, dscpEq, built⟩ := Except.exists_of_bind_eq_ok given
  cases built
  exact ⟨dscpEq, rfl⟩

/-- Equal attributes are those of one tuple. -/
theorem tupleOf_eq_of_attributes (one : effectiveVIPAttributes config first = .ok attrs)
    (other : effectiveVIPAttributes config second = .ok attrs) :
    tupleOf first = tupleOf second := by
  have firstEq := (attributes_inv one).2
  have secondEq := (attributes_inv other).2
  rw [firstEq] at secondEq
  simp only [VipAttributes.mk.injEq] at secondEq
  obtain ⟨address, port, protocol, _⟩ := secondEq
  unfold tupleOf specTuple
  rw [address, port, protocol]

end Attributes

variable {config : VPPConfig} {fits : Fit} {admits : LbVip → Prop} {vip : VirtualIP} {vpp : VPP}
  {key : VIPKey} {entry : VipEntry} {tuple : Tuple} {held : LbVip} {healthy : List BackendSpec}
  {change : BackendMap → BackendMap} {attrs : VipAttributes}

section Steps

theorem VPP.modifyEntry_found (change : VipEntry → VipEntry) (found : vpp.vips key = some entry) :
    (vpp.modifyEntry key change).vips key = some (change entry) := by
  simp [VPP.modifyEntry, VPP.setEntry, found]

/-- An empty cache agrees where none of the tuples is left. -/
theorem Cleared.agrees (cleared : Cleared vip vpp) : Agrees fits vip.key vpp where
  ledger := fun tuple holder => absurd holder (cleared.ledger tuple)
  cached := by simp [cleared.cached]

/-- Agreement does not depend on the replies to come. -/
theorem Agrees.answered (agrees : Agrees fits key vpp) (rest : List Reply) :
    Agrees fits key (vpp.answered rest) :=
  ⟨agrees.ledger, agrees.cached⟩

/-- Recorded tuning drifts do not matter. -/
theorem Agrees.tuningDrifts (agrees : Agrees fits key vpp) (own : VIPKey)
    (drifts : List VIPTuningDrift) : Agrees fits key (vpp.setTuningDrifts own drifts) :=
  ⟨agrees.ledger, agrees.cached⟩

theorem Cleared.answered (cleared : Cleared vip vpp) (rest : List Reply) :
    Cleared vip (vpp.answered rest) :=
  ⟨cleared.cached, cleared.ledger⟩

theorem InstalledAs.answered
    (installed : InstalledAs config fits vip entry tuple held vpp) (rest : List Reply) :
    InstalledAs config fits vip entry tuple held (vpp.answered rest) :=
  ⟨installed.cached, installed.attributes, installed.named, installed.present, installed.fits,
    installed.ledger⟩

/-- The cached VIP has the tuple of the VIP it is installed for. -/
theorem InstalledAs.tupleOf_cached (installed : InstalledAs config fits vip entry tuple held vpp) :
    tupleOf entry.vip = .ok tuple := by
  obtain ⟨attrs, one, other⟩ := installed.attributes
  exact (tupleOf_eq_of_attributes one other).trans installed.named

variable (fitting : Fitting config fits admits)
include fitting

/-- An installed VIP agrees with VPP. -/
theorem InstalledAs.agrees (installed : InstalledAs config fits vip entry tuple held vpp) :
    Agrees fits vip.key vpp where
  ledger := by
    intro other holder
    refine ⟨entry, installed.cached, ?_⟩
    rw [installed.ledger other holder]
    exact installed.tupleOf_cached
  cached := by
    intro written found
    rw [installed.cached, Option.some.injEq] at found
    subst found
    obtain ⟨attrs, one, other⟩ := installed.attributes
    exact ⟨tuple, held, installed.tupleOf_cached, installed.present,
      fitting.same other one installed.fits⟩

theorem Installed.agrees (installed : Installed config fits vip vpp) : Agrees fits vip.key vpp := by
  obtain ⟨entry, tuple, held, installed⟩ := installed
  exact installed.agrees fitting

theorem Holds.agrees (holds : Holds config fits vip healthy vpp) : Agrees fits vip.key vpp := by
  obtain ⟨entry, tuple, held, installed, _⟩ := holds
  exact installed.agrees fitting

/-- An entry with the attributes of the VIP is one of it. -/
theorem Agrees.installed (agrees : Agrees fits vip.key vpp) (found : vpp.vips vip.key = some entry)
    (one : effectiveVIPAttributes config entry.vip = .ok attrs)
    (other : effectiveVIPAttributes config vip = .ok attrs) : Installed config fits vip vpp := by
  obtain ⟨tuple, held, named, present, fitted⟩ := agrees.cached entry found
  have tuples := tupleOf_eq_of_attributes one other
  refine ⟨entry, tuple, held, found, ⟨attrs, one, other⟩, tuples ▸ named, present,
    fitting.same one other fitted, ?_⟩
  intro written holder
  obtain ⟨actual, same, actualNamed⟩ := agrees.ledger written holder
  rw [found, Option.some.injEq] at same
  rw [← same, named] at actualNamed
  exact (Except.ok.inj actualNamed).symm

omit fitting

/-- An agreeing entry is found in VPP. -/
theorem Agrees.present (agrees : Agrees fits key vpp) (found : vpp.vips key = some entry)
    (named : tupleOf entry.vip = .ok tuple) : ∃ held, vpp.table tuple = some held := by
  obtain ⟨actual, held, actualNamed, present, _⟩ := agrees.cached entry found
  rw [named, Except.ok.injEq] at actualNamed
  exact ⟨held, actualNamed ▸ present⟩

/-- Deleting the cached tuple clears the ledger. -/
theorem Agrees.ledger_deleted (agrees : Agrees fits vip.key vpp)
    (target : ∀ entry, vpp.vips vip.key = some entry → tupleOf entry.vip = .ok tuple)
    (other : Tuple) : (vpp.setTable tuple none none).addedBy other ≠ some vip.key := by
  intro holder
  by_cases same : other = tuple
  · subst same
    simp [VPP.setTable] at holder
  · change Function.update vpp.addedBy tuple none other = _ at holder
    rw [Function.update_of_ne same] at holder
    obtain ⟨entry, found, named⟩ := agrees.ledger other holder
    rw [target entry found] at named
    exact same (Except.ok.inj named).symm

/-- Deleting the cached tuple and forgetting the entry. -/
theorem Agrees.forget_deleted (agrees : Agrees fits vip.key vpp)
    (target : ∀ entry, vpp.vips vip.key = some entry → tupleOf entry.vip = .ok tuple) :
    Cleared vip ((vpp.setTable tuple none none).setEntry vip.key none) where
  cached := by simp [VPP.setEntry]
  ledger := fun other => agrees.ledger_deleted target other

/-- Where nothing is cached, no tuple is left. -/
theorem Agrees.cleared (agrees : Agrees fits vip.key vpp) (nothing : vpp.vips vip.key = none) :
    Cleared vip vpp := by
  refine ⟨nothing, ?_⟩
  intro tuple holder
  obtain ⟨entry, found, _⟩ := agrees.ledger tuple holder
  rw [nothing] at found
  cases found

/-- A change of the verification time. -/
theorem Agrees.markVIPNeedsVerification (agrees : Agrees fits key vpp) :
    Agrees fits key (vpp.modifyEntry key fun entry => { entry with lastVerified := none }) := by
  constructor
  · intro tuple holder
    obtain ⟨entry, found, named⟩ := agrees.ledger tuple holder
    exact ⟨_, VPP.modifyEntry_found _ found, named⟩
  · intro written found
    cases present : vpp.vips key with
    | none => simp [VPP.modifyEntry, VPP.setEntry, present] at found
    | some entry =>
      rw [VPP.modifyEntry_found _ present, Option.some.injEq] at found
      subst found
      exact agrees.cached entry present

/-- Caching the VIP as VPP holds it. -/
theorem InstalledAs.store {backends : BackendMap} (now : Option Time) (drifts : List VIPTuningDrift)
    (ledger : ∀ other, vpp.addedBy other = some vip.key → other = tuple)
    (valid : ∃ attrs, effectiveVIPAttributes config vip = .ok attrs)
    (named : tupleOf vip = .ok tuple) (present : vpp.table tuple = some held)
    (fitted : fits vip backends held) :
    InstalledAs config fits vip ⟨vip, backends, now⟩ tuple held
      ((vpp.setEntry vip.key (some ⟨vip, backends, now⟩)).setTuningDrifts vip.key drifts) where
  cached := Function.update_self vip.key _ vpp.vips
  attributes := valid.imp fun _ given => ⟨given, given⟩
  named := named
  present := present
  fits := fitted
  ledger := ledger

/-- Changing the backends in VPP and in the cache together. -/
theorem InstalledAs.setBackends (installed : InstalledAs config fits vip entry tuple held vpp)
    {backends : List IPAddr} (fitted : fits vip (change entry.backends) { held with backends }) :
    InstalledAs config fits vip { entry with backends := change entry.backends } tuple
      { held with backends }
      ((vpp.setBackends tuple held backends).modifyBackends vip.key change) where
  cached := VPP.modifyEntry_found _ installed.cached
  attributes := installed.attributes
  named := installed.named
  present := Function.update_self tuple _ vpp.table
  fits := fitted
  ledger := installed.ledger

/-- Changing the cached backends alone. -/
theorem InstalledAs.modifyBackends (installed : InstalledAs config fits vip entry tuple held vpp)
    (fitted : fits vip (change entry.backends) held) :
    InstalledAs config fits vip { entry with backends := change entry.backends } tuple held
      (vpp.modifyBackends vip.key change) where
  cached := VPP.modifyEntry_found _ installed.cached
  attributes := installed.attributes
  named := installed.named
  present := installed.present
  fits := fitted
  ledger := installed.ledger

/-- The cached backends are those of the entry. -/
theorem InstalledAs.cachedBackends (installed : InstalledAs config fits vip entry tuple held vpp) :
    vpp.cachedBackends vip.key = entry.backends := by
  simp [VPP.cachedBackends, installed.cached]

end Steps

section Loops

/-- VPP lists the backends of an installed VIP under its tuple. -/
theorem InstalledAs.found {other : Tuple} {present : LbVip} {backend : BackendSpec} {ip : IPAddr}
    (installed : InstalledAs config fits vip entry tuple held vpp)
    (built : asRequest vip backend = .ok (other, ip)) (there : vpp.table other = some present) :
    other = tuple ∧ present = held := by
  obtain rfl := Except.ok.inj (installed.named.symm.trans (tupleOf_of_asRequest built))
  exact ⟨rfl, Option.some.inj (there.symm.trans installed.present)⟩

/-- What the request for one backend leaves: refused, all is as it was; carried out, the
cached backends are to be changed as VPP has changed its own. -/
def Requested (config : VPPConfig) (fits : Fit) (vip : VirtualIP) (entry : VipEntry)
    (tuple : Tuple) (held : LbVip) (change : BackendMap → BackendMap) :
    Except String Unit → VPP → Prop
  | .error _, next => InstalledAs config fits vip entry tuple held next
  | .ok _, next => ∃ backends,
    InstalledAs config fits vip { entry with backends := change entry.backends } tuple
      { held with backends } (next.modifyBackends vip.key change)

/-- A request that changes the backends in VPP as the cache will be changed. -/
theorem InstalledAs.requested {body : Effect VPP String Unit}
    (installed : InstalledAs config fits vip entry tuple held vpp)
    (rule : ∀ post : Outcome String Unit → VPP → Prop, Unsent vpp post →
      (∀ rest backends, fits vip (change entry.backends) { held with backends } →
        post (.ok ()) ((vpp.answered rest).setBackends tuple held backends)) →
      Effect.wp body post vpp) :
    Ensures (Effect.attempt body : Effect VPP String (Except String Unit))
      (Installed config fits vip) (Requested config fits vip entry tuple held change) vpp := by
  unfold Ensures
  rw [Effect.wp_attempt]
  apply rule
  · intro outcome rest unfinished
    cases outcome with
    | ok value => exact absurd rfl (unfinished value)
    | error err => exact installed.answered rest
    | crashed => exact ⟨entry, tuple, held, installed.answered rest⟩
  · exact fun rest backends fitted => ⟨backends, (installed.answered rest).setBackends fitted⟩

/-- What a loop over backends leaves: the VIP stays installed, and without an error, in the
loop or before it, all is `done`. -/
def Looped (config : VPPConfig) (fits : Fit) (vip : VirtualIP) (first result : Option String)
    (done : Prop) (vpp : VPP) : Prop :=
  Installed config fits vip vpp ∧ (result = none → first = none ∧ done)

section Looped

variable {first result : Option String} {done better : Prop}

theorem Looped.imp (looped : Looped config fits vip first result done vpp)
    (implies : done → better) : Looped config fits vip first result better vpp :=
  ⟨looped.1, fun succeeded => (looped.2 succeeded).imp_right implies⟩

/-- A loop that has met an error returns one. -/
theorem Looped.of_error {err : String}
    (looped : Looped config fits vip (firstError first err) result done vpp) :
    Looped config fits vip first result better vpp :=
  ⟨looped.1, fun succeeded => nomatch (looped.2 succeeded).1⟩

end Looped

/-- What is left of the cached backends when the listed ones that are not desired were
removed. -/
def Removed (vip : VirtualIP) (desired : BackendMap) (addresses : List String)
    (start vpp : VPP) : Prop :=
  ∀ addr, addr ∈ vpp.cachedBackends vip.key →
    addr ∈ start.cachedBackends vip.key ∧ (addr ∈ addresses → addr ∈ desired)

/-- A backend that was kept or removed first. -/
theorem Removed.cons {desired : BackendMap} {addr : String} {rest : List String}
    {start mid last : VPP} (removed : Removed vip desired rest mid last)
    (within : ∀ other, other ∈ mid.cachedBackends vip.key → other ∈ start.cachedBackends vip.key)
    (head : addr ∈ mid.cachedBackends vip.key → addr ∈ desired) :
    Removed vip desired (addr :: rest) start last := by
  intro other listed
  obtain ⟨before, later⟩ := removed other listed
  refine ⟨within other before, ?_⟩
  intro member
  rcases List.mem_cons.mp member with same | member
  · subst same
    exact head before
  · exact later member

/-- The cached backends with the listed ones added. -/
def Added (vip : VirtualIP) (addresses : List String) (start vpp : VPP) : Prop :=
  ∀ addr, addr ∈ vpp.cachedBackends vip.key ↔
    addr ∈ start.cachedBackends vip.key ∨ addr ∈ addresses

/-- A backend that was added or updated first. -/
theorem Added.cons {addr : String} {backend : BackendSpec} {rest : List String}
    {start mid last : VPP} (added : Added vip rest mid last)
    (head : mid.cachedBackends vip.key = (start.cachedBackends vip.key).insert addr backend) :
    Added vip (addr :: rest) start last := by
  intro other
  rw [added other, head, AList.mem_insert, List.mem_cons]
  tauto

variable (fitting : Fitting config fits admits)
include fitting

/-- **Removing backends.** A backend whose removal failed stays cached, and the loop goes
on. -/
theorem ensures_removeBackends (desired : BackendMap)
    (entries : List BackendEntry) (first : Option String)
    (distinct : (entries.map Sigma.fst).Nodup) (installed : Installed config fits vip vpp)
    (lists : ∀ entry ∈ entries, (vpp.cachedBackends vip.key).lookup entry.1 = some entry.2) :
    Ensures (removeBackends vip.key vip desired entries first) (Installed config fits vip)
      (fun result next => Looped config fits vip first result
        (Removed vip desired (entries.map Sigma.fst) vpp next) next) vpp := by
  induction entries generalizing first vpp with
  | nil => exact ⟨installed, fun succeeded => ⟨succeeded, fun _ listed => ⟨listed, by simp⟩⟩⟩
  | cons entry rest ih =>
    obtain ⟨addr, backend⟩ := entry
    simp only [List.map_cons, List.nodup_cons] at distinct
    obtain ⟨listed, lists⟩ := List.forall_mem_cons.mp lists
    unfold removeBackends
    by_cases wanted : addr ∈ desired
    · simp only [wanted, if_true]
      refine (ih first distinct.2 installed lists).imp fun _ _ looped => ?_
      refine looped.imp fun removed => ?_
      exact removed.cons (fun _ member => member) fun _ => wanted
    · simp only [wanted, if_false]
      obtain ⟨cached, tuple, held, installed⟩ := installed
      rw [installed.cachedBackends] at lists listed
      have requested := installed.requested fun post unsent carried =>
        wp_removeBackend unsent fun replies other found ip built present member => by
          obtain ⟨rfl, rfl⟩ := installed.found built present
          exact carried replies _ (fitting.removed installed.fits listed built member)
      refine requested.bind fun result next after => ?_
      cases result with
      | error err =>
        refine (ih _ distinct.2 ⟨_, _, _, after⟩ ?_).imp fun _ _ looped => looped.of_error
        rwa [InstalledAs.cachedBackends after]
      | ok _ =>
        obtain ⟨_, after⟩ := after
        have erased := after.cachedBackends
        refine (ih first distinct.2 ⟨_, _, _, after⟩ ?_).imp fun _ _ looped =>
          looped.imp fun removed => ?_
        · intro other member
          have different : other.1 ≠ addr := fun same =>
            distinct.1 (same ▸ List.mem_map_of_mem member)
          rw [erased, AList.lookup_erase_ne different]
          exact lists other member
        · apply removed.cons
          · intro other member
            rw [erased] at member
            rw [installed.cachedBackends]
            exact (AList.mem_erase.mp member).2
          · intro member
            rw [erased] at member
            exact absurd rfl (AList.mem_erase.mp member).1

/-- **Adding backends.** A backend whose addition failed is not cached. -/
theorem ensures_addBackends (entries : List BackendEntry) (first : Option String)
    (addressed : ∀ entry ∈ entries, entry.2.address = entry.1)
    (installed : Installed config fits vip vpp) :
    Ensures (addBackends vip.key vip entries first) (Installed config fits vip)
      (fun result next => Looped config fits vip first result
        (Added vip (entries.map Sigma.fst) vpp next) next) vpp := by
  induction entries generalizing first vpp with
  | nil =>
    exact ⟨installed, fun succeeded => ⟨succeeded, fun _ => (or_iff_left List.not_mem_nil).symm⟩⟩
  | cons entry rest ih =>
    obtain ⟨addr, backend⟩ := entry
    obtain ⟨own, others⟩ := List.forall_mem_cons.mp addressed
    obtain rfl : backend.address = addr := own
    obtain ⟨cached, tuple, held, installed⟩ := installed
    have listed := installed.cachedBackends
    unfold addBackends
    apply Ensures.read_bind
    change Ensures (if backend.address ∈ vpp.cachedBackends vip.key then _ else _) _ _ _
    by_cases present : backend.address ∈ vpp.cachedBackends vip.key
    · rw [if_pos present]
      rw [listed] at present
      have updated := installed.modifyBackends (fitting.updated installed.fits present)
      refine (ih first others ⟨_, _, _, updated⟩).imp fun _ _ looped => looped.imp fun added => ?_
      exact added.cons (updated.cachedBackends.trans (by rw [listed]))
    · rw [if_neg present]
      rw [listed] at present
      have requested := installed.requested fun post unsent carried =>
        wp_addBackend unsent fun replies other found ip built there member => by
          obtain ⟨rfl, rfl⟩ := installed.found built there
          exact carried replies _ (fitting.inserted installed.fits present built member)
      refine requested.bind fun result next after => ?_
      cases result with
      | error err =>
        exact (ih _ others ⟨_, _, _, after⟩).imp fun _ _ looped => looped.of_error
      | ok _ =>
        obtain ⟨_, after⟩ := after
        refine (ih first others ⟨_, _, _, after⟩).imp fun _ _ looped =>
          looped.imp fun added => ?_
        exact added.cons (after.cachedBackends.trans (by rw [listed]))

omit fitting in
theorem mem_byAddress {backends : List BackendSpec} {addr : String} :
    addr ∈ byAddress backends ↔ ∃ backend ∈ backends, backend.address = addr :=
  (AList.mem_foldl_insert BackendSpec.address id backends ∅ addr).trans
    (or_iff_right (AList.notMem_empty addr))

omit fitting in
/-- The desired backends stand under their addresses. -/
theorem byAddress_addressed {backends : List BackendSpec} :
    ∀ entry ∈ (byAddress backends).entries, entry.2.address = entry.1 := by
  intro entry listed
  have addressed : ∀ addr backend, (byAddress backends).lookup addr = some backend →
      backend.address = addr :=
    AList.forall_lookup_foldl_insert BackendSpec.address id (fun _ => rfl) backends (by simp)
  exact addressed entry.1 entry.2 (AList.mem_lookup_iff.mpr listed)

/-- **Reconciling backends.** The VIP stays installed, and when the call succeeds exactly
the desired backends are cached. -/
theorem ensures_reconcileBackends (backends : List BackendSpec)
    (installed : Installed config fits vip vpp) :
    Ensures (reconcileBackends vip.key vip backends) (Installed config fits vip)
      (fun _ next => Installed config fits vip next ∧
        ∀ addr, addr ∈ next.cachedBackends vip.key ↔ addr ∈ byAddress backends) vpp := by
  apply Ensures.read_bind
  change Ensures (removeBackends vip.key vip (byAddress backends)
    (vpp.cachedBackends vip.key).entries none >>= _) _ _ _
  have lists : ∀ entry ∈ (vpp.cachedBackends vip.key).entries,
      (vpp.cachedBackends vip.key).lookup entry.1 = some entry.2 := by
    intro entry member
    exact AList.mem_lookup_iff.mpr member
  apply (ensures_removeBackends fitting (byAddress backends) _ none
    (vpp.cachedBackends vip.key).keys_nodup installed lists).bind
  intro removed next kept
  apply (ensures_addBackends fitting (byAddress backends).entries removed
    byAddress_addressed kept.1).bind
  intro added last finished
  cases added with
  | some err => exact finished.1
  | none =>
    obtain ⟨succeeded, adds⟩ := finished.2 rfl
    obtain ⟨_, removes⟩ := kept.2 succeeded
    apply Ensures.read_bind
    dsimp only
    split
    · exact finished.1
    · refine ⟨finished.1, ?_⟩
      intro addr
      refine (adds addr).trans ?_
      constructor
      · rintro (before | listed)
        · have left := removes addr before
          exact left.2 (AList.mem_keys.mp left.1)
        · exact AList.mem_keys.mpr listed
      · intro wanted
        exact .inr (AList.mem_keys.mp wanted)

end Loops

section Methods

/-- If VPP holds the VIP as desired, it may be cached. -/
def Admitted (config : VPPConfig) (admits : LbVip → Prop) (vip : VirtualIP) (vpp : VPP) : Prop :=
  ∀ tuple held, tupleOf vip = .ok tuple → vpp.table tuple = some held →
    vipDetailsMatchDesired config vip held = true → admits held

/-- Deleting tuples admits no other VIP. -/
theorem Admitted.deleteTuple (admitted : Admitted config admits vip vpp) (tuple : Tuple) :
    Admitted config admits vip (vpp.setTable tuple none none) := by
  intro other held named present
  by_cases same : other = tuple
  · subst same
    simp [VPP.setTable] at present
  · change Function.update vpp.table tuple none other = _ at present
    rw [Function.update_of_ne same] at present
    exact admitted other held named present

/-- Nothing is cached for the VIP, and it may be adopted. -/
structure Vacant (config : VPPConfig) (admits : LbVip → Prop) (vip : VirtualIP) (vpp : VPP) :
    Prop where
  cleared : Cleared vip vpp
  admitted : Admitted config admits vip vpp

/-- A change that leaves the cache entry and the ledger of the key alone. -/
theorem Cleared.of_same {next : VPP} (cleared : Cleared vip vpp) (cached : next.vips = vpp.vips)
    (ledger : next.addedBy = vpp.addedBy) : Cleared vip next :=
  ⟨by rw [cached]; exact cleared.cached, by rw [ledger]; exact cleared.ledger⟩

/-- The cached VIP is deleted and forgotten. -/
theorem ensures_deleteCached (agrees : Agrees fits vip.key vpp)
    (admitted : Admitted config admits vip vpp) (found : vpp.vips vip.key = some entry) :
    Ensures (deleteCachedVIPForAttributeChange config vip.key entry)
      (Agrees fits vip.key) (fun _ => Vacant config admits vip) vpp := by
  apply ((ensures_lookupVIP agrees.answered).mapError _).bind
  rintro value next ⟨rest, tuple, named, rfl, rfl⟩
  obtain ⟨held, present⟩ := agrees.present found named
  unfold Effect.when
  rw [if_pos (by simp [present])]
  apply ((ensures_deleteVIP (agrees.answered rest).answered).mapError _).bind
  rintro _ last ⟨more, target, same, rfl⟩
  refine ⟨((agrees.answered more).forget_deleted fun other there => ?_).of_same rfl rfl,
    admitted.deleteTuple target⟩
  obtain rfl := Option.some.inj (found.symm.trans there)
  exact same

/-- Deleting the VIP itself, where nothing else is cached for it. -/
theorem ensures_deleteOwn {done : VPP → Prop} (agrees : Agrees fits vip.key vpp)
    (admitted : Admitted config admits vip vpp)
    (target : ∀ entry, vpp.vips vip.key = some entry → tupleOf entry.vip = tupleOf vip)
    (finish : ∀ next, Vacant config admits vip (next.setEntry vip.key none) →
      next.vips = vpp.vips → done next) :
    Ensures (deleteVIP config vip) (Agrees fits vip.key) (fun _ => done) vpp := by
  refine wp_deleteVIP (.ends agrees.answered) fun rest tuple named => ?_
  have cleared := (agrees.answered rest).forget_deleted
    fun entry found => (target entry found).trans named
  exact finish _ ⟨cleared, admitted.deleteTuple tuple⟩ rfl

/-- The state of the cache after the VIP was compared with VPP. -/
def Refreshed (config : VPPConfig) (fits : Fit) (admits : LbVip → Prop) (vip : VirtualIP)
    (found : Bool) (vpp : VPP) : Prop :=
  if found then Installed config fits vip vpp else Vacant config admits vip vpp

variable (fitting : Fitting config fits admits)
include fitting

/-- **Taking over** a VIP that VPP may hold.  No other tuple is left of it, and only it may be
cached; a VIP that VPP holds with other attributes is deleted and not cached. -/
theorem ensures_takeOver (desired : List BackendSpec) (now : Time)
    {missing : Effect VPP String Bool} {wrap : String → String} {change : VPP → VPP}
    (valid : ∃ attrs, effectiveVIPAttributes config vip = .ok attrs)
    (agrees : Agrees fits vip.key vpp) (admitted : Admitted config admits vip vpp)
    (ledger : ∀ tuple, tupleOf vip = .ok tuple → ∀ other, vpp.addedBy other = some vip.key →
      other = tuple)
    (target : ∀ entry, vpp.vips vip.key = some entry → tupleOf entry.vip = tupleOf vip)
    (misses : ∀ rest tuple, tupleOf vip = .ok tuple → vpp.table tuple = none →
      Ensures missing (Agrees fits vip.key) (Refreshed config fits admits vip)
        (vpp.answered rest))
    (changes : ∀ next, Vacant config admits vip (next.setEntry vip.key none) →
      next.vips = vpp.vips → Vacant config admits vip (change next)) :
    Ensures (takeOver config vip.key vip desired now missing wrap change) (Agrees fits vip.key)
      (Refreshed config fits admits vip) vpp := by
  apply (ensures_lookupVIP agrees.answered).bind
  rintro value next ⟨rest, tuple, named, rfl, rfl⟩
  have answered := agrees.answered rest
  cases present : vpp.table tuple with
  | none => exact misses rest tuple named present
  | some held =>
    dsimp only
    split
    · exact ((ensures_deleteOwn answered admitted target changes).mapError _).bind
        fun _ _ vacant => vacant
    · rename_i desiredForm
      have matches_ : vipDetailsMatchDesired config vip held = true := by simpa using desiredForm
      apply (ensures_dumpBackends answered.answered).bind
      rintro backends next ⟨rest, actual, same, rfl, rfl⟩
      obtain rfl := Except.ok.inj (named.symm.trans same)
      have listed : VPP.backendsOf (vpp.answered rest) tuple = held.backends := by
        simp [VPP.backendsOf, present]
      exact ⟨_, _, _, InstalledAs.store _ _ (ledger tuple named) valid named present
        (listed ▸ fitting.found matches_ (admitted tuple held named present matches_))⟩

/-- A cached VIP is found again or forgotten. -/
theorem ensures_refreshCachedVIP (desired : List BackendSpec) (now : Time)
    (installed : Installed config fits vip vpp) :
    Ensures (refreshCachedVIP config vip.key vip desired now) (Agrees fits vip.key)
      (Refreshed config fits admits vip) vpp := by
  obtain ⟨entry, tuple, held, installed⟩ := installed
  have own {other : Tuple} (named : tupleOf vip = .ok other) : other = tuple :=
    Except.ok.inj (named.symm.trans installed.named)
  apply ensures_takeOver fitting desired now (installed.attributes.imp fun _ both => both.2)
    (installed.agrees fitting)
  · intro other found named present _
    obtain rfl := own named
    obtain rfl := Option.some.inj (installed.present.symm.trans present)
    exact fitting.admitted installed.fits
  · intro other named
    obtain rfl := own named
    exact installed.ledger
  · intro other same
    obtain rfl := Option.some.inj (installed.cached.symm.trans same)
    rw [installed.tupleOf_cached, installed.named]
  · intro _ other named absent
    obtain rfl := own named
    cases installed.present.symm.trans absent
  · exact fun next vacant _ => ⟨vacant.cleared.of_same rfl rfl, vacant.admitted⟩

/-- A VIP of which nothing is cached is adopted, unless VPP does not hold it as desired. -/
theorem ensures_adoptExistingVIP (desired : List BackendSpec) (now : Time)
    (valid : ∃ attrs, effectiveVIPAttributes config vip = .ok attrs)
    (vacant : Vacant config admits vip vpp) :
    Ensures (adoptExistingVIP config vip desired now) (Agrees fits vip.key)
      (Refreshed config fits admits vip) vpp := by
  apply ensures_takeOver fitting desired now valid vacant.cleared.agrees vacant.admitted
  · exact fun _ _ other holder => absurd holder (vacant.cleared.ledger other)
  · intro entry found
    cases vacant.cleared.cached.symm.trans found
  · exact fun rest _ _ _ => ⟨vacant.cleared.answered rest, vacant.admitted⟩
  · exact fun next left same => ⟨⟨(congrFun same vip.key).trans vacant.cleared.cached,
      left.cleared.ledger⟩, left.admitted⟩

/-- What `checkCached` leaves: an installed VIP, or nothing. -/
def Checked (config : VPPConfig) (fits : Fit)
    (admits : LbVip → Prop) (vip : VirtualIP) (cached : Cached) (vpp : VPP) : Prop :=
  if cached = .missing ∨ cached = .absent then Vacant config admits vip vpp
  else Installed config fits vip vpp

/-- The entry is installed, or nothing is left of the VIP. -/
theorem ensures_checkCached (healthy : List BackendSpec) (now : Time)
    (desired : effectiveVIPAttributes config vip = .ok attrs) (agrees : Agrees fits vip.key vpp)
    (admitted : Admitted config admits vip vpp) :
    Ensures (checkCached config vip healthy now attrs) (Agrees fits vip.key)
      (Checked config fits admits vip) vpp := by
  apply Ensures.read_bind
  cases found : vpp.vips vip.key with
  | none => exact ⟨agrees.cleared found, admitted⟩
  | some existing =>
    have attributes : Ensures
        (Effect.ofExcept (effectiveVIPAttributes config existing.vip)) (Agrees fits vip.key)
        (fun existingAttrs next => next = vpp ∧
          effectiveVIPAttributes config existing.vip = .ok existingAttrs) vpp :=
      Ensures.ofExcept agrees fun _ given => ⟨rfl, given⟩
    apply (attributes.mapError _).bind
    intro existingAttrs next after
    obtain ⟨rfl, given⟩ := after
    by_cases changed : existingAttrs ≠ attrs
    · rw [if_pos changed]
      apply (ensures_deleteCached agrees admitted found).bind
      intro _ next vacant
      exact vacant
    · rw [if_neg changed]
      rw [not_not.mp changed] at given
      have installed := agrees.installed fitting found given desired
      split
      · apply (ensures_refreshCachedVIP fitting healthy now installed).attempt.bind
        intro refreshed last after
        match refreshed with
        | .error err => exact after.markVIPNeedsVerification
        | .ok true | .ok false => exact after
      · exact installed

omit fitting in
/-- The attributes in a request to add a VIP are valid ones. -/
theorem attributes_of_vipRequest {attributes : LbVip}
    (built : vipRequest config vip = .ok (tuple, attributes)) :
    ∃ attrs, effectiveVIPAttributes config vip = .ok attrs := by
  obtain ⟨_, _, _, dscpEq, _⟩ := vipRequest_inv built
  unfold effectiveVIPAttributes
  simp [dscpEq, bind, Except.bind]

/-- Adding a VIP of which nothing is left, and caching it. -/
theorem ensures_addVIP (cleared : Cleared vip vpp) :
    Ensures (addVIP config vip) (Agrees fits vip.key)
      (fun _ next => Installed config fits vip
        ((next.setEntry vip.key (some { vip })).setTuningDrifts vip.key [])) vpp := by
  refine wp_addVIP (.ends cleared.agrees.answered) fun rest tuple attributes built absent => ?_
  refine ⟨_, _, _, InstalledAs.store none [] ?_ (attributes_of_vipRequest built)
    (tupleOf_of_vipRequest built) (Function.update_self tuple _ vpp.table) (fitting.added built)⟩
  intro other holder
  by_contra different
  change Function.update vpp.addedBy tuple _ other = _ at holder
  rw [Function.update_of_ne different] at holder
  exact cleared.ledger other holder

/-- The VIP is adopted or added. -/
theorem ensures_ensureVIP (healthy : List BackendSpec) (now : Time) (verifiedMissing : Bool)
    (valid : ∃ attrs, effectiveVIPAttributes config vip = .ok attrs)
    (vacant : Vacant config admits vip vpp) :
    Ensures (ensureVIP config vip healthy now verifiedMissing) (Agrees fits vip.key)
      (fun _ => Installed config fits vip) vpp :=
  ensures_ensureVIP_parts (fun _ => vacant)
    (ensures_adoptExistingVIP fitting healthy now valid vacant) (fun _ found => found)
    fun _ left => ensures_addVIP fitting (Vacant.cleared left)

/-- **Settling the cache** leaves the VIP installed. -/
theorem ensures_settleCached (healthy : List BackendSpec) (now : Time)
    (desired : effectiveVIPAttributes config vip = .ok attrs) (agrees : Agrees fits vip.key vpp)
    (admitted : Admitted config admits vip vpp) :
    Ensures (settleCached config vip healthy now attrs) (Agrees fits vip.key)
      (fun _ => Installed config fits vip) vpp := by
  apply ensures_settleCached_parts (ensures_checkCached fitting healthy now desired agrees admitted)
  · intro cached next checked left
    unfold Checked at checked
    rw [if_pos left] at checked
    exact ensures_ensureVIP fitting healthy now _ ⟨attrs, desired⟩ checked
  · intro cached next checked found
    unfold Checked at checked
    rwa [if_neg (by rcases found with rfl | rfl <;> decide)] at checked

omit fitting in
/-- Recording the applied VIP in the entry of an installed one. -/
theorem Holds.record (installed : Installed config fits vip vpp)
    (exact_ : ∀ addr, addr ∈ vpp.cachedBackends vip.key ↔ addr ∈ byAddress healthy)
    (verified : VipEntry → Option Time) :
    Holds config fits vip healthy (vpp.modifyEntry vip.key fun entry =>
      { entry with vip, lastVerified := verified entry }) := by
  obtain ⟨entry, tuple, held, installed⟩ := installed
  rw [installed.cachedBackends] at exact_
  refine ⟨_, tuple, held, ⟨VPP.modifyEntry_found _ installed.cached, ?_, installed.named,
    installed.present, installed.fits, installed.ledger⟩, rfl, exact_⟩
  obtain ⟨attrs, _, own⟩ := installed.attributes
  exact ⟨attrs, own, own⟩

/-- **Applying a VIP.** Wherever it is cut off the cache agrees with VPP, and when it
succeeds the VIP is cached as applied. -/
theorem ensures_applyVIP_holds (healthy : List BackendSpec)
    (now : Time) (agrees : Agrees fits vip.key vpp) (admitted : Admitted config admits vip vpp) :
    Ensures (applyVIP config vip healthy now) (Agrees fits vip.key)
      (fun _ => Holds config fits vip healthy) vpp := by
  apply ensures_applyVIP_parts (fun _ => agrees)
    fun attrs desired => ensures_settleCached fitting healthy now desired agrees admitted
  intro cached next installed
  apply (ensures_reconcileBackends fitting healthy installed).mono
  · intro last after
    have agrees := Installed.agrees fitting after
    exact ⟨agrees, agrees.markVIPNeedsVerification⟩
  · intro _ last after
    exact Holds.record after.1 after.2 _

omit fitting in
/-- **Removing a VIP.** When it succeeds nothing is cached for the VIP. -/
theorem ensures_removeVIP (agrees : Agrees fits vip.key vpp) :
    Ensures (removeVIP config vip) (Agrees fits vip.key) (fun _ => Cleared vip) vpp := by
  apply Ensures.read_bind
  cases found : vpp.vips vip.key with
  | some entry =>
    apply (ensures_deleteVIP agrees.answered).bind
    rintro _ next ⟨rest, tuple, named, rfl⟩
    refine ((agrees.answered rest).forget_deleted fun other same => ?_).of_same rfl rfl
    obtain rfl := Option.some.inj (found.symm.trans same)
    exact named
  | none =>
    have cleared := agrees.cleared found
    apply ((ensures_lookupVIP agrees.answered).mapError _).bind
    rintro present _ ⟨rest, tuple, -, -, rfl⟩
    have finished : Ensures (Effect.when present.isSome (deleteVIP config vip))
        (Agrees fits vip.key) (fun _ => Cleared vip) (vpp.answered rest) := by
      unfold Effect.when
      split
      · refine wp_deleteVIP (.ends (agrees.answered rest).answered) fun more target _ => ?_
        refine ⟨found, (agrees.answered more).ledger_deleted fun entry same => ?_⟩
        cases found.symm.trans same
      · exact cleared.answered rest
    apply finished.bind
    intro _ last cleared
    exact ⟨Function.update_self vip.key _ last.vips, cleared.ledger⟩

/-- What a recreation leaves.  An error that calls the route safe to restore is one where
the VIP was left as it was. -/
def Rebuilt (config : VPPConfig) (fits : Fit)
    (vip : VirtualIP) (healthy : List BackendSpec) (start : VPP) :
    Outcome VIPRecreateError Unit → VPP → Prop
  | .ok _, vpp => Holds config fits vip healthy vpp
  | .error err, vpp =>
    Agrees fits vip.key vpp ∧
      (err.routeSafeToRestore = true → ∃ rest, vpp = start.answered rest)
  | .crashed, vpp => Agrees fits vip.key vpp

omit fitting in
/-- An error that does not call the route safe to restore. -/
theorem Rebuilt.of_unsafe {start : VPP} {text : String} (agrees : Agrees fits vip.key vpp) :
    Rebuilt config fits vip healthy start (.error ⟨text, false⟩) vpp :=
  ⟨agrees, by simp⟩

/-- Bringing the backends of a VIP that was just added to the desired set. -/
theorem ensures_refill (healthy : List BackendSpec) (installed : Installed config fits vip
      ((vpp.setEntry vip.key (some { vip })).setTuningDrifts vip.key [])) :
    Ensures (reconcileBackends vip.key vip healthy) (Agrees fits vip.key)
      (fun _ => Holds config fits vip healthy)
      ((vpp.setEntry vip.key (some { vip })).setTuningDrifts vip.key []) := by
  have own : Confined vip (· = vip)
      ((vpp.setEntry vip.key (some { vip })).setTuningDrifts vip.key [])
      ((vpp.setEntry vip.key (some { vip })).setTuningDrifts vip.key []) := by
    refine ⟨fun _ _ => rfl, ?_, fun _ _ => rfl, fun _ holder => .inl holder⟩
    intro entry found
    change Function.update vpp.vips vip.key _ vip.key = _ at found
    rw [Function.update_self, Option.some.injEq] at found
    rw [← found]
  have writes : WriteInvariant config vip (· = vip) (Confined vip (· = vip)
      ((vpp.setEntry vip.key (some { vip })).setTuningDrifts vip.key [])) :=
    Confined.writeInvariant rfl
  apply ((ensures_reconcileBackends fitting healthy installed).and_keeps
    (writes.rebuilds.reconcileBackends healthy) own).mono
  · exact fun _ both => Installed.agrees fitting both.1
  · intro _ next after
    obtain ⟨⟨⟨entry, tuple, held, installed⟩, exact_⟩, confined⟩ := after
    rw [installed.cachedBackends] at exact_
    exact ⟨entry, tuple, held, installed, confined.cached entry installed.cached, exact_⟩

/-- Adding the VIP again after it was deleted. -/
theorem wp_readdVIP {start : VPP} (healthy : List BackendSpec) (cleared : Cleared vip vpp) :
    Effect.wp (readdVIP config vip healthy) (Rebuilt config fits vip healthy start) vpp := by
  unfold readdVIP
  rw [Effect.wp_attempt_bind]
  apply Effect.wp_mono (ensures_addVIP fitting cleared)
  intro outcome next after
  cases outcome with
  | crashed => exact after
  | error err => exact Rebuilt.of_unsafe (Agrees.tuningDrifts after vip.key [])
  | ok _ =>
    change Effect.wp (Effect.mapError _ (reconcileBackends vip.key vip healthy)) _ _
    rw [Effect.wp_mapError]
    apply Effect.wp_mono (ensures_refill fitting healthy after)
    intro outcome last after
    cases outcome with
    | crashed => exact after
    | error err => exact Rebuilt.of_unsafe after
    | ok _ => exact after

/-- **Recreating a VIP.** Wherever it is cut off the cache agrees with VPP; an error that
calls the route safe to restore left VPP as it was, and success leaves the VIP applied. -/
theorem wp_recreateVIP_rebuilt (healthy : List BackendSpec) (agrees : Agrees fits vip.key vpp) :
    Effect.wp (recreateVIP config vip healthy) (Rebuilt config fits vip healthy vpp) vpp := by
  unfold recreateVIP
  cases failOnAllBackendsDown config vip healthy with
  | error err => exact Rebuilt.of_unsafe agrees
  | ok _ =>
    dsimp only
    rw [Effect.wp_bind]
    simp only [Effect.wp_read, Effect.continues]
    rw [Effect.wp_attempt_bind]
    apply wp_deleteVIP
    · intro outcome rest unfinished
      cases outcome with
      | ok value => exact absurd rfl (unfinished value)
      | crashed => exact agrees.answered rest
      | error err =>
        dsimp only
        rw [Effect.wp_attempt_bind]
        apply wp_lookupVIP
        · intro outcome last unfinished
          cases outcome with
          | ok value => exact absurd rfl (unfinished value)
          | crashed => exact agrees.answered last
          | error err => exact ⟨agrees.answered last, fun _ => ⟨last, rfl⟩⟩
        · intro last tuple named
          exact ⟨agrees.answered last, fun _ => ⟨last, rfl⟩⟩
    · intro rest tuple named
      apply wp_readdVIP fitting healthy
      apply (agrees.answered rest).forget_deleted
      intro entry found
      rw [VPP.answered_vips] at found
      simpa [found] using named

end Methods

end ArcaLB.DataPlane
