import ArcaLB.DataPlane.Isolation
import ArcaLB.DataPlane.Planning

/-!
# Applying a VIP again

After a successful `ApplyVIP` nothing is left to do for the same VIP and backends.  As long as
the cache is trusted the call knows this; once it consults VPP, it compares the texts of the
healthy backends with the canonical texts of the addresses that VPP dumps.
-/

namespace ArcaLB.DataPlane

open Effect (Ensures)

/-- The text is the one under which VPP's address is dumped. -/
def Canonical (address : String) : Prop :=
  (IPAddr.parseIP address).map IPAddr.text = some address

instance (address : String) : Decidable (Canonical address) :=
  inferInstanceAs (Decidable (_ = _))

/-- The call adds and deletes nothing: however VPP answers, its table is the same at every
moment of the call, and two answers, those to the dumps, are all that the call needs. -/
structure Quiet (action : Effect VPP String Unit) (vpp : VPP) : Prop where
  table : ∀ replies, (action (vpp.answered replies)).2.table = vpp.table
  returns : ∀ rest, (action (vpp.answered (.ok :: .ok :: rest))).1 = .ok ()

/-- A quiet call leaves the backends wherever it is cut off. -/
theorem Quiet.backendsOf {action : Effect VPP String Unit} {vpp : VPP} (quiet : Quiet action vpp)
    (count : Nat) (tuple : Tuple) :
    (cutOff action vpp count).backendsOf tuple = vpp.backendsOf tuple := by
  rw [VPP.backendsOf, VPP.backendsOf, cutOff, quiet.table]

/-- The data plane at a later time: nobody has changed the VIP in VPP, and its cache entry is the
one that was left, verified at any time, or was lost in a restart of the agent. -/
structure Later (vip : VirtualIP) (vpp next : VPP) : Prop where
  held : ∀ tuple, tupleOf vip = .ok tuple → next.table tuple = vpp.table tuple
  cached : next.vips vip.key = none ∨ ∃ entry verified, vpp.vips vip.key = some entry ∧
    next.vips vip.key = some { entry with lastVerified := verified }

/-- The agent restarts. -/
theorem Later.restart (vip : VirtualIP) (vpp : VPP) : Later vip vpp (vpp.setEntry vip.key none) :=
  ⟨fun _ _ => rfl, .inl (Function.update_self _ _ _)⟩

section Reconciled

variable {vip : VirtualIP} {vpp : VPP} {key : VIPKey}

/-- Updating a cached backend caches no other. -/
theorem mem_cachedBackends_insert {addr : String} (there : addr ∈ vpp.cachedBackends key)
    (backend : BackendSpec) {other : String} :
    other ∈ (vpp.modifyBackends key (AList.insert addr backend)).cachedBackends key ↔
      other ∈ vpp.cachedBackends key := by
  cases found : vpp.vips key with
  | none => simp [VPP.cachedBackends, found] at there
  | some entry =>
    simp only [VPP.cachedBackends, found, Option.map_some, Option.getD_some] at there ⊢
    simp only [VPP.modifyBackends, VPP.modifyEntry, VPP.setEntry, Function.update_self, found,
      Option.map_some, Option.getD_some, AList.mem_insert]
    constructor
    · rintro (rfl | listed)
      · exact there
      · exact listed
    · exact .inr

/-- Nothing is removed where everything cached is desired. -/
theorem removeBackends_desired {desired : BackendMap} {entries : List BackendEntry}
    (wanted : ∀ entry ∈ entries, entry.1 ∈ desired) (first : Option String) :
    removeBackends key vip desired entries first = pure first := by
  induction entries with
  | nil => rfl
  | cons entry rest ih =>
    unfold removeBackends
    rw [if_pos (wanted entry List.mem_cons_self)]
    exact ih fun other member => wanted other (List.mem_cons_of_mem _ member)

/-- Nothing is added where everything desired is cached. -/
theorem addBackends_cached {entries : List BackendEntry}
    (there : ∀ entry ∈ entries, entry.1 ∈ vpp.cachedBackends key) (first : Option String) :
    ∃ next, addBackends key vip entries first vpp = (.ok first, next) ∧ next.table = vpp.table ∧
      ∀ addr, addr ∈ next.cachedBackends key ↔ addr ∈ vpp.cachedBackends key := by
  induction entries generalizing vpp with
  | nil => exact ⟨vpp, rfl, rfl, fun _ => Iff.rfl⟩
  | cons entry rest ih =>
    have known := there entry List.mem_cons_self
    have keys := fun other => @mem_cachedBackends_insert vpp key entry.1 known entry.2 other
    obtain ⟨next, ran, table, same⟩ :=
      @ih (vpp.modifyBackends key (AList.insert entry.1 entry.2)) fun other member =>
        (keys _).mpr (there other (List.mem_cons_of_mem _ member))
    refine ⟨next, ?_, table, fun addr => (same addr).trans (keys addr)⟩
    rw [← ran]
    conv_lhs => unfold addBackends
    change (if entry.1 ∈ vpp.cachedBackends key then _ else _ : Effect VPP String _) vpp = _
    rw [if_pos known]
    rfl

/-- Reconciling the backends that are cached already changes nothing in VPP. -/
theorem reconcileBackends_cached {healthy : List BackendSpec}
    (same : ∀ addr, addr ∈ vpp.cachedBackends key ↔ addr ∈ byAddress healthy) :
    ∃ next, reconcileBackends key vip healthy vpp = (.ok (), next) ∧ next.table = vpp.table := by
  obtain ⟨next, ran, table, keys⟩ := @addBackends_cached vip vpp key (byAddress healthy).entries
    (fun entry member => (same entry.1).mpr (AList.mem_keys.mpr (List.mem_map_of_mem member))) none
  refine ⟨next, ?_, table⟩
  have removed := @removeBackends_desired vip key (byAddress healthy)
    (vpp.cachedBackends key).entries (fun entry member =>
      (same entry.1).mp (AList.mem_keys.mpr (List.mem_map_of_mem member))) none
  have applied : (!(byAddress healthy).entries.isEmpty &&
      ((byAddress healthy).keys.all fun addr => decide (addr ∉ next.cachedBackends key))) =
        false := by
    cases listed : (byAddress healthy).entries with
    | nil => simp
    | cons entry rest =>
      have member : entry.1 ∈ byAddress healthy := by
        rw [AList.mem_keys, AList.keys, listed]
        simp
      have cached := (keys entry.1).mpr ((same entry.1).mpr member)
      simp only [List.isEmpty_cons, Bool.not_false, Bool.true_and, List.all_eq_false]
      exact ⟨entry.1, AList.mem_keys.mp member, by simpa using cached⟩
  unfold reconcileBackends
  change (removeBackends key vip (byAddress healthy) (vpp.cachedBackends key).entries none >>= _)
    vpp = _
  rw [removed, pure_bind]
  change Effect.andThen _ _ vpp = _
  rw [Effect.andThen, ran]
  change (if (!(byAddress healthy).entries.isEmpty &&
      ((byAddress healthy).keys.all fun addr => decide (addr ∉ next.cachedBackends key))) = true
    then _ else _ : Effect VPP String Unit) next = _
  rw [applied]
  rfl

variable (silent : vpp.replies = [])
include silent

/-- Without an answer, nothing is removed. -/
theorem ensures_removeBackends_unanswered (desired : BackendMap)
    (entries : List BackendEntry) (first : Option String) :
    Ensures (removeBackends key vip desired entries first) (fun _ => True)
      (fun _ next => next = vpp) vpp := by
  induction entries generalizing first with
  | nil => exact rfl
  | cons entry rest ih =>
    unfold removeBackends
    split
    · exact ih first
    · have unanswered : Ensures (removeBackend vip entry.2) (fun next => next = vpp)
          (fun _ _ => False) vpp := ensures_request_unanswered silent
      apply (unanswered.attempt.forget fun _ _ after => after).bind
      intro result next after
      cases result with
      | error err =>
        cases after
        exact ih _
      | ok _ => exact after.elim

/-- Without an answer, everything desired has to be cached. -/
theorem ensures_addBackends_unanswered (entries : List BackendEntry) (first : Option String) :
    Ensures (addBackends key vip entries first) (fun _ => True)
      (fun result _ => result = none →
        first = none ∧ ∀ entry ∈ entries, entry.1 ∈ vpp.cachedBackends key) vpp := by
  induction entries generalizing first vpp with
  | nil => exact fun none => ⟨none, by simp⟩
  | cons entry rest ih =>
    unfold addBackends
    apply Ensures.read_bind
    change Ensures (if entry.1 ∈ vpp.cachedBackends key then _ else _) _ _ vpp
    split
    next known =>
      refine (@ih (vpp.modifyBackends key (AList.insert entry.1 entry.2)) silent first).mono
        (fun _ _ => trivial) ?_
      intro result _ ended none
      obtain ⟨start, others⟩ := ended none
      refine ⟨start, ?_⟩
      intro other member
      obtain rfl | member := List.mem_cons.mp member
      · exact known
      · exact (mem_cachedBackends_insert known entry.2).mp (others other member)
    next missing =>
      have unanswered : Ensures (addBackend vip entry.2) (fun next => next = vpp)
          (fun _ _ => False) vpp := ensures_request_unanswered silent
      apply (unanswered.attempt.forget fun _ _ after => after).bind
      intro result next after
      cases result with
      | error err =>
        cases after
        refine (ih silent (firstError first err)).forget ?_
        intro result _ ended none
        cases (ended none).1
      | ok _ => exact after.elim

/-- Where reconciling returns without an answer from VPP, everything desired is cached. -/
theorem ensures_reconcileBackends_unanswered (healthy : List BackendSpec) :
    Ensures (reconcileBackends key vip healthy) (fun _ => True)
      (fun _ _ => ∀ addr ∈ byAddress healthy, addr ∈ vpp.cachedBackends key) vpp := by
  apply Ensures.read_bind
  apply (ensures_removeBackends_unanswered silent _ _ none).bind
  rintro removed _ rfl
  apply (ensures_addBackends_unanswered silent (byAddress healthy).entries removed).bind
  intro added next ended
  cases added with
  | some err => exact trivial
  | none =>
    refine Ensures.of_forall _ (fun _ => trivial) ?_
    intro _ _ addr member
    obtain ⟨entry, listed, rfl⟩ := List.mem_map.mp (AList.mem_keys.mp member)
    exact (ended rfl).2 entry listed

end Reconciled

section Settled

variable {config : VPPConfig} {vip : VirtualIP} {vpp : VPP} {healthy : List BackendSpec}
  {tuple : Tuple} {held : LbVip} {attrs : VipAttributes}

/-- The VIP stands: VPP holds it as desired with the healthy backends under their texts, and
where it is cached, it is cached so. -/
structure Standing (config : VPPConfig) (vip : VirtualIP) (healthy : List BackendSpec)
    (tuple : Tuple) (held : LbVip) (vpp : VPP) : Prop where
  named : tupleOf vip = .ok tuple
  present : vpp.table tuple = some held
  matches_ : vipDetailsMatchDesired config vip held = true
  listed : ∀ addr, addr ∈ dumped healthy held.backends ↔ addr ∈ byAddress healthy
  cached : ∀ entry, vpp.vips vip.key = some entry →
    effectiveVIPAttributes config entry.vip = effectiveVIPAttributes config vip ∧
    ∀ addr, addr ∈ entry.backends ↔ addr ∈ byAddress healthy

/-- VPP gives fewer than two good answers in a row. -/
def Short (vpp : VPP) : Prop :=
  ∀ rest, vpp.replies ≠ .ok :: .ok :: rest

/-- The call was stopped, and that for want of answers. -/
def Stopped (start next : VPP) : Prop :=
  next.table = start.table ∧ Short start

/-- The healthy backends are cached, and VPP is as before. -/
def Settled (vip : VirtualIP) (healthy : List BackendSpec) (start next : VPP) : Prop :=
  next.table = start.table ∧
    ∀ addr, addr ∈ next.cachedBackends vip.key ↔ addr ∈ byAddress healthy

/-- A request goes through exactly on a reply without an error. -/
theorem wp_invoke_answered {wrap : String → String} {refusal : Int → String}
    {post : Outcome String Unit → VPP → Prop}
    (stopped : ∀ outcome rest, outcome ≠ .ok () → (∀ more, vpp.replies ≠ .ok :: more) →
      post outcome (vpp.answered rest))
    (sent : ∀ rest, vpp.replies = .ok :: rest → post (.ok ()) (vpp.answered rest)) :
    Effect.wp (invoke wrap refusal) post vpp := by
  unfold Effect.wp invoke
  split
  next none => exact stopped _ vpp.replies (by simp) (by simp [none])
  next rest given => exact sent rest given
  next err rest given => exact stopped _ rest (by simp) (by simp [given])
  next retval rest given => exact stopped _ rest (by simp) (by simp [given])

/-- A dump is answered, or stops the call. -/
theorem ensures_dump_answered (name : String) :
    Ensures (dump name)
      (fun next => next.table = vpp.table ∧ ∀ more, vpp.replies ≠ .ok :: more)
      (fun _ next => ∃ rest, vpp.replies = .ok :: rest ∧ next = vpp.answered rest) vpp := by
  apply wp_invoke_answered
  · intro outcome rest unfinished refused
    exact Effect.ends_of_stopped (fun _ => unfinished) ⟨rfl, refused⟩
  · intro rest given
    exact ⟨rest, given, rfl⟩

/-- A lookup fails only without such a reply. -/
theorem ensures_lookupVIP_answered (named : tupleOf vip = .ok tuple) :
    Ensures (lookupVIP vip)
      (fun next => next.table = vpp.table ∧ ∀ more, vpp.replies ≠ .ok :: more)
      (fun found next => found = vpp.table tuple ∧
        ∃ rest, vpp.replies = .ok :: rest ∧ next = vpp.answered rest) vpp := by
  unfold lookupVIP
  rw [named]
  apply (ensures_dump_answered "LbVipDump").bind
  rintro _ _ ⟨rest, given, rfl⟩
  exact ⟨rfl, rest, given, rfl⟩

/-- A dump fails only without such a reply. -/
theorem ensures_dumpBackends_answered (named : tupleOf vip = .ok tuple)
    (desired : List BackendSpec) :
    Ensures (dumpBackends vip desired)
      (fun next => next.table = vpp.table ∧ ∀ more, vpp.replies ≠ .ok :: more)
      (fun backends next => backends = dumped desired (vpp.backendsOf tuple) ∧
        ∃ rest, vpp.replies = .ok :: rest ∧ next = vpp.answered rest) vpp := by
  unfold dumpBackends
  rw [named]
  apply (ensures_dump_answered "LbAsDump").bind
  rintro _ _ ⟨rest, given, rfl⟩
  exact ⟨rfl, rest, given, rfl⟩

theorem Stopped.of_refused {start next : VPP}
    (stopped : next.table = start.table ∧ ∀ more, start.replies ≠ .ok :: more) :
    Stopped start next :=
  ⟨stopped.1, fun _ => stopped.2 _⟩

variable (standing : Standing config vip healthy tuple held vpp)
include standing

/-- Taking over a VIP that stands. -/
theorem ensures_takeOver_standing {missing : Effect VPP String Bool} {wrap : String → String}
    {change : VPP → VPP} (now : Time) :
    Ensures (takeOver config vip.key vip healthy now missing wrap change) (Stopped vpp)
      (fun found next => found = true ∧ Settled vip healthy vpp next) vpp := by
  apply ((ensures_lookupVIP_answered standing.named).mono (fun _ => Stopped.of_refused)
    fun _ _ after => after).bind
  rintro _ _ ⟨rfl, rest, given, rfl⟩
  rw [standing.present]
  simp only [standing.matches_, Bool.not_true, Bool.false_eq_true, if_false]
  apply ((ensures_dumpBackends_answered standing.named healthy).mono ?_ fun _ _ after => after).bind
  · rintro backends next ⟨rfl, more, _, rfl⟩
    refine ⟨rfl, rfl, ?_⟩
    intro addr
    have content : (vpp.answered rest).backendsOf tuple = held.backends := by
      simp [VPP.backendsOf, standing.present]
    rw [content]
    change addr ∈ ((Function.update vpp.vips vip.key _ vip.key).map VipEntry.backends).getD ∅ ↔ _
    rw [Function.update_self]
    exact standing.listed addr
  · rintro next ⟨table, refused⟩
    refine ⟨table, ?_⟩
    intro more twice
    rw [given] at twice
    cases twice
    exact refused more rfl

/-- A standing VIP is found settled, unless nothing is cached. -/
theorem ensures_checkCached_standing
    (desired : effectiveVIPAttributes config vip = .ok attrs) (now : Time) :
    Ensures (checkCached config vip healthy now attrs) (Stopped vpp)
      (fun cached next => (cached = .absent ∧ next = vpp) ∨
        ((cached = .trusted ∨ cached = .verified) ∧ Settled vip healthy vpp next)) vpp := by
  apply Ensures.read_bind
  cases found : vpp.vips vip.key with
  | none => exact .inl ⟨rfl, rfl⟩
  | some existing =>
    obtain ⟨same, keys⟩ := standing.cached existing found
    dsimp only
    rw [same, desired]
    change Ensures (if attrs ≠ attrs then _ else _) _ _ vpp
    rw [if_neg (by simp)]
    split
    · apply (ensures_takeOver_standing standing now).attempt.bind
      intro refreshed last after
      match refreshed with
      | .error _ => exact after
      | .ok true => exact .inr ⟨.inr rfl, after.2⟩
      | .ok false => cases after.1
    · refine .inr ⟨.inl rfl, rfl, ?_⟩
      intro addr
      change addr ∈ ((vpp.vips vip.key).map VipEntry.backends).getD ∅ ↔ _
      rw [found]
      exact keys addr

/-- **Applying a standing VIP.** VPP stays as it is, and only missing answers stop the call. -/
theorem ensures_applyVIP_standing (desired : effectiveVIPAttributes config vip = .ok attrs)
    (allowed : failOnAllBackendsDown config vip healthy = .ok ()) (now : Time) :
    Ensures (applyVIP config vip healthy now) (Stopped vpp)
      (fun _ next => next.table = vpp.table) vpp := by
  refine @ensures_applyVIP_parts config vip vpp healthy now (Stopped vpp)
    (fun _ => Settled vip healthy vpp) (fun next => next.table = vpp.table)
    (fun refused => absurd ⟨⟨attrs, desired⟩, allowed⟩ refused) ?_ ?_
  · intro given wanted
    cases desired.symm.trans wanted
    apply ensures_settleCached_parts (ensures_checkCached_standing standing desired now)
    · rintro cached next (⟨rfl, rfl⟩ | ⟨known, _⟩) left
      · refine ((ensures_takeOver_standing standing now).mapError _).bind ?_
        rintro found last ⟨rfl, settled⟩
        exact settled
      · rcases known with rfl | rfl <;> exact absurd left (by decide)
    · rintro cached next (⟨rfl, _⟩ | ⟨_, settled⟩) known
      · exact absurd known (by decide)
      · exact settled
  · rintro cached next ⟨table, keys⟩
    obtain ⟨last, ran, same⟩ := @reconcileBackends_cached vip next vip.key healthy keys
    unfold Ensures Effect.wp
    rw [ran]
    exact same.trans table

/-- A standing VIP is quiet. -/
theorem Standing.quiet (desired : effectiveVIPAttributes config vip = .ok attrs)
    (allowed : failOnAllBackendsDown config vip healthy = .ok ()) (now : Time) :
    Quiet (applyVIP config vip healthy now) vpp := by
  have answered : ∀ replies,
      Standing config vip healthy tuple held (vpp.answered replies) := fun _ =>
    ⟨standing.named, standing.present, standing.matches_, standing.listed, standing.cached⟩
  constructor
  · intro replies
    exact ((ensures_applyVIP_standing (answered replies) desired allowed now).mono
      (fun _ stopped => stopped.1) fun _ _ same => same).last
  · intro rest
    have ended := (ensures_applyVIP_standing (answered (.ok :: .ok :: rest)) desired allowed now)
    unfold Ensures Effect.wp at ended
    cases outcome : (applyVIP config vip healthy now (vpp.answered (.ok :: .ok :: rest))).1 with
    | ok _ => rfl
    | error err | crashed =>
      rw [outcome] at ended
      exact absurd rfl (ended.2 rest)

end Settled

section Texts

variable {config : VPPConfig} {vip : VirtualIP} {vpp : VPP} {healthy : List BackendSpec}
  {tuple : Tuple} {held : LbVip}

/-- What forwards as desired is found as desired. -/
theorem matches_of_forwards (forwards : Forwards config vip held) :
    vipDetailsMatchDesired config vip held = true := by
  have given : effectiveVIPAttributes config vip = .ok
      { address := vip.spec.address
        port := vip.spec.port
        protocol := vip.spec.protocol
        encapType := effectiveEncapType config vip
        dscp := held.dscp
        serviceType := config.serviceType
        newFlowsTableLength := config.newFlowsTableLength } := by
    simp [effectiveVIPAttributes, forwards.dscp, bind, Except.bind]
  simp [vipDetailsMatchDesired, given, forwards.encap, forwards.srvType, forwards.targetPort]

/-- Go prints addresses in their canonical form. -/
theorem canonical_text (ip : IPAddr) : Canonical ip.text := by
  unfold Canonical
  rw [IPAddr.parseIP_text, Option.map_some]
  simp only [IPAddr.text, IPAddr.unmap_unmap]

/-- Canonical texts are those under which VPP's backends are dumped. -/
theorem mem_dumped_of_canonical {backends : BackendMap} (mirrors : Mirrors config vip backends held)
    (canonical : ∀ addr ∈ backends, Canonical addr) (desired : List BackendSpec) {addr : String} :
    addr ∈ dumped desired held.backends ↔ addr ∈ backends := by
  have text : ∀ {addr ip}, addr ∈ backends → IPAddr.parseIP addr = some ip → ip.text = addr := by
    intro addr ip listed parsed
    have given := canonical addr listed
    rw [Canonical, parsed] at given
    exact Option.some.inj given
  rw [mem_dumped]
  constructor
  · rintro ⟨ip, member, rfl⟩
    obtain ⟨addr, listed, parsed⟩ := mirrors.exactly.covered ip member
    rwa [text listed parsed]
  · intro listed
    obtain ⟨ip, member, parsed⟩ := mirrors.exactly.listed addr listed
    exact ⟨ip, member, text listed parsed⟩

/-- A call that returned was not refused at once. -/
theorem allowed_of_returned {now : Time} {last : VPP}
    (ended : applyVIP config vip healthy now vpp = (.ok (), last)) :
    failOnAllBackendsDown config vip healthy = .ok () := by
  by_contra refused
  have never : Ensures (applyVIP config vip healthy now) (fun _ => True)
      (fun _ _ => False) vpp := by
    have attributes : Ensures (Effect.ofExcept (effectiveVIPAttributes config vip))
        (fun _ => True) (fun _ _ => True) vpp :=
      Ensures.of_forall _ (fun _ => trivial) fun _ _ => trivial
    apply (attributes.mapError _).bind
    intro attrs next _
    have stopped : Ensures (Effect.ofExcept (failOnAllBackendsDown config vip healthy))
        (fun _ => True) (fun _ _ => False) next :=
      Ensures.ofExcept trivial fun _ given => refused given
    exact stopped.bind fun _ _ impossible => impossible.elim
  exact never.returned ended

/-- A call without cache that returns on two answers has found every healthy backend in VPP's
dump. -/
theorem ensures_applyVIP_uncached (named : tupleOf vip = .ok tuple)
    (present : vpp.table tuple = some held)
    (matches_ : vipDetailsMatchDesired config vip held = true)
    (uncached : vpp.vips vip.key = none) (now : Time) :
    Ensures (applyVIP config vip healthy now) (fun _ => True)
      (fun _ _ => ∀ addr ∈ byAddress healthy, addr ∈ dumped healthy held.backends)
      (vpp.answered [.ok, .ok]) := by
  refine @ensures_applyVIP_parts config vip _ healthy now (fun _ => True)
    (fun _ next => next.replies = [] ∧
      next.cachedBackends vip.key = dumped healthy held.backends)
    (fun _ => ∀ addr ∈ byAddress healthy, addr ∈ dumped healthy held.backends)
    (fun _ => trivial) ?_ ?_
  · intro attrs _
    have checked : Ensures (checkCached config vip healthy now attrs) (fun _ => True)
        (fun cached next => cached = .absent ∧ next = vpp.answered [.ok, .ok])
        (vpp.answered [.ok, .ok]) := by
      apply Ensures.read_bind
      rw [VPP.answered_vips, uncached]
      exact ⟨rfl, rfl⟩
    have adopted : Ensures (adoptExistingVIP config vip healthy now) (fun _ => True)
        (fun found next => found = true ∧ next.replies = [] ∧
          next.cachedBackends vip.key = dumped healthy held.backends)
        (vpp.answered [.ok, .ok]) := by
      apply ((ensures_lookupVIP_answered named).forget fun _ _ after => after).bind
      rintro _ _ ⟨rfl, rest, given, rfl⟩
      cases given
      rw [VPP.answered_table, present]
      simp only [matches_, Bool.not_true, Bool.false_eq_true, if_false]
      apply ((ensures_dumpBackends_answered named healthy).forget fun _ _ after => after).bind
      rintro _ _ ⟨rfl, more, left, rfl⟩
      cases left
      refine ⟨rfl, rfl, ?_⟩
      change (((Function.update vpp.vips vip.key _) vip.key).map VipEntry.backends).getD ∅ = _
      rw [Function.update_self]
      simp [VPP.backendsOf, present]
    apply ensures_settleCached_parts checked
    · rintro _ _ ⟨rfl, rfl⟩ _
      apply (adopted.mapError _).bind
      rintro found last ⟨rfl, after⟩
      exact after
    · rintro _ _ ⟨rfl, _⟩ known
      exact absurd known (by decide)
  · rintro cached next ⟨silent, keys⟩
    apply (ensures_reconcileBackends_unanswered silent healthy).mono (fun _ _ => ⟨trivial, trivial⟩)
    intro _ _ there
    rwa [keys] at there

end Texts

section Spelled

/-- A service with one IPv6 backend, reached over GRE. -/
def spelledWeb (address : String) : VirtualIP :=
  { greWeb with
    spec :=
      { greWeb.spec with
        encapType := .gre6
        backends := [{ address, monitorAddress := "", weight := 1 }] } }

/-- The service is applied to an empty VPP. -/
def appliedSpelled (address : String) : Outcome String Unit × VPP :=
  applyVIP greSettings (spelledWeb address) (spelledWeb address).spec.backends 0
    (vacant.answered (List.replicate 8 .ok))

end Spelled

end ArcaLB.DataPlane
