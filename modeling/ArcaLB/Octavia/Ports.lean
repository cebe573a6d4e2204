import ArcaLB.Octavia.Alone
import ArcaLB.Octavia.Faults

/-!
# Health check ports and the members of a pool

A VirtualIP has one health check port, so the driver takes it from the members of the pool.  It
counts the member of the request and every member that Octavia lists; where Octavia still lists
the members as they were before the operation, the old record of a changed or deleted member is
counted as well.  `MemberChange.resultingPorts` are the ports of the members after the operation.
-/

namespace ArcaLB.Octavia

variable {python : Python} {octavia : Database} {poolID : String} {m : Member}

/-! ## Resolving a port -/

/-- How a port is resolved: the one that all members share, or else the listener's. -/
inductive Resolves (ports : List Int) (listener : Option Int) : Checked Int → Prop
  | shared {port : Int} (counted : port ∈ ports) (alone : ∀ other ∈ ports, other = port) :
      Resolves ports listener (.ok port)
  | listener {port : Int} (empty : ports = []) (found : listener = some port) :
      Resolves ports listener (.ok port)
  | missing {user operator : String} (empty : ports = []) (absent : listener = none)
      (plain : user ≠ mixedPortsFault) : Resolves ports listener (.error (.fault user operator))
  | mixed {first second : Int} {operator : String} (one : first ∈ ports) (two : second ∈ ports)
      (different : first ≠ second) :
      Resolves ports listener (.error (.fault mixedPortsFault operator))

/-- `_resolve_health_check_port` resolves the ports of the members. -/
theorem resolves_resolveHealthCheckPort (octavia : Database) (poolID : String) (vipSpec : Spec)
    (members : List Member) :
    Resolves (members.filterMap (memberProbePort octavia)) vipSpec.vipPort
      (resolveHealthCheckPort octavia poolID vipSpec members) := by
  unfold resolveHealthCheckPort
  generalize members.filterMap (memberProbePort octavia) = ports
  have counted (port : Int) : port ∈ ports.dedup ↔ port ∈ ports := List.mem_dedup
  have distinct := ports.nodup_dedup
  cases shown : ports.dedup with
  | nil =>
    have empty := (List.dedup_eq_nil ports).mp shown
    cases found : vipSpec.vipPort with
    | none => exact .missing empty rfl (by decide)
    | some port => exact .listener empty rfl
  | cons first rest =>
    rw [shown] at counted distinct
    cases rest with
    | nil =>
      exact .shared ((counted first).mp (List.mem_singleton.mpr rfl)) fun other member =>
        List.mem_singleton.mp ((counted other).mpr member)
    | cons second rest =>
      refine .mixed ((counted first).mp (by simp)) ((counted second).mp (by simp)) ?_
      rintro rfl
      simp at distinct

/-- The wanted port is resolved, or something other than mixed ports is in the way. -/
def Resolution.Fits (wanted : Option Int) : Checked Int → Prop
  | .ok port => wanted = some port
  | .error stop => ∀ operator, stop ≠ .fault mixedPortsFault operator

/-- **Ports that are counted.** Where the members that should count share a port, it is resolved
if every port that is counted is theirs, or the listener's if there is none of theirs. -/
theorem fits_iff_counted {ports resulting : List Int} {listener : Option Int}
    {resolved : Checked Int} (resolves : Resolves ports listener resolved)
    (agree : ∀ first ∈ resulting, ∀ second ∈ resulting, first = second) :
    Resolution.Fits (resulting.head?.or listener) resolved ↔
      (∀ port ∈ ports, port ∈ resulting ∨ resulting = [] ∧ listener = some port) ∧
        (ports = [] → ∀ port ∈ resulting, ∀ own ∈ listener, own = port) := by
  cases resulting with
  | nil =>
    simp only [List.head?_nil, Option.none_or, List.not_mem_nil, true_and, false_or,
      IsEmpty.forall_iff, implies_true, and_true]
    cases resolves with
    | shared counted alone =>
      exact ⟨fun fits other member => alone other member ▸ fits, fun all => all _ counted⟩
    | listener empty found =>
      subst empty
      exact iff_of_true found nofun
    | missing empty absent plain =>
      subst empty
      exact iff_of_true (fun operator same => plain (Stop.fault.inj same).1) nofun
    | mixed one two different =>
      refine iff_of_false (fun fits => fits _ rfl) fun all => different ?_
      exact Option.some.inj ((all _ one).symm.trans (all _ two))
  | cons wanted rest =>
    have among (port : Int) : port ∈ wanted :: rest ↔ port = wanted :=
      ⟨fun member => agree port member wanted List.mem_cons_self,
        fun same => same ▸ List.mem_cons_self⟩
    simp only [List.head?_cons, Option.some_or, among, reduceCtorEq, false_and, or_false,
      forall_eq]
    cases resolves with
    | shared counted alone =>
      refine ⟨fun fits => ⟨fun other member => ?_, fun empty => ?_⟩, fun all => ?_⟩
      · exact (alone other member).trans (Option.some.inj fits).symm
      · rw [empty] at counted
        cases counted
      · exact congrArg some (all.1 _ counted).symm
    | listener empty found =>
      subst empty found
      simp [Resolution.Fits, eq_comm]
    | missing empty absent plain =>
      subst empty absent
      exact iff_of_true (fun operator same => plain (Stop.fault.inj same).1) ⟨nofun, nofun⟩
    | mixed one two different =>
      refine iff_of_false (fun fits => fits _ rfl) fun all => different ?_
      exact (all.1 _ one).trans (all.1 _ two).symm

/-! ## Operations on one member -/

/-- The operations on one member. -/
inductive MemberChange where
  | create
  | update
  | delete
  deriving DecidableEq, Repr

namespace MemberChange

/-- The call of the driver. -/
def call (python : Python) (poolID : String) (m : Member) : MemberChange → Call Unit
  | .create => memberCreate python poolID m
  | .update => memberUpdate python poolID m
  | .delete => memberDelete python poolID m

/-- The closure of the call. -/
def mutation (poolID : String) (m : Member) : MemberChange → Mutation
  | .create => .memberCreate poolID m
  | .update => .memberUpdate poolID m
  | .delete => .memberDelete poolID m

/-- What is checked before a VirtualIP is looked for. -/
def validate (python : Python) (poolID : String) (m : Member) : MemberChange → Checked Unit
  | .create => do
      validateMemberSupported m
      validateMemberAddresses python m
  | .update => do
      validateMemberSupported m
      if poolID = "" then
        fault "Member pool is required."
          ("Cannot resolve pool for Octavia member update " ++ m.shown)
      else validateMemberAddresses python m
  | .delete => pure ()

/-- What is checked on the VirtualIP before the port is resolved. -/
def validateOn (python : Python) (octavia : Database) (vip : VirtualIP) (m : Member) :
    MemberChange → Checked Unit
  | .create => validateMemberOn python vip.spec m
  | .update => validateMemberOn python vip.spec m
  | .delete =>
    if (memberDeleteAddress octavia vip.annotations m).isSome then pure ()
    else fault "Cannot determine member address for deletion."
      ("Octavia member delete payload and VirtualIP annotations do not identify member " ++
        m.shown)

/-- The members whose ports the driver counts. -/
def counted (octavia : Database) (poolID : String) (m : Member) : MemberChange → List Member
  | .create => m :: octavia.members poolID
  | .update => m :: octavia.members poolID
  | .delete => octavia.members poolID

end MemberChange

/-- The checks of the request stop plainly. -/
theorem stopsPlainly_validate (change : MemberChange) :
    StopsPlainly (change.validate python poolID m) := by
  cases change with
  | create =>
    exact .bind (stopsPlainly_validateMemberSupported m) fun _ =>
      stopsPlainly_validateMemberAddresses m
  | update =>
    refine .bind (stopsPlainly_validateMemberSupported m) fun _ => ?_
    split
    · exact .fault (by decide)
    · exact stopsPlainly_validateMemberAddresses m
  | delete => exact .pure

theorem stopsPlainly_validateOn {vip : VirtualIP} (change : MemberChange) :
    StopsPlainly (change.validateOn python octavia vip m) := by
  cases change with
  | create | update => exact stopsPlainly_validateMemberOn vip.spec m
  | delete =>
    dsimp only [MemberChange.validateOn]
    split
    · exact .pure
    · exact .fault (by decide)

/-- **The closure of an operation on a member.** After the checks it resolves the port for a
health check that connects to one, and leaves it there. -/
theorem apply_memberChange {vip : VirtualIP} {check : HealthCheck}
    (pooled : vip.annotations.poolID = some poolID) (checked : vip.spec.healthCheck = some check)
    (probes : check.Probes) (change : MemberChange) :
    let outcome := (change.mutation poolID m).outcome octavia vip.draft
    (change.mutation poolID m).apply python octavia vip.draft = (do
      change.validateOn python octavia vip m
      let port ← resolveHealthCheckPort octavia poolID vip.spec (change.counted octavia poolID m)
      pure (outcome.recheck (some (check.setProbePort port)) outcome.annotations.hmID)) := by
  have refreshed (backends : Option (List Backend)) (members : List Member) :
      refreshHealthCheckPort octavia poolID vip.spec members
          { vip.spec with backends := backends } =
        (fun port => { vip.spec with
          backends := backends, healthCheck := some (check.setProbePort port) }) <$>
          resolveHealthCheckPort octavia poolID vip.spec members := by
    simp only [refreshHealthCheckPort_eq, checked, if_pos probes]
  have ensured : ensureVirtualIPPool vip.annotations poolID = pure () := if_pos pooled
  cases change with
  | create | update =>
    simp only [MemberChange.mutation, Mutation.apply, guarded, ensured, pure_bind, mutateMember,
      MemberChange.validateOn, VirtualIP.draft, MemberChange.counted, Mutation.outcome,
      Draft.setMember]
    congr 1
    funext _
    rw [refreshed]
    cases resolveHealthCheckPort octavia poolID vip.spec (m :: octavia.members poolID) <;> rfl
  | delete =>
    simp only [MemberChange.mutation, Mutation.apply, guarded, ensured, pure_bind,
      mutateMemberDelete, MemberChange.validateOn, VirtualIP.draft, MemberChange.counted,
      Mutation.outcome, Draft.dropMember]
    cases memberDeleteAddress octavia vip.annotations m with
    | none => rfl
    | some address =>
      simp only [Option.isSome_some, if_true, pure_bind, Option.getD_some]
      rw [refreshed]
      cases resolveHealthCheckPort octavia poolID vip.spec (octavia.members poolID) <;> rfl

variable {world : World}

/-- An operation on a member of a pool with a VirtualIP makes its checks and runs its closure. -/
theorem ends_memberChange {vip : VirtualIP} {post : Except Stop Unit → World → Prop}
    (sane : world.Sane) (found : findByPool python world poolID = some vip)
    (change : MemberChange) :
    (change.call python poolID m).Ends python post world ↔
      match change.validate python poolID m with
      | .error stop => post (.error stop) world
      | .ok _ => afterClosure python world vip post
          ((change.mutation poolID m).apply python world.octavia vip.draft) := by
  cases change with
  | create =>
    rw [MemberChange.call, memberCreate, Call.ends_discard, memberCreateStatuses, Call.ends_bind,
      Call.ends_ofExcept, MemberChange.validate]
    cases validateMemberSupported m with
    | error stop => exact Iff.rfl
    | ok _ =>
      rw [Call.after, Call.ends_bind, Call.ends_ofExcept]
      cases validateMemberAddresses python m with
      | error stop => exact Iff.rfl
      | ok _ =>
        simp only [Call.after, bind, Except.bind]
        exact ends_setMemberStatuses sane found
  | update =>
    rw [MemberChange.call, memberUpdate, Call.ends_discard, memberUpdateStatuses, Call.ends_bind,
      Call.ends_ofExcept, MemberChange.validate]
    cases validateMemberSupported m with
    | error stop => exact Iff.rfl
    | ok _ =>
      rw [Call.after]
      by_cases nameless : poolID = ""
      · rw [if_pos nameless]
        simp only [bind, Except.bind, if_pos nameless]
        exact Iff.rfl
      · rw [if_neg nameless, Call.ends_bind, Call.ends_ofExcept]
        cases validateMemberAddresses python m with
        | error stop =>
          simp only [Call.after, bind, Except.bind, if_neg nameless]
          exact Iff.rfl
        | ok _ =>
          simp only [Call.after, bind, Except.bind, if_neg nameless]
          exact ends_setMemberStatuses sane found
  | delete =>
    rw [MemberChange.call, memberDelete, ends_updatePool sane found, MemberChange.mutation]
    cases Mutation.apply python world.octavia (.memberDelete poolID m) vip.draft with
    | ok draft => exact Iff.rfl
    | error stop => cases stop <;> exact Iff.rfl

/-! ## The members after an operation -/

/-- The two stand for one member: they have one identifier, or one address where none is given. -/
def Member.same (m other : Member) : Bool :=
  match m.memberID with
  | some id => other.memberID = some id
  | none => (given m.address).isSome && other.address = m.address

/-- The port of the member that a request makes, unless it is draining: what the request says,
and Octavia's record for what it does not say. -/
def Database.requestedPort (octavia : Database) (m : Member) : Option Int :=
  let record := m.memberID.bind octavia.member
  let state := { m with
    adminStateUp := m.adminStateUp.or (record.bind Member.adminStateUp)
    weight := m.weight.or (record.bind Member.weight) }
  if memberIsDraining state then none
  else ((validPort m.monitorPort).or (validPort m.protocolPort)).or
    (record.bind fun record => (validPort record.monitorPort).or (validPort record.protocolPort))

/-- The ports that Octavia lists for the records that are `m`, or for the others. -/
def Database.listedPorts (octavia : Database) (poolID : String) (m : Member) (own : Bool) :
    List Int :=
  ((octavia.members poolID).filter fun other => m.same other == own).filterMap
    (memberProbePort octavia)

namespace MemberChange

/-- The ports of the members that are not draining after the operation, each counted once with
its new data, and a deleted one not at all. -/
def resultingPorts (octavia : Database) (poolID : String) (m : Member) : MemberChange → List Int
  | .create => (octavia.requestedPort m).toList ++ octavia.listedPorts poolID m false
  | .update => (octavia.requestedPort m).toList ++ octavia.listedPorts poolID m false
  | .delete => octavia.listedPorts poolID m false

/-- The ports that the driver counts for the member itself: that of the request with the details
it fetches, and those of the records that Octavia still lists. -/
def ownPorts (octavia : Database) (poolID : String) (m : Member) : MemberChange → List Int
  | .create => (memberProbePort octavia m).toList ++ octavia.listedPorts poolID m true
  | .update => (memberProbePort octavia m).toList ++ octavia.listedPorts poolID m true
  | .delete => octavia.listedPorts poolID m true

/-- The ports counted for the member itself are among those of the members after the operation,
or, where none of these is left, the listener's; and if no port is counted at all, a port that
should be is the listener's. -/
def CountsOnce (change : MemberChange) (octavia : Database) (vip : VirtualIP) (poolID : String)
    (m : Member) : Prop :=
  let resulting := change.resultingPorts octavia poolID m
  (∀ port ∈ change.ownPorts octavia poolID m,
      port ∈ resulting ∨ resulting = [] ∧ vip.spec.vipPort = some port) ∧
    (change.ownPorts octavia poolID m ++ octavia.listedPorts poolID m false = [] →
      ∀ port ∈ resulting, ∀ listener ∈ vip.spec.vipPort, listener = port)

instance (change : MemberChange) (vip : VirtualIP) :
    Decidable (change.CountsOnce octavia vip poolID m) :=
  inferInstanceAs (Decidable (_ ∧ _))

end MemberChange

/-- The ports that are counted are the member's own and those of the others. -/
theorem mem_filterMap_counted (change : MemberChange) {port : Int} :
    port ∈ (change.counted octavia poolID m).filterMap (memberProbePort octavia) ↔
      port ∈ change.ownPorts octavia poolID m ++ octavia.listedPorts poolID m false := by
  have listed : port ∈ (octavia.members poolID).filterMap (memberProbePort octavia) ↔
      port ∈ octavia.listedPorts poolID m true ∨ port ∈ octavia.listedPorts poolID m false := by
    simp only [Database.listedPorts, List.mem_filterMap, List.mem_filter, beq_iff_eq]
    constructor
    · rintro ⟨other, member, probed⟩
      cases same : m.same other with
      | true => exact .inl ⟨other, ⟨member, same⟩, probed⟩
      | false => exact .inr ⟨other, ⟨member, same⟩, probed⟩
    · rintro (⟨other, ⟨member, -⟩, probed⟩ | ⟨other, ⟨member, -⟩, probed⟩)
      · exact ⟨other, member, probed⟩
      · exact ⟨other, member, probed⟩
  cases change with
  | create | update =>
    simp only [MemberChange.counted, MemberChange.ownPorts, List.filterMap_cons,
      List.mem_append, or_assoc, ← listed]
    cases memberProbePort octavia m <;> simp
  | delete =>
    rw [MemberChange.counted, MemberChange.ownPorts, List.mem_append]
    exact listed

/-- The other members stay in the membership. -/
theorem listedPorts_subset (change : MemberChange) :
    octavia.listedPorts poolID m false ⊆ change.resultingPorts octavia poolID m := by
  cases change with
  | create | update => exact List.subset_append_right _ _
  | delete => exact List.Subset.refl _

/-- Which ports the driver counts, in terms of the member itself. -/
theorem countsOnce_iff (change : MemberChange) (vip : VirtualIP) :
    change.CountsOnce octavia vip poolID m ↔
      let ports := (change.counted octavia poolID m).filterMap (memberProbePort octavia)
      let resulting := change.resultingPorts octavia poolID m
      (∀ port ∈ ports, port ∈ resulting ∨ resulting = [] ∧ vip.spec.vipPort = some port) ∧
        (ports = [] → ∀ port ∈ resulting, ∀ listener ∈ vip.spec.vipPort, listener = port) := by
  dsimp only [MemberChange.CountsOnce]
  refine and_congr ?_ (imp_congr_left ?_)
  · simp only [mem_filterMap_counted, List.mem_append]
    refine ⟨fun own port => ?_, fun all port member => all port (.inl member)⟩
    rintro (member | member)
    · exact own port member
    · exact .inl (listedPorts_subset change member)
  · simp only [List.eq_nil_iff_forall_not_mem, mem_filterMap_counted]

/-! ## The port of the patched health check -/

/-- A port that is set is the one stored. -/
theorem HealthCheck.probePort_merge_setProbePort (check : HealthCheck) (port : Int) :
    (check.merge (check.setProbePort port)).probePort = some port := by
  by_cases http : check.type = some "http" ∨ check.type = some "https"
  · cases before : check.http <;>
      simp [HealthCheck.probePort, HealthCheck.merge, HealthCheck.setProbePort, http, before,
        mergeWith, HttpCheck.merge]
  · cases before : check.tcp <;>
      simp [HealthCheck.probePort, HealthCheck.merge, HealthCheck.setProbePort, http, before,
        mergeWith, TcpCheck.merge]

/-- If the members after the operation share one port or there is none of them, the operation is
not rejected for mixed ports, and after it the health check of the VirtualIP has this port or the
listener's. -/
def FollowsMembership (resulting : List Int) (vip : VirtualIP) (result : Except Stop Unit)
    (after : World) : Prop :=
  (∀ first ∈ resulting, ∀ second ∈ resulting, first = second) →
    (∀ operator, result ≠ .error (.fault mixedPortsFault operator)) ∧
      (result = .ok () → ∃ updated, after.get vip.name = some updated ∧
        updated.spec.healthCheck.bind HealthCheck.probePort =
          resulting.head?.or vip.spec.vipPort)

theorem followsMembership_of_plain {resulting : List Int} {vip : VirtualIP} {stop : Stop}
    (plain : stop.Plain) : FollowsMembership resulting vip (.error stop) world := by
  refine fun _ => ⟨fun operator same => ?_, nofun⟩
  cases same
  exact plain rfl

/-- After the port is resolved, the operation ends as the resolved port says. -/
theorem followsMembership_afterClosure_iff {resulting : List Int} {vip : VirtualIP}
    {check : HealthCheck} {outcome : Draft} {hmID : Option String} {ports : List Int}
    {resolved : Checked Int} (sane : world.Sane) (stored : vip ∈ world.vips)
    (checked : vip.spec.healthCheck = some check)
    (resolves : Resolves ports vip.spec.vipPort resolved) :
    afterClosure python world vip (FollowsMembership resulting vip) (do
        let port ← resolved
        pure (outcome.recheck (some (check.setProbePort port)) hmID)) ↔
      ((∀ first ∈ resulting, ∀ second ∈ resulting, first = second) →
        Resolution.Fits (resulting.head?.or vip.spec.vipPort) resolved) := by
  have done (port : Int) :
      let draft := outcome.recheck (some (check.setProbePort port)) hmID
      let updated := patchedTo python world vip vip draft
      (world.replace updated).get vip.name = some updated ∧
        updated.spec.healthCheck.bind HealthCheck.probePort = some port := by
    refine ⟨get_patchedTo sane stored vip _, ?_⟩
    change ((mergeWith HealthCheck.merge vip.spec.healthCheck _).bind _) = _
    rw [checked]
    exact check.probePort_merge_setProbePort port
  have ended (port : Int) : afterClosure python world vip (FollowsMembership resulting vip)
      (.ok (outcome.recheck (some (check.setProbePort port)) hmID)) ↔
      ((∀ first ∈ resulting, ∀ second ∈ resulting, first = second) →
        resulting.head?.or vip.spec.vipPort = some port) := by
    refine imp_congr_right fun _ => ⟨fun follows => ?_, fun wanted => ?_⟩
    · obtain ⟨updated, found, shown⟩ := follows.2 rfl
      obtain rfl := Option.some.inj (found.symm.trans (done port).1)
      exact shown.symm.trans (done port).2
    · exact ⟨nofun, fun _ => ⟨_, (done port).1, (done port).2.trans wanted.symm⟩⟩
  cases resolves with
  | shared counted alone | listener empty found => exact ended _
  | missing empty absent plain =>
    refine iff_of_true ?_ fun _ operator same => plain (Stop.fault.inj same).1
    exact followsMembership_of_plain plain
  | mixed one two different =>
    exact imp_congr_right fun _ => iff_of_false (fun follows => follows.1 _ rfl)
      fun fits => fits _ rfl

/-- **Ports follow the members where each is counted once.** For a pool whose VirtualIP has a
health check that connects to a port, whatever Octavia lists. -/
theorem memberChange_follows_membership_iff {vip : VirtualIP} {check : HealthCheck}
    (sane : world.Sane) (found : findByPool python world poolID = some vip)
    (checked : vip.spec.healthCheck = some check) (probes : check.Probes) (change : MemberChange) :
    (change.call python poolID m).Ends python
        (FollowsMembership (change.resultingPorts world.octavia poolID m) vip) world ↔
      (change.validate python poolID m = .ok () →
        change.validateOn python world.octavia vip m = .ok () →
        (∀ first ∈ change.resultingPorts world.octavia poolID m,
          ∀ second ∈ change.resultingPorts world.octavia poolID m, first = second) →
        change.CountsOnce world.octavia vip poolID m) := by
  obtain ⟨stored, pooled⟩ := mem_of_findByPool found
  rw [ends_memberChange sane found]
  cases validated : change.validate python poolID m with
  | error stop =>
    exact iff_of_true (followsMembership_of_plain (stopsPlainly_validate change stop validated))
      nofun
  | ok _ =>
    dsimp only
    rw [apply_memberChange pooled checked probes]
    cases validatedOn : change.validateOn python world.octavia vip m with
    | error stop =>
      have plain := stopsPlainly_validateOn change stop validatedOn
      refine iff_of_true ?_ nofun
      cases stop with
      | fault user operator => exact followsMembership_of_plain plain
      | skipped | api => exact plain.elim
    | ok _ =>
      have resolves := resolves_resolveHealthCheckPort world.octavia poolID vip.spec
        (change.counted world.octavia poolID m)
      refine (followsMembership_afterClosure_iff sane stored checked resolves).trans ?_
      rw [forall_prop_of_true rfl, forall_prop_of_true rfl, countsOnce_iff]
      exact imp_congr_right fun agree => fits_iff_counted resolves agree

/-- A VirtualIP with a TCP check, whose pool has one member that is probed on a port of its own. -/
def checkedVirtualIP : VirtualIP where
  name := "octavia-1"
  resourceVersion := 7
  labels := ⟨some labelManagedByValue, some "lb", some "listener", some "pool", []⟩
  annotations := { Annotations.none with
    lbID := some "lb", listenerID := some "listener", poolID := some "pool"
    memberMap := some [("member", "198.51.100.1")] }
  spec := ⟨some "192.0.2.1", some 80, some "TCP", some "L3DSR", some 10,
    some [⟨"198.51.100.1", 1, none⟩],
    some ⟨some "tcp", some 5, some 3, some 3, some 2, none, some ⟨some 8080, none, none⟩⟩⟩

/-- The only member, as it was when the health check was made. -/
def probedMember : Member :=
  ⟨some "member", some "198.51.100.1", some 1, some true, some false, some 80, some 8080, none⟩

/-- Octavia lists the probed member. -/
def checkedWorld : World where
  vips := [checkedVirtualIP]
  version := 7
  octavia := { Database.empty with
    pool := fun _ => some ⟨some "listener", some "lb", [probedMember], none, none⟩ }

/-- What the user is told of a call that has stopped. -/
def userFault : Outcome Empty (Except Stop Unit) → Option String
  | .ok (.error (.fault user _)) => some user
  | _ => none

/-- A second member with the port of the first. -/
theorem memberChange_follows_membership_second_member :
    (MemberChange.create.call .plain "pool"
        { probedMember with id := some "second", address := some "198.51.100.2" }).Ends .plain
      (FollowsMembership [8080, 8080] checkedVirtualIP) checkedWorld :=
  (@memberChange_follows_membership_iff .plain "pool"
    { probedMember with id := some "second", address := some "198.51.100.2" } checkedWorld
    checkedVirtualIP _ (by decide +kernel) (by decide +kernel) rfl
    (by decide +kernel) .create).mpr fun _ _ _ => by decide +kernel

/-- An update that gives the only member another probe port is rejected for mixed ports, and
where the only member is deleted its port stays in the health check. -/
theorem changed_and_deleted_member_still_counted :
    let changed := { probedMember with monitorPort := some 9090 }
    MemberChange.update.resultingPorts checkedWorld.octavia "pool" changed = [9090] ∧
      userFault (Routine.run (server .plain)
        (memberUpdate .plain "pool" changed).run checkedWorld).1 = some mixedPortsFault ∧
      MemberChange.delete.resultingPorts checkedWorld.octavia "pool" probedMember = [] ∧
      let deleted := Routine.run (server .plain)
        (memberDelete .plain "pool" probedMember).run checkedWorld
      deleted.1 = .ok (.ok ()) ∧
        (deleted.2.get "octavia-1").map (fun vip =>
          (vip.spec.backends, vip.spec.vipPort, vip.spec.healthCheck.bind HealthCheck.probePort)) =
            some (some [], some 80, some 8080) := by
  refine ⟨by decide +kernel, by decide +kernel, by decide +kernel, by decide +kernel, ?_⟩
  decide +kernel

end ArcaLB.Octavia
