import ArcaLB.DataPlane.Requests

/-!
# What the data plane methods write

The methods write the cache, the VPP table and the backends in a few ways only.  An
invariant that allows each of these writes is kept by every method, wherever the method
is cut off.
-/

namespace ArcaLB.DataPlane

open Effect (Keeps)

/-- The obligations of an invariant under requests that change the backends of `vip`. -/
structure FillInvariant (vip : VirtualIP) (invariant : VPP → Prop) : Prop where
  replies : ∀ {vpp} rest, invariant vpp → invariant { vpp with replies := rest }
  fills : ∀ {vpp tuple held ip}, invariant vpp → tupleOf vip = .ok tuple →
    vpp.table tuple = some held → ip ∉ held.backends →
    invariant (vpp.setBackends tuple held (ip :: held.backends))
  drains : ∀ {vpp tuple held ip}, invariant vpp → tupleOf vip = .ok tuple →
    vpp.table tuple = some held → ip ∈ held.backends →
    invariant (vpp.setBackends tuple held (held.backends.erase ip))

/-- The obligations of an invariant under changes to the backends of `vip`. -/
structure BackendInvariant (vip : VirtualIP) (invariant : VPP → Prop) : Prop
    extends FillInvariant vip invariant where
  caches : ∀ {vpp} change, invariant vpp → invariant (vpp.modifyBackends vip.key change)

/-- The obligations of an invariant under requests for `vip`.  The VIPs that these calls apply
or delete are `allowed`: the VIP itself, and whatever is cached for its key. -/
structure TableInvariant (config : VPPConfig) (vip : VirtualIP) (allowed : VirtualIP → Prop)
    (invariant : VPP → Prop) : Prop extends FillInvariant vip invariant where
  own : allowed vip
  cached : ∀ {vpp entry}, invariant vpp → vpp.vips vip.key = some entry → allowed entry.vip
  drifts : ∀ {vpp} drifts, invariant vpp → invariant (vpp.setTuningDrifts vip.key drifts)
  adds : ∀ {vpp tuple attributes}, invariant vpp → vipRequest config vip = .ok (tuple, attributes) →
    invariant (vpp.setTable tuple (some attributes) (some vip.key))
  deletes : ∀ {vpp touched tuple}, invariant vpp → allowed touched → tupleOf touched = .ok tuple →
    invariant (vpp.setTable tuple none none)

/-- The obligations of an invariant under all calls for `vip`. -/
structure WriteInvariant (config : VPPConfig) (vip : VirtualIP) (allowed : VirtualIP → Prop)
    (invariant : VPP → Prop) : Prop extends TableInvariant config vip allowed invariant where
  enters : ∀ {vpp entry}, invariant vpp → (∀ written, entry = some written → allowed written.vip) →
    invariant (vpp.setEntry vip.key entry)

/-- The obligations of an invariant under removing and recreating `vip`. -/
structure RebuildInvariant (config : VPPConfig) (vip : VirtualIP) (allowed : VirtualIP → Prop)
    (invariant : VPP → Prop) : Prop extends BackendInvariant vip invariant,
    TableInvariant config vip allowed invariant where
  clears : ∀ {vpp}, invariant vpp → invariant (vpp.setEntry vip.key none)
  starts : ∀ {vpp}, invariant vpp → invariant (vpp.setEntry vip.key (some { vip }))

namespace BackendInvariant

variable {vip : VirtualIP} {invariant : VPP → Prop} (writes : BackendInvariant vip invariant)
include writes

theorem addBackend (backend : BackendSpec) : Keeps invariant (addBackend vip backend) :=
  .of_wp fun _ holds => wp_addBackend (fun _ rest _ => writes.replies rest holds)
    fun rest _ _ _ built present fresh =>
      writes.fills (writes.replies rest holds) (tupleOf_of_asRequest built) present fresh

theorem removeBackend (backend : BackendSpec) : Keeps invariant (removeBackend vip backend) :=
  .of_wp fun _ holds => wp_removeBackend (fun _ rest _ => writes.replies rest holds)
    fun rest _ _ _ built present listed =>
      writes.drains (writes.replies rest holds) (tupleOf_of_asRequest built) present listed

theorem lookupVIP (target : VirtualIP) : Keeps invariant (lookupVIP target) :=
  .of_wp fun _ holds => wp_lookupVIP (fun _ rest _ => writes.replies rest holds)
    fun rest _ _ => writes.replies rest holds

theorem dumpBackends (target : VirtualIP) (desired : List BackendSpec) :
    Keeps invariant (dumpBackends target desired) :=
  .of_wp fun _ holds => wp_dumpBackends (fun _ rest _ => writes.replies rest holds)
    fun rest _ _ => writes.replies rest holds

/-- A backend is cached or forgotten, and the loop goes on. -/
theorem caches_bind {α : Type} {change : BackendMap → BackendMap}
    {rest : Unit → Effect VPP String α}
    (after : Keeps invariant (rest ())) :
    Keeps invariant ((Effect.modify fun vpp => vpp.modifyBackends vip.key change) >>= rest) :=
  (Keeps.modify fun _ holds => writes.caches _ holds).bind fun _ => after

/-- The loop that removes backends. -/
theorem removeBackends (desired : BackendMap)
    (entries : List BackendEntry) (first : Option String) :
    Keeps invariant (removeBackends vip.key vip desired entries first) := by
  induction entries generalizing first with
  | nil => exact .pure _
  | cons entry rest ih =>
    unfold DataPlane.removeBackends
    refine .ite (ih first) ((writes.removeBackend entry.2).attempt.bind fun removed => ?_)
    cases removed with
    | error err => exact ih _
    | ok _ => exact writes.caches_bind (ih first)

/-- The loop that adds backends. -/
theorem addBackends (entries : List BackendEntry) (first : Option String) :
    Keeps invariant (addBackends vip.key vip entries first) := by
  induction entries generalizing first with
  | nil => exact .pure _
  | cons entry rest ih =>
    unfold DataPlane.addBackends
    refine Keeps.read.bind fun vpp => .ite (writes.caches_bind (ih first)) ?_
    refine (writes.addBackend entry.2).attempt.bind fun added => ?_
    cases added with
    | error err => exact ih _
    | ok _ => exact writes.caches_bind (ih first)

/-- **Reconciling backends keeps the invariant.** -/
theorem reconcileBackends (backends : List BackendSpec) :
    Keeps invariant (reconcileBackends vip.key vip backends) := by
  refine Keeps.read.bind fun vpp => (writes.removeBackends _ _ _).bind fun removed => ?_
  refine (writes.addBackends _ _).bind fun added => ?_
  cases added with
  | some err => exact .fail _
  | none => exact Keeps.read.bind fun vpp => .ite (.fail _) (.pure _)

end BackendInvariant

/-- A predicate that ignores the replies and the verification time of the entry is kept by
`NeedsDrainForRetainedVIP`. -/
theorem keeps_needsDrainForRetainedVIP {config : VPPConfig} {vip : VirtualIP}
    {invariant : VPP → Prop} (replies : ∀ vpp rest, invariant vpp → invariant (vpp.answered rest))
    (marks : ∀ vpp, invariant vpp → invariant
      (vpp.modifyEntry vip.key fun entry => { entry with lastVerified := none })) :
    Keeps invariant (needsDrainForRetainedVIP config vip) := by
  have marked : Keeps invariant (markVIPNeedsVerification vip.key) := .modify marks
  have looked : Keeps invariant (lookupVIP vip) :=
    .of_wp fun vpp holds => wp_lookupVIP (fun _ rest _ => replies vpp rest holds)
      fun rest _ _ => replies vpp rest holds
  refine (Keeps.mapError _ (.ofExcept _)).bind fun attrs => Keeps.read.bind fun vpp => ?_
  refine (Keeps.ofExcept _).bind fun changed => .ite (.pure _) ?_
  refine looked.attempt.bind fun found => ?_
  match found with
  | .error err => exact marked.bind fun _ => .fail _
  | .ok none => exact marked.bind fun _ => .pure _
  | .ok (some detail) => exact .ite (.pure _) (marked.bind fun _ => .pure _)

namespace RebuildInvariant

variable {vip touched : VirtualIP} {allowed : VirtualIP → Prop} {invariant : VPP → Prop}
  {config : VPPConfig} {vpp : VPP} (writes : RebuildInvariant config vip allowed invariant)
include writes

theorem forget (holds : invariant vpp) : invariant (vpp.forget vip.key) :=
  writes.drifts [] (writes.clears holds)

theorem addVIP : Keeps invariant (addVIP config vip) :=
  .of_wp fun _ holds => wp_addVIP (fun _ rest _ => writes.replies rest holds)
    fun rest _ _ built _ => writes.adds (writes.replies rest holds) built

theorem deleteVIP (allows : allowed touched) : Keeps invariant (deleteVIP config touched) :=
  .of_wp fun _ holds => wp_deleteVIP (fun _ rest _ => writes.replies rest holds)
    fun rest _ named => writes.deletes (writes.replies rest holds) allows named

/-- **Removing a VIP keeps the invariant.** -/
theorem removeVIP : Keeps invariant (removeVIP config vip) := by
  have forgets : Keeps invariant
      (Effect.modify fun vpp => vpp.forget vip.key : Effect VPP String Unit) :=
    .modify fun _ holds => writes.forget holds
  apply Keeps.read_bind
  intro vpp holds
  cases found : vpp.vips vip.key with
  | some entry =>
    exact (writes.deleteVIP (writes.cached holds found)).bind (fun _ => forgets) vpp holds
  | none =>
    refine ((writes.lookupVIP _).mapError _).bind (fun present => ?_) vpp holds
    exact (writes.deleteVIP writes.own).when.bind fun _ => forgets

/-- Adding a VIP again fills it. -/
theorem readdVIP (healthy : List BackendSpec) : Keeps invariant (readdVIP config vip healthy) := by
  refine writes.addVIP.attempt.bind fun added => ?_
  cases added with
  | error err => exact (Keeps.modify fun _ holds => writes.drifts [] holds).bind fun _ => .fail _
  | ok _ =>
    refine (Keeps.modify fun _ holds => writes.drifts [] (writes.starts holds)).bind fun _ => ?_
    exact (writes.reconcileBackends _).mapError _

/-- **Recreating a VIP keeps the invariant.** -/
theorem recreateVIP (healthy : List BackendSpec) :
    Keeps invariant (recreateVIP config vip healthy) := by
  unfold DataPlane.recreateVIP
  cases failOnAllBackendsDown config vip healthy with
  | error err => exact .fail _
  | ok _ =>
    apply Keeps.read_bind
    intro vpp holds
    have target : allowed (((vpp.vips vip.key).map VipEntry.vip).getD vip) := by
      cases found : vpp.vips vip.key with
      | none => exact writes.own
      | some entry => exact writes.cached holds found
    refine (writes.deleteVIP target).attempt.bind (fun deleted => ?_) vpp holds
    cases deleted with
    | error err => exact (writes.lookupVIP _).attempt.bind fun _ => .fail _
    | ok _ =>
      exact (Keeps.modify fun _ holds => writes.clears holds).bind
        fun _ => writes.readdVIP healthy

end RebuildInvariant

namespace WriteInvariant

variable {vip : VirtualIP} {allowed : VirtualIP → Prop} {invariant : VPP → Prop}
  {config : VPPConfig} {vpp : VPP} (writes : WriteInvariant config vip allowed invariant)
include writes

theorem modifyEntry (holds : invariant vpp) {change : VipEntry → VipEntry}
    (allows : ∀ entry, allowed entry.vip → allowed (change entry).vip) :
    invariant (vpp.modifyEntry vip.key change) := by
  apply writes.enters holds
  intro written found
  obtain ⟨entry, present, rfl⟩ := Option.map_eq_some_iff.mp found
  exact allows entry (writes.cached holds present)

/-- Storing what was found in VPP. -/
theorem store (holds : invariant vpp) (backends : BackendMap) (now : Option Time) :
    invariant (vpp.setEntry vip.key (some ⟨vip, backends, now⟩)) := by
  apply writes.enters holds
  rintro written ⟨⟩
  exact writes.own

/-- A write invariant covers recreations. -/
theorem rebuilds : RebuildInvariant config vip allowed invariant where
  toTableInvariant := writes.toTableInvariant
  caches := fun _ holds => writes.modifyEntry holds fun _ allows => allows
  clears := fun holds => writes.enters holds (by simp)
  starts := fun holds => writes.store holds ∅ none

theorem markVIPNeedsVerification : Keeps invariant (markVIPNeedsVerification vip.key) :=
  .modify fun _ holds => writes.modifyEntry holds fun _ allows => allows

theorem deleteCachedVIPForAttributeChange {entry : VipEntry} (allows : allowed entry.vip) :
    Keeps invariant (deleteCachedVIPForAttributeChange config vip.key entry) := by
  refine ((writes.rebuilds.lookupVIP _).mapError _).bind fun found => ?_
  exact ((writes.rebuilds.deleteVIP allows).mapError _).when.bind
    fun _ => .modify fun _ holds => writes.rebuilds.forget holds

/-- Deleting a VIP with other attributes, or caching the VIP as VPP holds it. -/
theorem takeOver {missing : Effect VPP String Bool} {wrap : String → String} {change : VPP → VPP}
    (misses : Keeps invariant missing) (changes : ∀ vpp, invariant vpp → invariant (change vpp))
    (desired : List BackendSpec) (now : Time) :
    Keeps invariant (takeOver config vip.key vip desired now missing wrap change) := by
  refine (writes.rebuilds.lookupVIP _).bind fun found => ?_
  cases found with
  | none => exact misses
  | some detail =>
    apply Keeps.ite
    · refine ((writes.rebuilds.deleteVIP writes.own).mapError _).bind fun _ => ?_
      exact (Keeps.modify changes).bind fun _ => .pure _
    · refine (writes.rebuilds.dumpBackends _ _).bind fun backends => ?_
      exact (Keeps.modify fun _ holds => writes.drifts _ (writes.store holds _ _)).bind
        fun _ => .pure _

theorem refreshCachedVIP (desired : List BackendSpec) (now : Time) :
    Keeps invariant (refreshCachedVIP config vip.key vip desired now) :=
  writes.takeOver ((Keeps.modify fun _ holds => writes.rebuilds.forget holds).bind
    fun _ => .pure _) (fun _ holds => writes.rebuilds.forget holds) desired now

theorem adoptExistingVIP (desired : List BackendSpec) (now : Time) :
    Keeps invariant (adoptExistingVIP config vip desired now) :=
  writes.takeOver (.pure _) (fun _ holds => writes.drifts [] holds) desired now

/-- The first part of `ApplyVIP`. -/
theorem checkCached (healthy : List BackendSpec) (now : Time) (attrs : VipAttributes) :
    Keeps invariant (checkCached config vip healthy now attrs) := by
  apply Keeps.read_bind
  intro vpp holds
  cases found : vpp.vips vip.key with
  | none => exact holds
  | some existing =>
    have allows := writes.cached holds found
    refine (Keeps.mapError _ (.ofExcept _)).bind (fun existingAttrs => ?_) vpp holds
    refine .ite ((writes.deleteCachedVIPForAttributeChange allows).bind fun _ => .pure _)
      (.ite ((writes.refreshCachedVIP _ _).attempt.bind fun refreshed => ?_) (.pure _))
    match refreshed with
    | .error err => exact writes.markVIPNeedsVerification.bind fun _ => .fail _
    | .ok true | .ok false => exact .pure _

theorem ensureVIP (healthy : List BackendSpec) (now : Time) (verifiedMissing : Bool) :
    Keeps invariant (ensureVIP config vip healthy now verifiedMissing) := by
  refine (Keeps.ite (.pure _) ((writes.adoptExistingVIP _ _).mapError _)).bind fun adopted => ?_
  refine .ite (.pure _) ((writes.rebuilds.addVIP.mapError _).bind fun _ => ?_)
  exact .modify fun _ holds => writes.drifts _ (writes.store holds _ _)

/-- The first two parts of `ApplyVIP`. -/
theorem settleCached (healthy : List BackendSpec) (now : Time) (attrs : VipAttributes) :
    Keeps invariant (settleCached config vip healthy now attrs) :=
  (writes.checkCached _ _ _).bind fun _ => (writes.ensureVIP _ _ _).when.bind fun _ => .pure _

/-- **Applying a VIP keeps the invariant.** -/
theorem applyVIP (healthy : List BackendSpec) (now : Time) :
    Keeps invariant (applyVIP config vip healthy now) := by
  refine (Keeps.mapError _ (.ofExcept _)).bind fun attrs => (Keeps.ofExcept _).bind fun _ => ?_
  refine (writes.settleCached _ _ _).bind fun cached => ?_
  refine (writes.rebuilds.reconcileBackends _).attempt.bind fun reconciled => ?_
  cases reconciled with
  | error err => exact writes.markVIPNeedsVerification.bind fun _ => .fail _
  | ok _ => exact .modify fun _ holds => writes.modifyEntry holds fun _ _ => writes.own

end WriteInvariant

end ArcaLB.DataPlane
