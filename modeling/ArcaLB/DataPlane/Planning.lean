import ArcaLB.DataPlane.Runs

/-!
# Drain planning

`NeedsDrainForRetainedVIP` and `ApplyVIP` decide separately whether a VIP in VPP has to be
deleted.  The first answers yes wherever the second deletes, and an entry that it has found to
be wrong is not trusted by the next `ApplyVIP`, whatever happens to the data plane in between.
-/

namespace ArcaLB.DataPlane

open Effect (Keeps Ensures)

/-- What is left when a call is cut off after some requests, all of them carried out. -/
def cutOff (action : Effect VPP String Unit) (vpp : VPP) (count : Nat) : VPP :=
  (action (vpp.answered (List.replicate count .ok))).2

/-- With no request failing, the call deletes a VIP: at some moment of it a VIP that VPP held
is gone. -/
def Deletes (action : Effect VPP String Unit) (vpp : VPP) : Prop :=
  ∃ count tuple, (vpp.table tuple).isSome = true ∧ (cutOff action vpp count).table tuple = none

section Methods

namespace Method

variable (config : VPPConfig)

/-- The error for a VIP that is not cached. -/
def notFound (key : VIPKey) : String :=
  "VIP " ++ key.text ++ " not found in data plane"

/-- `SetBackends`. -/
def setBackends (vip : VirtualIP) (backends : List BackendSpec) : Effect VPP String Unit := do
  let vpp ← Effect.read
  match vpp.vips vip.key with
  | none => Effect.fail (notFound vip.key)
  | some _ =>
    Effect.ofExcept (failOnAllBackendsDown config vip backends)
    reconcileBackends vip.key vip backends

/-- `AddBackend`. -/
def addBackend (vip : VirtualIP) (backend : BackendSpec) : Effect VPP String Unit := do
  let vpp ← Effect.read
  match vpp.vips vip.key with
  | none => Effect.fail (notFound vip.key)
  | some _ =>
    DataPlane.addBackend vip backend
    Effect.modify fun vpp => vpp.modifyBackends vip.key (AList.insert backend.address backend)

/-- `RemoveBackend`. -/
def removeBackend (vip : VirtualIP) (backend : BackendSpec) : Effect VPP String Unit := do
  let vpp ← Effect.read
  match vpp.vips vip.key with
  | none => pure ()
  | some _ =>
    DataPlane.removeBackend vip backend
    Effect.modify fun vpp => vpp.modifyBackends vip.key (AList.erase backend.address)

end Method

end Methods

variable {missing : Effect VPP String Bool} {wrap : String → String} {change : VPP → VPP}

section Deleting

variable {config : VPPConfig} {vip : VirtualIP} {start vpp : VPP}

/-- Neither the cache nor VPP gives a reason to delete a VIP. -/
structure Undisturbed (config : VPPConfig) (vip : VirtualIP) (vpp : VPP) : Prop where
  cached : ∀ attrs, effectiveVIPAttributes config vip = .ok attrs →
    cachedChanged config vip.key (vpp.vips vip.key) attrs ≠ .ok true
  held : ∀ attrs, effectiveVIPAttributes config vip = .ok attrs →
    cachedChanged config vip.key (vpp.vips vip.key) attrs = .ok false →
    ∀ tuple detail, tupleOf vip = .ok tuple → vpp.table tuple = some detail →
      vipDetailsMatchDesired config vip detail = true

/-- A lookup that VPP answers. -/
theorem lookupVIP_answered {tuple : Tuple} (named : tupleOf vip = .ok tuple) (rest : List Reply) :
    lookupVIP vip (vpp.answered (.ok :: rest)) = (.ok (vpp.table tuple), vpp.answered rest) := by
  simp [lookupVIP, named, Effect.ofExcept, dump, invoke, bind, Effect.andThen, pure, Effect.read,
    VPP.answered]

/-- An answered plan, where the cached VIP is the desired one. -/
theorem needsDrainForRetainedVIP_answered {attrs : VipAttributes} {tuple : Tuple}
    (desired : effectiveVIPAttributes config vip = .ok attrs)
    (same : cachedChanged config vip.key (vpp.vips vip.key) attrs = .ok false)
    (named : tupleOf vip = .ok tuple) (rest : List Reply) :
    needsDrainForRetainedVIP config vip (vpp.answered (.ok :: rest)) =
      match vpp.table tuple with
      | none =>
        (.ok false, (vpp.answered rest).modifyEntry vip.key
          fun entry => { entry with lastVerified := none })
      | some detail =>
        if vipDetailsMatchDesired config vip detail then (.ok false, vpp.answered rest)
        else
          (.ok true, (vpp.answered rest).modifyEntry vip.key
            fun entry => { entry with lastVerified := none }) := by
  have looked := @lookupVIP_answered vip vpp tuple named rest
  cases found : vpp.table tuple with
  | none =>
    simp [needsDrainForRetainedVIP, desired, same, looked, found, Effect.ofExcept, bind,
      Effect.andThen, Effect.mapError, pure, Effect.read, Effect.attempt,
      markVIPNeedsVerification, Effect.modify]
  | some detail =>
    cases matches_ : vipDetailsMatchDesired config vip detail <;>
      simp [needsDrainForRetainedVIP, desired, same, looked, found, matches_, Effect.ofExcept,
        bind, Effect.andThen, Effect.mapError, pure, Effect.read, Effect.attempt,
        markVIPNeedsVerification, Effect.modify]

/-- Where something gives a reason to delete a VIP, a drain is needed. -/
theorem needsDrain_of_disturbed (disturbed : ¬ Undisturbed config vip vpp) (rest : List Reply) :
    (needsDrainForRetainedVIP config vip (vpp.answered (.ok :: rest))).1 = .ok true := by
  by_contra unplanned
  apply disturbed
  constructor
  · intro attrs desired changed
    apply unplanned
    simp [needsDrainForRetainedVIP, desired, changed, Effect.ofExcept, bind, Effect.andThen,
      Effect.mapError, pure, Effect.read]
  · intro attrs desired same tuple detail named present
    by_contra different
    apply unplanned
    rw [needsDrainForRetainedVIP_answered desired same named rest, present]
    simp [different]

/-- Every VIP that VPP held is still there. -/
def Retains (start vpp : VPP) : Prop :=
  ∀ tuple, (start.table tuple).isSome = true → (vpp.table tuple).isSome = true

/-- An unchanged table retains every VIP. -/
theorem Retains.of_table (same : vpp.table = start.table) : Retains start vpp := by
  intro tuple present
  rw [same]
  exact present

/-- Adding a VIP removes none. -/
theorem Retains.update (retains : Retains start vpp) (tuple : Tuple) (held : LbVip)
    (other : Tuple) (present : (start.table other).isSome = true) :
    (Function.update vpp.table tuple (some held) other).isSome = true := by
  by_cases same : other = tuple
  · subst same
    rw [Function.update_self]
    rfl
  · rw [Function.update_of_ne same]
    exact retains other present

/-- Requests for backends remove no VIP. -/
theorem retains_backendInvariant : BackendInvariant vip (Retains start) where
  replies := fun _ retains => retains
  caches := fun _ retains => retains
  fills := fun retains _ _ _ => retains.update _ _
  drains := fun retains _ _ _ => retains.update _ _

variable {table : Tuple → Option LbVip}

/-- A VIP that VPP holds as desired, or not at all, is taken over without a write to VPP. -/
theorem ensures_takeOver_undisturbed (healthy : List BackendSpec) (now : Time)
    (held : ∀ tuple detail, tupleOf vip = .ok tuple → table tuple = some detail →
      vipDetailsMatchDesired config vip detail = true)
    (misses : ∀ rest, Ensures missing (fun next => next.table = table)
      (fun _ next => next.table = table) (vpp.answered rest)) (same : vpp.table = table) :
    Ensures (takeOver config vip.key vip healthy now missing wrap change)
      (fun next => next.table = table) (fun _ next => next.table = table) vpp := by
  apply (ensures_lookupVIP fun _ => same).bind
  rintro found next ⟨rest, tuple, named, rfl, rfl⟩
  cases present : vpp.table tuple with
  | none => exact misses rest
  | some detail =>
    have desired := held tuple detail named ((congrFun same tuple).symm.trans present)
    simp only [desired, Bool.not_true, Bool.false_eq_true, if_false]
    apply (ensures_dumpBackends fun _ => same).bind
    rintro _ last ⟨_, _, _, _, rfl⟩
    exact same

/-- The cache of an undisturbed VIP is checked without a write to VPP. -/
theorem ensures_checkCached_undisturbed (healthy : List BackendSpec) (now : Time)
    {attrs : VipAttributes} (desired : effectiveVIPAttributes config vip = .ok attrs)
    (undisturbed : Undisturbed config vip vpp) :
    Ensures (checkCached config vip healthy now attrs)
      (fun next => next.table = vpp.table)
      (fun _ next => next.table = vpp.table ∧
        cachedChanged config vip.key (vpp.vips vip.key) attrs = .ok false) vpp := by
  apply Ensures.read_bind
  have unchanged := undisturbed.cached attrs desired
  have held := undisturbed.held attrs desired
  cases found : vpp.vips vip.key with
  | none => exact ⟨rfl, rfl⟩
  | some existing =>
    rw [found] at unchanged held
    have attributes : Ensures
        (Effect.ofExcept (effectiveVIPAttributes config existing.vip))
        (fun next => next.table = vpp.table) (fun existingAttrs next => next = vpp ∧
          effectiveVIPAttributes config existing.vip = .ok existingAttrs) vpp :=
      Ensures.ofExcept rfl fun _ given => ⟨rfl, given⟩
    apply (attributes.mapError _).bind
    rintro existingAttrs next ⟨rfl, given⟩
    have equal : existingAttrs = attrs := by
      by_contra different
      exact unchanged (by simp [cachedChanged, given, different])
    have same : cachedChanged config vip.key (some existing) attrs = .ok false := by
      simp [cachedChanged, given, equal]
    simp only [equal, ne_eq, not_true_eq_false, if_false]
    split
    · refine (ensures_takeOver_undisturbed healthy now (held same) (fun _ => ?_)
        rfl).attempt.bind fun refreshed last kept => ?_
      · exact rfl
      match refreshed with
      | .error _ => exact kept
      | .ok true => exact ⟨kept, same⟩
      | .ok false => exact ⟨kept, same⟩
    · exact ⟨rfl, same⟩

/-- An undisturbed VIP is adopted or added. -/
theorem ensures_ensureVIP_undisturbed (healthy : List BackendSpec) (now : Time)
    (verifiedMissing : Bool)
    (held : ∀ tuple detail, tupleOf vip = .ok tuple → start.table tuple = some detail →
      vipDetailsMatchDesired config vip detail = true) (same : vpp.table = start.table) :
    Ensures (ensureVIP config vip healthy now verifiedMissing) (Retains start)
      (fun _ => Retains start) vpp := by
  refine ensures_ensureVIP_parts (fun _ => same)
    ((ensures_takeOver_undisturbed healthy now held (fun _ => ?_) same).mono
      (fun _ kept => .of_table kept) fun _ _ kept => kept) (fun _ kept => .of_table kept)
      fun next kept => ?_
  · exact same
  · exact wp_addVIP (.ends fun _ => Retains.of_table kept) fun rest tuple attributes _ _ =>
      (Retains.of_table kept).update tuple attributes

/-- **An undisturbed VIP is applied without deleting one.** -/
theorem ensures_applyVIP_undisturbed (healthy : List BackendSpec) (now : Time)
    (undisturbed : Undisturbed config vip vpp) :
    Ensures (applyVIP config vip healthy now) (Retains vpp) (fun _ => Retains vpp) vpp := by
  apply ensures_applyVIP_parts (fun _ => Retains.of_table rfl)
  · intro attrs desired
    apply ensures_settleCached_parts
      ((ensures_checkCached_undisturbed healthy now desired undisturbed).mono
        (fun _ kept => Retains.of_table kept) fun _ _ checked => checked)
    · rintro cached next ⟨kept, same⟩ _
      exact ensures_ensureVIP_undisturbed healthy now _ (undisturbed.held attrs desired same) kept
    · rintro cached next ⟨kept, _⟩ _
      exact Retains.of_table kept
  · intro cached next retains
    exact Keeps.ensures_both (Retains vpp) retains
      (retains_backendInvariant.reconcileBackends healthy) (fun _ kept => ⟨kept, kept⟩)
      fun _ kept => kept

/-- **A call that deletes a VIP was planned with a drain.** -/
theorem needsDrain_of_deletes {healthy : List BackendSpec} {now : Time}
    (deletes : Deletes (applyVIP config vip healthy now) vpp) (rest : List Reply) :
    (needsDrainForRetainedVIP config vip (vpp.answered (.ok :: rest))).1 = .ok true := by
  apply needsDrain_of_disturbed
  intro undisturbed
  obtain ⟨count, tuple, present, gone⟩ := deletes
  have same : Undisturbed config vip (vpp.answered (List.replicate count .ok)) :=
    ⟨undisturbed.cached, undisturbed.held⟩
  have retained := (ensures_applyVIP_undisturbed healthy now same).last tuple present
  change ((cutOff (applyVIP config vip healthy now) vpp count).table tuple).isSome = true
    at retained
  rw [gone] at retained
  cases retained

end Deleting

section Verifying

variable {config : VPPConfig} {vip : VirtualIP} {vpp : VPP} {key : VIPKey}

/-- The verification of the entry of a key is due, or there is none. -/
def Distrusted (key : VIPKey) (vpp : VPP) : Prop :=
  ∀ entry, vpp.vips key = some entry → entry.lastVerified = none

/-- An entry that was never verified may be written. -/
theorem Distrusted.setEntry (distrusted : Distrusted key vpp) {own : VIPKey}
    {written : Option VipEntry} (due : ∀ entry, written = some entry → entry.lastVerified = none) :
    Distrusted key (vpp.setEntry own written) := by
  intro entry found
  change Function.update vpp.vips own written key = _ at found
  by_cases same : key = own
  · subst same
    rw [Function.update_self] at found
    exact due entry found
  · rw [Function.update_of_ne same] at found
    exact distrusted entry found

theorem Distrusted.modifyEntry (distrusted : Distrusted key vpp) {own : VIPKey}
    {change : VipEntry → VipEntry}
    (kept : ∀ entry, entry.lastVerified = none → (change entry).lastVerified = none) :
    Distrusted key (vpp.modifyEntry own change) := by
  intro entry found
  change Function.update vpp.vips own ((vpp.vips own).map change) key = _ at found
  by_cases same : key = own
  · subst same
    rw [Function.update_self] at found
    obtain ⟨before, present, rfl⟩ := Option.map_eq_some_iff.mp found
    exact kept before (distrusted before present)
  · rw [Function.update_of_ne same] at found
    exact distrusted entry found

/-- Marking the entry of a key. -/
theorem distrusted_marked (vpp : VPP) (key : VIPKey) :
    Distrusted key (vpp.modifyEntry key fun entry => { entry with lastVerified := none }) := by
  intro entry found
  change Function.update vpp.vips key _ key = _ at found
  rw [Function.update_self] at found
  obtain ⟨before, _, rfl⟩ := Option.map_eq_some_iff.mp found
  rfl

/-- A removal or a recreation caches nothing that is verified. -/
theorem distrusted_rebuildInvariant :
    RebuildInvariant config vip (fun _ => True) (Distrusted key) where
  replies := fun _ distrusted => distrusted
  caches := fun _ distrusted => distrusted.modifyEntry fun _ due => due
  fills := fun distrusted _ _ _ => distrusted
  drains := fun distrusted _ _ _ => distrusted
  own := trivial
  cached := fun _ _ => trivial
  drifts := fun _ distrusted => distrusted
  clears := fun distrusted => distrusted.setEntry (by simp)
  starts := fun distrusted => distrusted.setEntry (by simp)
  adds := fun distrusted _ => distrusted
  deletes := fun distrusted _ _ => distrusted

/-- What may happen to the data plane until the next `ApplyVIP` for a key: another process
changes VPP, or one of the other methods is called, for any VIP. -/
inductive Meanwhile (config : VPPConfig) (key : VIPKey) : VPP → VPP → Prop where
  | outside (vpp : VPP) (table : Tuple → Option LbVip) : Meanwhile config key vpp { vpp with table }
  | call (vpp : VPP) (call : Call)
      (other : ∀ vip healthy now, call.operation = .apply vip healthy now → vip.key ≠ key) :
      Meanwhile config key vpp (call.operation.perform config (vpp.answered call.replies)).2
  | plan (vpp : VPP) (vip : VirtualIP) (replies : List Reply) :
      Meanwhile config key vpp (needsDrainForRetainedVIP config vip (vpp.answered replies)).2
  | setBackends (vpp : VPP) (vip : VirtualIP) (backends : List BackendSpec)
      (replies : List Reply) :
      Meanwhile config key vpp (Method.setBackends config vip backends (vpp.answered replies)).2
  | addBackend (vpp : VPP) (vip : VirtualIP) (backend : BackendSpec) (replies : List Reply) :
      Meanwhile config key vpp (Method.addBackend vip backend (vpp.answered replies)).2
  | removeBackend (vpp : VPP) (vip : VirtualIP) (backend : BackendSpec) (replies : List Reply) :
      Meanwhile config key vpp (Method.removeBackend vip backend (vpp.answered replies)).2

/-- The methods that change the backends of a cached VIP. -/
theorem keeps_distrusted_cached {missing : Effect VPP String Unit} {change : Effect VPP String Unit}
    (absent : Keeps (Distrusted key) missing) (present : Keeps (Distrusted key) change) :
    Keeps (Distrusted key) (do
      let vpp ← Effect.read
      match vpp.vips vip.key with
      | none => missing
      | some _ => change) := by
  apply Keeps.read_bind
  intro vpp distrusted
  cases vpp.vips vip.key with
  | none => exact absent vpp distrusted
  | some _ => exact present vpp distrusted

/-- **One event.** -/
theorem Distrusted.step {next : VPP} (distrusted : Distrusted key vpp)
    (moves : Meanwhile config key vpp next) : Distrusted key next := by
  cases moves with
  | outside table => exact distrusted
  | call call other =>
    obtain ⟨operation, replies⟩ := call
    cases operation with
    | apply vip healthy now =>
      have foreign : vip.key ≠ key := other vip healthy now rfl
      have writes : WriteInvariant config vip (Touched vip vpp)
          (Confined vip (Touched vip vpp) vpp) := Confined.writeInvariant (.inl rfl)
      have confined := writes.applyVIP healthy now _ (writes.replies replies .refl)
      intro entry found
      exact distrusted entry ((confined.others key foreign.symm).symm.trans found)
    | remove vip => exact (@distrusted_rebuildInvariant config _ _).removeVIP _ distrusted
    | recreate vip healthy =>
      exact Keeps.mapError _ (distrusted_rebuildInvariant.recreateVIP healthy) _ distrusted
  | plan vip replies =>
    exact keeps_needsDrainForRetainedVIP (fun _ _ kept => kept)
      (fun _ kept => kept.modifyEntry fun _ _ => rfl) _ distrusted
  | setBackends vip backends replies =>
    exact keeps_distrusted_cached (.fail _) ((Keeps.ofExcept _).bind fun _ =>
      (@distrusted_rebuildInvariant config _ _).reconcileBackends backends) _ distrusted
  | addBackend vip backend replies =>
    have writes := @distrusted_rebuildInvariant config vip key
    have kept : Keeps (Distrusted key) (Method.addBackend vip backend) :=
      keeps_distrusted_cached (.fail _) ((writes.addBackend backend).bind
        fun _ => .modify fun _ kept => writes.caches _ kept)
    exact kept _ distrusted
  | removeBackend vip backend replies =>
    have writes := @distrusted_rebuildInvariant config vip key
    have kept : Keeps (Distrusted key) (Method.removeBackend vip backend) :=
      keeps_distrusted_cached (.pure _) ((writes.removeBackend backend).bind
        fun _ => .modify fun _ kept => writes.caches _ kept)
    exact kept _ distrusted

/-- **Any number of events.** -/
theorem Distrusted.run {next : VPP} (distrusted : Distrusted key vpp)
    (moves : Relation.ReflTransGen (Meanwhile config key) vpp next) : Distrusted key next := by
  induction moves with
  | refl => exact distrusted
  | tail _ step ih => exact ih.step step

/-- VPP holds the VIP with the desired forwarding attributes. -/
structure Present (config : VPPConfig) (vip : VirtualIP) (tuple : Tuple) (held : LbVip)
    (vpp : VPP) : Prop where
  named : tupleOf vip = .ok tuple
  present : vpp.table tuple = some held
  matches_ : vipDetailsMatchDesired config vip held = true

/-- A VIP that was added has the desired attributes. -/
theorem matches_of_vipRequest {tuple : Tuple} {attributes : LbVip}
    (built : vipRequest config vip = .ok (tuple, attributes)) :
    vipDetailsMatchDesired config vip attributes = true := by
  obtain ⟨_, encap, srvType, dscp, targetPort, _⟩ := vipRequest_inv built
  obtain ⟨attrs, desired⟩ := attributes_of_vipRequest built
  obtain ⟨attrsDSCP, eq⟩ := attributes_inv desired
  have sameDSCP : attributes.dscp = attrs.dscp := Except.ok.inj (dscp.symm.trans attrsDSCP)
  unfold vipDetailsMatchDesired
  rw [desired, eq]
  simp only [encap, srvType, sameDSCP, targetPort]
  simp

/-- VPP holds the VIP with the desired forwarding attributes, under its tuple. -/
def Serves (config : VPPConfig) (vip : VirtualIP) (vpp : VPP) : Prop :=
  ∃ tuple held, Present config vip tuple held vpp

/-- The VIP is served whatever its backends are. -/
theorem Present.setBackends {tuple other : Tuple} {held found : LbVip}
    (present : Present config vip tuple held vpp) (named : tupleOf vip = .ok other)
    (there : vpp.table other = some found) (backends : List IPAddr) :
    Serves config vip (vpp.setBackends other found backends) := by
  obtain rfl := Except.ok.inj (present.named.symm.trans named)
  obtain rfl := Option.some.inj (present.present.symm.trans there)
  exact ⟨tuple, { held with backends }, present.named, Function.update_self _ _ _,
    present.matches_⟩

/-- Changes to the cache leave what is served. -/
theorem Serves.of_table {next : VPP} (serves : Serves config vip vpp)
    (same : next.table = vpp.table) : Serves config vip next := by
  obtain ⟨tuple, held, there⟩ := serves
  exact ⟨tuple, held, there.named, (congrFun same tuple).trans there.present, there.matches_⟩

/-- Requests for backends keep a VIP served. -/
theorem serves_backendInvariant : BackendInvariant vip (Serves config vip) where
  replies := fun _ serves => serves.of_table rfl
  caches := fun _ serves => serves.of_table rfl
  fills := fun ⟨_, _, present⟩ named there _ => present.setBackends named there _
  drains := fun ⟨_, _, present⟩ named there _ => present.setBackends named there _

/-- What a failed or unfinished computation leaves does not matter. -/
theorem ensures_any {α : Type} {body : Effect VPP String α} :
    Ensures body (fun _ => True) (fun _ _ => True) vpp :=
  .of_forall _ (fun _ => trivial) fun _ _ => trivial

/-- What is taken over is served. -/
theorem ensures_takeOver_serves (healthy : List BackendSpec) (now : Time)
    (misses : ∀ vpp, Ensures missing (fun _ => True)
      (fun found next => found = true → Serves config vip next) vpp) :
    Ensures (takeOver config vip.key vip healthy now missing wrap change)
      (fun _ => True) (fun found next => found = true → Serves config vip next) vpp := by
  apply (ensures_lookupVIP fun _ => trivial).bind
  rintro found next ⟨rest, tuple, named, rfl, rfl⟩
  cases present : vpp.table tuple with
  | none => exact misses _
  | some detail =>
    dsimp only
    cases matches_ : vipDetailsMatchDesired config vip detail with
    | false =>
      refine (ensures_any.mapError _).bind fun _ _ _ => ?_
      exact fun found => nomatch found
    | true =>
      have serves : Serves config vip vpp := ⟨tuple, detail, named, present, matches_⟩
      apply (ensures_dumpBackends fun _ => trivial).bind
      rintro _ last ⟨_, _, _, _, rfl⟩ _
      exact serves.of_table rfl

/-- A distrusted entry is not used unverified. -/
theorem ensures_checkCached_distrusted (distrusted : Distrusted vip.key vpp)
    (healthy : List BackendSpec) (now : Time) (attrs : VipAttributes) :
    Ensures (checkCached config vip healthy now attrs) (fun _ => True)
      (fun cached next => cached ≠ .trusted ∧ (cached = .verified → Serves config vip next))
      vpp := by
  apply Ensures.read_bind
  cases found : vpp.vips vip.key with
  | none => exact ⟨by decide, fun verified => nomatch verified⟩
  | some existing =>
    apply (ensures_any.mapError _).bind
    intro existingAttrs next _
    have due : shouldVerifyCachedVIP config existing now = true := by
      rw [shouldVerifyCachedVIP, distrusted existing found]
    split
    · exact ensures_any.bind fun _ _ _ => ⟨by decide, fun verified => nomatch verified⟩
    · refine (ensures_takeOver_serves healthy now fun _ => ?_).attempt.bind
        fun refreshed last served => ?_
      · exact fun found => nomatch found
      match refreshed with
      | .error _ => exact trivial
      | .ok true => exact ⟨by decide, fun _ => served rfl⟩
      | .ok false => exact ⟨by decide, fun verified => nomatch verified⟩

/-- A VIP that is adopted or added is served. -/
theorem ensures_ensureVIP_serves (healthy : List BackendSpec) (now : Time)
    (verifiedMissing : Bool) :
    Ensures (ensureVIP config vip healthy now verifiedMissing) (fun _ => True)
      (fun _ => Serves config vip) vpp := by
  refine ensures_ensureVIP_parts (fun _ found => nomatch found)
    (ensures_takeOver_serves healthy now fun _ => ?_) (fun _ served => served rfl) fun next _ =>
      wp_addVIP (.ends fun _ => trivial) fun rest tuple attributes built _ => ?_
  · exact fun found => nomatch found
  · exact ⟨tuple, attributes, tupleOf_of_vipRequest built, Function.update_self _ _ _,
      matches_of_vipRequest built⟩

/-- **Applying a distrusted VIP.** If the call returns, VPP holds the VIP as desired. -/
theorem ensures_applyVIP_distrusted (distrusted : Distrusted vip.key vpp)
    (healthy : List BackendSpec) (now : Time) :
    Ensures (applyVIP config vip healthy now) (fun _ => True) (fun _ => Serves config vip)
      vpp := by
  apply ensures_applyVIP_parts (fun _ => trivial)
  · intro attrs _
    apply ensures_settleCached_parts
      (ensures_checkCached_distrusted distrusted healthy now attrs)
    · intro cached next _ _
      exact ensures_ensureVIP_serves healthy now _
    · rintro cached next ⟨untrusted, verified⟩ found
      exact verified (found.resolve_left untrusted)
  · intro cached next served
    exact Keeps.ensures_both (Serves config vip) served
      (serves_backendInvariant.reconcileBackends healthy) (fun _ _ => ⟨trivial, trivial⟩)
      fun _ serves => serves.of_table rfl

/-- A lookup that VPP does not answer does not return. -/
theorem ensures_lookupVIP_unanswered (silent : vpp.replies = []) :
    Ensures (lookupVIP vip) (fun _ => True) (fun _ _ => False) vpp :=
  (ensures_request_unanswered silent).forget fun _ _ impossible => impossible

/-- Nor does what begins with one. -/
theorem ensures_takeOver_unanswered (silent : vpp.replies = []) (healthy : List BackendSpec)
    (now : Time) :
    Ensures (takeOver config vip.key vip healthy now missing wrap change) (fun _ => True)
      (fun _ _ => False) vpp :=
  (ensures_lookupVIP_unanswered silent).bind fun _ _ impossible => impossible.elim

/-- Without an answer, a check ends where it finds nothing cached. -/
theorem ensures_checkCached_unanswered (distrusted : Distrusted vip.key vpp)
    (silent : vpp.replies = []) (healthy : List BackendSpec) (now : Time) (attrs : VipAttributes) :
    Ensures (checkCached config vip healthy now attrs) (fun _ => True)
      (fun cached next => cached = .absent ∧ next = vpp) vpp := by
  apply Ensures.read_bind
  cases found : vpp.vips vip.key with
  | none => exact ⟨rfl, rfl⟩
  | some existing =>
    have attributes : Ensures
        (Effect.ofExcept (effectiveVIPAttributes config existing.vip)) (fun _ => True)
        (fun _ next => next = vpp) vpp :=
      Ensures.ofExcept trivial fun _ _ => rfl
    apply (attributes.mapError _).bind
    rintro existingAttrs next rfl
    have due : shouldVerifyCachedVIP config existing now = true := by
      rw [shouldVerifyCachedVIP, distrusted existing found]
    split
    · have deleted : Ensures (deleteCachedVIPForAttributeChange config vip.key existing)
          (fun _ => True) (fun _ _ => False) next :=
        ((ensures_lookupVIP_unanswered silent).mapError _).bind
          fun _ _ impossible => impossible.elim
      exact deleted.bind fun _ _ impossible => impossible.elim
    · apply (ensures_takeOver_unanswered silent healthy now).attempt.bind
      intro result last impossible
      match result with
      | .error _ => exact trivial
      | .ok _ => exact impossible.elim

/-- Without an answer from VPP, a distrusted VIP is not applied. -/
theorem ensures_applyVIP_unanswered (distrusted : Distrusted vip.key vpp)
    (silent : vpp.replies = []) (healthy : List BackendSpec) (now : Time) :
    Ensures (applyVIP config vip healthy now) (fun _ => True) (fun _ _ => False) vpp := by
  have settled : ∀ attrs, Ensures (settleCached config vip healthy now attrs)
      (fun _ => True) (fun _ _ => False) vpp := by
    intro attrs
    apply ensures_settleCached_parts
      (ensures_checkCached_unanswered distrusted silent healthy now attrs)
    · rintro _ _ ⟨rfl, rfl⟩ _
      exact ((ensures_takeOver_unanswered silent healthy now).mapError _).bind
        fun _ _ impossible => impossible.elim
    · rintro _ _ ⟨rfl, _⟩ found
      exact absurd found (by decide)
  exact ensures_applyVIP_parts (fun _ => trivial) (fun attrs _ => settled attrs)
    fun _ _ impossible => impossible.elim

/-- The VIP is cached with the desired attributes, so it is looked up, and VPP does not hold it
or holds it with other forwarding attributes. -/
structure FoundWrong (config : VPPConfig) (vip : VirtualIP) (vpp : VPP) : Prop where
  cached : ∃ entry attrs, vpp.vips vip.key = some entry ∧
    effectiveVIPAttributes config entry.vip = .ok attrs ∧
    effectiveVIPAttributes config vip = .ok attrs
  held : ∃ tuple, tupleOf vip = .ok tuple ∧
    ∀ detail, vpp.table tuple = some detail → vipDetailsMatchDesired config vip detail = false

/-- An entry that was found wrong is distrusted. -/
theorem FoundWrong.distrusted (wrong : FoundWrong config vip vpp) (rest : List Reply) :
    Distrusted vip.key
      (needsDrainForRetainedVIP config vip (vpp.answered (.ok :: rest))).2 := by
  obtain ⟨entry, attrs, found, existing, desired⟩ := wrong.cached
  obtain ⟨tuple, named, different⟩ := wrong.held
  have same : cachedChanged config vip.key (vpp.vips vip.key) attrs = .ok false := by
    simp [found, cachedChanged, existing]
  rw [needsDrainForRetainedVIP_answered desired same named rest]
  cases present : vpp.table tuple with
  | none => exact distrusted_marked _ _
  | some detail =>
    simp only [different detail present, Bool.false_eq_true, if_false]
    exact distrusted_marked _ _

end Verifying

/-- **Drain planning covers every disruptive apply.** Where `ApplyVIP` would delete a VIP,
`NeedsDrainForRetainedVIP` answers that a drain is needed.  Where it finds a cached VIP missing
or different in VPP, then whatever happens until the next `ApplyVIP` for the key, that call does
not return without an answer from VPP, and where it returns, VPP holds the VIP that it was given
with the desired forwarding attributes. -/
theorem drain_planning_covers_apply (config : VPPConfig) (vip : VirtualIP) (vpp : VPP)
    (rest : List Reply) :
    (∀ healthy now, Deletes (applyVIP config vip healthy now) vpp →
      (needsDrainForRetainedVIP config vip (vpp.answered (.ok :: rest))).1 = .ok true) ∧
    (FoundWrong config vip vpp →
      ∀ next, Relation.ReflTransGen (Meanwhile config vip.key)
        (needsDrainForRetainedVIP config vip (vpp.answered (.ok :: rest))).2 next →
      ∀ desired healthy now, desired.key = vip.key →
        (applyVIP config desired healthy now (next.answered [])).1 ≠ .ok () ∧
        ∀ replies last, applyVIP config desired healthy now (next.answered replies) =
            (.ok (), last) →
          ∃ tuple held, tupleOf desired = .ok tuple ∧ last.table tuple = some held ∧
            ForwardsVisibly config desired held) := by
  refine ⟨fun healthy now deletes => needsDrain_of_deletes deletes rest, ?_⟩
  intro wrong next moves desired healthy now own
  have distrusted : Distrusted desired.key next := by
    rw [own]
    exact (wrong.distrusted rest).run moves
  refine ⟨?_, ?_⟩
  · intro returned
    exact (@ensures_applyVIP_unanswered config desired (next.answered []) distrusted rfl healthy
      now).returned (Effect.eq_of_outcome returned)
  · intro replies last ended
    obtain ⟨tuple, held, there⟩ := (@ensures_applyVIP_distrusted config desired
      (next.answered replies) distrusted healthy now).returned ended
    exact ⟨tuple, held, there.named, there.present, forwardsVisibly_of_matches there.matches_⟩

section Stale

/-- The service is cached, and VPP holds it with another encapsulation. -/
def staleWeb : VPP where
  vips := Function.update (fun _ => none) .web (some { vip := greWeb, lastVerified := some 0 })
  table := Function.update (fun _ => none) greTuple
    (some
      { encap := .nat4
        dscp := 0
        srvType := .clusterIP
        targetPort := 80
        flowTableLength := 1024
        backends := [] })

/-- The service in VPP would be deleted, a drain is planned, and the next call, before the
verification is due, replaces it. -/
theorem drain_planning_covers_apply_stale :
    (needsDrainForRetainedVIP greSettings greWeb (staleWeb.answered [.ok])).1 = .ok true ∧
      ∃ last, applyVIP greSettings greWeb healthyWeb 1
          ((needsDrainForRetainedVIP greSettings greWeb (staleWeb.answered [.ok])).2.answered
            (List.replicate 8 .ok)) = (.ok (), last) ∧
        ∃ tuple held, tupleOf greWeb = .ok tuple ∧ last.table tuple = some held ∧
          ForwardsVisibly greSettings greWeb held := by
  obtain ⟨covers, verifies⟩ := drain_planning_covers_apply greSettings greWeb staleWeb []
  have deletes : Deletes (applyVIP greSettings greWeb healthyWeb 30000000000) staleWeb :=
    ⟨2, greTuple, by decide +kernel, by decide +kernel⟩
  have named : tupleOf greWeb = .ok greTuple := by decide +kernel
  have wrong : FoundWrong greSettings greWeb staleWeb := by
    refine ⟨⟨{ vip := greWeb, lastVerified := some 0 }, _, rfl, rfl, rfl⟩, greTuple, named, ?_⟩
    intro detail present
    simp only [staleWeb, Function.update_self, Option.some.injEq] at present
    subst present
    decide +kernel
  have ended : (applyVIP greSettings greWeb healthyWeb 1
      ((needsDrainForRetainedVIP greSettings greWeb (staleWeb.answered [.ok])).2.answered
        (List.replicate 8 .ok))).1 = .ok () := by decide +kernel
  exact ⟨covers healthyWeb _ deletes, _, Effect.eq_of_outcome ended,
    (verifies wrong _ .refl greWeb healthyWeb 1 rfl).2 _ _ (Effect.eq_of_outcome ended)⟩

end Stale

end ArcaLB.DataPlane
