import ArcaLB.DataPlane.Apply

/-!
# What the requests do

One rule per request of the VPP API.  A request that is not carried out changes nothing
but the replies to come; one that is carried out has the effect its name says.
-/

namespace ArcaLB.DataPlane

open Effect (Ensures)

section Requests

variable {config : VPPConfig} {vip : VirtualIP} {vpp : VPP} {tuple : Tuple}

/-- What a request to add or delete a VIP says. -/
theorem vipRequest_inv {attributes : LbVip}
    (built : vipRequest config vip = .ok (tuple, attributes)) :
    tupleOf vip = .ok tuple ∧ encapToAPI (effectiveEncapType config vip) = .ok attributes.encap ∧
      serviceTypeToAPI config.serviceType = .ok attributes.srvType ∧
      effectiveDSCP config (effectiveEncapType config vip) vip = .ok attributes.dscp ∧
      attributes.targetPort = UInt16.ofInt vip.spec.port ∧ attributes.backends = [] := by
  obtain ⟨named, tupleEq, built⟩ := Except.exists_of_bind_eq_ok built
  obtain ⟨encap, encapEq, built⟩ := Except.exists_of_bind_eq_ok built
  obtain ⟨srvType, srvTypeEq, built⟩ := Except.exists_of_bind_eq_ok built
  obtain ⟨dscp, dscpEq, built⟩ := Except.exists_of_bind_eq_ok built
  cases built
  exact ⟨tupleEq, encapEq, srvTypeEq, dscpEq, rfl, rfl⟩

/-- A request names the tuple of its VIP. -/
theorem tupleOf_of_vipRequest {attributes : LbVip}
    (built : vipRequest config vip = .ok (tuple, attributes)) : tupleOf vip = .ok tuple :=
  (vipRequest_inv built).1

variable {backend : BackendSpec}

/-- What a backend request says. -/
theorem asRequest_inv {ip : IPAddr} (built : asRequest vip backend = .ok (tuple, ip)) :
    tupleOf vip = .ok tuple ∧ IPAddr.parseIP backend.address = some ip := by
  obtain ⟨named, tupleEq, built⟩ := Except.exists_of_bind_eq_ok built
  cases parsed : IPAddr.parseIP backend.address with
  | none => simp [parseIPAddress, parsed] at built
  | some found =>
    simp only [parseIPAddress, parsed, Except.ok.injEq, Prod.mk.injEq] at built
    exact ⟨built.1 ▸ tupleEq, congrArg some built.2⟩

/-- A backend request names the tuple of its VIP. -/
theorem tupleOf_of_asRequest {ip : IPAddr}
    (built : asRequest vip backend = .ok (tuple, ip)) : tupleOf vip = .ok tuple :=
  (asRequest_inv built).1

/-- What is to be shown of a request that is not carried out. -/
def Unsent {α : Type} (vpp : VPP) (post : Outcome String α → VPP → Prop) : Prop :=
  ∀ outcome rest, (∀ value, outcome ≠ .ok value) → post outcome (vpp.answered rest)

variable {always : VPP → Prop}

theorem Unsent.ends {α : Type} {good : α → VPP → Prop}
    (kept : ∀ rest, always (vpp.answered rest)) : Unsent vpp (Effect.ends always good) :=
  fun _ rest unfinished => Effect.ends_of_stopped unfinished (kept rest)

variable {post : Outcome String Unit → VPP → Prop}

/-- A request is answered, or not carried out. -/
theorem wp_invoke {wrap : String → String} {refusal : Int → String} (unsent : Unsent vpp post)
    (sent : ∀ rest, post (.ok ()) (vpp.answered rest)) :
    Effect.wp (invoke wrap refusal) post vpp := by
  unfold Effect.wp invoke
  split
  · exact unsent _ vpp.replies (by simp)
  · exact sent _
  · exact unsent _ _ (by simp)
  · exact unsent _ _ (by simp)

/-- The shape of a request: it is not carried out, or it is sent for the built arguments. -/
theorem wp_request {α β : Type} {arguments : Except String α} {wrap : String → String}
    {refusal : Int → String} {body : α → Effect VPP String β} {post : Outcome String β → VPP → Prop}
    (unsent : Unsent vpp post) (sent : ∀ built rest, arguments = .ok built →
      Effect.wp (body built) post (vpp.answered rest)) :
    Effect.wp (do
      let built ← Effect.ofExcept arguments
      invoke wrap refusal
      body built) post vpp := by
  rw [Effect.wp_bind]
  apply Effect.wp_ofExcept
  · intro err _
    exact unsent _ vpp.replies (by simp)
  · intro built given
    change Effect.wp (_ >>= _) post vpp
    rw [Effect.wp_bind]
    apply wp_invoke
    · intro outcome rest unfinished
      cases outcome with
      | ok value => exact absurd rfl (unfinished value)
      | error err | crashed => exact unsent _ _ (by simp)
    · intro rest
      exact sent built rest given

/-- A request that VPP does not answer does not return. -/
theorem ensures_request_unanswered {α β : Type} {arguments : Except String α}
    {wrap : String → String} {refusal : Int → String} {body : α → Effect VPP String β}
    (silent : vpp.replies = []) :
    Ensures (do
      let built ← Effect.ofExcept arguments
      invoke wrap refusal
      body built) (fun next => next = vpp) (fun _ _ => False) vpp := by
  cases arguments with
  | error err => exact rfl
  | ok built =>
    simp [Ensures, Effect.wp, Effect.ofExcept, invoke, bind, Effect.andThen, pure, silent,
      Effect.ends]

/-- `LbAddDelVip` adds a tuple that VPP does not hold. -/
theorem wp_addVIP (unsent : Unsent vpp post)
    (added : ∀ rest tuple attributes, vipRequest config vip = .ok (tuple, attributes) →
      vpp.table tuple = none →
      post (.ok ()) ((vpp.answered rest).setTable tuple (some attributes) (some vip.key))) :
    Effect.wp (addVIP config vip) post vpp := by
  refine wp_request unsent fun ⟨tuple, attributes⟩ rest built => ?_
  rw [Effect.wp_read_bind]
  split
  · exact unsent (.error _) rest (by simp)
  · rename_i absent
    exact added rest tuple attributes built absent

/-- `LbAddDelVip` deletes a tuple that VPP holds. -/
theorem wp_deleteVIP (unsent : Unsent vpp post) (deleted : ∀ rest tuple, tupleOf vip = .ok tuple →
      post (.ok ()) ((vpp.answered rest).setTable tuple none none)) :
    Effect.wp (deleteVIP config vip) post vpp := by
  refine wp_request unsent fun ⟨tuple, attributes⟩ rest built => ?_
  rw [Effect.wp_read_bind]
  split
  · exact unsent (.error _) rest (by simp)
  · exact deleted rest tuple (tupleOf_of_vipRequest built)

/-- `LbAddDelAs` adds a backend to a tuple that VPP holds without it. -/
theorem wp_addBackend (unsent : Unsent vpp post)
    (added : ∀ rest tuple held ip, asRequest vip backend = .ok (tuple, ip) →
      vpp.table tuple = some held → ip ∉ held.backends →
      post (.ok ()) ((vpp.answered rest).setBackends tuple held (ip :: held.backends))) :
    Effect.wp (addBackend vip backend) post vpp := by
  refine wp_request unsent fun ⟨tuple, ip⟩ rest built => ?_
  rw [Effect.wp_read_bind]
  split
  · exact unsent (.error _) rest (by simp)
  · rename_i held present
    split
    · exact unsent (.error _) rest (by simp)
    · rename_i fresh
      exact added rest tuple held ip built present fresh

/-- `LbAddDelAs` deletes a backend from a tuple that VPP holds with it. -/
theorem wp_removeBackend (unsent : Unsent vpp post)
    (removed : ∀ rest tuple held ip, asRequest vip backend = .ok (tuple, ip) →
      vpp.table tuple = some held → ip ∈ held.backends →
      post (.ok ()) ((vpp.answered rest).setBackends tuple held (held.backends.erase ip))) :
    Effect.wp (removeBackend vip backend) post vpp := by
  refine wp_request unsent fun ⟨tuple, ip⟩ rest built => ?_
  rw [Effect.wp_read_bind]
  split
  · exact unsent (.error _) rest (by simp)
  · rename_i held present
    split
    · rename_i listed
      exact removed rest tuple held ip built present listed
    · exact unsent (.error _) rest (by simp)

/-- `LbVipDump` reads the table. -/
theorem wp_lookupVIP {post : Outcome String (Option LbVip) → VPP → Prop} (unsent : Unsent vpp post)
    (found : ∀ rest tuple, tupleOf vip = .ok tuple →
      post (.ok (vpp.table tuple)) (vpp.answered rest)) :
    Effect.wp (lookupVIP vip) post vpp :=
  wp_request unsent fun tuple rest built => found rest tuple built

/-- A lookup returns what VPP holds under the tuple. -/
theorem ensures_lookupVIP (kept : ∀ rest, always (vpp.answered rest)) :
    Ensures (lookupVIP vip) always (fun found next => ∃ rest tuple, tupleOf vip = .ok tuple ∧
      found = vpp.table tuple ∧ next = vpp.answered rest) vpp :=
  wp_lookupVIP (.ends kept) fun rest tuple named => ⟨rest, tuple, named, rfl, rfl⟩

/-- A deletion takes the tuple out of VPP. -/
theorem ensures_deleteVIP (kept : ∀ rest, always (vpp.answered rest)) :
    Ensures (deleteVIP config vip) always (fun _ next => ∃ rest tuple,
      tupleOf vip = .ok tuple ∧ next = (vpp.answered rest).setTable tuple none none) vpp :=
  wp_deleteVIP (.ends kept) fun rest tuple named => ⟨rest, tuple, named, rfl⟩

/-- The settings under which a backend in VPP is cached. -/
def recorded (desired : List BackendSpec) (ip : IPAddr) : BackendSpec :=
  (desired.reverse.find? fun backend => backend.address = ip.text).getD
    { address := ip.text, monitorAddress := "", weight := defaultBackendWeight }

/-- The cached form of the backends that VPP lists. -/
def dumped (desired : List BackendSpec) (ips : List IPAddr) : BackendMap :=
  ips.foldl (fun backends ip => backends.insert ip.text (recorded desired ip)) ∅

/-- `LbAsDump` reads the backends of a tuple. -/
theorem wp_dumpBackends {desired : List BackendSpec} {post : Outcome String BackendMap → VPP → Prop}
    (unsent : Unsent vpp post) (listed : ∀ rest tuple, tupleOf vip = .ok tuple →
      post (.ok (dumped desired (vpp.backendsOf tuple))) (vpp.answered rest)) :
    Effect.wp (dumpBackends vip desired) post vpp :=
  wp_request unsent fun tuple rest built => listed rest tuple built

/-- A dump returns the backends that VPP holds under the tuple. -/
theorem ensures_dumpBackends {desired : List BackendSpec}
    (kept : ∀ rest, always (vpp.answered rest)) :
    Ensures (dumpBackends vip desired) always (fun backends next => ∃ rest tuple,
      tupleOf vip = .ok tuple ∧ backends = dumped desired (vpp.backendsOf tuple) ∧
      next = vpp.answered rest) vpp :=
  wp_dumpBackends (.ends kept) fun rest tuple named => ⟨rest, tuple, named, rfl, rfl⟩

end Requests

section Parts

variable {config : VPPConfig} {vip : VirtualIP} {vpp : VPP} {healthy : List BackendSpec}
  {now : Time} {always : VPP → Prop}

/-- The rule for the first two parts of `ApplyVIP`. -/
theorem ensures_settleCached_parts {attrs : VipAttributes} {checked : Cached → VPP → Prop}
    {good : Cached → VPP → Prop}
    (first : Ensures (checkCached config vip healthy now attrs) always checked vpp)
    (left : ∀ cached next, checked cached next → cached = .missing ∨ cached = .absent →
      Ensures (ensureVIP config vip healthy now (cached = .missing)) always
        (fun _ => good cached) next)
    (found : ∀ cached next, checked cached next → cached = .trusted ∨ cached = .verified →
      good cached next) :
    Ensures (settleCached config vip healthy now attrs) always good vpp := by
  apply first.bind
  intro cached next after
  unfold Effect.when
  cases cached with
  | trusted => exact found .trusted next after (.inl rfl)
  | verified => exact found .verified next after (.inr rfl)
  | missing => exact (left .missing next after (.inl rfl)).bind fun _ _ ensured => ensured
  | absent => exact (left .absent next after (.inr rfl)).bind fun _ _ ensured => ensured

/-- The rule for the part that adopts or adds the VIP. -/
theorem ensures_ensureVIP_parts {verifiedMissing : Bool} {adopted : Bool → VPP → Prop}
    {good : VPP → Prop} (skipped : verifiedMissing = true → adopted false vpp)
    (first : Ensures (adoptExistingVIP config vip healthy now) always adopted vpp)
    (found : ∀ next, adopted true next → good next)
    (left : ∀ next, adopted false next → Ensures (addVIP config vip) always
      (fun _ last =>
        good ((last.setEntry vip.key (some { vip })).setTuningDrifts vip.key [])) next) :
    Ensures (ensureVIP config vip healthy now verifiedMissing) always (fun _ => good) vpp := by
  have inspected : Ensures
      (if verifiedMissing = true then pure false
        else Effect.mapError
          (fun err => "failed to inspect existing VIP for " ++ vip.key.text ++ ": " ++ err)
          (adoptExistingVIP config vip healthy now)) always adopted vpp := by
    split
    · rename_i missing
      exact skipped missing
    · exact first.mapError _
  apply inspected.bind
  intro result next after
  cases result with
  | true => exact found next after
  | false => exact ((left next after).mapError _).bind fun _ _ added => added

/-- The rule for `ApplyVIP`: its checks change nothing, and after its last part the entry is
marked or the VIP is recorded in it. -/
theorem ensures_applyVIP_parts {settled : Cached → VPP → Prop} {good : VPP → Prop}
    (early : ¬((∃ attrs, effectiveVIPAttributes config vip = .ok attrs) ∧
      failOnAllBackendsDown config vip healthy = .ok ()) → always vpp)
    (first : ∀ attrs, effectiveVIPAttributes config vip = .ok attrs →
      Ensures (settleCached config vip healthy now attrs) always settled vpp)
    (second : ∀ cached next, settled cached next →
      Ensures (reconcileBackends vip.key vip healthy)
        (fun last => always last ∧ always
          (last.modifyEntry vip.key fun entry => { entry with lastVerified := none }))
        (fun _ last => good (last.modifyEntry vip.key fun entry =>
          { entry with
            vip
            lastVerified := if cached = .trusted then entry.lastVerified else some now })) next) :
    Ensures (applyVIP config vip healthy now) always (fun _ => good) vpp := by
  have attributes : Ensures (Effect.ofExcept (effectiveVIPAttributes config vip)) always
      (fun attrs next => next = vpp ∧ effectiveVIPAttributes config vip = .ok attrs) vpp := by
    refine Effect.wp_ofExcept (fun err refused => early ?_) fun _ given => ⟨rfl, given⟩
    rintro ⟨⟨attrs, given⟩, _⟩
    cases refused.symm.trans given
  apply (attributes.mapError _).bind
  rintro attrs next ⟨rfl, desired⟩
  have allowed : Ensures (Effect.ofExcept (failOnAllBackendsDown config vip healthy))
      always (fun _ last => last = next) next := by
    refine Effect.wp_ofExcept (fun err refused => early ?_) fun _ _ => rfl
    rintro ⟨_, given⟩
    cases refused.symm.trans given
  apply allowed.bind
  rintro _ last rfl
  apply (first attrs desired).bind
  intro cached next after
  apply ((second cached next after).attempt.mono (fun _ both => both.1) fun _ _ ended => ended).bind
  intro result last ended
  cases result with
  | error err => exact ended.2
  | ok _ => exact ended

end Parts

end ArcaLB.DataPlane
