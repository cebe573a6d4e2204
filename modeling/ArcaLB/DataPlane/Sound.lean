import ArcaLB.DataPlane.Agreement

/-!
# The cache counts the backends of VPP

The cache entry of a VIP that only this agent works on has its tuple in VPP with at least
as many backends as the entry lists.  No assumption about what VPP held before is needed
for this.
-/

namespace ArcaLB.DataPlane

/-- The cache entry of a key agrees with VPP. -/
structure Sound (key : VIPKey) (vpp : VPP) : Prop where
  ledger : ∀ tuple, vpp.addedBy tuple = some key →
    ∃ entry, vpp.vips key = some entry ∧ tupleOf entry.vip = .ok tuple
  counted : ∀ entry, vpp.vips key = some entry →
    ∃ tuple held, tupleOf entry.vip = .ok tuple ∧ vpp.table tuple = some held ∧
      entry.backends.keys.length ≤ held.backends.length

/-- The VIP is cached as it was applied, with a backend where one was healthy. -/
structure Applied (vip : VirtualIP) (healthy : List BackendSpec) (vpp : VPP) : Prop where
  sound : Sound vip.key vpp
  cached : ∃ entry, vpp.vips vip.key = some entry ∧ entry.vip = vip ∧
    (healthy ≠ [] → entry.backends.keys ≠ [])

/-- What a recreation leaves.  An error that calls the route safe to restore is one where
the VIP was left as it was. -/
def Recreated (vip : VirtualIP) (healthy : List BackendSpec) (start : VPP) :
    Outcome VIPRecreateError Unit → VPP → Prop
  | .ok _, vpp => Applied vip healthy vpp
  | .error err, vpp =>
    Sound vip.key vpp ∧ (err.routeSafeToRestore = true → ∃ rest, vpp = start.answered rest)
  | .crashed, vpp => Sound vip.key vpp

/-- VPP has at least as many backends as are cached. -/
def Counts (_ : VirtualIP) (backends : BackendMap) (held : LbVip) : Prop :=
  backends.keys.length ≤ held.backends.length

section Count

/-- A dump of backends lists each of them at most once. -/
theorem length_keys_dumped_le (desired : List BackendSpec) (ips : List IPAddr) :
    (dumped desired ips).keys.length ≤ ips.length := by
  have counted := AList.length_keys_foldl_insert_le IPAddr.text (recorded desired) ips ∅
  rwa [AList.keys_empty, List.length_nil, Nat.zero_add] at counted

/-- The requests keep the count. -/
theorem fitting_counts (config : VPPConfig) : Fitting config Counts fun _ => True where
  same := fun _ _ counted => counted
  added := fun _ => Nat.zero_le _
  found := fun _ _ => length_keys_dumped_le _ _
  admitted := fun _ => trivial
  removed := by
    intro vip backends held addr backend tuple ip counted listed _ member
    have own : addr ∈ backends.keys := AList.mem_keys.mp (AList.lookup_isSome.mp (by simp [listed]))
    unfold Counts at counted ⊢
    rw [AList.keys_erase, List.length_erase_of_mem own, List.length_erase_of_mem member]
    exact Nat.sub_le_sub_right counted 1
  inserted := by
    intro vip backends held backend tuple ip counted _ _ _
    have step := AList.length_keys_insert_le backends backend.address backend
    unfold Counts at counted ⊢
    rw [List.length_cons]
    omega
  updated := by
    intro vip backends held backend counted listed
    have member := List.length_erase_of_mem (AList.mem_keys.mp listed)
    have positive := List.length_pos_of_mem (AList.mem_keys.mp listed)
    unfold Counts at counted ⊢
    rw [AList.keys_insert, List.length_cons]
    omega

end Count

section Methods

variable {config : VPPConfig} {vip : VirtualIP} {vpp : VPP} {healthy : List BackendSpec}
  {key : VIPKey}

theorem Sound.agrees (sound : Sound key vpp) : Agrees Counts key vpp :=
  ⟨sound.ledger, sound.counted⟩

theorem Agrees.sound (agrees : Agrees Counts key vpp) : Sound key vpp :=
  ⟨agrees.ledger, agrees.cached⟩

theorem Sound.answered (sound : Sound key vpp) (rest : List Reply) :
    Sound key (vpp.answered rest) :=
  ⟨sound.ledger, sound.counted⟩

/-- Only the tuple of the cached VIP can be in the ledger. -/
theorem Sound.ledger_eq (sound : Sound key vpp) {entry : VipEntry}
    (found : vpp.vips key = some entry) {tuple : Tuple}
    (holder : vpp.addedBy tuple = some key) : tupleOf entry.vip = .ok tuple := by
  obtain ⟨other, same, named⟩ := sound.ledger tuple holder
  rw [found, Option.some.injEq] at same
  rw [same]
  exact named

theorem Sound.markVIPNeedsVerification (sound : Sound key vpp) :
    Sound key (vpp.modifyEntry key fun entry => { entry with lastVerified := none }) :=
  sound.agrees.markVIPNeedsVerification.sound

/-- What `ApplyVIP` leaves is an applied VIP. -/
theorem Holds.applied (holds : Holds config Counts vip healthy vpp) : Applied vip healthy vpp := by
  refine ⟨(holds.agrees (fitting_counts config)).sound, ?_⟩
  obtain ⟨entry, tuple, held, installed, own, exact_⟩ := holds
  refine ⟨entry, installed.cached, own, ?_⟩
  intro some_ empty
  obtain ⟨backend, listed⟩ := List.exists_mem_of_ne_nil healthy some_
  have member := (exact_ backend.address).mpr
    (mem_byAddress.mpr ⟨backend, listed, rfl⟩)
  have key := AList.mem_keys.mp member
  rw [empty] at key
  exact List.not_mem_nil key

/-- **Applying a VIP.** Wherever it is cut off the cache agrees with VPP, and when it
succeeds the VIP is cached as applied. -/
theorem ensures_applyVIP (healthy : List BackendSpec) (now : Time) (sound : Sound vip.key vpp) :
    Effect.Ensures (applyVIP config vip healthy now) (Sound vip.key)
      (fun _ => Applied vip healthy) vpp :=
  (ensures_applyVIP_holds (fitting_counts config) healthy now sound.agrees
    fun _ _ _ _ _ => trivial).mono (fun _ agrees => agrees.sound) fun _ _ holds => holds.applied

/-- **Recreating a VIP.** Wherever it is cut off the cache agrees with VPP; an error that
calls the route safe to restore left VPP as it was, and success leaves the VIP applied. -/
theorem wp_recreateVIP (healthy : List BackendSpec) (sound : Sound vip.key vpp) :
    Effect.wp (recreateVIP config vip healthy) (Recreated vip healthy vpp) vpp := by
  apply Effect.wp_mono (wp_recreateVIP_rebuilt (fitting_counts config) healthy sound.agrees)
  intro outcome next rebuilt
  cases outcome with
  | ok _ => exact Holds.applied rebuilt
  | error err => exact ⟨rebuilt.1.sound, rebuilt.2⟩
  | crashed => exact Agrees.sound rebuilt

/-- Recreating a VIP keeps the cache in agreement with VPP. -/
theorem keeps_recreateVIP (healthy : List BackendSpec) :
    Effect.Keeps (Sound vip.key) (recreateVIP config vip healthy) := by
  intro vpp sound
  change Effect.wp (recreateVIP config vip healthy) (fun _ => Sound vip.key) vpp
  apply Effect.wp_mono (wp_recreateVIP healthy sound)
  intro outcome next after
  cases outcome with
  | ok _ => exact Applied.sound after
  | error err => exact after.1
  | crashed => exact after

end Methods

end ArcaLB.DataPlane
