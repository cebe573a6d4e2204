import ArcaLB.DataPlane.Writes

/-!
# What a data plane call can touch

A call for one VIP reads and writes the cache entry of its own key, and in VPP only the
tuples of that VIP and of the VIP it finds in its cache entry, wherever it is cut off.
-/

namespace ArcaLB.DataPlane

/-- Cache and VPP differ from those at the start only where calls for `vip` may write:
every VIP they apply or delete is `allowed`, and what they add for the key is the tuple
of `vip`. -/
structure Confined (vip : VirtualIP) (allowed : VirtualIP → Prop) (start vpp : VPP) : Prop where
  others : ∀ other, other ≠ vip.key → vpp.vips other = start.vips other
  cached : ∀ entry, vpp.vips vip.key = some entry → allowed entry.vip
  table : ∀ tuple, (∀ touched, allowed touched → tupleOf touched ≠ .ok tuple) →
    vpp.table tuple = start.table tuple
  added : ∀ tuple, vpp.addedBy tuple = some vip.key →
    start.addedBy tuple = some vip.key ∨ tupleOf vip = .ok tuple

/-- The VIPs that a call for `vip` may touch: itself and the cached one. -/
def Touched (vip : VirtualIP) (start : VPP) (touched : VirtualIP) : Prop :=
  touched = vip ∨ ∃ entry, start.vips vip.key = some entry ∧ touched = entry.vip

theorem Confined.refl {vip : VirtualIP} {start : VPP} :
    Confined vip (Touched vip start) start start where
  others := fun _ _ => rfl
  cached := fun entry found => .inr ⟨entry, found, rfl⟩
  table := fun _ _ => rfl
  added := fun _ holder => .inl holder

namespace Confined

variable {vip touched : VirtualIP} {allowed : VirtualIP → Prop} {start vpp : VPP}
  {config : VPPConfig}

variable (confined : Confined vip allowed start vpp)
include confined

variable {tuple : Tuple}

/-- A change of an allowed tuple leaves every foreign one. -/
theorem table_update
    (allows : allowed touched) (named : tupleOf touched = .ok tuple) (held : Option LbVip)
    (other : Tuple) (foreign : ∀ touched, allowed touched → tupleOf touched ≠ .ok other) :
    Function.update vpp.table tuple held other = start.table other := by
  have different : other ≠ tuple := by
    intro same
    exact foreign touched allows (same ▸ named)
  rw [Function.update_of_ne different]
  exact confined.table other foreign

/-- Adding the tuple of the VIP. -/
theorem addTuple (allows : allowed vip) (named : tupleOf vip = .ok tuple) (held : LbVip) :
    Confined vip allowed start (vpp.setTable tuple (some held) (some vip.key)) := by
  refine ⟨confined.others, confined.cached, confined.table_update allows named _, ?_⟩
  intro other holder
  by_cases same : other = tuple
  · exact .inr (same ▸ named)
  · change Function.update vpp.addedBy tuple _ other = _ at holder
    rw [Function.update_of_ne same] at holder
    exact confined.added other holder

/-- Deleting the tuple of an allowed VIP. -/
theorem deleteTuple (allows : allowed touched) (named : tupleOf touched = .ok tuple) :
    Confined vip allowed start (vpp.setTable tuple none none) := by
  refine ⟨confined.others, confined.cached, confined.table_update allows named _, ?_⟩
  intro other holder
  by_cases same : other = tuple
  · subst same
    simp [VPP.setTable] at holder
  · change Function.update vpp.addedBy tuple _ other = _ at holder
    rw [Function.update_of_ne same] at holder
    exact confined.added other holder

/-- Changing the backends of an allowed tuple. -/
theorem setBackends (allows : allowed touched) (named : tupleOf touched = .ok tuple) (held : LbVip)
    (backends : List IPAddr) : Confined vip allowed start (vpp.setBackends tuple held backends) :=
  ⟨confined.others, confined.cached, confined.table_update allows named _, confined.added⟩

/-- Writing the cache entry of the key. -/
theorem setEntry {entry : Option VipEntry}
    (allows : ∀ written, entry = some written → allowed written.vip) :
    Confined vip allowed start (vpp.setEntry vip.key entry) := by
  refine ⟨?_, ?_, confined.table, confined.added⟩
  · intro other distinct
    change Function.update vpp.vips vip.key entry other = _
    rw [Function.update_of_ne distinct]
    exact confined.others other distinct
  · intro written found
    change Function.update vpp.vips vip.key entry vip.key = _ at found
    rw [Function.update_self] at found
    exact allows written found

omit confined

/-- **Calls for a VIP stay in their bounds.** -/
theorem writeInvariant (allows : allowed vip) :
    WriteInvariant config vip allowed (Confined vip allowed start) where
  own := allows
  cached := fun confined found => confined.cached _ found
  replies := fun _ confined =>
    ⟨confined.others, confined.cached, confined.table, confined.added⟩
  drifts := fun _ confined =>
    ⟨confined.others, confined.cached, confined.table, confined.added⟩
  enters := fun confined written => confined.setEntry written
  adds := fun confined built => confined.addTuple allows (tupleOf_of_vipRequest built) _
  deletes := fun confined target named => confined.deleteTuple target named
  fills := fun confined named _ _ => confined.setBackends allows named _ _
  drains := fun confined named _ _ => confined.setBackends allows named _ _

end Confined

end ArcaLB.DataPlane
