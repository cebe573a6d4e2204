import ArcaLB.Datastore.Clients

/-!
# What a transaction has collected

`Fits` says what the writes and conditions of a transaction have to do with each other:
wherever all conditions hold, now or later, the writes respect parents and children.  Every
move of a transaction keeps it, with one exception: `AddBackend` for a VIP that the transaction
remembers but, after `Rollback`, does not write any more.
-/

namespace ArcaLB.Datastore

open Etcd (Op.Spares Op.deletes Op.putOnce)

/-- What holds in a store where all conditions of a transaction hold. -/
structure Ready (tx : EtcdTransaction) (now : Store) : Prop where
  created : ∀ id ∈ tx.createdVIPIDs, now.vip id = none
  known : ∀ id vip, tx.vipSpecs id = some vip →
    id ∈ tx.createdVIPIDs ∨ ∃ stored, now.vip id = some stored
  own : ∀ vipID id backend vip, .put (.backend vipID id) backend ∈ tx.ops →
    tx.vipSpecs vipID = some vip → .put (.vip vipID) vip ∈ tx.ops ∧ FamilyAllowed vip backend
  stored : ∀ vipID id backend, .put (.backend vipID id) backend ∈ tx.ops →
    tx.vipSpecs vipID = none → ∃ vip, now.vip vipID = some vip ∧ FamilyAllowed vip backend
  children : ∀ vipID vip, tx.vipSpecs vipID = some vip → now.vip vipID = none ∨
    ∀ id backend, now.backend vipID id = some backend → FamilyAllowed vip backend

/-- A transaction remembers what it writes, and it is ready wherever its conditions hold. -/
structure Fits (tx : EtcdTransaction) (store : Store) : Prop where
  keyed : Keyed tx.ops
  deletions : ∀ id, .delete (.vip id) ∈ tx.ops → .deleteRange (.backends id) ∈ tx.ops
  written : ∀ id vip, writtenVIP id tx.ops = some (some vip) → tx.vipSpecs id = some vip
  added : ∀ vipID id backend, .put (.backend vipID id) backend ∈ tx.ops →
    backend ∈ tx.backendSpecsByVIP vipID
  ready : ∀ now, Evolves Respects store now → tx.Applies now → Ready tx now

section Commit

variable {tx : EtcdTransaction} {store now : Store}

theorem Fits.evolves (fits : Fits tx store) (evolved : Evolves Respects store now) : Fits tx now :=
  { fits with ready := fun later further => fits.ready later (evolved.trans further) }

theorem fits_begin (store : Store) : Fits .begin store where
  keyed := ⟨fun _ _ put => (nomatch put), fun _ _ _ put => nomatch put⟩
  deletions := fun _ deleted => nomatch deleted
  written := fun _ _ written => nomatch written
  added := fun _ _ _ put => nomatch put
  ready := fun _ _ _ =>
    { created := fun _ member => nomatch member
      known := fun _ _ known => nomatch known
      own := fun _ _ _ _ put => nomatch put
      stored := fun _ _ _ put => nomatch put
      children := fun _ _ known => nomatch known }

/-- **What is committed.** Where its conditions hold, a transaction respects parents and
children, or etcd rejects it. -/
theorem Fits.respects (fits : Fits tx store)
    (evolved : Evolves Respects store now) (applies : tx.Applies now) :
    Respects now (compacted tx.ops) := by
  intro fine
  have ready := fits.ready now evolved applies
  have deletions : ∀ id, .delete (.vip id) ∈ compacted tx.ops →
      .deleteRange (.backends id) ∈ compacted tx.ops := fun id deleted =>
    deleteRange_mem_compacted (fits.deletions id (mem_of_mem_compacted deleted))
  refine ⟨fun vipID id backend put => ?_, fun vipID vip put => ?_, deletions⟩
  · -- the backends of the VIP are not deleted, because etcd would reject the transaction
    have whole : .deleteRange (.backends vipID) ∉ compacted tx.ops := by
      intro range
      simp only [Op.putOnce, Bool.and_eq_true, List.all_eq_true, Bool.not_eq_true',
        List.any_eq_false] at fine
      exact fine.2 _ (Etcd.Op.mem_puts.mpr ⟨_, put⟩) _ range (decide_eq_true rfl)
    have undeleted : .delete (.vip vipID) ∉ tx.ops := fun deleted =>
      whole (deleteRange_mem_compacted (fits.deletions vipID deleted))
    have listed := mem_of_mem_compacted put
    cases known : tx.vipSpecs vipID with
    | some vip =>
      obtain ⟨written, family⟩ := ready.own vipID id backend vip listed known
      obtain ⟨last, committed⟩ := exists_put_compacted undeleted written
      have same := fits.written vipID last (writtenVIP_of_mem_compacted committed)
      cases known.symm.trans same
      exact .inl ⟨vip, committed, family⟩
    | none =>
      obtain ⟨vip, stored, family⟩ := ready.stored vipID id backend listed known
      refine .inr ⟨vip, stored, family, fun op member => ?_⟩
      cases op with
      | get _ => trivial
      | put key value =>
        rintro rfl
        have same := fits.written vipID value (writtenVIP_of_mem_compacted member)
        cases known.symm.trans same
      | delete key =>
        rintro rfl
        exact undeleted (mem_of_mem_compacted member)
      | deleteRange range =>
        cases range
        exact Bool.false_ne_true
  · exact ready.children vipID vip
      (fits.written vipID vip (writtenVIP_of_mem_compacted put))

end Commit

/-! ## Steps of a transaction -/

section Steps

variable {tx next : EtcdTransaction} {store : Store} (fits : Fits tx store)
include fits

/-- More conditions and other bookkeeping. -/
theorem Fits.keep (ops : next.ops = tx.ops) (specs : next.vipSpecs = tx.vipSpecs)
    (created : next.createdVIPIDs = tx.createdVIPIDs)
    (backends : next.backendSpecsByVIP = tx.backendSpecsByVIP)
    (checks : tx.checks ⊆ next.checks) : Fits next store where
  keyed := ops ▸ fits.keyed
  deletions := ops ▸ fits.deletions
  written := by rw [ops, specs]; exact fits.written
  added := by rw [ops, backends]; exact fits.added
  ready := by
    intro now evolved applies
    have ready := fits.ready now evolved fun check member => applies check (checks member)
    exact
      { created := created ▸ ready.created
        known := by rw [specs, created]; exact ready.known
        own := by rw [ops, specs]; exact ready.own
        stored := by rw [ops, specs]; exact ready.stored
        children := by rw [specs]; exact ready.children }

theorem Fits.rollback : Fits { tx with ops := [] } store where
  keyed := ⟨fun _ _ put => (nomatch put), fun _ _ _ put => nomatch put⟩
  deletions := fun _ deleted => nomatch deleted
  written := fun _ _ written => nomatch written
  added := fun _ _ _ put => nomatch put
  ready := fun now evolved applies =>
    let ready := fits.ready now evolved applies
    { created := ready.created
      known := ready.known
      own := fun _ _ _ _ put => nomatch put
      stored := fun _ _ _ put => nomatch put
      children := ready.children }

/-- **A VIP is put.** The new conditions have to say that the VIP is not stored, or that all
stored backends are allowed; the backends added so far have to be allowed. -/
theorem Fits.putVIP {vip : VIP} {more : List Op}
    (ops : next.ops = tx.ops ++ .put (.vip vip.id) vip :: more) (index : IndexOps more)
    (specs : next.vipSpecs = Function.update tx.vipSpecs vip.id (some vip))
    (created : next.createdVIPIDs = tx.createdVIPIDs ∨
      next.createdVIPIDs = vip.id :: tx.createdVIPIDs)
    (backends : next.backendSpecsByVIP = tx.backendSpecsByVIP) (checks : tx.checks ⊆ next.checks)
    (known : ∀ now, Evolves Respects store now → next.Applies now →
      Ready tx now → (vip.id ∈ next.createdVIPIDs ∧ now.vip vip.id = none) ∨
        (vip.id ∉ next.createdVIPIDs ∧ (∃ stored, now.vip vip.id = some stored) ∧
          ∀ id backend, now.backend vip.id id = some backend → FamilyAllowed vip backend))
    (families : ∀ now, Evolves Respects store now → next.Applies now → Ready tx now →
      ∀ id backend, .put (.backend vip.id id) backend ∈ tx.ops → FamilyAllowed vip backend) :
    Fits next store := by
  have putBackend : ∀ {vipID id backend}, .put (.backend vipID id) backend ∈ next.ops →
      .put (.backend vipID id) backend ∈ tx.ops := by
    intro vipID id backend put
    rw [ops] at put
    simpa [index.put_backend] using put
  constructor
  · rw [ops]
    exact fits.keyed.append ((keyed_putVIP vip).append index.keyed)
  · intro id deleted
    rw [ops] at deleted ⊢
    have before : .delete (.vip id) ∈ tx.ops := by simpa [index.delete_vip] using deleted
    exact List.mem_append_left _ (fits.deletions id before)
  · intro id other written
    rw [ops, writtenVIP_append, writtenVIP_cons, index.writtenVIP] at written
    rw [specs]
    by_cases same : id = vip.id
    · subst same
      rw [Function.update_self]
      simpa [writesVIP] using written
    · rw [Function.update_of_ne same]
      refine fits.written id other ?_
      simpa [writesVIP, Ne.symm same] using written
  · intro vipID id backend put
    rw [backends]
    exact fits.added vipID id backend (putBackend put)
  · intro now evolved applies
    have ready := fits.ready now evolved fun check member => applies check (checks member)
    have known := known now evolved applies ready
    have families := families now evolved applies ready
    have older : ∀ {id}, id ∈ tx.createdVIPIDs → id ∈ next.createdVIPIDs := by
      intro id member
      obtain same | same := created <;> rw [same]
      · exact member
      · exact List.mem_cons_of_mem _ member
    constructor
    · intro id member
      by_cases same : id = vip.id
      · subst same
        exact known.elim And.right fun other => absurd member other.1
      · refine ready.created id ?_
        obtain eq | eq := created <;> rw [eq] at member
        · exact member
        · exact (List.mem_cons.mp member).resolve_left same
    · intro id other spec
      by_cases same : id = vip.id
      · subst same
        exact known.imp And.left fun other => other.2.1
      · rw [specs, Function.update_of_ne same] at spec
        exact (ready.known id other spec).imp_left older
    · intro vipID id backend other put spec
      rw [ops]
      by_cases same : vipID = vip.id
      · subst same
        rw [specs, Function.update_self] at spec
        cases spec
        exact ⟨by simp, families id backend (putBackend put)⟩
      · rw [specs, Function.update_of_ne same] at spec
        obtain ⟨written, family⟩ := ready.own vipID id backend other (putBackend put) spec
        exact ⟨List.mem_append_left _ written, family⟩
    · intro vipID id backend put spec
      by_cases same : vipID = vip.id
      · subst same
        rw [specs, Function.update_self] at spec
        cases spec
      · rw [specs, Function.update_of_ne same] at spec
        exact ready.stored vipID id backend (putBackend put) spec
    · intro vipID other spec
      by_cases same : vipID = vip.id
      · subst same
        rw [specs, Function.update_self] at spec
        cases spec
        exact known.imp And.right fun other => other.2.2
      · rw [specs, Function.update_of_ne same] at spec
        exact ready.children vipID other spec

/-- **A backend is put** under a VIP that the transaction writes, or that the new conditions
keep as it was read. -/
theorem Fits.addBackend {backend : Backend} (ops : next.ops = tx.ops ++
      [.put (.backend backend.vipID backend.id) backend,
        .put (.index (.backend backend.id)) backend.vipID,
        .put (.index (.backendIP backend.vipID backend.ip)) backend.id])
    (specs : next.vipSpecs = tx.vipSpecs) (created : next.createdVIPIDs = tx.createdVIPIDs)
    (backends : next.backendSpecsByVIP = Function.update tx.backendSpecsByVIP backend.vipID
      (tx.backendSpecsByVIP backend.vipID ++ [backend])) (checks : tx.checks ⊆ next.checks)
    (own : ∀ vip, tx.vipSpecs backend.vipID = some vip →
      .put (.vip backend.vipID) vip ∈ tx.ops ∧ FamilyAllowed vip backend)
    (stored : ∀ now, Evolves Respects store now → next.Applies now →
      tx.vipSpecs backend.vipID = none →
        ∃ vip, now.vip backend.vipID = some vip ∧ FamilyAllowed vip backend) :
    Fits next store := by
  have cases : ∀ {vipID id other}, .put (.backend vipID id) other ∈ next.ops →
      .put (.backend vipID id) other ∈ tx.ops ∨ (vipID = backend.vipID ∧ other = backend) := by
    intro vipID id other put
    rw [ops] at put
    simp at put
    exact put.imp_right fun same => ⟨same.1.1, same.2⟩
  constructor
  · rw [ops]
    exact fits.keyed.append ((keyed_putBackend backend).append
      ((keyed_putIndex ..).append (keyed_putIndex ..)))
  · intro id deleted
    rw [ops] at deleted ⊢
    exact List.mem_append_left _ (fits.deletions id (by simpa using deleted))
  · intro id vip written
    rw [specs]
    refine fits.written id vip ?_
    rw [ops, writtenVIP_append] at written
    exact written
  · intro vipID id other put
    rw [backends]
    by_cases same : vipID = backend.vipID
    · subst same
      rw [Function.update_self]
      obtain put | ⟨-, rfl⟩ := cases put
      · exact List.mem_append_left _ (fits.added _ id other put)
      · simp
    · rw [Function.update_of_ne same]
      obtain put | ⟨vip, -⟩ := cases put
      · exact fits.added vipID id other put
      · exact absurd vip same
  · intro now evolved applies
    have ready := fits.ready now evolved fun check member => applies check (checks member)
    constructor
    · rw [created]
      exact ready.created
    · rw [specs, created]
      exact ready.known
    · intro vipID id other vip put spec
      rw [specs] at spec
      rw [ops]
      obtain put | ⟨rfl, rfl⟩ := cases put
      · exact (ready.own vipID id other vip put spec).imp_left (List.mem_append_left _)
      · exact (own vip spec).imp_left (List.mem_append_left _)
    · intro vipID id other put spec
      rw [specs] at spec
      obtain put | ⟨rfl, rfl⟩ := cases put
      · exact ready.stored vipID id other put spec
      · exact stored now evolved applies spec
    · rw [specs]
      exact ready.children

/-- **A VIP is deleted** with its backends. -/
theorem Fits.removeVIP {id : String} {more : List Op}
    (ops : next.ops = tx.ops ++ .delete (.vip id) :: .deleteRange (.backends id) :: more)
    (index : IndexOps more) (specs : next.vipSpecs = tx.vipSpecs)
    (created : next.createdVIPIDs = tx.createdVIPIDs)
    (backends : next.backendSpecsByVIP = tx.backendSpecsByVIP)
    (checks : tx.checks ⊆ next.checks) : Fits next store := by
  have putBackend : ∀ {vipID id backend}, .put (.backend vipID id) backend ∈ next.ops →
      .put (.backend vipID id) backend ∈ tx.ops := by
    intro vipID id backend put
    rw [ops] at put
    simpa [index.put_backend] using put
  constructor
  · have deletes : Keyed [.delete (.vip id), .deleteRange (.backends id)] :=
      keyed_of_no_object (by simp)
    rw [ops]
    exact fits.keyed.append (deletes.append index.keyed)
  · intro other deleted
    rw [ops] at deleted ⊢
    obtain before | rfl : .delete (.vip other) ∈ tx.ops ∨ other = id := by
      simpa [index.delete_vip] using deleted
    · exact List.mem_append_left _ (fits.deletions other before)
    · simp
  · intro other vip written
    rw [specs]
    refine fits.written other vip ?_
    rw [ops, writtenVIP_append, writtenVIP_cons, writtenVIP_cons, index.writtenVIP] at written
    by_cases same : id = other
    · simp [writesVIP, same] at written
    · simpa [writesVIP, same] using written
  · intro vipID other backend put
    rw [backends]
    exact fits.added vipID other backend (putBackend put)
  · intro now evolved applies
    have ready := fits.ready now evolved fun check member => applies check (checks member)
    constructor
    · rw [created]
      exact ready.created
    · rw [specs, created]
      exact ready.known
    · intro vipID other backend vip put spec
      rw [specs] at spec
      rw [ops]
      exact (ready.own vipID other backend vip (putBackend put) spec).imp_left
        (List.mem_append_left _)
    · intro vipID other backend put spec
      rw [specs] at spec
      exact ready.stored vipID other backend (putBackend put) spec
    · rw [specs]
      exact ready.children

/-- A VIP that is created is not stored where the transaction commits. -/
theorem Fits.putNewVIP (vip : VIP) (needs : Bool) (fresh : vip.id ∉ tx.createdVIPIDs) :
    Fits (EtcdTransaction.putNewVIP vip needs tx) store := by
  have absent : ∀ now, (EtcdTransaction.putNewVIP vip needs tx).Applies now →
      now.vip vip.id = none := fun now applies =>
    value_of_absent (applies ⟨.absent (.vip vip.id), .conflict⟩ (by
      simp [EtcdTransaction.putNewVIP, EtcdTransaction.addChecks, EtcdTransaction.addOps,
        EtcdTransaction.takeVIPTuple]))
  have ops : (EtcdTransaction.putNewVIP vip needs tx).ops = tx.ops ++
      .put (.vip vip.id) vip :: [.put (.index (.vipTuple vip.tuple)) vip.id] := by
    simp [EtcdTransaction.putNewVIP, EtcdTransaction.addChecks, EtcdTransaction.addOps,
      EtcdTransaction.takeVIPTuple]
  refine fits.putVIP ops (by simp [IndexOps]) rfl (.inr rfl) rfl (List.subset_append_left ..) ?_ ?_
  · exact fun now _ applies _ => .inl ⟨List.mem_cons_self, absent now applies⟩
  · intro now _ applies ready id backend put
    -- a backend that was put before has its VIP stored
    cases spec : tx.vipSpecs vip.id with
    | none =>
      obtain ⟨stored, found, -⟩ := ready.stored vip.id id backend put spec
      cases (absent now applies).symm.trans found
    | some old =>
      obtain member | ⟨stored, found⟩ := ready.known vip.id old spec
      · exact absurd member fresh
      · cases (absent now applies).symm.trans found

/-- A changed VIP allows its backends, stored ones and those of the transaction. -/
theorem Fits.putChangedVIP {vip : VIP} (needs : Bool)
    (own : ∀ backend ∈ tx.backendSpecsByVIP vip.id, FamilyAllowed vip backend)
    (stored : vip.id ∉ tx.createdVIPIDs → ∀ now, Evolves Respects store now → tx.Applies now →
      (∃ stored, now.vip vip.id = some stored) ∧
        ∀ id backend, now.backend vip.id id = some backend → FamilyAllowed vip backend) :
    Fits (EtcdTransaction.putVIP vip needs tx) store := by
  obtain ⟨more, extra, index, ops, checks, specs, created, specsByVIP⟩ := putVIP_spec vip needs tx
  have earlier : ∀ {now}, (EtcdTransaction.putVIP vip needs tx).Applies now → tx.Applies now :=
    fun applies check member => applies check (checks ▸ List.mem_append_left _ member)
  refine fits.putVIP ops index specs (.inl created) specsByVIP
    (checks ▸ List.subset_append_left ..) ?_ ?_
  · intro now evolved applies ready
    rw [created]
    by_cases mine : vip.id ∈ tx.createdVIPIDs
    · exact .inl ⟨mine, ready.created _ mine⟩
    · exact .inr ⟨mine, stored mine now evolved (earlier applies)⟩
  · intro now _ _ _ id backend put
    exact own backend (fits.added vip.id id backend put)

/-- The transaction still writes the VIP that it remembers. -/
def stillWrites (tx : EtcdTransaction) (vipID : String) : Bool :=
  (tx.vipSpecs vipID).all fun vip =>
    tx.ops.any fun
      | .put (.vip id) other => id = vipID && other = vip
      | _ => false

omit fits in
theorem put_of_stillWrites {vipID : String} {vip : VIP} (writes : stillWrites tx vipID = true)
    (known : tx.vipSpecs vipID = some vip) : .put (.vip vipID) vip ∈ tx.ops := by
  rw [stillWrites, known, Option.all_some, List.any_eq_true] at writes
  obtain ⟨op, member, same⟩ := writes
  split at same
  next id other =>
    simp only [Bool.and_eq_true, decide_eq_true_eq] at same
    obtain ⟨rfl, rfl⟩ := same
    exact member
  next => cases same

theorem Fits.recorded {id : String}
    (recorded : EtcdTransaction.Recorded Respects store id tx next) : Fits next store := by
  cases recorded with
  | own _ => exact fits
  | before checks _ => exact fits.keep rfl rfl rfl rfl (List.subset_append_left ..)
  | now _ _ checks _ _ _ =>
    exact fits.keep rfl rfl rfl rfl fun _ member =>
      List.mem_append_left _ (List.mem_append_left _ member)

theorem Fits.remove (id : String) : Fits (EtcdTransaction.removeVIP id tx) store := by
  obtain ⟨more, index, ops, checks, specs, created, backends⟩ := removeVIP_spec id tx
  exact fits.removeVIP ops index specs created backends (checks ▸ List.Subset.refl _)

/-- **One move.** `AddBackend` must find the VIP among the writes, if the transaction remembers
it. -/
theorem Fits.move {sees : List Store → Store → Prop} {context : Context} {operation : TxOperation}
    (moves : EtcdTransaction.Move Respects sees context tx operation next store)
    (writes : ∀ given, operation = .addBackend given → stillWrites tx given.vipID = true) :
    Fits next store := by
  cases moves with
  | unchanged => exact fits
  | createVIP needs fresh _ => exact fits.putNewVIP _ needs fresh
  | readParent checks => exact fits.keep rfl rfl rfl rfl (List.subset_append_left ..)
  | @addBackend given parent _ checks _ family own stored =>
    have checked : Fits (tx.addChecks checks) store :=
      fits.keep rfl rfl rfl rfl (List.subset_append_left ..)
    refine checked.addBackend rfl rfl rfl rfl (List.subset_append_left ..) ?_ ?_
    · intro vip known
      exact ⟨put_of_stillWrites (writes given rfl) known, own vip known ▸ family⟩
    · intro now evolved applies known
      exact ⟨parent, stored known now evolved fun check member =>
        applies check (List.mem_append_left _ member), family⟩
  | readUpdated recorded => exact fits.recorded recorded
  | updateVIP needs _ _ recorded _ own stored =>
    exact (fits.recorded recorded).putChangedVIP needs own stored
  | deleteVIP _ => exact fits.remove _
  | @deleteStoredVIP id _ tuple owned _ _ =>
    have recorded : Fits (tx.recordOriginal id tuple owned) store :=
      fits.keep rfl rfl rfl rfl (List.subset_append_left ..)
    exact recorded.remove id
  | commit _ _ => exact fits.keep rfl rfl rfl rfl (List.Subset.refl _)
  | rollback => exact fits.rollback

end Steps

end ArcaLB.Datastore
