import ArcaLB.Datastore.Sound
import ArcaLB.Datastore.Transaction

/-!
# Backends and their VIPs

Every stored backend belongs to a stored VIP that allows its address family.  What a
transaction has to respect for this is the same inside and outside `EtcdTransaction`: a
backend is put under a VIP that allows it, a VIP is put where it allows all its backends, and
a VIP is deleted with all its backends.
-/

namespace ArcaLB.Datastore

open Etcd (Op.Spares Op.deletes Op.putOnce)

/-- Writes that respect parents and children, in the store that they are applied to. -/
structure Prepared (store : Store) (ops : List Op) : Prop where
  parents : ∀ vipID id backend, .put (.backend vipID id) backend ∈ ops →
    (∃ vip, .put (.vip vipID) vip ∈ ops ∧ FamilyAllowed vip backend) ∨
    ∃ vip, store.vip vipID = some vip ∧ FamilyAllowed vip backend ∧
      ∀ op ∈ ops, op.Spares Range.covers (.vip vipID)
  children : ∀ vipID vip, .put (.vip vipID) vip ∈ ops → store.vip vipID = none ∨
    ∀ id backend, store.backend vipID id = some backend → FamilyAllowed vip backend
  deletions : ∀ vipID, .delete (.vip vipID) ∈ ops → .deleteRange (.backends vipID) ∈ ops

/-- A transaction that etcd does not reject respects parents and children. -/
def Respects (store : Store) (ops : List Op) : Prop :=
  Op.putOnce Range.covers ops = true → Prepared store ops

/-- Every stored backend belongs to a stored VIP that allows its address family. -/
def Parented (store : Store) : Prop :=
  ∀ vipID id backend, store.backend vipID id = some backend →
    ∃ vip, store.vip vipID = some vip ∧ FamilyAllowed vip backend

section Writes

variable {store : Store} {ops : List Op}

/-- Operations outside transactions respect parents and children. -/
theorem Change.prepared {strict : Prop} (changes : Change strict store ops) :
    Prepared store ops := by
  cases changes with
  | createVIP fresh free =>
    refine ⟨by simp, fun vipID vip put => ?_, by simp⟩
    simp at put
    obtain ⟨rfl, rfl⟩ := put
    exact .inl fresh
  | updateVIP stored families own foreign free =>
    refine ⟨?_, fun vipID vip put => .inr ?_, ?_⟩
    · unfold moveOps
      split <;> simp
    · unfold moveOps at put
      split at put <;> simp at put <;> obtain ⟨rfl, rfl⟩ := put <;> exact families
    · unfold moveOps
      split <;> simp
  | deleteVIP stored own =>
    unfold releaseOps
    split <;> exact ⟨by simp, by simp, by simp⟩
  | addBackend stored family fresh unindexed free =>
    refine ⟨fun vipID id backend put => .inr ?_, by simp, by simp⟩
    simp at put
    obtain ⟨⟨rfl, rfl⟩, rfl⟩ := put
    exact ⟨_, stored, family, by simp [Op.Spares]⟩
  | updateBackend stored family present indexed own uncrossed free =>
    unfold moveOps
    split <;> refine ⟨fun vipID id backend put => .inr ?_, by simp, by simp⟩ <;> simp at put <;>
      obtain ⟨⟨rfl, rfl⟩, rfl⟩ := put <;> exact ⟨_, stored, family, by simp [Op.Spares]⟩
  | deleteBackend present indexed own =>
    unfold releaseOps
    split <;> exact ⟨by simp, by simp, by simp⟩

theorem Change.respects {strict : Prop} (changes : Change strict store ops) : Respects store ops :=
  fun _ => changes.prepared

theorem putOnce_of_append {more : List Op} (fine : Op.putOnce Range.covers (ops ++ more) = true) :
    Op.putOnce Range.covers ops = true := by
  simp only [Op.putOnce, Etcd.Op.puts, List.filterMap_append, List.all_append, List.any_append,
    Bool.and_eq_true, decide_eq_true_eq, List.nodup_append, List.all_eq_true,
    Bool.not_eq_true', Bool.or_eq_false_iff] at fine
  rw [Op.putOnce, Bool.and_eq_true, decide_eq_true_eq, List.all_eq_true]
  refine ⟨fine.1.1, fun key put => ?_⟩
  rw [Bool.not_eq_true']
  exact (fine.2.1 key put).1

/-- **Parents stay.** -/
theorem Parented.write (parented : Parented store) (writes : Write Respects store ops)
    (fine : Op.putOnce Range.covers ops = true) : Parented (store.apply ops) := by
  cases writes with
  | tend tends =>
    intro vipID id backend found
    obtain ⟨vip, stored, family⟩ := parented vipID id backend
      ((value_write_of_spares (tends.spares (by simp))).symm.trans found)
    exact ⟨vip, (value_write_of_spares (tends.spares (by simp))).trans stored, family⟩
  | @commit ops number counted respects keyed =>
    have prepared := respects (putOnce_of_append fine)
    intro vipID id backend found
    obtain put | ⟨before, kept⟩ := value_write_cases fine found
    · obtain ⟨vip, put, family⟩ | ⟨vip, stored, family, spares⟩ :=
        prepared.parents vipID id backend (by simpa using put)
      · exact ⟨vip, value_write_of_put fine (List.mem_append_left _ put), family⟩
      · refine ⟨vip, (value_write_of_spares fun op member => ?_).trans stored, family⟩
        obtain member | member := List.mem_append.mp member
        · exact spares op member
        · obtain rfl := List.mem_singleton.mp member
          simp [Op.Spares]
    · obtain ⟨vip, stored, family⟩ := parented vipID id backend before
      obtain ⟨new, put, -⟩ | ⟨-, -, op, member, deleted⟩ | ⟨-, -, same⟩ :=
        Etcd.lookup_write_cases store fine (.vip vipID)
      · refine ⟨new, value_write_of_put fine put, ?_⟩
        obtain fresh | families := prepared.children vipID new (by simpa using put)
        · cases fresh.symm.trans stored
        · exact families id backend before
      · cases op with
        | get _ | put _ _ => cases deleted
        | deleteRange range =>
          cases range
          cases deleted
        | delete key =>
          obtain rfl : key = .vip vipID := of_decide_eq_true deleted
          have range := prepared.deletions vipID (by simpa using member)
          exact absurd (decide_eq_true rfl) (kept _ (List.mem_append_left _ range))
      · exact ⟨vip, by rw [Store.vip, Etcd.value, same]; exact stored, family⟩

end Writes

/-! ## What compaction keeps -/

section Compacted

variable {ops : List Op} {id : String}

/-- The writes of a transaction as they are committed. -/
abbrev compacted (ops : List Op) : List Op := compactEtcdWriteOps Range.covers Range.inside ops

/-- What an operation writes under the key of a VIP. -/
def writesVIP (id : String) : Op → Option (Option VIP)
  | .put (.vip other) vip => if other = id then some (some vip) else none
  | .delete (.vip other) => if other = id then some none else none
  | _ => none

/-- The last write of a VIP: what is put, or its deletion. -/
def writtenVIP (id : String) (ops : List Op) : Option (Option VIP) :=
  ops.reverse.findSome? (writesVIP id)

theorem writtenVIP_append (first second : List Op) :
    writtenVIP id (first ++ second) = (writtenVIP id second).or (writtenVIP id first) := by
  rw [writtenVIP, List.reverse_append, List.findSome?_append]
  rfl

theorem writtenVIP_cons (op : Op) (later : List Op) :
    writtenVIP id (op :: later) = (writtenVIP id later).or (writesVIP id op) := by
  rw [← List.singleton_append, writtenVIP_append]
  congr 1
  cases written : writesVIP id op <;> simp [writtenVIP, written]

theorem writtenVIP_eq_none : writtenVIP id ops = none ↔ ∀ op ∈ ops, writesVIP id op = none := by
  simp [writtenVIP, List.findSome?_eq_none_iff]

theorem mem_of_mem_compacted {op : Op} (member : op ∈ compacted ops) : op ∈ ops := by
  induction ops with
  | nil => exact member
  | cons first later ih =>
    rw [compacted, compactEtcdWriteOps] at member
    split at member
    · exact List.mem_cons_of_mem _ (ih member)
    · exact (List.mem_cons.mp member).elim (fun same => same ▸ List.mem_cons_self)
        fun rest => List.mem_cons_of_mem _ (ih rest)

/-- What is committed of later writes is committed. -/
theorem compacted_subset (first : Op) {op : Op} (member : op ∈ compacted ops) :
    op ∈ compacted (first :: ops) := by
  rw [compacted, compactEtcdWriteOps]
  split
  · exact member
  · exact List.mem_cons_of_mem _ member

/-- A VIP is committed as it was last put. -/
theorem writtenVIP_of_mem_compacted {vip : VIP} (member : .put (.vip id) vip ∈ compacted ops) :
    writtenVIP id ops = some (some vip) := by
  induction ops with
  | nil => cases member
  | cons first later ih =>
    rw [writtenVIP_cons]
    rw [compacted, compactEtcdWriteOps] at member
    split at member
    case isTrue =>
      rw [ih member]
      rfl
    case isFalse last =>
      obtain same | rest := List.mem_cons.mp member
      · subst same
        have unwritten : writtenVIP id later = none := by
          refine writtenVIP_eq_none.mpr fun op listed => ?_
          have differs : sameEtcdWriteOpKey (.put (.vip id) vip) op = false := by
            refine Bool.eq_false_iff.mpr fun same => last ⟨rfl, .inr ?_⟩
            exact List.any_eq_true.mpr ⟨op, listed, same⟩
          unfold writesVIP
          split
          · exact if_neg fun same => by simp [sameEtcdWriteOpKey, same] at differs
          · exact if_neg fun same => by simp [sameEtcdWriteOpKey, same] at differs
          · rfl
        rw [unwritten]
        simp [writesVIP]
      · rw [ih rest]
        rfl

/-- A VIP that is put and not deleted is committed. -/
theorem exists_put_compacted (kept : .delete (.vip id) ∉ ops) {vip : VIP}
    (member : .put (.vip id) vip ∈ ops) : ∃ last, .put (.vip id) last ∈ compacted ops := by
  induction ops generalizing vip with
  | nil => cases member
  | cons first later ih =>
    rw [List.mem_cons, not_or] at kept
    obtain rfl | rest := List.mem_cons.mp member
    · by_cases again : ∃ other, .put (.vip id) other ∈ later
      · obtain ⟨other, rest⟩ := again
        obtain ⟨last, put⟩ := ih kept.2 rest
        exact ⟨last, compacted_subset _ put⟩
      · refine ⟨vip, ?_⟩
        rw [compacted, compactEtcdWriteOps, if_neg]
        · exact List.mem_cons_self
        · rintro ⟨-, covered | same⟩
          · obtain ⟨op, listed, covers⟩ := List.any_eq_true.mp covered
            cases op <;> cases covers
          · obtain ⟨op, listed, same⟩ := List.any_eq_true.mp same
            cases op with
            | get _ | deleteRange _ => cases same
            | put key value =>
              obtain rfl := of_decide_eq_true same
              exact again ⟨value, listed⟩
            | delete key =>
              obtain rfl := of_decide_eq_true same
              exact kept.2 listed
    · obtain ⟨last, put⟩ := ih kept.2 rest
      exact ⟨last, compacted_subset _ put⟩

/-- The deletion of all backends of a VIP is committed. -/
theorem deleteRange_mem_compacted {range : Range} (member : .deleteRange range ∈ ops) :
    .deleteRange range ∈ compacted ops := by
  induction ops with
  | nil => cases member
  | cons first later ih =>
    by_cases rest : .deleteRange range ∈ later
    · exact compacted_subset _ (ih rest)
    · obtain rfl | listed := List.mem_cons.mp member
      · rw [compacted, compactEtcdWriteOps, if_neg]
        · exact List.mem_cons_self
        · rintro ⟨-, covered | same⟩
          · obtain ⟨op, listed, covers⟩ := List.any_eq_true.mp covered
            cases op with
            | get _ | put _ _ | delete _ => cases covers
            | deleteRange other =>
              obtain ⟨vipID⟩ := range
              obtain ⟨otherID⟩ := other
              obtain rfl : vipID = otherID := of_decide_eq_true covers
              exact rest listed
          · obtain ⟨op, listed, same⟩ := List.any_eq_true.mp same
            cases op with
            | get _ | put _ _ | delete _ => cases same
            | deleteRange other =>
              obtain rfl := of_decide_eq_true same
              exact rest listed
      · exact absurd listed rest

end Compacted

end ArcaLB.Datastore
