import ArcaLB.Datastore.Operations

/-!
# What the operations do to the store

Every transaction that an operation makes is one of a few kinds of change, and what is known
of the store when it goes through is listed here once.  Each invariant of the store is then
an induction over these changes, and each operation is proved to make no others, whatever
other sessions do between its reads and its commit.
-/

namespace ArcaLB.Datastore

/-! ## Changes -/

/-- The number of the configuration. -/
def Store.number (store : Store) : Nat := store.count.getD 0

/-- Objects are put under their own identifiers. -/
def Keyed (ops : List Op) : Prop :=
  (∀ id vip, .put (.vip id) vip ∈ ops → vip.id = id) ∧
  ∀ vipID id backend, .put (.backend vipID id) backend ∈ ops →
    backend.vipID = vipID ∧ backend.id = id

theorem Keyed.append {first second : List Op} (left : Keyed first) (right : Keyed second) :
    Keyed (first ++ second) := by
  refine ⟨fun id vip member => ?_, fun vipID id backend member => ?_⟩
  · exact (List.mem_append.mp member).elim (left.1 id vip) (right.1 id vip)
  · exact (List.mem_append.mp member).elim (left.2 vipID id backend) (right.2 vipID id backend)

theorem keyed_putVIP (vip : VIP) : Keyed [.put (.vip vip.id) vip] := by
  refine ⟨fun id other member => ?_, fun vipID id backend member => ?_⟩ <;>
    cases List.mem_singleton.mp member
  rfl

theorem keyed_putBackend (backend : Backend) :
    Keyed [.put (.backend backend.vipID backend.id) backend] := by
  refine ⟨fun id other member => ?_, fun vipID id backend member => ?_⟩ <;>
    cases List.mem_singleton.mp member
  exact ⟨rfl, rfl⟩

/-- Writes to the indexes and deletions put no objects. -/
theorem keyed_of_no_object {ops : List Op}
    (none : ∀ op ∈ ops, (∃ index id, op = .put (.index index) id) ∨ (∃ key, op = .delete key) ∨
      ∃ range, op = .deleteRange range) : Keyed ops := by
  refine ⟨fun id vip member => ?_, fun vipID id backend member => ?_⟩ <;>
    obtain ⟨_, _, same⟩ | ⟨_, same⟩ | ⟨_, same⟩ := none _ member <;> cases same

theorem keyed_putIndex (index : Index) (id : String) : Keyed [.put (.index index) id] :=
  keyed_of_no_object (by simp)

theorem keyed_moveOps (owned : Bool) (old new : Index) (id : String) :
    Keyed (moveOps owned old new id) := by
  apply keyed_of_no_object
  unfold moveOps
  split <;> simp

theorem keyed_releaseOps (owned : Bool) (index : Index) : Keyed (releaseOps owned index) := by
  apply keyed_of_no_object
  unfold releaseOps
  split <;> simp

/-- The writes that operations commit, without the next revision, and what holds in the store
that they are applied to; `strict` where no update of a backend was crossed by another
backend with its IP. -/
inductive Change (strict : Prop) (store : Store) : List Op → Prop where
  | createVIP {vip : VIP} (fresh : store.vip vip.id = none)
      (free : store.owner (.vipTuple vip.tuple) = none) :
      Change strict store [.put (.vip vip.id) vip, .put (.index (.vipTuple vip.tuple)) vip.id]
  | updateVIP {vip existing : VIP} {owned : Bool} (stored : store.vip vip.id = some existing)
      (families : ∀ id backend, store.backend vip.id id = some backend →
        FamilyAllowed vip backend)
      (own : owned = true → store.owner (.vipTuple existing.tuple) = some vip.id)
      (foreign : owned = false → ∃ other, other ≠ vip.id ∧
        store.owner (.vipTuple existing.tuple) = some other)
      (free : existing.tuple ≠ vip.tuple → store.owner (.vipTuple vip.tuple) = none) :
      Change strict store (.put (.vip vip.id) vip ::
        moveOps owned (.vipTuple existing.tuple) (.vipTuple vip.tuple) vip.id)
  | deleteVIP {id : String} {vip : VIP} {tuple : Tuple} {owned : Bool}
      (stored : store.vip id = some vip)
      (own : owned = true → store.owner (.vipTuple tuple) = some id) :
      Change strict store ([.delete (.vip id), .deleteRange (.backends id)] ++
        releaseOps owned (.vipTuple tuple))
  | addBackend {backend : Backend} {parent : VIP}
      (stored : store.vip backend.vipID = some parent) (family : FamilyAllowed parent backend)
      (fresh : store.backend backend.vipID backend.id = none)
      (unindexed : store.owner (.backend backend.id) = none)
      (free : store.owner (.backendIP backend.vipID backend.ip) = none) :
      Change strict store [.put (.backend backend.vipID backend.id) backend,
        .put (.index (.backend backend.id)) backend.vipID,
        .put (.index (.backendIP backend.vipID backend.ip)) backend.id]
  | updateBackend {backend existing : Backend} {parent : VIP} {ip : String} {owned : Bool}
      (stored : store.vip backend.vipID = some parent) (family : FamilyAllowed parent backend)
      (present : store.backend backend.vipID backend.id = some existing)
      (indexed : store.owner (.backend backend.id) = some backend.vipID)
      (own : owned = true → store.owner (.backendIP backend.vipID ip) = some backend.id)
      (uncrossed : strict → ip = backend.ip → owned = true)
      (free : ip ≠ backend.ip → store.owner (.backendIP backend.vipID backend.ip) = none) :
      Change strict store (.put (.backend backend.vipID backend.id) backend ::
        .put (.index (.backend backend.id)) backend.vipID ::
        moveOps owned (.backendIP backend.vipID ip) (.backendIP backend.vipID backend.ip)
          backend.id)
  | deleteBackend {vipID id ip : String} {existing : Backend} {owned : Bool}
      (present : store.backend vipID id = some existing)
      (indexed : store.owner (.backend id) = some vipID)
      (own : owned = true → store.owner (.backendIP vipID ip) = some id) :
      Change strict store ([.delete (.backend vipID id), .delete (.index (.backend id))] ++
        releaseOps owned (.backendIP vipID ip))

/-- The writes to the indexes that do not count as a new configuration. -/
inductive Tending (store : Store) : List Op → Prop where
  | claimTuple {id : String} {vip : VIP} {tuple : Tuple} (stored : store.vip id = some vip)
      (free : store.owner (.vipTuple tuple) = none) :
      Tending store [.put (.index (.vipTuple tuple)) id]
  | claimIP {vipID id ip : String} {backend : Backend}
      (stored : store.backend vipID id = some backend)
      (free : store.owner (.backendIP vipID ip) = none) :
      Tending store [.put (.index (.backendIP vipID ip)) id]
  | removeIP {vipID ip id : String} (own : store.owner (.backendIP vipID ip) = some id)
      (gone : store.backend vipID id = none) :
      Tending store [.delete (.index (.backendIP vipID ip))]
  | removeBackend {vipID id : String} (own : store.owner (.backend id) = some vipID)
      (gone : store.backend vipID id = none) :
      Tending store [.delete (.index (.backend id))]

/-- The writes of a transaction; `change` says what may be committed. -/
inductive Write (change : Store → List Op → Prop) (store : Store) : List Op → Prop where
  | commit {ops : List Op} {number : Nat} (counted : store.count = some number)
      (changes : change store ops) (keyed : Keyed ops) :
      Write change store (ops ++ [.put .revision (number + 1)])
  | tend {ops : List Op} (tends : Tending store ops) : Write change store ops

/-- A store as operations leave it: the configuration has a number, entries are not newer
than the store, and objects are stored under their own identifiers. -/
structure Sane (store : Store) : Prop where
  counted : ∃ number, store.count = some number
  dated : store.Dated
  vip_id : ∀ id vip, store.vip id = some vip → vip.id = id
  backend_id : ∀ vipID id backend, store.backend vipID id = some backend →
    backend.vipID = vipID ∧ backend.id = id

/-- What holds between a store and the same store later on. -/
structure Grown (earlier later : Store) : Prop where
  grows : earlier.Grows later
  number_le : earlier.number ≤ later.number
  vip_same : earlier.number = later.number → ∀ id, later.vip id = earlier.vip id
  backend_same : earlier.number = later.number →
    ∀ vipID id, later.backend vipID id = earlier.backend vipID id
  owner_kept : earlier.number = later.number →
    ∀ tuple owner, earlier.owner (.vipTuple tuple) = some owner →
      later.owner (.vipTuple tuple) = some owner

theorem Grown.refl (store : Store) : Grown store store where
  grows := .refl store
  number_le := Nat.le_refl _
  vip_same := fun _ _ => rfl
  backend_same := fun _ _ _ => rfl
  owner_kept := fun _ _ _ looked => looked

theorem Grown.trans {earlier middle later : Store} (first : Grown earlier middle)
    (second : Grown middle later) : Grown earlier later := by
  have between : earlier.number = later.number →
      earlier.number = middle.number ∧ middle.number = later.number := by
    have := first.number_le
    have := second.number_le
    omega
  refine ⟨first.grows.trans second.grows, Nat.le_trans first.number_le second.number_le,
    ?_, ?_, ?_⟩
  · intro same id
    rw [second.vip_same (between same).2, first.vip_same (between same).1]
  · intro same vipID id
    rw [second.backend_same (between same).2, first.backend_same (between same).1]
  · intro same tuple owner looked
    exact second.owner_kept (between same).2 tuple owner
      (first.owner_kept (between same).1 tuple owner looked)

section Written

variable {store : Store} {ops : List Op}

open Etcd

/-- What is under a key after a write. -/
theorem value_write_of_put {key : Key} {value : key.Value}
    (fine : Op.putOnce Range.covers ops = true) (member : .put key value ∈ ops) :
    (store.apply ops).value key = some value := by
  rw [Etcd.value, lookup_write_of_put fine member]
  rfl

theorem value_write_of_spares {key : Key} (spare : ∀ op ∈ ops, op.Spares Range.covers key) :
    (store.apply ops).value key = store.value key := by
  rw [Etcd.value, lookup_write_of_spares spare]
  rfl

/-- A value after a write was put by it, or was there before and left alone. -/
theorem value_write_cases (fine : Op.putOnce Range.covers ops = true) {key : Key}
    {value : key.Value} (found : (store.apply ops).value key = some value) :
    .put key value ∈ ops ∨
      (store.value key = some value ∧ ∀ op ∈ ops, op.Spares Range.covers key) := by
  obtain ⟨entry, looked, rfl⟩ := Option.map_eq_some_iff.mp found
  obtain ⟨put, member, looks⟩ | ⟨-, gone, -⟩ | ⟨notPut, kept, same⟩ :=
    lookup_write_cases store fine key
  · cases looks.symm.trans looked
    exact .inl member
  · cases gone.symm.trans looked
  · refine .inr ⟨by rw [Etcd.value, ← same, looked]; rfl, fun op member => ?_⟩
    refine Op.spares_of_not_deletes ?_ (kept op member)
    rintro value rfl
    exact notPut (Op.mem_puts.mpr ⟨value, member⟩)

/-- Tending the indexes leaves everything else alone. -/
theorem Tending.spares (tends : Tending store ops) {key : Key}
    (object : ∀ index, key ≠ .index index) : ∀ op ∈ ops, op.Spares Range.covers key := by
  cases tends with
  | claimTuple | claimIP | removeIP | removeBackend =>
    intro op member
    obtain rfl := List.mem_singleton.mp member
    exact (object _).symm

/-- Tending the indexes takes no tuple away from its owner. -/
theorem Tending.spares_tuple (tends : Tending store ops) {tuple : Tuple} {owner : String}
    (looked : store.owner (.vipTuple tuple) = some owner) :
    ∀ op ∈ ops, op.Spares Range.covers (.index (.vipTuple tuple)) := by
  intro op member
  cases tends with
  | claimTuple stored free =>
    obtain rfl := List.mem_singleton.mp member
    rintro ⟨⟩
    cases free.symm.trans looked
  | claimIP | removeIP | removeBackend =>
    obtain rfl := List.mem_singleton.mp member
    simp [Op.Spares]

variable {change : Store → List Op → Prop}

theorem Write.grown (writes : Write change store ops)
    (fine : Op.putOnce Range.covers ops = true) : Grown store (store.apply ops) := by
  cases writes with
  | @commit ops number counted changes keyed =>
    have before : store.number = number := by rw [Store.number, counted]; rfl
    have after : (store.apply (ops ++ [.put .revision (number + 1)])).number = number + 1 := by
      have put : (store.apply (ops ++ [.put .revision (number + 1)])).count =
          some (number + 1) := value_write_of_put fine (by simp)
      rw [Store.number, put]
      rfl
    refine ⟨grows_write store fine, by omega, ?_, ?_, ?_⟩ <;> intro same <;> omega
  | tend tends =>
    have kept : ∀ key : Key, (∀ index, key ≠ .index index) →
        (store.apply ops).value key = store.value key :=
      fun key object => value_write_of_spares (tends.spares object)
    have number : (store.apply ops).number = store.number :=
      congrArg (Option.getD · 0) (kept .revision (by simp))
    refine ⟨grows_write store fine, Nat.le_of_eq number.symm, ?_, ?_, ?_⟩
    · exact fun _ id => kept (.vip id) (by simp)
    · exact fun _ vipID id => kept (.backend vipID id) (by simp)
    · intro _ tuple owner looked
      exact (value_write_of_spares (tends.spares_tuple looked)).trans looked

theorem Write.sane (writes : Write change store ops)
    (fine : Op.putOnce Range.covers ops = true) (sane : Sane store) : Sane (store.apply ops) := by
  cases writes with
  | @commit ops number counted changes keyed =>
    refine ⟨⟨number + 1, value_write_of_put fine (by simp)⟩, sane.dated.write fine, ?_, ?_⟩
    · intro id vip found
      obtain put | ⟨before, -⟩ := value_write_cases fine found
      · exact keyed.1 id vip (by simpa using put)
      · exact sane.vip_id id vip before
    · intro vipID id backend found
      obtain put | ⟨before, -⟩ := value_write_cases fine found
      · exact keyed.2 vipID id backend (by simpa using put)
      · exact sane.backend_id vipID id backend before
  | tend tends =>
    have kept : ∀ key : Key, (∀ index, key ≠ .index index) →
        (store.apply ops).value key = store.value key :=
      fun key object => value_write_of_spares (tends.spares object)
    obtain ⟨number, counted⟩ := sane.counted
    refine ⟨⟨number, (kept .revision (by simp)).trans counted⟩, sane.dated.write fine, ?_, ?_⟩
    · intro id vip found
      exact sane.vip_id id vip ((kept (.vip id) (by simp)).symm.trans found)
    · intro vipID id backend found
      exact sane.backend_id vipID id backend
        ((kept (.backend vipID id) (by simp)).symm.trans found)

end Written

end ArcaLB.Datastore
