import ArcaLB.Datastore.Compaction

/-!
# What transactions write into the tuple index

A transaction decides from its own bookkeeping which tuple index entries it takes over.
`Coherent` says what this has to do with its writes in a store where all its conditions hold:
it enters every VIP that it puts, and an entry that it writes is free or names a VIP that it
writes too.
-/

namespace ArcaLB.Datastore

open Etcd (Reply)

/-! ## Last writes -/

section LastWrites

variable {ops : List Op} {key : Key}

/-- The last write of a single key is committed. -/
theorem mem_compacted_of_lastWrite {op : Op}
    (last : Etcd.Op.lastWrite Range.covers key ops = some op)
    (single : op = .delete key ∨ ∃ value, op = .put key value) : op ∈ compacted ops := by
  induction ops with
  | nil => cases last
  | cons first later ih =>
    rw [Etcd.Op.lastWrite_cons] at last
    cases written : Etcd.Op.lastWrite Range.covers key later with
    | some other =>
      rw [written] at last
      exact compacted_subset first (ih (written.trans last))
    | none =>
      rw [written, Option.none_or] at last
      obtain ⟨-, same⟩ := Option.ite_none_right_eq_some.mp last
      obtain rfl := Option.some.inj same
      rw [compacted, compactEtcdWriteOps, if_neg]
      · exact List.mem_cons_self
      · rintro ⟨-, dropped⟩
        have touches : ¬first.Spares Range.covers key := by
          obtain rfl | ⟨value, rfl⟩ := single <;> exact fun spares => spares rfl
        have nested : ∀ (inner outer : Range) (key : Key), inner.inside outer = true →
            inner.covers key = true → outer.covers key = true := by
          rintro ⟨vipID⟩ ⟨other⟩ key inside covered
          obtain rfl : vipID = other := of_decide_eq_true inside
          exact covered
        obtain ⟨other, member, again⟩ := exists_later_write nested dropped touches
        exact again (Etcd.Op.lastWrite_eq_none.mp written other member)

/-- What is committed under a single key is the last write of it. -/
theorem lastWrite_of_mem_compacted {value : key.Value} (member : .put key value ∈ compacted ops) :
    Etcd.Op.lastWrite Range.covers key ops = some (.put key value) := by
  induction ops with
  | nil => cases member
  | cons first later ih =>
    rw [Etcd.Op.lastWrite_cons]
    rw [compacted, compactEtcdWriteOps] at member
    split at member
    case isTrue =>
      rw [ih member]
      rfl
    case isFalse kept =>
      obtain rfl | rest := List.mem_cons.mp member
      · have alone : ∀ op ∈ later, op.Spares Range.covers key := by
          intro op listed
          by_contra touches
          refine kept ⟨rfl, ?_⟩
          cases op with
          | get _ => exact absurd trivial touches
          | put other _ | delete other =>
            obtain rfl : other = key := not_not.mp touches
            exact .inr (List.any_eq_true.mpr ⟨_, listed, decide_eq_true rfl⟩)
          | deleteRange range => exact .inl (List.any_eq_true.mpr ⟨_, listed, not_not.mp touches⟩)
        rw [Etcd.Op.lastWrite_eq_none.mpr alone]
        simp [Etcd.Op.touches]
      · rw [ih rest]
        rfl

end LastWrites

/-- The last write of a VIP. -/
abbrev lastVIP (id : String) (ops : List Op) : Option Op :=
  Etcd.Op.lastWrite Range.covers (.vip id) ops

/-- The last write of a tuple index entry. -/
abbrev lastTuple (tuple : Tuple) (ops : List Op) : Option Op :=
  Etcd.Op.lastWrite Range.covers (.index (.vipTuple tuple)) ops

/-! ## Bookkeeping -/

/-- Every tuple index entry that is written is free or names a VIP that is written. -/
def Settled (now : Store) (ops : List Op) : Prop :=
  ∀ tuple op id, lastTuple tuple ops = some op → now.owner (.vipTuple tuple) = some id →
    ∃ op, lastVIP id ops = some op

/-- What is remembered of tuples agrees with what is written, in a store where all conditions
hold. -/
structure Coherent (now : Store) (tx : EtcdTransaction) : Prop where
  entered : ∀ id tuple, tx.vipTupleIndexKeys id = some tuple →
    tx.vipTupleOwners tuple = some id
  owned : ∀ tuple id, tx.vipTupleOwners tuple = some id →
    tx.vipTupleIndexKeys id = some tuple ∧
      lastTuple tuple tx.ops = some (.put (.index (.vipTuple tuple)) id)
  put : ∀ id vip, lastVIP id tx.ops = some (.put (.vip id) vip) →
    tx.vipTupleIndexKeys id = some vip.tuple
  written : ∀ id op, lastVIP id tx.ops = some op →
    (∃ vip, op = .put (.vip id) vip) ∨ id ∈ tx.deletedVIPIDs
  original : ∀ id tuple, tx.vipOriginalIndexes id = some tuple →
    (∃ vip, now.vip id = some vip) ∧ now.owner (.vipTuple tuple) = some id
  known : ∀ id tuple, tx.vipTupleIndexKeys id = some tuple →
    id ∈ tx.createdVIPIDs ∨ ∃ vip, now.vip id = some vip
  released : ∀ tuple id, tx.vipReleasedTuples tuple = some id →
    now.owner (.vipTuple tuple) = some id ∧ ∃ op, lastVIP id tx.ops = some op
  settled : Settled now tx.ops

/-- Every VIP that is put is entered under its tuple. -/
def Entered (ops : List Op) : Prop :=
  ∀ id vip, lastVIP id ops = some (.put (.vip id) vip) →
    lastTuple vip.tuple ops = some (.put (.index (.vipTuple vip.tuple)) id)

/-- The tuple is the one that the VIP has in the transaction, or, where it has none there, one
whose index entry names it. -/
def Held (now : Store) (tx : EtcdTransaction) (id : String) (tuple : Tuple) : Prop :=
  tx.vipTupleIndexKeys id = some tuple ∨
    (tx.vipTupleIndexKeys id = none ∧ now.owner (.vipTuple tuple) = some id)

variable {tuple : Tuple}

namespace Coherent

variable {now : Store} {tx next : EtcdTransaction} {id : String}

theorem begin (now : Store) : Coherent now .begin where
  entered := fun _ _ keys => nomatch keys
  owned := fun _ _ owners => nomatch owners
  put := fun _ _ last => nomatch last
  written := fun _ _ last => nomatch last
  original := fun _ _ original => nomatch original
  known := fun _ _ keys => nomatch keys
  released := fun _ _ released => nomatch released
  settled := fun _ _ _ last => nomatch last

variable (coherent : Coherent now tx)
include coherent

theorem enters : Entered tx.ops := fun id vip last =>
  (coherent.owned _ _ (coherent.entered _ _ (coherent.put id vip last))).2

/-- The tuple that a VIP has in the transaction is no other VIP's. -/
theorem held_free (kept : id ∉ tx.deletedVIPIDs) (held : Held now tx id tuple) {other : String}
    (owned : tx.vipTupleOwners tuple = some other) : other = id := by
  obtain keys | ⟨keys, names⟩ := held
  · exact Option.some.inj (owned.symm.trans (coherent.entered id _ keys))
  · -- the entry names the VIP, so a transaction that has written it writes the VIP
    obtain ⟨op, last⟩ := coherent.settled _ _ _ (coherent.owned tuple other owned).2 names
    obtain ⟨vip, rfl⟩ | deleted := coherent.written id op last
    · cases keys.symm.trans (coherent.put id vip last)
    · exact absurd deleted kept

/-- The current tuple of a VIP is held by it. -/
theorem held_current (current : tx.currentTuple id = some tuple) : Held now tx id tuple := by
  unfold EtcdTransaction.currentTuple at current
  cases keys : tx.vipTupleIndexKeys id with
  | some own =>
    rw [keys, Option.some_or] at current
    exact .inl (keys.trans current)
  | none =>
    rw [keys, Option.none_or] at current
    obtain ⟨-, original⟩ := Option.ite_none_right_eq_some.mp current
    exact .inr ⟨keys, (coherent.original id tuple original).2⟩

/-- Operations that write no VIP and no tuple index entry, and more conditions. -/
theorem keep {more : List Op} (ops : next.ops = tx.ops ++ more)
    (spares : ∀ op ∈ more, (∀ id, op.Spares Range.covers (.vip id)) ∧
      ∀ tuple, op.Spares Range.covers (.index (.vipTuple tuple)))
    (keys : next.vipTupleIndexKeys = tx.vipTupleIndexKeys)
    (owners : next.vipTupleOwners = tx.vipTupleOwners)
    (originals : next.vipOriginalIndexes = tx.vipOriginalIndexes)
    (releases : next.vipReleasedTuples = tx.vipReleasedTuples)
    (created : next.createdVIPIDs = tx.createdVIPIDs)
    (deleted : next.deletedVIPIDs = tx.deletedVIPIDs) : Coherent now next := by
  have vips : ∀ id, lastVIP id next.ops = lastVIP id tx.ops := fun id => by
    rw [ops]
    exact Etcd.Op.lastWrite_append_of_spares fun op member => (spares op member).1 id
  have tuples : ∀ tuple, lastTuple tuple next.ops = lastTuple tuple tx.ops := fun tuple => by
    rw [ops]
    exact Etcd.Op.lastWrite_append_of_spares fun op member => (spares op member).2 tuple
  constructor
  · rw [keys, owners]
    exact coherent.entered
  · intro tuple id
    rw [keys, owners, tuples]
    exact coherent.owned tuple id
  · intro id vip
    rw [keys, vips]
    exact coherent.put id vip
  · intro id op
    rw [vips, deleted]
    exact coherent.written id op
  · rw [originals]
    exact coherent.original
  · rw [keys, created]
    exact coherent.known
  · intro tuple id
    rw [releases, vips]
    exact coherent.released tuple id
  · intro tuple op id
    rw [tuples, vips]
    exact coherent.settled tuple op id

theorem addChecks (checks : List Check) : Coherent now (tx.addChecks checks) :=
  coherent.keep (List.append_nil _).symm (fun _ member => nomatch member) rfl rfl rfl rfl rfl rfl

/-- The original tuple of a stored VIP is recorded. -/
theorem recordOriginal (owned : Bool) (stored : ∃ vip, now.vip id = some vip)
    (names : now.owner (.vipTuple tuple) = some id) :
    Coherent now (tx.recordOriginal id tuple owned) := by
  refine { coherent with original := fun other original recorded => ?_ }
  change Function.update tx.vipOriginalIndexes id (some tuple) other = _ at recorded
  by_cases same : other = id
  · subst same
    rw [Function.update_self] at recorded
    cases recorded
    exact ⟨stored, names⟩
  · rw [Function.update_of_ne same] at recorded
    exact coherent.original other original recorded

end Coherent

/-! ## Entering and releasing -/

/-- Take a VIP out of the entry that it had. -/
def releasing : Option Tuple → List Op
  | none => []
  | some old => [.delete (.index (.vipTuple old))]

/-- The owners without the one of a released tuple. -/
def withoutOwner (owners : Tuple → Option String) : Option Tuple → Tuple → Option String
  | none => owners
  | some old => Function.update owners old none

theorem withoutOwner_eq_some {owners : Tuple → Option String} {released : Option Tuple}
    {id : String} :
    withoutOwner owners released tuple = some id ↔
      owners tuple = some id ∧ released ≠ some tuple := by
  cases released with
  | none => simp [withoutOwner]
  | some old =>
    by_cases same : tuple = old
    · simp [withoutOwner, same]
    · simp [withoutOwner, Function.update_of_ne same, Ne.symm same]

section Steps

open EtcdTransaction

variable {now : Store} {tx next : EtcdTransaction} {released : Option Tuple} {id : String}

theorem lastVIP_enter (vip : VIP) (released : Option Tuple) (id : String) :
    lastVIP id (.put (.vip vip.id) vip ::
      (releasing released ++ [.put (.index (.vipTuple vip.tuple)) vip.id])) =
        if vip.id = id then some (.put (.vip vip.id) vip) else none := by
  cases released <;> simp [releasing, Etcd.Op.lastWrite_cons, Etcd.Op.touches, lastVIP]
    <;> simp [Etcd.Op.lastWrite]

theorem spares_enter (vip : VIP) (released : Option Tuple)
    (other : tuple ≠ vip.tuple) (kept : released ≠ some tuple) :
    ∀ op ∈ (.put (.vip vip.id) vip ::
      (releasing released ++ [.put (.index (.vipTuple vip.tuple)) vip.id]) : List Op),
        op.Spares Range.covers (.index (.vipTuple tuple)) := by
  cases released with
  | none => simp [releasing, Etcd.Op.Spares, Ne.symm other]
  | some old =>
    have apart : old ≠ tuple := fun same => kept (same ▸ rfl)
    simp [releasing, Etcd.Op.Spares, Ne.symm other, apart]

/-- The tuples that are released, where a VIP leaves the entry that it had. -/
def Releases (now : Store) (tx next : EtcdTransaction) (id : String) : Prop :=
  ∀ tuple owner, next.vipReleasedTuples tuple = some owner →
    tx.vipReleasedTuples tuple = some owner ∨
      (owner = id ∧ now.owner (.vipTuple tuple) = some id)

/-- **A VIP is entered** under a tuple that is no other's, and taken out of the entry that it
had.  The index entry of the tuple is free, or it was written before, or it names a VIP that
is written. -/
theorem Coherent.enter (coherent : Coherent now tx) {vip : VIP}
    (ops : next.ops = tx.ops ++ .put (.vip vip.id) vip ::
      (releasing released ++ [.put (.index (.vipTuple vip.tuple)) vip.id]))
    (keys : next.vipTupleIndexKeys =
      Function.update tx.vipTupleIndexKeys vip.id (some vip.tuple)) (owners : next.vipTupleOwners =
      Function.update (withoutOwner tx.vipTupleOwners released) vip.tuple (some vip.id))
    (originals : next.vipOriginalIndexes = tx.vipOriginalIndexes)
    (releases : Releases now tx next vip.id) (created : tx.createdVIPIDs ⊆ next.createdVIPIDs)
    (deleted : next.deletedVIPIDs = tx.deletedVIPIDs)
    (free : ∀ other, tx.vipTupleOwners vip.tuple = some other → other = vip.id)
    (moved : ∀ tuple, tx.vipTupleIndexKeys vip.id = some tuple →
      tuple = vip.tuple ∨ released = some tuple)
    (own : ∀ old, released = some old → old ≠ vip.tuple ∧ vip.id ∉ tx.deletedVIPIDs ∧
      Held now tx vip.id old)
    (known : vip.id ∈ next.createdVIPIDs ∨ ∃ stored, now.vip vip.id = some stored)
    (taken : ∀ id, now.owner (.vipTuple vip.tuple) = some id → id = vip.id ∨
      ∃ op, lastVIP id tx.ops = some op) :
    Coherent now next := by
  have last : ∀ id, lastVIP id next.ops =
      (if vip.id = id then some (.put (.vip vip.id) vip) else none).or (lastVIP id tx.ops) := by
    intro id
    rw [ops]
    exact (Etcd.Op.lastWrite_append ..).trans
      (congrArg (Option.or · _) (lastVIP_enter vip released id))
  have lastElsewhere : ∀ id, id ≠ vip.id → lastVIP id next.ops = lastVIP id tx.ops := by
    intro id different
    rw [last, if_neg (Ne.symm different), Option.none_or]
  have lastHere : lastVIP vip.id next.ops = some (.put (.vip vip.id) vip) := by
    rw [last, if_pos rfl, Option.some_or]
  have still : ∀ id, (id = vip.id ∨ ∃ op, lastVIP id tx.ops = some op) →
      ∃ op, lastVIP id next.ops = some op := by
    intro id written
    by_cases same : id = vip.id
    · exact ⟨_, same ▸ lastHere⟩
    · rw [lastElsewhere id same]
      exact written.resolve_left same
  have keysElsewhere : ∀ id, id ≠ vip.id → next.vipTupleIndexKeys id = tx.vipTupleIndexKeys id :=
    fun id different => by rw [keys, Function.update_of_ne different]
  have keysHere : next.vipTupleIndexKeys vip.id = some vip.tuple := by
    rw [keys, Function.update_self]
  constructor
  · intro id tuple entered
    rw [owners]
    by_cases same : id = vip.id
    · subst same
      cases keysHere.symm.trans entered
      rw [Function.update_self]
    · rw [keysElsewhere id same] at entered
      have owned := coherent.entered id tuple entered
      have other : tuple ≠ vip.tuple := by
        rintro rfl
        exact same (free id owned)
      rw [Function.update_of_ne other]
      refine withoutOwner_eq_some.mpr ⟨owned, fun gone => ?_⟩
      obtain ⟨-, kept, held⟩ := own tuple gone
      exact same (coherent.held_free kept held owned)
  · intro tuple id owned
    rw [owners] at owned
    by_cases here : tuple = vip.tuple
    · subst here
      rw [Function.update_self] at owned
      obtain rfl := Option.some.inj owned
      refine ⟨keysHere, ?_⟩
      rw [ops, lastTuple, ← List.cons_append, ← List.append_assoc, Etcd.Op.lastWrite_append]
      simp [Etcd.Op.lastWrite, Etcd.Op.touches]
    · rw [Function.update_of_ne here, withoutOwner_eq_some] at owned
      obtain ⟨entered, written⟩ := coherent.owned tuple id owned.1
      have other : id ≠ vip.id := by
        rintro rfl
        exact (moved tuple entered).elim here owned.2
      refine ⟨(keysElsewhere id other).trans entered, ?_⟩
      rw [ops]
      exact (Etcd.Op.lastWrite_append_of_spares (spares_enter vip released here owned.2)).trans
        written
  · intro id new put
    by_cases same : id = vip.id
    · subst same
      cases lastHere.symm.trans put
      exact keysHere
    · rw [keysElsewhere id same]
      exact coherent.put id new ((lastElsewhere id same).symm.trans put)
  · intro id op written
    by_cases same : id = vip.id
    · subst same
      exact .inl ⟨vip, Option.some.inj (written.symm.trans lastHere)⟩
    · rw [deleted]
      exact coherent.written id op ((lastElsewhere id same).symm.trans written)
  · rw [originals]
    exact coherent.original
  · intro id tuple entered
    by_cases same : id = vip.id
    · exact same ▸ known
    · rw [keysElsewhere id same] at entered
      exact (coherent.known id tuple entered).imp_left fun member => created member
  · intro tuple id gone
    obtain before | ⟨rfl, names⟩ := releases tuple id gone
    · exact (coherent.released tuple id before).imp_right fun written => still id (.inr written)
    · exact ⟨names, _, lastHere⟩
  · intro tuple op id written names
    by_cases here : tuple = vip.tuple
    · subst here
      exact still id (taken id names)
    · by_cases gone : released = some tuple
      · obtain keys | ⟨-, own⟩ := (own tuple gone).2.2
        · exact still id (.inr (coherent.settled _ _ _
            (coherent.owned _ _ (coherent.entered _ _ keys)).2 names))
        · exact still id (.inl (Option.some.inj (names.symm.trans own)))
      · rw [ops, lastTuple,
          Etcd.Op.lastWrite_append_of_spares (spares_enter vip released here gone)] at written
        exact still id (.inr (coherent.settled tuple op id written names))

/-- **A VIP is removed** together with the entry of its current tuple. -/
theorem Coherent.remove (coherent : Coherent now tx) (ops : next.ops = tx.ops ++
      (.delete (.vip id) :: .deleteRange (.backends id) :: releasing released))
    (keys : next.vipTupleIndexKeys = Function.update tx.vipTupleIndexKeys id none)
    (owners : next.vipTupleOwners = withoutOwner tx.vipTupleOwners released)
    (originals : next.vipOriginalIndexes = Function.update tx.vipOriginalIndexes id none)
    (releases : Releases now tx next id) (created : next.createdVIPIDs = tx.createdVIPIDs)
    (deleted : next.deletedVIPIDs = id :: tx.deletedVIPIDs) (kept : id ∉ tx.deletedVIPIDs)
    (moved : ∀ tuple, tx.vipTupleIndexKeys id = some tuple → released = some tuple)
    (own : ∀ old, released = some old → Held now tx id old) : Coherent now next := by
  have lastElsewhere : ∀ other, other ≠ id → lastVIP other next.ops = lastVIP other tx.ops := by
    intro other different
    rw [ops]
    refine Etcd.Op.lastWrite_append_of_spares ?_
    cases released <;> simp [releasing, Etcd.Op.Spares, Range.covers, Ne.symm different]
  have lastHere : lastVIP id next.ops = some (.delete (.vip id)) := by
    rw [ops, lastVIP, Etcd.Op.lastWrite_append]
    cases released <;> simp [releasing, Etcd.Op.lastWrite, Etcd.Op.touches, Range.covers]
  have still : ∀ other, (other = id ∨ ∃ op, lastVIP other tx.ops = some op) →
      ∃ op, lastVIP other next.ops = some op := by
    intro other written
    by_cases same : other = id
    · exact ⟨_, same ▸ lastHere⟩
    · rw [lastElsewhere other same]
      exact written.resolve_left same
  have lastTuples : ∀ tuple, released ≠ some tuple →
      lastTuple tuple next.ops = lastTuple tuple tx.ops := by
    intro tuple kept
    rw [ops]
    refine Etcd.Op.lastWrite_append_of_spares ?_
    cases released with
    | none => simp [releasing, Etcd.Op.Spares, Range.covers]
    | some old =>
      have apart : old ≠ tuple := fun same => kept (same ▸ rfl)
      simp [releasing, Etcd.Op.Spares, Range.covers, apart]
  have entered_of : ∀ {other tuple}, next.vipTupleIndexKeys other = some tuple →
      other ≠ id ∧ tx.vipTupleIndexKeys other = some tuple := by
    intro other tuple entered
    rw [keys] at entered
    by_cases same : other = id
    · rw [same, Function.update_self] at entered
      cases entered
    · rw [Function.update_of_ne same] at entered
      exact ⟨same, entered⟩
  constructor
  · intro other tuple entered
    obtain ⟨same, entered⟩ := entered_of entered
    have owned := coherent.entered other tuple entered
    rw [owners]
    exact withoutOwner_eq_some.mpr
      ⟨owned, fun gone => same (coherent.held_free kept (own tuple gone) owned)⟩
  · intro tuple other owned
    rw [owners, withoutOwner_eq_some] at owned
    obtain ⟨entered, written⟩ := coherent.owned tuple other owned.1
    have different : other ≠ id := by
      rintro rfl
      exact owned.2 (moved tuple entered)
    refine ⟨by rw [keys, Function.update_of_ne different]; exact entered, ?_⟩
    exact (lastTuples tuple owned.2).trans written
  · intro other vip put
    by_cases same : other = id
    · subst same
      cases lastHere.symm.trans put
    · rw [keys, Function.update_of_ne same]
      exact coherent.put other vip ((lastElsewhere other same).symm.trans put)
  · intro other op written
    rw [deleted]
    by_cases same : other = id
    · exact .inr (same ▸ List.mem_cons_self)
    · exact (coherent.written other op ((lastElsewhere other same).symm.trans written)).imp_right
        (List.mem_cons_of_mem _)
  · intro other tuple recorded
    rw [originals] at recorded
    by_cases same : other = id
    · rw [same, Function.update_self] at recorded
      cases recorded
    · rw [Function.update_of_ne same] at recorded
      exact coherent.original other tuple recorded
  · intro other tuple entered
    rw [created]
    exact coherent.known other tuple (entered_of entered).2
  · intro tuple other gone
    obtain before | ⟨rfl, names⟩ := releases tuple other gone
    · exact (coherent.released tuple other before).imp_right fun written =>
        still other (.inr written)
    · exact ⟨names, _, lastHere⟩
  · intro tuple op other written names
    by_cases gone : released = some tuple
    · obtain keys | ⟨-, own⟩ := own tuple gone
      · exact still other (.inr (coherent.settled _ _ _
          (coherent.owned _ _ (coherent.entered _ _ keys)).2 names))
      · exact still other (.inl (Option.some.inj (names.symm.trans own)))
    · rw [lastTuples tuple gone] at written
      exact still other (.inr (coherent.settled tuple op other written names))

/-- What `releaseVIPTuple` adds to the released tuples. -/
theorem releases_of_releaseVIPTuple {owner : String} {old tuple : Tuple}
    (gone : (tx.releaseVIPTuple id old).vipReleasedTuples tuple = some owner) :
    tx.vipReleasedTuples tuple = some owner ∨
      (owner = id ∧ tuple = old ∧ tx.vipOriginalIndexes id = some old ∧
        tx.vipOriginalOwned id = true) := by
  simp only [releaseVIPTuple] at gone
  split at gone
  case isFalse => exact .inl gone
  case isTrue original =>
    by_cases same : tuple = old
    · rw [same, Function.update_self] at gone
      exact .inr ⟨(Option.some.inj gone).symm, same, original⟩
    · rw [Function.update_of_ne same] at gone
      exact .inl gone

/-- The write of `UpdateVIP`: the VIP leaves the entry of its current tuple, if this is another
one, and is entered; the entry of the new tuple must be free, unless this was its tuple all the
time or the transaction has released it. -/
theorem putVIP_enters (vip : VIP) (needs : Bool) (tx : EtcdTransaction) :
    ∃ released, (putVIP vip needs tx).ops = tx.ops ++ .put (.vip vip.id) vip ::
        (releasing released ++ [.put (.index (.vipTuple vip.tuple)) vip.id]) ∧
      (putVIP vip needs tx).vipTupleIndexKeys =
        Function.update tx.vipTupleIndexKeys vip.id (some vip.tuple) ∧
      (putVIP vip needs tx).vipTupleOwners =
        Function.update (withoutOwner tx.vipTupleOwners released) vip.tuple (some vip.id) ∧
      (putVIP vip needs tx).vipOriginalIndexes = tx.vipOriginalIndexes ∧
      (∀ tuple owner, (putVIP vip needs tx).vipReleasedTuples tuple = some owner →
        tx.vipReleasedTuples tuple = some owner ∨
          (owner = vip.id ∧ tx.vipOriginalIndexes vip.id = some tuple)) ∧
      (putVIP vip needs tx).deletedVIPIDs = tx.deletedVIPIDs ∧
      (∀ tuple, tx.currentTuple vip.id = some tuple → tuple = vip.tuple ∨ released = some tuple) ∧
      (∀ old, released = some old → old ≠ vip.tuple ∧ tx.currentTuple vip.id = some old) ∧
      (tx.currentTuple vip.id = some vip.tuple ∨
        tx.vipOriginalIndexes vip.id = some vip.tuple ∨ needs = false ∨
        ⟨.absent (.index (.vipTuple vip.tuple)), .conflict⟩ ∈ (putVIP vip needs tx).checks) := by
  unfold putVIP
  dsimp only
  split
  case isTrue moves =>
    have conditioned : ∀ before : List Check, tx.vipOriginalIndexes vip.id = some vip.tuple ∨
        needs = false ∨ ⟨.absent (.index (.vipTuple vip.tuple)), .conflict⟩ ∈ before ++
          if (tx.vipOriginalIndexes vip.id ≠ some vip.tuple ∨ tx.vipOriginalOwned vip.id) ∧
              needs then [⟨.absent (.index (.vipTuple vip.tuple)), .conflict⟩] else [] := by
      intro before
      by_cases original : tx.vipOriginalIndexes vip.id = some vip.tuple
      · exact .inl original
      · cases needs <;> simp [original]
    cases current : tx.currentTuple vip.id with
    | none =>
      refine ⟨none, ?_, rfl, rfl, rfl, fun _ _ gone => .inl gone, rfl, nofun, nofun,
        .inr (conditioned _)⟩
      simp [takeVIPTuple, addOps, EtcdTransaction.addChecks, releasing]
    | some old =>
      refine ⟨some old, ?_, rfl, rfl, rfl, fun tuple owner gone => ?_, rfl,
        fun _ same => .inr same, ?_, .inr (conditioned _)⟩
      · simp [takeVIPTuple, releaseVIPTuple, addOps, EtcdTransaction.addChecks, releasing]
      · obtain before | ⟨rfl, rfl, original, -⟩ := releases_of_releaseVIPTuple gone
        · exact .inl before
        · exact .inr ⟨rfl, original⟩
      · rintro _ ⟨⟩
        exact ⟨fun same => moves (current.trans (same ▸ rfl)), rfl⟩
  case isFalse stays =>
    have current := not_not.mp stays
    refine ⟨none, ?_, rfl, rfl, rfl, fun _ _ gone => .inl gone, rfl, fun tuple same => .inl ?_,
      nofun, .inl current⟩
    · simp [takeVIPTuple, addOps, releasing]
    · exact Option.some.inj (same.symm.trans current)

/-- The write of `DeleteVIP`. -/
theorem removeVIP_releases (id : String) (tx : EtcdTransaction) :
    (removeVIP id tx).ops = tx.ops ++
        (.delete (.vip id) :: .deleteRange (.backends id) :: releasing (tx.currentTuple id)) ∧
      (removeVIP id tx).vipTupleIndexKeys = Function.update tx.vipTupleIndexKeys id none ∧
      (removeVIP id tx).vipTupleOwners =
        withoutOwner tx.vipTupleOwners (tx.currentTuple id) ∧
      (removeVIP id tx).vipOriginalIndexes = Function.update tx.vipOriginalIndexes id none ∧
      (∀ tuple owner, (removeVIP id tx).vipReleasedTuples tuple = some owner →
        tx.vipReleasedTuples tuple = some owner ∨
          (owner = id ∧ tx.vipOriginalIndexes id = some tuple ∧ tx.vipOriginalOwned id = true)) ∧
      (removeVIP id tx).createdVIPIDs = tx.createdVIPIDs ∧
      (removeVIP id tx).deletedVIPIDs = id :: tx.deletedVIPIDs := by
  unfold removeVIP
  cases current : tx.currentTuple id with
  | none => exact ⟨rfl, rfl, rfl, rfl, fun _ _ gone => .inl gone, rfl, rfl⟩
  | some old =>
    refine ⟨?_, rfl, rfl, rfl, fun tuple owner gone => ?_, rfl, rfl⟩
    · simp [releaseVIPTuple, addOps, releasing]
    · obtain before | ⟨rfl, rfl, original⟩ := releases_of_releaseVIPTuple gone
      · exact .inl before
      · exact .inr ⟨rfl, original⟩

end Steps

end ArcaLB.Datastore
