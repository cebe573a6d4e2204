import Mathlib.Order.Lattice
import ArcaLB.Datastore.Clients

/-!
# Compacted writes

`compactEtcdWriteOps` drops a write that a later one makes pointless.  The writes that are left
have the same effect, whatever the store holds.  Those of a transaction also write every key at
most once, so etcd refuses them for nothing but their number, unless a backend is added for a
VIP whose deletion the transaction has forgotten.
-/

namespace ArcaLB.Datastore

open Etcd (Reply)

/-! ## The same effect -/

section Effect

variable {Key Range : Type} {Value : Key → Type} [DecidableEq Key] [DecidableEq Range]
  {covers : Range → Key → Bool} {inside : Range → Range → Bool} {key : Key}
  {later : List (Etcd.Op Value Range)}

/-- A write that is dropped is followed by another one of the same key. -/
theorem exists_later_write {op : Etcd.Op Value Range}
    (nested : ∀ inner outer key, inside inner outer = true → covers inner key = true →
      covers outer key = true)
    (dropped : isCoveredByLaterRangeDelete covers inside later op = true ∨
      later.any (sameEtcdWriteOpKey op) = true)
    (touches : ¬op.Spares covers key) : ∃ other ∈ later, ¬other.Spares covers key := by
  obtain covered | same := dropped
  · obtain ⟨other, member, covered⟩ := List.any_eq_true.mp covered
    refine ⟨other, member, ?_⟩
    cases other with
    | get _ | put _ _ | delete _ => cases covered
    | deleteRange range =>
      refine not_not.mpr ?_
      cases op with
      | get _ => cases covered
      | put written _ | delete written =>
        obtain rfl : written = key := not_not.mp touches
        exact covered
      | deleteRange inner => exact nested inner range key covered (not_not.mp touches)
  · obtain ⟨other, member, same⟩ := List.any_eq_true.mp same
    refine ⟨other, member, ?_⟩
    unfold sameEtcdWriteOpKey at same
    split at same
    case h_6 => cases same
    all_goals
      obtain rfl := of_decide_eq_true same
      exact touches

/-- **Compaction keeps the effect**, if a range that lies inside another covers no more keys. -/
theorem lookup_compactEtcdWriteOps
    (nested : ∀ inner outer key, inside inner outer = true → covers inner key = true →
      covers outer key = true) (ops : List (Etcd.Op Value Range)) (revision : Nat)
    (entries : AList fun key => Etcd.Entry (Value key)) (key : Key) :
    ((compactEtcdWriteOps covers inside ops).foldl (Etcd.Op.apply covers revision)
      entries).lookup key =
        (ops.foldl (Etcd.Op.apply covers revision) entries).lookup key := by
  induction ops generalizing entries with
  | nil => rfl
  | cons op later ih =>
    rw [compactEtcdWriteOps]
    split
    case isTrue dropped =>
      rw [ih, List.foldl_cons]
      by_cases spares : op.Spares covers key
      · exact Etcd.Op.lookup_foldl_congr spares.lookup_apply.symm later
      · obtain ⟨other, member, touches⟩ := exists_later_write nested dropped.2 spares
        exact Etcd.Op.lookup_foldl_of_not_spares member touches _ _
    case isFalse => exact ih _

end Effect

/-- The keys from `first` up to but not including `last`, as etcd takes the two ends of a
range. -/
structure KeyRange (Key : Type) where
  first : Key
  last : Key
  deriving DecidableEq, Repr

namespace KeyRange

variable {Key : Type} [LinearOrder Key]

/-- Is the key in the range? -/
def covers (range : KeyRange Key) (key : Key) : Bool :=
  decide (range.first ≤ key) && decide (key < range.last)

/-- Is one range inside the other? -/
def inside (inner outer : KeyRange Key) : Bool :=
  decide (outer.first ≤ inner.first) && decide (inner.last ≤ outer.last)

theorem covers_of_inside {inner outer : KeyRange Key} {key : Key}
    (nested : inner.inside outer = true) (covered : inner.covers key = true) :
    outer.covers key = true := by
  simp only [inside, covers, Bool.and_eq_true, decide_eq_true_eq] at nested covered ⊢
  exact ⟨le_trans nested.1 covered.1, lt_of_lt_of_le covered.2 nested.2⟩

end KeyRange

/-! ## Every key once -/

/-- After the deletion of a range, no single key of this range is written. -/
def Sequenced : Op → Op → Prop
  | .deleteRange range, .put key _ | .deleteRange range, .delete key => range.covers key = false
  | _, _ => True

/-- The writes of a transaction, without the number of the configuration. -/
structure Ordered (ops : List Op) : Prop where
  unnumbered : ∀ op ∈ ops, op.Spares Range.covers .revision
  sequenced : ops.Pairwise Sequenced

/-- The operation is not about a single backend. -/
def Coarse (op : Op) : Prop :=
  ∀ vipID id, op ≠ .delete (.backend vipID id) ∧ ∀ backend, op ≠ .put (.backend vipID id) backend

theorem Coarse.sequenced {op : Op} (coarse : Coarse op) (before : Op) : Sequenced before op := by
  unfold Sequenced
  split
  next range key value =>
    cases key with
    | backend vipID id => exact absurd rfl ((coarse vipID id).2 value)
    | vip _ | index _ | revision => rfl
  next range key =>
    cases key with
    | backend vipID id => exact absurd rfl (coarse vipID id).1
    | vip _ | index _ | revision => rfl
  next => trivial

namespace Ordered

variable {ops more : List Op}

theorem nil : Ordered [] :=
  ⟨fun _ member => (nomatch member), .nil⟩

theorem append (ordered : Ordered ops) (unnumbered : ∀ op ∈ more, op.Spares Range.covers .revision)
    (inner : more.Pairwise Sequenced) (after : ∀ one ∈ ops, ∀ two ∈ more, Sequenced one two) :
    Ordered (ops ++ more) where
  unnumbered := fun op member =>
    (List.mem_append.mp member).elim (ordered.unnumbered op) (unnumbered op)
  sequenced := List.pairwise_append.mpr ⟨ordered.sequenced, inner, after⟩

/-- More writes that are not about single backends. -/
theorem append_coarse (ordered : Ordered ops)
    (coarse : ∀ op ∈ more, Coarse op ∧ op.Spares Range.covers .revision) : Ordered (ops ++ more) :=
  ordered.append (fun op member => (coarse op member).2)
    (List.pairwise_of_forall_mem_list fun one _ two member => (coarse two member).1.sequenced one)
    fun one _ two member => (coarse two member).1.sequenced one

end Ordered

theorem coarse_of_index {more : List Op} (index : IndexOps more) :
    ∀ op ∈ more, Coarse op ∧ op.Spares Range.covers .revision := by
  intro op member
  obtain ⟨_, _, rfl⟩ | ⟨_, rfl⟩ := index op member <;>
    exact ⟨fun _ _ => ⟨nofun, nofun⟩, nofun⟩

theorem coarse_putVIP (vip : VIP) :
    Coarse (.put (.vip vip.id) vip) ∧
      (.put (.vip vip.id) vip : Op).Spares Range.covers .revision :=
  ⟨fun _ _ => ⟨nofun, nofun⟩, nofun⟩

/-- The ranges of two VIPs have no key in common. -/
theorem eq_of_covers {one two : Range} {key : Key} (first : one.covers key = true)
    (second : two.covers key = true) : one = two := by
  obtain ⟨vipID⟩ := one
  obtain ⟨other⟩ := two
  cases key with
  | backend parent id => rw [← of_decide_eq_true first, ← of_decide_eq_true second]
  | vip _ | index _ | revision => cases first

/-- A write that is kept writes no key that a later one writes. -/
theorem apart_of_kept {op other : Op} {later : List Op} (member : other ∈ later)
    (sequenced : Sequenced op other) (kept : ¬(op.isWrite = true ∧
      (isCoveredByLaterRangeDelete Range.covers Range.inside later op = true ∨
        later.any (sameEtcdWriteOpKey op) = true))) : Etcd.Op.Apart Range.covers op other := by
  have differs : op.isWrite = true → sameEtcdWriteOpKey op other = false := fun writes =>
    Bool.eq_false_iff.mpr fun same => kept ⟨writes, .inr (List.any_eq_true.mpr ⟨_, member, same⟩)⟩
  have uncovered : ∀ range, op.isWrite = true → other = .deleteRange range →
      etcdDeleteRangeCoversOp Range.covers Range.inside range op = false := by
    rintro range writes rfl
    exact Bool.eq_false_iff.mpr fun covered =>
      kept ⟨writes, .inl (List.any_eq_true.mpr ⟨_, member, covered⟩)⟩
  intro key
  by_contra touched
  obtain ⟨first, second⟩ := not_or.mp touched
  cases op with
  | get _ => exact first trivial
  | put written _ | delete written =>
    obtain rfl : written = key := not_not.mp first
    cases other with
    | get _ => exact second trivial
    | put again _ | delete again => exact of_decide_eq_false (differs rfl) (not_not.mp second).symm
    | deleteRange range => exact second (Bool.eq_false_iff.mp (uncovered range rfl rfl))
  | deleteRange range =>
    have covered : range.covers key = true := not_not.mp first
    cases other with
    | get _ => exact second trivial
    | put again _ | delete again =>
      obtain rfl : again = key := not_not.mp second
      exact Bool.false_ne_true (sequenced.symm.trans covered)
    | deleteRange again =>
      exact of_decide_eq_false (differs rfl) (eq_of_covers covered (not_not.mp second))

/-- **Every key once.** -/
theorem pairwise_apart_compacted {ops : List Op} (sequenced : ops.Pairwise Sequenced) :
    (compacted ops).Pairwise (Etcd.Op.Apart Range.covers) := by
  induction ops with
  | nil => exact .nil
  | cons op later ih =>
    rw [List.pairwise_cons] at sequenced
    rw [compacted, compactEtcdWriteOps]
    split
    case isTrue => exact ih sequenced.2
    case isFalse kept =>
      refine List.pairwise_cons.mpr ⟨fun other member => ?_, ih sequenced.2⟩
      have listed := mem_of_mem_compacted member
      exact apart_of_kept listed (sequenced.1 other listed) kept

/-- What is committed, with the next number of the configuration, puts no key twice. -/
theorem Ordered.putOnce {ops : List Op} (ordered : Ordered ops) (number : Nat) :
    Etcd.Op.putOnce Range.covers (compacted ops ++ [.put .revision number]) = true := by
  refine Etcd.Op.putOnce_of_apart (List.pairwise_append.mpr
    ⟨pairwise_apart_compacted ordered.sequenced, List.pairwise_singleton .., ?_⟩)
  intro op member last listed key
  rw [List.mem_singleton.mp listed]
  by_cases revision : key = .revision
  · subst revision
    exact .inl (ordered.unnumbered op (mem_of_mem_compacted member))
  · exact .inr (Ne.symm revision)

/-! ## Transactions -/

/-- The transaction deletes all backends of the VIP. -/
def deletesBackendsOf (tx : EtcdTransaction) (vipID : String) : Bool :=
  tx.ops.any fun
    | .deleteRange (.backends id) => decide (id = vipID)
    | _ => false

/-- `AddBackend` is called on a transaction only if this remembers the deletion of the VIP,
where its writes have one. -/
def remembersDeletion (call : ClientCall) (tx : EtcdTransaction) : Prop :=
  match call with
  | .onTx _ (.addBackend backend) =>
    deletesBackendsOf tx backend.vipID = true → backend.vipID ∈ tx.deletedVIPIDs
  | _ => True

instance : (call : ClientCall) → (tx : EtcdTransaction) → Decidable (remembersDeletion call tx)
  | .onTx _ (.addBackend _), _ => inferInstanceAs (Decidable (_ → _))
  | .plain _ _, _ | .beginTx, _ | .onTx _ (.createVIP _), _ | .onTx _ (.updateVIP _), _
  | .onTx _ (.deleteVIP _), _ | .onTx _ .commit, _ | .onTx _ .rollback, _ => isTrue trivial

/-- No backend is added for a VIP whose deletion was forgotten. -/
def deletionsRemembered (clients : Clients) (event : Sessions.Event ClientCall) : Prop :=
  clients.CallsAllowed remembersDeletion event

instance (clients : Clients) (event : Sessions.Event ClientCall) :
    Decidable (deletionsRemembered clients event) := by
  unfold deletionsRemembered
  infer_instance

section Moves

open EtcdTransaction

variable {change : Store → List Op → Prop} {sees : List Store → Store → Prop} {later : Store}
  {tx next : EtcdTransaction} {context : Context} {operation : TxOperation}

/-- Every move keeps the writes in order. -/
theorem EtcdTransaction.Move.ordered (move : Move change sees context tx operation next later)
    (remembers : remembersDeletion (.onTx context operation) tx) (ordered : Ordered tx.ops) :
    Ordered next.ops := by
  cases move with
  | unchanged | readParent _ | commit _ _ => exact ordered
  | rollback => exact .nil
  | readUpdated recorded =>
    rw [recorded.ops_eq]
    exact ordered
  | createVIP needs =>
    have put : ∀ vip : VIP, (putNewVIP vip needs tx).ops = tx.ops ++
        [.put (.vip vip.id) vip, .put (.index (.vipTuple vip.tuple)) vip.id] := fun vip => by
      simp [putNewVIP, addChecks, addOps, takeVIPTuple]
    rw [put]
    exact ordered.append_coarse (List.forall_mem_cons.mpr
      ⟨coarse_putVIP _, coarse_of_index (by simp [IndexOps])⟩)
  | updateVIP needs _ _ recorded =>
    obtain ⟨more, -, index, ops, -⟩ := putVIP_spec _ needs _
    rw [ops, recorded.ops_eq]
    exact ordered.append_coarse (List.forall_mem_cons.mpr
      ⟨coarse_putVIP _, coarse_of_index index⟩)
  | deleteVIP _ | deleteStoredVIP _ _ _ _ =>
    obtain ⟨more, index, ops, -⟩ := removeVIP_spec _ _
    rw [ops]
    refine ordered.append_coarse (List.forall_mem_cons.mpr ⟨?_, List.forall_mem_cons.mpr
      ⟨?_, coarse_of_index index⟩⟩)
    · simp [Coarse, Etcd.Op.Spares]
    · simp [Coarse, Etcd.Op.Spares, Range.covers]
  | @addBackend given _ _ _ kept =>
    have put : ∀ backend : Backend, (putNewBackend backend tx).ops = tx.ops ++
        [.put (.backend backend.vipID backend.id) backend,
          .put (.index (.backend backend.id)) backend.vipID,
          .put (.index (.backendIP backend.vipID backend.ip)) backend.id] := fun _ => rfl
    change Ordered (putNewBackend (prepareNewBackend context given) tx).ops
    rw [put]
    refine ordered.append (by simp [Etcd.Op.Spares]) (by simp [Sequenced]) ?_
    intro before member op listed
    cases before with
    | get _ | put _ _ | delete _ => trivial
    | deleteRange range =>
      obtain ⟨vipID⟩ := range
      have other : given.vipID ≠ vipID := by
        rintro rfl
        exact kept (remembers (List.any_eq_true.mpr ⟨_, member, decide_eq_true rfl⟩))
      simp only [List.mem_cons, List.not_mem_nil, or_false] at listed
      obtain rfl | rfl | rfl := listed
      · exact decide_eq_false other
      · rfl
      · rfl

end Moves

theorem sequenced_obligations {rules : TextRules} :
    Sessions.Obligations (evolution fun _ _ => True) (ClientCall.program rules) remembersDeletion
      (fun _ _ _ _ => True) Sane (fun tx _ => Keyed tx.ops ∧ Ordered tx.ops) where
  kept := fun _ _ sane evolved => sane_of_evolves evolved sane
  sound := by
    intro call tx store remembers sane fits
    refine (sound_program (fun _ _ _ => trivial) sane fits.1 (fun _ _ _ => trivial) call).mono
      fun after _ later ended => ?_
    obtain ⟨-, leaves⟩ := ended
    cases call with
    | plain context operation => exact leaves ▸ fits
    | beginTx =>
      obtain rfl := leaves
      exact ⟨keyed_of_no_object (by simp [EtcdTransaction.begin]), .nil⟩
    | onTx context operation =>
      exact ⟨EtcdTransaction.Move.keyed leaves fits.1,
        EtcdTransaction.Move.ordered leaves remembers fits.2⟩

variable {sessions : Clients}

/-- What a client has collected is in order. -/
theorem ordered_of_reachable {rules : TextRules}
    (reached : (clients rules).Reachable deletionsRemembered sessions) {index : Nat}
    {tx : EtcdTransaction} (idle : sessions.session index = .idle tx) : Ordered tx.ops := by
  have secure := Sessions.secure_of_reachable sequenced_obligations sane_empty
    (fun _ _ => ⟨keyed_of_no_object (by simp [EtcdTransaction.begin]), .nil⟩)
    (fun _ _ remembered => ⟨remembered, fun _ _ => trivial⟩) reached
  have sound := secure.sound index
  rw [idle] at sound
  exact (sound _ .refl).2

/-- **Compaction.** For puts, deletions and deletions of ranges over any ordered keys, the
compacted list leaves under every key what the whole list leaves there.  In every run in which
no backend is added for a VIP whose deletion was forgotten, what any client has collected is
compacted to a list in which no two operations write one key and no put lies in a range that is
deleted; a server refuses its commit if the conditions or the operations are more than it
takes, and for nothing else. -/
theorem compaction_same_effect_and_accepted {rules : TextRules}
    (reached : (clients rules).Reachable deletionsRemembered sessions) :
    (∀ (Key : Type) [LinearOrder Key] (Value : Key → Type)
      (ops : List (Etcd.Op Value (KeyRange Key))) (revision : Nat)
      (entries : AList fun key => Etcd.Entry (Value key)) (key : Key),
      ((compactEtcdWriteOps KeyRange.covers KeyRange.inside ops).foldl
        (Etcd.Op.apply KeyRange.covers revision) entries).lookup key =
          (ops.foldl (Etcd.Op.apply KeyRange.covers revision) entries).lookup key) ∧
    ∀ index tx, sessions.session index = .idle tx →
      (compacted tx.ops).Pairwise (Etcd.Op.Apart Range.covers) ∧
      (∀ range key value, .deleteRange range ∈ compacted tx.ops →
        .put key value ∈ compacted tx.ops → range.covers key = false) ∧
      ∀ limit current,
        (revisionTxn tx.checks (compacted tx.ops) current).refusal Range.covers limit =
          if limit < max (tx.checks.length + 1) ((compacted tx.ops).length + 1) then
            some .tooManyOps
          else none := by
  refine ⟨fun Key _ Value ops revision entries key => ?_, fun index tx idle => ?_⟩
  · have nested : ∀ (inner outer : KeyRange Key) (key : Key), inner.inside outer = true →
        inner.covers key = true → outer.covers key = true := fun _ _ _ => KeyRange.covers_of_inside
    exact lookup_compactEtcdWriteOps nested ops revision entries key
  · have ordered := ordered_of_reachable reached idle
    have apart := pairwise_apart_compacted ordered.sequenced
    refine ⟨apart, fun range key value deleted put => ?_, fun limit current => ?_⟩
    · obtain spares | spares := apart.forall deleted put (by simp) key
      · exact Bool.eq_false_iff.mpr spares
      · exact absurd rfl spares
    · rw [Etcd.Txn.refusal, if_pos (ordered.putOnce (current + 1))]
      simp

/-- The transaction of the first client passes the check. -/
def collected (check : EtcdTransaction → Bool) (sessions : Clients) : Bool :=
  match sessions.session 0 with
  | .idle tx => check tx
  | _ => false

theorem exists_idle_of_collected {check : EtcdTransaction → Bool}
    (passes : collected check sessions = true) :
    ∃ tx, sessions.session 0 = .idle tx ∧ check tx = true := by
  unfold collected at passes
  split at passes
  next tx idle => exact ⟨tx, idle, passes⟩
  next => cases passes

/-- A VIP is deleted in a transaction that also creates another one, with a backend. -/
def replacedInTransaction : List (Sessions.Event ClientCall) :=
  Sessions.callThrough 1 (Operation.createVIP (.web "web" "192.0.2.1")).calls 3 ++
  Sessions.callThrough 0 (TxOperation.deleteVIP "web").calls 2 ++
  Sessions.callThrough 0 (TxOperation.createVIP (.web "api" "192.0.2.1")).calls 1 ++
  Sessions.callThrough 0 (TxOperation.addBackend (.server "b" "api" "10.0.0.1")).calls 1

theorem compaction_same_effect_and_accepted_replaced :
    ∃ sessions tx, (clients .lenient).run Clients.start replacedInTransaction = some sessions ∧
      sessions.session 0 = .idle tx ∧ (compacted tx.ops).length = 7 ∧ tx.checks.length = 7 ∧
      (revisionTxn tx.checks (compacted tx.ops) 2).refusal Range.covers Etcd.maxTxnOps = none ∧
      (revisionTxn tx.checks (compacted tx.ops) 2).refusal Range.covers 7 =
        some .tooManyOps := by
  obtain ⟨sessions, runs, passes⟩ := (clients .lenient).exists_run_of_check
    Clients.start replacedInTransaction
    (fun sessions => collected (fun tx => (compacted tx.ops).length == 7 && tx.checks.length == 7)
      sessions) (by decide +kernel)
  have reached := (clients_start .lenient deletionsRemembered).run (by decide +kernel) runs
  obtain ⟨tx, idle, lengths⟩ := exists_idle_of_collected passes
  simp only [Bool.and_eq_true, beq_iff_eq] at lengths
  have refusal := ((compaction_same_effect_and_accepted reached).2 0 tx idle).2.2
  simp only [lengths.1, lengths.2] at refusal
  exact ⟨sessions, tx, runs, idle, lengths.1, lengths.2, refusal _ 2, refusal 7 2⟩

/-- A transaction deletes two VIPs; its commit fails because one of them is gone, and cleans up;
a backend is added for the other one. -/
def forgottenDeletion : List (Sessions.Event ClientCall) :=
  Sessions.callThrough 1 (Operation.createVIP (.web "web" "192.0.2.1")).calls 3 ++
  Sessions.callThrough 1 (Operation.createVIP (.web "api" "192.0.2.2")).calls 3 ++
  Sessions.callThrough 0 (TxOperation.deleteVIP "web").calls 2 ++
  Sessions.callThrough 0 (TxOperation.deleteVIP "api").calls 2 ++
  Sessions.callThrough 1 (Operation.deleteVIP "api").calls 6 ++
  Sessions.callThrough 0 TxOperation.commit.calls 10 ++
  Sessions.callThrough 0 (TxOperation.addBackend (.server "b" "web" "10.0.0.1")).calls 2

theorem put_in_deleted_range_is_rejected :
    ∃ sessions tx, (clients .lenient).Reachable TransitionSystem.unguarded sessions ∧
      sessions.session 0 = .idle tx ∧
        (revisionTxn tx.checks (compacted tx.ops) sessions.state.number).refusal Range.covers
          Etcd.maxTxnOps = some .duplicateKey := by
  obtain ⟨sessions, runs, passes⟩ := (clients .lenient).exists_run_of_check
    Clients.start forgottenDeletion
    (fun sessions => collected (fun tx => decide ((revisionTxn tx.checks (compacted tx.ops)
      sessions.state.number).refusal Range.covers Etcd.maxTxnOps = some .duplicateKey)) sessions)
    (by decide +kernel)
  have reached := (clients_start .lenient _).run
    (TransitionSystem.meets_unguarded _ _ forgottenDeletion) runs
  obtain ⟨tx, idle, refused⟩ := exists_idle_of_collected passes
  exact ⟨sessions, tx, reached, idle, of_decide_eq_true refused⟩

end ArcaLB.Datastore
