import ArcaLB.Datastore.TupleWrites

/-!
# Transactions beside other writers

Clients that build a transaction, commit or roll it back, and then leave it alone.  A
transaction may take the tuple of a VIP that it deletes or moves away without asking for the
index entry to be free.  As long as it does so only with tuples that it has released itself,
every stored VIP has its own entry in the tuple index, and a commit leaves the entries of the
VIPs alone that it does not write.
-/

namespace ArcaLB.Datastore

open Etcd (Reply)

/-- The calls after which a transaction is not added to. -/
def TxOperation.ends : TxOperation → Bool
  | commit | rollback => true
  | createVIP _ | addBackend _ | updateVIP _ | deleteVIP _ => false

/-- What the calls that give a VIP a tuple see: where the index entry of the tuple names a VIP
that the transaction has deleted or moved, the transaction has released the tuple. -/
def TxOperation.unshadowed (operation : TxOperation) (tx : EtcdTransaction) (store : Store) :
    Prop :=
  match operation with
  | createVIP vip | updateVIP vip =>
    tx.shadows vip.tuple store = true → (tx.vipReleasedTuples vip.tuple).isSome = true
  | addBackend _ | deleteVIP _ | commit | rollback => True

instance (operation : TxOperation) (tx : EtcdTransaction) (store : Store) :
    Decidable (operation.unshadowed tx store) := by
  unfold TxOperation.unshadowed
  split <;> infer_instance

/-! ## One call -/

section Moves

open EtcdTransaction

variable {change : Store → List Op → Prop} {sees : List Store → Store → Prop}
  {tx next : EtcdTransaction} {context : Context} {operation : TxOperation} {now later : Store}
  {id : String}

theorem EtcdTransaction.Recorded.checks_subset (recorded : Recorded change later id tx next) :
    tx.checks ⊆ next.checks := by
  cases recorded with
  | own _ => exact List.Subset.refl _
  | before checks _ => exact List.subset_append_left ..
  | now tuple owned checks _ _ _ =>
    exact fun check member => List.mem_append_left _ (List.mem_append_left _ member)

theorem EtcdTransaction.Recorded.coherent (recorded : Recorded change later id tx next)
    (evolved : Evolves change later now) (indexed : TuplesIndexed now)
    (coherent : Coherent now tx) (applies : next.Applies now) : Coherent now next := by
  cases recorded with
  | own _ => exact coherent
  | before checks _ => exact coherent.addChecks checks
  | now tuple owned checks _ _ stands =>
    obtain ⟨vip, stored, rfl⟩ := stands now evolved fun check member =>
      applies check (List.mem_append_right _ member)
    exact (coherent.recordOriginal owned ⟨vip, stored⟩ (indexed id vip stored)).addChecks checks

/-- The VIP is the transaction's own, or it is stored. -/
theorem EtcdTransaction.Recorded.known (recorded : Recorded change later id tx next)
    (coherent : Coherent now next) : id ∈ next.createdVIPIDs ∨ ∃ vip, now.vip id = some vip := by
  cases recorded with
  | own created => exact .inl created
  | before checks original => exact .inr (coherent.original id _ original).1
  | now tuple owned checks _ _ _ =>
    exact .inr (coherent.original id tuple (Function.update_self ..)).1

/-- An entry that need not be free names a VIP that the transaction writes. -/
theorem EtcdTransaction.Available.taken {vip : VIP} {needs : Bool}
    (available : tx.Available sees vip needs) (coherent : Coherent now tx)
    (clear : ∀ seen store, sees seen store → tx.shadows vip.tuple store = true →
      (tx.vipReleasedTuples vip.tuple).isSome = true)
    (unneeded : needs = false) (names : now.owner (.vipTuple vip.tuple) = some id) :
    ∃ op, lastVIP id tx.ops = some op := by
  have gone : (tx.vipReleasedTuples vip.tuple).isSome = true :=
    (available.unneeded unneeded).elim (fun gone => gone) fun ⟨seen, store, saw, shadows⟩ =>
      clear seen store saw shadows
  obtain ⟨owner, released⟩ := Option.isSome_iff_exists.mp gone
  obtain ⟨named, written⟩ := coherent.released _ owner released
  cases names.symm.trans named
  exact written

/-- **One call.** A call that adds to a transaction keeps its bookkeeping coherent. -/
theorem EtcdTransaction.Move.coherent (move : Move change sees context tx operation next later)
    (evolved : Evolves change later now) (indexed : TuplesIndexed now)
    (builds : operation.ends = false)
    (clear : ∀ seen store, sees seen store → operation.unshadowed tx store)
    (applies : next.Applies now) (coherent : tx.Applies now → Coherent now tx) :
    Coherent now next := by
  cases move with
  | commit _ _ | rollback => cases builds
  | unchanged => exact coherent applies
  | readParent checks =>
    exact (coherent fun check member =>
      applies check (List.mem_append_left _ member)).addChecks checks
  | readUpdated recorded =>
    exact recorded.coherent evolved indexed (coherent fun check member =>
      applies check (recorded.checks_subset member)) applies
  | addBackend checks =>
    have before := coherent fun check member =>
      applies check (List.mem_append_left _ (List.mem_append_left _ member))
    refine before.keep rfl ?_ rfl rfl rfl rfl rfl rfl
    simp [Etcd.Op.Spares]
  | @createVIP given _ needs fresh available =>
    have tuple : (prepareNewVIP context given).tuple = given.tuple :=
      prepareHealthCheckForVIP_tuple ..
    have before := coherent fun check member => applies check (List.mem_append_left _ member)
    have absent := value_of_absent (applies
      ⟨.absent (.vip (prepareNewVIP context given).id), .conflict⟩
      (List.mem_append_right _ List.mem_cons_self))
    have ops : ∀ vip : VIP, (putNewVIP vip needs tx).ops = tx.ops ++ .put (.vip vip.id) vip ::
        (releasing none ++ [.put (.index (.vipTuple vip.tuple)) vip.id]) := fun _ => by
      simp [putNewVIP, EtcdTransaction.addChecks, addOps, takeVIPTuple, releasing]
    refine before.enter (ops _) rfl rfl rfl (fun _ _ gone => .inl gone)
      (List.subset_cons_self ..) rfl available.unclaimed (fun other entered => ?_) (by simp)
      (.inl List.mem_cons_self) fun id names => .inr ?_
    · obtain created | ⟨vip, stored⟩ := before.known _ other entered
      · exact absurd created fresh
      · cases absent.symm.trans stored
    · cases needs with
      | false => exact available.taken before (tuple ▸ clear) rfl names
      | true =>
        have free := value_of_absent (applies
          ⟨.absent (.index (.vipTuple (prepareNewVIP context given).tuple)), .conflict⟩
          (List.mem_append_right _ (by simp)))
        cases free.symm.trans names
  | @updateVIP given vip after _ needs same kept recorded available =>
    obtain ⟨-, extra, -, -, checks, -, created, -⟩ := putVIP_spec vip needs after
    have applied : after.Applies now := fun check member =>
      applies check (checks ▸ List.mem_append_left _ member)
    have reading := recorded.coherent evolved indexed (coherent fun check member =>
      applied check (recorded.checks_subset member)) applied
    have kept : vip.id ∉ after.deletedVIPIDs := by
      rw [same.1]
      cases recorded <;> exact kept
    have clear : ∀ seen store, sees seen store → after.shadows vip.tuple store = true →
        (after.vipReleasedTuples vip.tuple).isSome = true := by
      rw [same.2]
      cases recorded <;> exact clear
    obtain ⟨released, ops, keys, owners, originals, releases, deleted, moved, own, free⟩ :=
      putVIP_enters vip needs after
    refine reading.enter ops keys owners originals (fun tuple owner gone => ?_)
      (created ▸ List.Subset.refl _) deleted available.unclaimed
      (fun tuple entered => moved tuple ?_)
      (fun old gone => ⟨(own old gone).1, kept, reading.held_current (own old gone).2⟩)
      (created ▸ same.1 ▸ recorded.known reading) fun id names => ?_
    · refine (releases tuple owner gone).imp_right fun gone => ⟨gone.1, ?_⟩
      exact (reading.original _ tuple gone.2).2
    · rw [currentTuple, entered, Option.some_or]
    · obtain current | original | unneeded | conditioned := free
      · obtain keys | ⟨-, own⟩ := reading.held_current current
        · exact .inr (reading.settled _ _ _
            (reading.owned _ _ (reading.entered _ _ keys)).2 names)
        · exact .inl (Option.some.inj (names.symm.trans own))
      · exact .inl (Option.some.inj (names.symm.trans (reading.original _ _ original).2))
      · exact .inr (available.taken reading clear unneeded names)
      · cases (value_of_absent (applies _ conditioned)).symm.trans names
  | @deleteVIP id _ kept =>
    have before := coherent fun check member =>
      applies check ((removeVIP_spec id tx).choose_spec.2.2.1 ▸ member)
    obtain ⟨ops, keys, owners, originals, releases, created, deleted⟩ := removeVIP_releases id tx
    refine before.remove ops keys owners originals (fun tuple owner gone => ?_) created deleted kept
      (fun tuple entered => by rw [currentTuple, entered, Option.some_or])
      fun old => before.held_current
    refine (releases tuple owner gone).imp_right fun gone => ⟨gone.1, ?_⟩
    exact (before.original id tuple gone.2.1).2
  | @deleteStoredVIP id _ tuple owned kept unknown =>
    obtain ⟨-, -, -, checks, -⟩ := removeVIP_spec id (tx.recordOriginal id tuple owned)
    have applied : (tx.recordOriginal id tuple owned).Applies now :=
      fun check member => applies check (checks ▸ member)
    have before := coherent fun check member => applied check (List.mem_append_left _ member)
    have names : owned = true → now.owner (.vipTuple tuple) = some id :=
      owner_of_ownedChecks fun check member =>
        applied check (List.mem_append_right _ (List.mem_cons_of_mem _ member))
    obtain ⟨ops, keys, owners, originals, releases, created, deleted⟩ :=
      removeVIP_releases id (tx.recordOriginal id tuple owned)
    refine before.remove ops keys owners ?_ (fun other owner gone => ?_) created deleted kept
      (fun other entered => ?_) fun old current => ?_
    · exact originals.trans (Function.update_idem ..)
    · refine (releases other owner gone).imp_right fun gone => ⟨gone.1, ?_⟩
      obtain ⟨-, original, owns⟩ := gone
      cases (Function.update_self ..).symm.trans original
      exact names ((Function.update_self ..).symm.trans owns)
    · exact congrArg (Option.or · _) entered
    · unfold currentTuple at current
      cases entered : tx.vipTupleIndexKeys id with
      | some own =>
        exact .inl (entered.trans ((congrArg (Option.or · _) entered).symm.trans current))
      | none =>
        have current := (congrArg (Option.or · _) entered).symm.trans current
        obtain ⟨mine, original⟩ := Option.ite_none_right_eq_some.mp current
        cases (Function.update_self ..).symm.trans original
        rw [Bool.and_eq_true] at mine
        exact .inr ⟨entered, names ((Function.update_self ..).symm.trans mine.2)⟩

end Moves

/-! ## What is committed -/

section Commit

variable {ops : List Op} {now : Store}

/-- Only single writes are about a VIP. -/
theorem single_of_touches {id : String} {op : Op}
    (touches : op.touches Range.covers (.vip id) = true) :
    op = .delete (.vip id) ∨ ∃ vip, op = .put (.vip id) vip := by
  cases op with
  | get _ => cases touches
  | put key value =>
    obtain rfl := of_decide_eq_true touches
    exact .inr ⟨value, rfl⟩
  | delete key =>
    obtain rfl := of_decide_eq_true touches
    exact .inl rfl
  | deleteRange range =>
    cases range
    cases touches

/-- **What is committed** enters every VIP that it puts and leaves the entries of others
alone. -/
theorem Entered.indexing (entered : Entered ops) (settled : Settled now ops)
    (indexed : TuplesIndexed now) : Indexing now (compacted ops) := by
  constructor
  · intro id vip put
    exact mem_compacted_of_lastWrite (entered id vip (lastWrite_of_mem_compacted put))
      (.inr ⟨id, rfl⟩)
  · intro id vip stored spared op member
    by_contra touches
    have unwritten : lastVIP id ops = none := by
      cases last : lastVIP id ops with
      | none => rfl
      | some write =>
        have touched : write.touches Range.covers (.vip id) = true := List.find?_some last
        have committed := mem_compacted_of_lastWrite last (single_of_touches touched)
        rw [Etcd.Op.touches_eq_false.mpr (spared write committed)] at touched
        cases touched
    cases last : lastTuple vip.tuple ops with
    | none => exact touches (Etcd.Op.lastWrite_eq_none.mp last op (mem_of_mem_compacted member))
    | some write =>
      obtain ⟨_, written⟩ := settled _ _ _ last (indexed id vip stored)
      cases unwritten.symm.trans written

end Commit

/-! ## Clients -/

/-- What a client knows of its transaction: what this has collected, and whether it was
committed or rolled back. -/
structure Handle where
  tx : EtcdTransaction
  ended : Bool

/-- Whether the transaction of a client has ended after a call. -/
def ClientCall.ended (call : ClientCall) (ended : Bool) : Bool :=
  match call with
  | plain _ _ => ended
  | beginTx => false
  | onTx _ operation => ended || operation.ends

/-- A client remembers its transaction and whether it has ended it. -/
def ClientCall.track (rules : TextRules) (call : ClientCall) (handle : Handle) : Steps Handle :=
  call.program rules handle.tx >>= fun tx => pure ⟨tx, call.ended handle.ended⟩

/-- The clients, with what they know of their transactions. -/
abbrev Handles := Sessions Store Txn Reply ClientCall Handle

/-- All clients on an empty store. -/
def handles (rules : TextRules) : TransitionSystem Handles (Sessions.Event ClientCall) :=
  Sessions.system (Etcd.handle Range.covers) (ClientCall.track rules) Store.empty ⟨.begin, false⟩

/-- After `Commit` or `Rollback` a transaction is not added to. -/
def staysEnded (call : ClientCall) (handle : Handle) : Prop :=
  match call with
  | .onTx _ operation => handle.ended = true → operation.ends = true
  | .plain .. | .beginTx => True

instance (call : ClientCall) (handle : Handle) : Decidable (staysEnded call handle) := by
  unfold staysEnded
  split <;> infer_instance

/-- What a call on a transaction sees, given what the transaction was when it was made. -/
def seesUnshadowed (call : ClientCall) (handle : Handle) (_ : List Store) (store : Store) : Prop :=
  match call with
  | .onTx _ operation => operation.unshadowed handle.tx store
  | .plain .. | .beginTx => True

instance (call : ClientCall) (handle : Handle) (seen : List Store) (store : Store) :
    Decidable (seesUnshadowed call handle seen store) := by
  unfold seesUnshadowed
  split <;> infer_instance

/-- No call adds to a transaction that has ended, and whenever `CreateVIP` or `UpdateVIP` on a
transaction reads the store, the index entry of the tuple that it gives to its VIP names no VIP
that the transaction has deleted or moved, unless the transaction has released the tuple. -/
def tuplesReleased (clients : Handles) (event : Sessions.Event ClientCall) : Prop :=
  clients.CallsAllowed staysEnded event ∧ clients.ReadsAllowed seesUnshadowed event

instance (clients : Handles) (event : Sessions.Event ClientCall) :
    Decidable (tuplesReleased clients event) := by
  unfold tuplesReleased
  infer_instance

/-- Writes that keep VIPs entered under their tuples. -/
def Indexes (store : Store) (ops : List Op) : Prop :=
  TuplesIndexed store → Indexing store ops

/-- Wherever the conditions of a transaction hold, it enters what it puts and leaves the entries
of others alone, and until it ends its bookkeeping is coherent. -/
def Handle.Sound (handle : Handle) (store : Store) : Prop :=
  Keyed handle.tx.ops ∧ ∀ now, Evolves Indexes store now → TuplesIndexed now →
    handle.tx.Applies now → Entered handle.tx.ops ∧ Settled now handle.tx.ops ∧
      (handle.ended = false → Coherent now handle.tx)

theorem handle_begin_sound (store : Store) : Handle.Sound ⟨.begin, false⟩ store := by
  refine ⟨keyed_of_no_object (by simp [EtcdTransaction.begin]), fun now _ _ _ => ?_⟩
  exact ⟨(Coherent.begin now).enters, (Coherent.begin now).settled, fun _ => .begin now⟩

theorem Handle.Sound.evolves {handle : Handle} {store later : Store} (sound : handle.Sound store)
    (evolved : Evolves Indexes store later) : handle.Sound later :=
  ⟨sound.1, fun now further => sound.2 now (evolved.trans further)⟩

theorem Handle.Sound.move {handle : Handle} {context : Context} {operation : TxOperation}
    {sees : List Store → Store → Prop} {next : EtcdTransaction} {store : Store}
    (sound : handle.Sound store) (ending : handle.ended = true → operation.ends = true)
    (clear : ∀ seen store, sees seen store → operation.unshadowed handle.tx store)
    (move : EtcdTransaction.Move Indexes sees context handle.tx operation next store) :
    Handle.Sound ⟨next, handle.ended || operation.ends⟩ store := by
  obtain ⟨keyed, fits⟩ := sound
  refine ⟨move.keyed keyed, fun now evolved indexed applies => ?_⟩
  cases ends : operation.ends with
  | false =>
    have building : handle.ended = false := by
      cases ended : handle.ended with
      | false => rfl
      | true => cases ends.symm.trans (ending ended)
    have coherent := move.coherent evolved indexed ends clear applies fun earlier =>
      (fits now evolved indexed earlier).2.2 building
    exact ⟨coherent.enters, coherent.settled, fun _ => coherent⟩
  | true =>
    cases move with
    | unchanged | commit _ _ =>
      obtain ⟨entered, settled, -⟩ := fits now evolved indexed applies
      exact ⟨entered, settled, by simp⟩
    | rollback =>
      exact ⟨fun _ _ last => (nomatch last), fun _ _ _ last => (nomatch last), by simp⟩
    | createVIP | readParent | addBackend | readUpdated | updateVIP | deleteVIP
      | deleteStoredVIP => cases ends

theorem handles_obligations {rules : TextRules} :
    Sessions.Obligations (evolution Indexes) (ClientCall.track rules) staysEnded seesUnshadowed
      (fun store => Sane store ∧ TuplesIndexed store) Handle.Sound where
  kept := fun _ _ holds evolved => keeps_of_evolves TuplesIndexed evolved
    (fun _ _ _ indexed writes fine => indexed.write writes fine fun _ indexing =>
      indexing indexed) holds
  sound := by
    intro call handle store calls holds sound
    have changes : ∀ now, Evolves Indexes store now → handle.tx.Applies now →
        Indexes now (compacted handle.tx.ops) := by
      intro now evolved applies indexed
      obtain ⟨entered, settled, -⟩ := sound.2 now evolved indexed applies
      exact entered.indexing settled indexed
    refine Routine.Sound.bind (sound_program (fun _ _ changed => changed.indexing) holds.1 sound.1
      changes call) fun after _ later ended => ?_
    obtain ⟨evolved, leaves⟩ := ended
    have still := sound.evolves evolved
    cases call with
    | plain context operation =>
      obtain rfl := leaves
      exact still
    | beginTx =>
      obtain rfl := leaves
      exact handle_begin_sound later
    | onTx context operation => exact still.move calls (fun _ _ saw => saw) leaves

theorem tuplesIndexed_of_reachable {rules : TextRules} {clients : Handles}
    (reached : (handles rules).Reachable tuplesReleased clients) : TuplesIndexed clients.state :=
  (Sessions.secure_of_reachable handles_obligations ⟨sane_empty, tuplesIndexed_empty⟩
    (fun later _ => handle_begin_sound later) (fun _ _ released => released)
    reached).invariant.2

/-- **Commits beside other writers.** In every run in which no call adds to a transaction that
has ended, and a transaction takes the tuple of a VIP that it has deleted or moved only where it
has released it, no two stored VIPs have the same tuple; and an etcd transaction that is carried
out, a commit or any other, leaves the tuple index entry of every stored VIP that it does not
write. -/
theorem commits_keep_entries_of_others {rules : TextRules} {clients : Handles}
    (reached : (handles rules).Reachable tuplesReleased clients) :
    (∀ first second one other, clients.state.vip first = some one →
      clients.state.vip second = some other → one.tuple = other.tuple → first = second) ∧
    ∀ event after txn, (handles rules).step clients event = some after →
      clients.pending event = some txn →
        ∀ id vip, clients.state.vip id = some vip →
          (∀ op ∈ txn.ops, op.Spares Range.covers (.vip id)) →
            clients.state.owner (.vipTuple vip.tuple) = some id ∧
              after.state.owner (.vipTuple vip.tuple) = some id := by
  have indexed := tuplesIndexed_of_reachable reached
  refine ⟨fun first second one other stored also same => indexed.unique stored also same, ?_⟩
  intro event after txn moves asks id vip stored spared
  refine ⟨indexed id vip stored, ?_⟩
  cases event with
  | call index call | abandon index => cases asks
  | step index =>
    simp only [Sessions.pending] at asks
    split at asks
    next call memory seen query rest busy =>
      obtain rfl := Option.some.inj asks
      have allowed : tuplesReleased clients (.step index) :=
        ⟨by rintro _ ⟨⟩, by simp [Sessions.ReadsAllowed, Sessions.reading, busy]⟩
      refine tuplesIndexed_of_reachable (reached.step allowed moves) id vip ?_
      -- the step carries the transaction out
      change Sessions.next (Etcd.handle Range.covers) (ClientCall.track rules) clients
        (.step index) = some after at moves
      simp only [Sessions.next, busy] at moves
      obtain rfl := Option.some.inj moves
      obtain same | ⟨-, -, -, written⟩ := Etcd.handle_writes Range.covers query clients.state
      · exact (congrArg (Store.vip · id) same).trans stored
      · refine (congrArg (Store.vip · id) written).trans ?_
        exact (value_write_of_spares spared).trans stored
    next => cases asks

/-- No one has called yet. -/
def Handles.start : Handles := ⟨Store.empty, fun _ => .idle ⟨.begin, false⟩⟩

theorem handles_start (rules : TextRules) (guard : Handles → Sessions.Event ClientCall → Prop) :
    (handles rules).Reachable guard Handles.start :=
  .initial rfl

/-- A transaction gives the tuple of a VIP to another one and is about to commit; another
client has created a VIP meanwhile. -/
def reusedTuple : List (Sessions.Event ClientCall) :=
  Sessions.callThrough 1 (Operation.createVIP (.web "web" "192.0.2.1")).calls 3 ++
  Sessions.callThrough 0 (TxOperation.deleteVIP "web").calls 2 ++
  Sessions.callThrough 0 (TxOperation.createVIP (.web "api" "192.0.2.1")).calls 1 ++
  Sessions.callThrough 1 (Operation.createVIP (.web "shop" "192.0.2.2")).calls 3 ++
  Sessions.callThrough 0 TxOperation.commit.calls 1

/-- The next step of the first client carries out a transaction that writes the VIP `writes`
and leaves the VIP `spares` alone. -/
def commitsNext (clients : Handles) (writes spares : String) : Bool :=
  match clients.pending (.step 0) with
  | none => false
  | some txn =>
    txn.ops.any (Etcd.Op.touches Range.covers (.vip writes)) &&
      txn.ops.all fun op => !op.touches Range.covers (.vip spares)

theorem commits_keep_entries_of_others_reused :
    ∃ clients after vip, (handles .lenient).run Handles.start reusedTuple = some clients ∧
      (handles .lenient).step clients (.step 0) = some after ∧
      after.state.count = some 4 ∧ clients.state.vip "shop" = some vip ∧
      after.state.owner (.vipTuple vip.tuple) = some "shop" := by
  obtain ⟨clients, runs, commits, found, moves⟩ := (handles .lenient).exists_run_of_check
    Handles.start reusedTuple
    (fun clients => commitsNext clients "api" "shop" = true ∧
      (clients.state.vip "shop").isSome = true ∧
      (((handles .lenient).step clients (.step 0)).any fun after =>
        decide (after.state.count = some 4)) = true) (by decide +kernel)
  have reached := (handles_start .lenient tuplesReleased).run (by decide +kernel) runs
  obtain ⟨after, moves, counted⟩ := (Option.any_eq_true ..).mp moves
  obtain ⟨vip, stored⟩ := Option.isSome_iff_exists.mp found
  unfold commitsNext at commits
  split at commits
  next => cases commits
  next txn asks =>
    rw [Bool.and_eq_true] at commits
    have spared : ∀ op ∈ txn.ops, op.Spares Range.covers (.vip "shop") := fun op member =>
      Etcd.Op.touches_eq_false.mp
        (by simpa using List.all_eq_true.mp commits.2 op member)
    exact ⟨clients, after, vip, runs, moves, of_decide_eq_true counted, stored,
      ((commits_keep_entries_of_others reached).2 _ after txn moves asks "shop" vip stored
        spared).2⟩

/-- A VIP that a transaction deletes moves to another tuple, which the transaction then takes
without a condition; the VIP moves back and a new one is created under that tuple before the
commit. -/
def takenWithoutCondition : List (Sessions.Event ClientCall) :=
  Sessions.callThrough 1 (Operation.createVIP (.web "web" "192.0.2.1")).calls 3 ++
  Sessions.callThrough 0 (TxOperation.deleteVIP "web").calls 2 ++
  Sessions.callThrough 1 (Operation.updateVIP (.web "web" "192.0.2.2")).calls 7 ++
  Sessions.callThrough 0 (TxOperation.createVIP (.web "api" "192.0.2.2")).calls 1 ++
  Sessions.callThrough 1 (Operation.updateVIP (.web "web" "192.0.2.1")).calls 7 ++
  Sessions.callThrough 1 (Operation.createVIP (.web "shop" "192.0.2.2")).calls 3 ++
  Sessions.callThrough 0 TxOperation.commit.calls 1

/-- The tuple that the new VIP is created under. -/
def contendedTuple : Tuple := (VIP.web "shop" "192.0.2.2").tuple

/-- The commit overwrites the entry of the new VIP and leaves two VIPs on one tuple. -/
theorem commit_overwrites_entry_of_other :
    ∃ clients after, (handles .lenient).Reachable TransitionSystem.unguarded clients ∧
      (handles .lenient).step clients (.step 0) = some after ∧
      commitsNext clients "api" "shop" = true ∧
      clients.state.owner (.vipTuple contendedTuple) = some "shop" ∧
      after.state.owner (.vipTuple contendedTuple) = some "api" ∧
      (after.state.vip "shop").map VIP.tuple = some contendedTuple ∧
      (after.state.vip "api").map VIP.tuple = some contendedTuple := by
  obtain ⟨clients, runs, commits, owned, moves⟩ := (handles .lenient).exists_run_of_check
    Handles.start takenWithoutCondition
    (fun clients => commitsNext clients "api" "shop" = true ∧
      clients.state.owner (.vipTuple contendedTuple) = some "shop" ∧
      (((handles .lenient).step clients (.step 0)).any fun after =>
        decide (after.state.owner (.vipTuple contendedTuple) = some "api" ∧
          (after.state.vip "shop").map VIP.tuple = some contendedTuple ∧
          (after.state.vip "api").map VIP.tuple = some contendedTuple)) = true) (by decide +kernel)
  have reached := (handles_start .lenient _).run
    (TransitionSystem.meets_unguarded _ _ takenWithoutCondition) runs
  obtain ⟨after, moves, twice⟩ := (Option.any_eq_true ..).mp moves
  exact ⟨clients, after, reached, moves, commits, owned, of_decide_eq_true twice⟩

end ArcaLB.Datastore
