import ArcaLB.Datastore.Steps

/-!
# Operations make no other changes

The evolution of the store is a sequence of the changes of `Steps`.  Each operation is sound
for it: whatever happens between its reads and its transactions, each transaction that goes
through is one of these changes.  The facts about the store at a commit come from two places:
the conditions of the transaction, and what cannot have happened since a read without the
number of the configuration, or the modification revision of an entry, being different.
-/

namespace ArcaLB.Datastore

/-- The store evolves by the writes of transactions; `change` says what may be committed. -/
def evolution (change : Store → List Op → Prop) : Evolution Store Txn Etcd.Reply where
  perform := Etcd.handle Range.covers
  moves := fun store txn =>
    txn.conditions.all (Etcd.Compare.holds store) = true →
      txn.ops.any Etcd.Op.isWrite = true → Write change store txn.ops

/-- A store and the same store later on. -/
abbrev Evolves (change : Store → List Op → Prop) : Store → Store → Prop :=
  (evolution change).evolves

/-- A step of the evolution leaves the store as it is or makes writes. -/
theorem step_cases {change : Store → List Op → Prop} {store next : Store}
    (step : (evolution change).Step store next) :
    next = store ∨ ∃ ops, Etcd.Op.putOnce Range.covers ops = true ∧ Write change store ops ∧
      next = store.apply ops := by
  obtain ⟨txn, moves, rfl⟩ := step
  obtain same | ⟨fine, holds, writes, written⟩ := Etcd.handle_writes Range.covers txn store
  · exact .inl same
  · exact .inr ⟨txn.ops, fine, moves holds writes, written⟩

namespace Call

variable {change : Store → List Op → Prop} {sees : List Store → Store → Prop} {α β : Type}
  {seen : List Store} {store : Store}

/-- A call is sound, and where it returns a value this has `post`. -/
def Sound (change : Store → List Op → Prop) (sees : List Store → Store → Prop)
    (post : α → List Store → Store → Prop) (call : Call α) (seen : List Store) (store : Store) :
    Prop :=
  call.run.Sound (evolution change) sees
    (fun result seen later => ∀ value, result = .ok value → post value seen later) seen store

namespace Sound

variable {post : β → List Store → Store → Prop}

theorem pure {value : β} (holds : post value seen store) :
    Sound change sees post (Pure.pure value) seen store := by
  rintro _ ⟨⟩
  exact holds

theorem throw {failure : Failure} :
    Sound change sees post (MonadExcept.throw failure) seen store := by
  rintro _ ⟨⟩

variable {next : α → Call β}

/-- **Sequence.** -/
theorem bind {mid : α → List Store → Store → Prop} {call : Call α}
    (first : Sound change sees mid call seen store)
    (second : ∀ {seen} value later, Evolves change store later → mid value seen later →
      Sound change sees post (next value) seen later) :
    Sound change sees post (call >>= next) seen store := by
  refine Routine.Sound.bind first.evolved fun result seen later ended => ?_
  cases result with
  | error failure => exact throw
  | ok value => exact second value later ended.2.1 (ended.2.2 value rfl)

theorem mono {stronger : β → List Store → Store → Prop} {call : Call β}
    (sound : Sound change sees stronger call seen store)
    (implies : ∀ {seen} value later, stronger value seen later → post value seen later) :
    Sound change sees post call seen store :=
  Routine.Sound.mono sound fun _ _ later holds value returned =>
    implies value later (holds value returned)

/-- A call that returns has seen more. -/
theorem sawMore {call : Call β} (sound : Sound change sees post call seen store) :
    Sound change sees (fun value after later => seen <:+ after ∧ post value after later) call
      seen store :=
  Routine.Sound.mono sound.evolved fun _ _ _ ended value returned =>
    ⟨ended.1, ended.2.2 value returned⟩

theorem context {text : String} {call : Call β} (sound : Sound change sees post call seen store) :
    Sound change sees post (call.context text) seen store := by
  refine Routine.Sound.bind sound fun result seen later holds => ?_
  cases result with
  | error failure => exact throw
  | ok value => exact pure (holds value rfl)

/-- A call whose error the caller looks at. -/
theorem attempt {post : α → List Store → Store → Prop} {call : Call α}
    (sound : Sound change sees post call seen store) :
    Sound change sees (fun result seen later => ∀ value, result = .ok value →
      post value seen later) (ExceptT.lift call.run) seen store := by
  refine Routine.Sound.bind sound fun result seen later holds => ?_
  exact pure holds

theorem read {part : Store → β} (holds : ∀ later, Evolves change store later → sees seen store →
      post (part store) (store :: seen) later) :
    Sound change sees post (Call.read part) seen store :=
  fun may => ⟨rfl, fun later evolved => pure (holds later evolved may)⟩

/-- A read shows the store as it may be seen. -/
theorem read_bind {part : Store → α} (rest : ∀ later, Evolves change store later → sees seen store →
      Sound change sees post (next (part store)) (store :: seen) later) :
    Sound change sees post (Call.read part >>= next) seen store :=
  fun may => ⟨rfl, fun later evolved => rest later evolved may⟩

theorem ofExcept_bind {result : Except Failure α}
    (rest : ∀ value, result = .ok value → Sound change sees post (next value) seen store) :
    Sound change sees post (Call.ofExcept result >>= next) seen store := by
  cases result with
  | error failure => exact throw
  | ok value => exact rest value rfl

/-- What a reply says about whether the conditions held. -/
def Answered (post : Bool → Prop) : Etcd.Reply → Prop
  | .succeeded => post true
  | .failed => post false
  | .rejected _ => True

/-- A transaction whose conditions hold makes its writes; any other changes nothing. -/
theorem commit {txn : Txn} {post : Bool → Store → Prop}
    (writes : txn.conditions.all (Etcd.Compare.holds store) = true →
      txn.ops.any Etcd.Op.isWrite = true → Write change store txn.ops)
    (succeeds : txn.conditions.all (Etcd.Compare.holds store) = true →
      Etcd.Op.putOnce Range.covers txn.ops = true →
        ∀ later, Evolves change store (store.apply txn.ops) →
          Evolves change (store.apply txn.ops) later → post true later)
    (fails : ∀ later, Evolves change store later → post false later) :
    Sound change sees (fun held _ => post held) (Call.commit txn) seen store := by
  have asked : Sound change sees (fun reply _ later => Answered (post · later) reply)
      (ExceptT.lift (Routine.ask txn)) seen store := by
    refine ⟨writes, fun later rely => pure ?_⟩
    change Evolves change (Etcd.handle Range.covers txn store).2 later at rely
    change Answered (post · later) (Etcd.handle Range.covers txn store).1
    have evolved : Evolves change store (Etcd.handle Range.covers txn store).2 :=
      .single ⟨txn, writes, rfl⟩
    obtain ⟨_, handled⟩ | handled | ⟨fine, holds, handled⟩ :=
      Etcd.handle_cases Range.covers txn store <;> rw [handled] at rely evolved ⊢
    · trivial
    · exact fails later rely
    · exact succeeds holds fine later evolved rely
  refine bind asked fun reply later _ holds => ?_
  cases reply with
  | succeeded | failed => exact pure holds
  | rejected _ => exact throw

end Sound

end Call

section Evolution

variable {change : Store → List Op → Prop} {store later : Store}

theorem grown_of_evolves (evolved : Evolves change store later) : Grown store later := by
  refine evolved.keeps (Grown store) (.refl store) fun before after grown step => ?_
  obtain rfl | ⟨ops, fine, writes, rfl⟩ := step_cases step
  · exact grown
  · exact grown.trans (writes.grown fine)

/-- What writes keep in a sane store is kept. -/
theorem keeps_of_evolves (invariant : Store → Prop) (evolved : Evolves change store later)
    (kept : ∀ store ops, Sane store → invariant store → Write change store ops →
      Etcd.Op.putOnce Range.covers ops = true → invariant (store.apply ops))
    (initially : Sane store ∧ invariant store) : Sane later ∧ invariant later := by
  refine evolved.keeps (fun store => Sane store ∧ invariant store) initially
    fun before after holds step => ?_
  obtain rfl | ⟨ops, fine, writes, rfl⟩ := step_cases step
  · exact holds
  · exact ⟨writes.sane fine holds.1, kept before ops holds.1 holds.2 writes fine⟩

theorem sane_of_evolves (evolved : Evolves change store later) (sane : Sane store) : Sane later :=
  (keeps_of_evolves (fun _ => True) evolved (fun _ _ _ _ _ _ => trivial) ⟨sane, trivial⟩).1

end Evolution

section Conditions

variable {store : Store} {owned : Bool} {old new index : Index} {id : String}

theorem value_of_absent {key : Key} (holds : (Etcd.Compare.absent key).holds store = true) :
    store.value key = none := by
  rw [Etcd.value, Etcd.holds_absent.mp holds]
  rfl

theorem value_of_present {key : Key} (holds : (Etcd.Compare.present key).holds store = true) :
    ∃ value, store.value key = some value := by
  obtain ⟨entry, looked⟩ := Etcd.holds_present.mp holds
  exact ⟨entry.value, by rw [Etcd.value, looked]; rfl⟩

theorem owner_of_ownedChecks
    (holds : ∀ check ∈ ownedChecks owned index id, check.cmp.holds store = true)
    (own : owned = true) : store.owner index = some id := by
  have last := holds ⟨.value (.index index) id, .notFound⟩ (by simp [ownedChecks, own])
  exact Etcd.holds_value.mp last

theorem owner_of_moveChecks
    (holds : ∀ check ∈ moveChecks old new, check.cmp.holds store = true) (moved : old ≠ new) :
    store.owner new = none :=
  value_of_absent (holds ⟨.absent (.index new), .conflict⟩ (by simp [moveChecks, moved]))

end Conditions

/-! ## The pieces -/

section Pieces

open Call

variable {change : Store → List Op → Prop} {sees : List Store → Store → Prop}
  {seen : List Store} {store : Store}

/-- Nothing more is known of a result. -/
abbrev Anything {α : Type} (_ : α) (_ : List Store) (_ : Store) : Prop := True

theorem sound_getRevisionValue :
    Sound change sees (fun value _ _ => store.count = some value) getRevisionValue seen store := by
  refine .read_bind fun later _ _ => ?_
  cases counted : store.count with
  | none => exact .throw
  | some value => exact .pure rfl

theorem sound_firstFailedEtcdTxnCheck (checks : List Check) :
    Sound change sees Anything (firstFailedEtcdTxnCheck checks) seen store := by
  induction checks generalizing seen store with
  | nil => exact .pure trivial
  | cons check rest ih =>
    have checked : Sound change sees Anything
        (Call.commit ⟨[check.cmp], [.get .revision]⟩) seen store :=
      .commit (by simp [Etcd.Op.isWrite]) (fun _ _ _ _ _ => trivial) fun _ _ => trivial
    refine .bind checked.context fun holds _ _ _ => ?_
    cases holds with
    | true => exact ih
    | false => exact .pure trivial

/-- **Commit.** What is committed is a change wherever all conditions hold. -/
theorem sound_commitWithRevision {checks : List Check} {ops : List Op} (keyed : Keyed ops)
    (changes : ∀ now, Evolves change store now →
      (∀ check ∈ checks, check.cmp.holds now = true) → change now ops) (rounds : Nat) :
    Sound change sees Anything (commitWithRevision checks ops rounds) seen store := by
  induction rounds generalizing seen store with
  | zero => exact .throw
  | succ rounds ih =>
    refine .bind sound_getRevisionValue fun current read reading _ => ?_
    have committed : ∀ {seen}, Sound change sees Anything
        (Call.commit (revisionTxn checks ops current)) seen read := by
      refine .commit (fun conditions _ => ?_) (fun _ _ _ _ _ => trivial) fun _ _ => trivial
      simp only [List.all_cons, Bool.and_eq_true, Etcd.holds_value, List.all_map,
        List.all_eq_true, Function.comp_apply] at conditions
      exact .commit conditions.1 (changes read reading conditions.2) keyed
    refine .bind committed.context fun succeeded later committing _ => ?_
    cases succeeded with
    | true => exact .pure trivial
    | false =>
      refine .bind (sound_firstFailedEtcdTxnCheck checks) fun failed after checking _ => ?_
      cases failed with
      | some failure => exact .throw
      | none =>
        exact ih fun now evolves =>
          changes now (reading.trans (committing.trans (checking.trans evolves)))

/-- What a claim has found out: at some moment since it started, the index entry named the
object, or the claim has seen it name another one. -/
def Claimed (change : Store → List Op → Prop) (sees : List Store → Store → Prop) (seen : List Store)
    (store : Store) (index : Index) (id : String) (owned : Bool) (later : Store) : Prop :=
  ∃ moment, Evolves change store moment ∧ Evolves change moment later ∧
    (owned = true → moment.owner index = some id) ∧
    (owned = false → ∃ other, other ≠ id ∧ moment.owner index = some other ∧
      ∃ after, seen <:+ after ∧ sees after moment)

theorem sound_claimIndex {description : String} {index : Index} {object : Key} {id : String}
    (tends : ∀ now : Store, (∃ value, now.value object = some value) → now.owner index = none →
      Tending now [.put (.index index) id]) (rounds : Nat) :
    Sound change sees (fun owned _ => Claimed change sees seen store index id owned)
      (claimIndex description index object id rounds) seen store := by
  induction rounds generalizing seen store with
  | zero => exact .throw
  | succ rounds ih =>
    refine .read_bind fun read reading saw => ?_
    cases looked : store.owner index with
    | some owner =>
      refine .pure ⟨store, .refl, reading, ?_, ?_⟩
      · intro owned
        rw [looked, of_decide_eq_true owned]
      · intro foreign
        exact ⟨owner, of_decide_eq_false foreign, looked, seen, List.suffix_rfl, saw⟩
    | none =>
      have committed : ∀ {among}, Sound change sees
          (fun succeeded _ later =>
            succeeded = true → Claimed change sees seen store index id true later)
          (Call.commit ⟨[.present object, .absent (.index index)],
            [.put (.index index) id]⟩) among read := by
        refine .commit (fun conditions _ => ?_) (fun _ fine later own rely _ => ?_) (by simp)
        · simp only [List.all_cons, List.all_nil, Bool.and_true, Bool.and_eq_true]
            at conditions
          exact .tend (tends read (value_of_present conditions.1)
            (value_of_absent conditions.2))
        · exact ⟨_, reading.trans own, rely, fun _ => value_write_of_put fine (by simp),
            by simp⟩
      refine .bind committed.context.sawMore fun succeeded later committing claimed => ?_
      cases succeeded with
      | true => exact .pure (claimed.2 rfl)
      | false =>
        refine .read_bind fun after evolves _ => ?_
        cases (later.lookup object).isSome with
        | false => exact .throw
        | true =>
          refine ih.mono fun owned last again => ?_
          obtain ⟨moment, before, rest, own, foreign⟩ := again
          refine ⟨moment, reading.trans (committing.trans (evolves.trans before)), rest, own, ?_⟩
          intro notOwned
          obtain ⟨other, different, named, after, more, saw⟩ := foreign notOwned
          have longer := (List.suffix_cons ..).trans (claimed.1.trans (List.suffix_cons later _))
          exact ⟨other, different, named, after, longer.trans more, saw⟩

theorem sound_claimVIPTupleIndex (vip : VIP) (rounds : Nat) :
    Sound change sees
      (fun owned _ => Claimed change sees seen store (.vipTuple vip.tuple) vip.id owned)
      (claimVIPTupleIndex vip rounds) seen store :=
  sound_claimIndex (fun _ ⟨_, stored⟩ free => .claimTuple stored free) rounds

theorem sound_claimBackendIPIndex (backend : Backend) (rounds : Nat) :
    Sound change sees
      (fun owned _ =>
        Claimed change sees seen store (.backendIP backend.vipID backend.ip) backend.id owned)
      (claimBackendIPIndex backend rounds) seen store :=
  sound_claimIndex (fun _ ⟨_, stored⟩ free => .claimIP stored free) rounds

theorem sound_removeIndex {description : String} {index : Index} {owner : String} {object : Key}
    (tends : ∀ now : Store, now.owner index = some owner → now.value object = none →
      Tending now [.delete (.index index)]) :
    Sound change sees Anything (removeIndex description index owner object) seen store := by
  have committed : Sound change sees Anything
      (Call.commit ⟨[.value (.index index) owner, .absent object], [.delete (.index index)]⟩)
      seen store := by
    refine .commit (fun conditions _ => ?_) (fun _ _ _ _ _ => trivial) fun _ _ => trivial
    simp only [List.all_cons, List.all_nil, Bool.and_true, Bool.and_eq_true,
      Etcd.holds_value] at conditions
    exact .tend (tends store conditions.1 (value_of_absent conditions.2))
  exact .bind committed.context fun _ _ _ _ => .pure trivial

theorem sound_removeIPIndexes (vipID : String) (entries : List (String × String)) :
    Sound change sees Anything (removeIPIndexes vipID entries) seen store := by
  induction entries generalizing seen store with
  | nil => exact .pure trivial
  | cons entry rest ih =>
    exact .bind (sound_removeIndex fun _ own gone => .removeIP own gone) fun _ _ _ _ => ih

theorem sound_removeBackendIndexes (vipID : String) (ids : List String) :
    Sound change sees Anything (removeBackendIndexes vipID ids) seen store := by
  induction ids generalizing seen store with
  | nil => exact .pure trivial
  | cons id rest ih =>
    exact .bind (sound_removeIndex fun _ own gone => .removeBackend own gone) fun _ _ _ _ => ih

theorem sound_deleteBackendIndexesForVIP (vipID : String) :
    Sound change sees Anything (deleteBackendIndexesForVIP vipID) seen store := by
  have ips : Sound change sees Anything (deleteBackendIPIndexesForVIP vipID) seen store :=
    .read_bind fun _ _ _ => sound_removeIPIndexes vipID _
  exact .bind ips fun _ _ _ _ => .read_bind fun _ _ _ => sound_removeBackendIndexes vipID _

theorem sound_getVIPWithModRevision (id : String) :
    Sound change sees (fun entry _ _ => store.lookup (.vip id) = some entry)
      (getVIPWithModRevision id) seen store := by
  refine .read_bind fun _ _ _ => ?_
  cases looked : store.lookup (.vip id) with
  | none => exact .throw
  | some entry => exact .pure rfl

theorem sound_getVIP (id : String) :
    Sound change sees (fun vip _ _ => store.vip id = some vip) (getVIP id) seen store := by
  refine .ofExcept_bind fun _ _ => ?_
  refine .bind (sound_getVIPWithModRevision id) fun entry _ _ looked => .pure ?_
  rw [Store.vip, Etcd.value, looked]
  rfl

/-- `GetBackend` reads the index before the backend. -/
theorem sound_getBackend (id : String) :
    Sound change sees
      (fun backend after _ => ∃ vipID read, Evolves change store read ∧
        store.owner (.backend id) = some vipID ∧ read.backend vipID id = some backend ∧
          after = read :: store :: seen)
      (getBackend id) seen store := by
  refine .ofExcept_bind fun _ _ => .read_bind fun read reading _ => ?_
  cases indexed : store.owner (.backend id) with
  | none => exact .throw
  | some vipID =>
    refine .read_bind fun _ _ _ => ?_
    cases looked : read.backend vipID id with
    | none => exact .throw
    | some backend => exact .pure ⟨vipID, read, reading, rfl, looked, rfl⟩

theorem sound_checkVIPTupleAvailable (vip : VIP) :
    Sound change sees Anything (checkVIPTupleAvailable vip) seen store := by
  refine .read_bind fun _ _ _ => ?_
  split
  · exact .throw
  · exact .pure trivial

theorem sound_listBackends (vipID : String) :
    Sound change sees (fun backends _ _ => backends = store.backends vipID)
      (listBackends vipID) seen store :=
  .ofExcept_bind fun _ _ => .read fun _ _ _ => rfl

theorem sound_checkBackendIPAvailable (backend : Backend) :
    Sound change sees Anything (checkBackendIPAvailable backend) seen store := by
  refine .bind (sound_listBackends backend.vipID) fun _ _ _ _ => ?_
  split
  · exact .throw
  · exact .pure trivial

end Pieces

/-! ## The operations -/

section Operations

open Call

variable {strict : Prop} {change : Store → List Op → Prop}
  {sees : List Store → Store → Prop} {seen : List Store} {store : Store} {rules : TextRules}
  {context : Context} (includes : ∀ store ops, Change strict store ops → change store ops)

include includes

theorem sound_createVIP (vip : VIP) :
    Sound change sees Anything (createVIP rules context vip) seen store := by
  refine .ofExcept_bind fun _ _ => ?_
  refine .bind (sound_checkVIPTupleAvailable _).context fun _ _ _ _ => ?_
  refine (sound_commitWithRevision ?_ ?_ _).context
  · exact (keyed_putVIP _).append (keyed_putIndex ..)
  · intro now _ holds
    simp only [List.forall_mem_cons] at holds
    obtain ⟨fresh, free, -⟩ := holds
    exact includes _ _ (.createVIP (value_of_absent fresh) (value_of_absent free))

theorem sound_updateVIP (sane : Sane store) (vip : VIP) :
    Sound change sees Anything (updateVIP rules context vip) seen store := by
  refine .ofExcept_bind fun _ _ => .ofExcept_bind fun _ _ => ?_
  refine .bind sound_getRevisionValue fun revision started starting counted => ?_
  refine .bind (sound_getVIP vip.id).context fun existing read reading found => ?_
  refine .bind (sound_claimVIPTupleIndex existing _).context fun owned claimed _ claim => ?_
  obtain ⟨moment, before, claiming, -, foreign⟩ := claim
  refine .bind (sound_checkVIPTupleAvailable _).context fun _ checked checking _ => ?_
  refine .bind (sound_listBackends _).context fun backends listed listing list => ?_
  subst list
  refine .ofExcept_bind fun _ valid => ?_
  refine (sound_commitWithRevision ?_ ?_ _).context
  · exact (keyed_putVIP _).append (keyed_moveOps ..)
  · intro now committing holds
    simp only [List.forall_mem_append, List.forall_mem_cons] at holds
    obtain ⟨⟨⟨-, current, -⟩, own⟩, free⟩ := holds
    have fromCheck := listing.trans committing
    have fromMoment := claiming.trans (checking.trans fromCheck)
    have fromStart := reading.trans (before.trans fromMoment)
    have unchanged : store.number = now.number := by
      rw [Store.number, Store.number, counted, Store.count, Etcd.holds_value.mp current]
    -- the number of the configuration is the one at the start, so it was all the time
    have steady : ∀ middle, Evolves change store middle →
        Evolves change middle now → middle.number = now.number := by
      intro middle first second
      have := (grown_of_evolves first).number_le
      have := (grown_of_evolves second).number_le
      omega
    have sameID : existing.id = vip.id := (sane_of_evolves starting sane).vip_id _ _ found
    refine includes _ _ (.updateVIP ?_ ?_ (owner_of_ownedChecks own) ?_ ?_)
    · rw [prepareChangedVIP_id, ← found]
      exact (grown_of_evolves fromStart).vip_same (steady started starting fromStart) vip.id
    · intro id backend stored
      have same := steady checked
        (starting.trans (reading.trans (before.trans (claiming.trans checking)))) fromCheck
      rw [(grown_of_evolves fromCheck).backend_same same] at stored
      exact validateBackendFamiliesForVIP_eq_ok.mp valid backend
        (Store.mem_backends.mpr ⟨id, stored⟩)
    · intro notOwned
      obtain ⟨other, different, named, -⟩ := foreign notOwned
      have same := steady moment (starting.trans (reading.trans before)) fromMoment
      refine ⟨other, ?_, (grown_of_evolves fromMoment).owner_kept same _ _ named⟩
      rw [prepareChangedVIP_id, ← sameID]
      exact different
    · intro moved
      exact owner_of_moveChecks free fun same => moved (Index.vipTuple.inj same)

theorem sound_deleteVIP (id : String) :
    Sound change sees Anything (deleteVIP context id) seen store := by
  have failed : ∀ {seen} (failure : Failure) (later : Store), Sound change sees Anything
      (do
        if failure.kind = .notFound then deleteBackendIndexesForVIP id
        throw (failure.wrap "failed to delete VIP from etcd") : Call Unit) seen later := by
    intro seen failure later
    split
    · exact .bind (sound_deleteBackendIndexesForVIP id) fun _ _ _ _ => .throw
    · exact .throw
  refine .ofExcept_bind fun _ _ => ?_
  refine .bind (Sound.attempt (sound_getVIP id)) fun result read _ _ => ?_
  cases result with
  | error failure => exact failed failure read
  | ok vip =>
    refine .bind (sound_claimVIPTupleIndex vip _).context fun owned claimed _ _ => ?_
    have committed : ∀ {seen}, Sound change sees Anything (commitWithRevision
        (⟨.present (.vip id), .notFound⟩ :: ownedChecks owned (.vipTuple vip.tuple) id)
        ([.delete (.vip id), .deleteRange (.backends id)] ++
          releaseOps owned (.vipTuple vip.tuple)) context.rounds) seen claimed := by
      refine sound_commitWithRevision ?_ ?_ _
      · exact (keyed_of_no_object (by simp)).append (keyed_releaseOps ..)
      · intro now _ holds
        rw [List.forall_mem_cons] at holds
        obtain ⟨_, stored⟩ := value_of_present holds.1
        exact includes _ _ (.deleteVIP stored (owner_of_ownedChecks holds.2))
    refine .bind (Sound.attempt committed) fun result later _ _ => ?_
    cases result with
    | error failure => exact failed failure later
    | ok _ => exact sound_deleteBackendIndexesForVIP id

omit includes in
/-- The parent of a backend at a commit is the one that was read. -/
theorem stored_of_parentChecks {now : Store} {vipID : String} {entry : Etcd.Entry VIP}
    (sane : Sane store) (evolved : Evolves change store now)
    (looked : store.lookup (.vip vipID) = some entry)
    (holds : ∀ check ∈ parentChecks vipID entry.modRevision, check.cmp.holds now = true) :
    now.vip vipID = some entry.value := by
  simp only [parentChecks, List.forall_mem_cons] at holds
  obtain ⟨stored, current⟩ := Etcd.holds_present.mp holds.1
  have same : stored.modRevision = entry.modRevision := by
    simpa [Etcd.Compare.holds, current] using holds.2.1
  rw [Store.vip, Etcd.value, current,
    (grown_of_evolves evolved).grows.unchanged sane.dated looked current same]
  rfl

theorem sound_addBackend (sane : Sane store) (backend : Backend) :
    Sound change sees Anything (addBackend context backend) seen store := by
  refine .ofExcept_bind fun _ _ => ?_
  refine .bind (sound_getVIPWithModRevision _).context fun parent read reading looked => ?_
  refine .ofExcept_bind fun _ family => ?_
  refine .bind (sound_checkBackendIPAvailable _).context fun _ checked checking _ => ?_
  refine (sound_commitWithRevision ?_ ?_ _).context
  · exact (keyed_putBackend _).append ((keyed_putIndex ..).append (keyed_putIndex ..))
  · intro now committing holds
    simp only [List.forall_mem_append, List.forall_mem_cons] at holds
    obtain ⟨unchanged, fresh, unindexed, free, -⟩ := holds
    have stored := stored_of_parentChecks sane (reading.trans (checking.trans committing)) looked
      unchanged
    exact includes _ _ (.addBackend stored (validateBackendAddressFamilyForVIP_eq_ok.mp family)
      (value_of_absent fresh) (value_of_absent unindexed) (value_of_absent free))

/-- What an `UpdateBackend` call sees when no other backend crosses it: once it has read the
index and the backend, and keeps the IP of the backend, the index entry of the IP names no
other backend. -/
def uncrossed (backend : Backend) (seen : List Store) (store : Store) : Bool :=
  match seen.reverse with
  | first :: second :: _ =>
    (first.owner (.backend backend.id)).all fun vipID =>
      (second.backend vipID backend.id).all fun existing =>
        existing.ip ≠ backend.ip || (store.owner (.backendIP vipID backend.ip)).all (· = backend.id)
  | _ => true

theorem sound_updateBackend (sane : Sane store) (backend : Backend)
    (clear : strict → ∀ seen store, sees seen store → uncrossed backend seen store = true) :
    Sound change sees Anything (updateBackend context backend) [] store := by
  refine .ofExcept_bind fun _ _ => .ofExcept_bind fun _ _ => ?_
  refine .bind (sound_getBackend _).context fun existing read reading found => ?_
  obtain ⟨vipID, middle, begun, indexed, found, rfl⟩ := found
  obtain ⟨sameVIP, sameID⟩ := (sane_of_evolves begun sane).backend_id _ _ _ found
  refine .bind (sound_claimBackendIPIndex existing _).context
    fun owned claimed claiming claim => ?_
  have kept : strict → existing.ip = backend.ip → owned = true := by
    intro apart same
    obtain ⟨moment, -, -, -, foreign⟩ := claim
    by_contra notOwned
    obtain ⟨other, different, named, _, ⟨more, rfl⟩, saw⟩ := foreign (by simpa using notOwned)
    have holds := clear apart _ _ saw
    rw [sameVIP, same] at named
    rw [sameID] at different
    simp [uncrossed, indexed, found, same, named, different] at holds
  refine .ofExcept_bind fun _ _ => ?_
  refine .bind (sound_getVIPWithModRevision _).context fun parent got getting looked => ?_
  refine .ofExcept_bind fun _ family => ?_
  refine .bind (sound_checkBackendIPAvailable _).context fun _ checked checking _ => ?_
  refine (sound_commitWithRevision ?_ ?_ _).context
  · exact (keyed_putBackend _).append ((keyed_putIndex ..).append (keyed_moveOps ..))
  · intro now committing holds
    simp only [List.forall_mem_append, backendChecks, List.forall_mem_cons] at holds
    obtain ⟨⟨⟨unchanged, present, -, indexed, -⟩, own⟩, free⟩ := holds
    have saneRead := sane_of_evolves (reading.trans claiming) sane
    have stored := stored_of_parentChecks saneRead (getting.trans (checking.trans committing))
      looked unchanged
    obtain ⟨_, present⟩ := value_of_present present
    refine includes _ _ (.updateBackend stored
      (validateBackendAddressFamilyForVIP_eq_ok.mp family) present (Etcd.holds_value.mp indexed)
      (owner_of_ownedChecks own) kept fun moved => owner_of_moveChecks free fun same => ?_)
    exact moved (Index.backendIP.inj same).2

theorem sound_deleteBackend (id : String) :
    Sound change sees Anything (deleteBackend context id) seen store := by
  refine .ofExcept_bind fun _ _ => ?_
  refine .bind (sound_getBackend _).context fun backend _ _ _ => ?_
  refine .bind (sound_claimBackendIPIndex backend _).context fun owned _ _ _ => ?_
  refine (sound_commitWithRevision ?_ ?_ _).context
  · exact (keyed_of_no_object (by simp)).append (keyed_releaseOps ..)
  · intro now _ holds
    simp only [List.forall_mem_append, backendChecks, List.forall_mem_cons] at holds
    obtain ⟨⟨present, -, indexed, -⟩, own⟩ := holds
    obtain ⟨_, present⟩ := value_of_present present
    exact includes _ _ (.deleteBackend present (Etcd.holds_value.mp indexed)
      (owner_of_ownedChecks own))

end Operations

end ArcaLB.Datastore
