import ArcaLB.Datastore.Parents

/-!
# What a call does to a transaction

`EtcdTransaction` decides from what it remembers, and from what it reads, which conditions a
call adds.  `Move` lists what a call can leave behind, however it ends, and what is known then
of the store wherever the conditions hold later on.  An invariant of transactions has to be
kept by these moves, and by nothing else.
-/

namespace ArcaLB.Datastore

/-- The calls on a transaction. -/
inductive TxOperation where
  | createVIP (vip : VIP)
  | addBackend (backend : Backend)
  | updateVIP (vip : VIP)
  | deleteVIP (id : String)
  | commit
  | rollback
  deriving DecidableEq, Repr

/-- What a call on a transaction runs. -/
def TxOperation.call (rules : TextRules) (context : Context) : TxOperation → TxCall Unit
  | createVIP vip => EtcdTransaction.createVIP rules context vip
  | addBackend backend => EtcdTransaction.addBackend context backend
  | updateVIP vip => EtcdTransaction.updateVIP rules context vip
  | deleteVIP id => EtcdTransaction.deleteVIP context id
  | commit => EtcdTransaction.commit context
  | rollback => EtcdTransaction.rollback

namespace EtcdTransaction

/-- All conditions of the transaction hold. -/
def Applies (tx : EtcdTransaction) (now : Store) : Prop :=
  ∀ check ∈ tx.checks, check.cmp.holds now = true

/-- The transaction when `UpdateVIP` knows the original tuple of a VIP: the VIP is the
transaction's own, the tuple was recorded before, or it is recorded now and the VIP has it
wherever the new conditions hold. -/
inductive Recorded (change : Store → List Op → Prop) (later : Store) (id : String)
    (tx : EtcdTransaction) : EtcdTransaction → Prop where
  | own (created : id ∈ tx.createdVIPIDs) : Recorded change later id tx tx
  | before {tuple : Tuple} (checks : List Check)
      (original : tx.vipOriginalIndexes id = some tuple) :
      Recorded change later id tx (tx.addChecks checks)
  | now (tuple : Tuple) (owned : Bool) (checks : List Check)
      (foreign : id ∉ tx.createdVIPIDs) (unknown : tx.vipOriginalIndexes id = none)
      (stands : ∀ now, Evolves change later now →
        (∀ check ∈ checks, check.cmp.holds now = true) →
          ∃ vip, now.vip id = some vip ∧ vip.tuple = tuple) :
      Recorded change later id tx ((tx.recordOriginal id tuple owned).addChecks checks)

/-- The index entry of the tuple names a VIP that the transaction has deleted, or has moved to
another tuple. -/
def shadows (tx : EtcdTransaction) (tuple : Tuple) (store : Store) : Bool :=
  (store.owner (.vipTuple tuple)).any fun owner =>
    tx.deletedVIPIDs.contains owner || (tx.vipTupleIndexKeys owner).any (· ≠ tuple)

/-- A VIP may take its tuple: no other VIP of the transaction has it, and where its index entry
need not be free at the commit, the transaction has released the tuple or has seen the entry
name a VIP that it has deleted or moved. -/
structure Available (sees : List Store → Store → Prop) (tx : EtcdTransaction) (vip : VIP)
    (needsEmptyIndexCheck : Bool) : Prop where
  unclaimed : ∀ other, tx.vipTupleOwners vip.tuple = some other → other = vip.id
  unneeded : needsEmptyIndexCheck = false → (tx.vipReleasedTuples vip.tuple).isSome = true ∨
    ∃ seen store, sees seen store ∧ tx.shadows vip.tuple store = true

/-- What a call has left behind in a transaction, in the store `later` where it ends. -/
inductive Move (change : Store → List Op → Prop) (sees : List Store → Store → Prop)
    (context : Context) (tx : EtcdTransaction) :
    TxOperation → EtcdTransaction → Store → Prop where
  | unchanged {operation : TxOperation} {later : Store} :
      Move change sees context tx operation tx later
  | createVIP {given : VIP} {later : Store} (needsEmptyIndexCheck : Bool)
      (fresh : (prepareNewVIP context given).id ∉ tx.createdVIPIDs)
      (available : tx.Available sees (prepareNewVIP context given) needsEmptyIndexCheck) :
      Move change sees context tx (.createVIP given)
        (putNewVIP (prepareNewVIP context given) needsEmptyIndexCheck tx) later
  | readParent {given : Backend} {later : Store} (checks : List Check) :
      Move change sees context tx (.addBackend given) (tx.addChecks checks) later
  | addBackend {given : Backend} {parent : VIP} {later : Store} (checks : List Check)
      (kept : given.vipID ∉ tx.deletedVIPIDs)
      (family : FamilyAllowed parent (prepareNewBackend context given))
      (own : ∀ vip, tx.vipSpecs given.vipID = some vip → parent = vip)
      (stored : tx.vipSpecs given.vipID = none → ∀ now, Evolves change later now →
        (tx.addChecks checks).Applies now → now.vip given.vipID = some parent) :
      Move change sees context tx (.addBackend given)
        (putNewBackend (prepareNewBackend context given) (tx.addChecks checks)) later
  | readUpdated {given : VIP} {after : EtcdTransaction} {later : Store}
      (recorded : Recorded change later given.id tx after) :
      Move change sees context tx (.updateVIP given) after later
  | updateVIP {given vip : VIP} {after : EtcdTransaction} {later : Store}
      (needsEmptyIndexCheck : Bool) (same : vip.id = given.id ∧ vip.tuple = given.tuple)
      (kept : given.id ∉ tx.deletedVIPIDs) (recorded : Recorded change later given.id tx after)
      (available : after.Available sees vip needsEmptyIndexCheck)
      (own : ∀ backend ∈ after.backendSpecsByVIP vip.id, FamilyAllowed vip backend)
      (stored : vip.id ∉ after.createdVIPIDs → ∀ now, Evolves change later now →
        after.Applies now → (∃ stored, now.vip vip.id = some stored) ∧
          ∀ id backend, now.backend vip.id id = some backend → FamilyAllowed vip backend) :
      Move change sees context tx (.updateVIP given) (putVIP vip needsEmptyIndexCheck after) later
  | deleteVIP {id : String} {later : Store} (kept : id ∉ tx.deletedVIPIDs) :
      Move change sees context tx (.deleteVIP id) (removeVIP id tx) later
  | deleteStoredVIP {id : String} {later : Store} (tuple : Tuple) (owned : Bool)
      (kept : id ∉ tx.deletedVIPIDs) (unknown : tx.vipOriginalIndexes id = none) :
      Move change sees context tx (.deleteVIP id) (removeVIP id (tx.recordOriginal id tuple owned))
        later
  | commit {later : Store} (deletedVIPIDs : List String) (committed : Bool) :
      Move change sees context tx .commit
        { tx with deletedVIPIDs := deletedVIPIDs, committed := committed } later
  | rollback {later : Store} :
      Move change sees context tx .rollback { tx with ops := [] } later

theorem Recorded.evolves {change : Store → List Op → Prop} {store later : Store} {id : String}
    {tx after : EtcdTransaction} (recorded : Recorded change store id tx after)
    (evolved : Evolves change store later) : Recorded change later id tx after := by
  cases recorded with
  | own created => exact .own created
  | before checks original => exact .before checks original
  | now tuple owned checks foreign unknown stands =>
    exact .now tuple owned checks foreign unknown fun now further =>
      stands now (evolved.trans further)

end EtcdTransaction

/-! ## Calls -/

namespace TxCall

variable {change : Store → List Op → Prop} {sees : List Store → Store → Prop} {α β : Type}
  {tx : EtcdTransaction} {fails : EtcdTransaction → Store → Prop} {seen : List Store}
  {store : Store}

/-- The call is sound; it leaves a transaction with `post`, or with `fails` where it does not
return a value. -/
def Runs (change : Store → List Op → Prop) (sees : List Store → Store → Prop)
    (fails : EtcdTransaction → Store → Prop) (post : α → EtcdTransaction → Store → Prop)
    (call : TxCall α) (tx : EtcdTransaction) (seen : List Store) (store : Store) : Prop :=
  (call.run.run tx).Sound (evolution change) sees
    (fun result _ later =>
      match result.1 with
      | .ok value => post value result.2 later
      | .error _ => fails result.2 later) seen store

namespace Runs

variable {post : β → EtcdTransaction → Store → Prop}

theorem pure {value : β} (holds : post value tx store) :
    Runs change sees fails post (Pure.pure value) tx seen store :=
  holds

theorem throw {failure : Failure} (holds : fails tx store) :
    Runs change sees fails post (MonadExcept.throw failure) tx seen store :=
  holds

variable {next : α → TxCall β}

/-- **Sequence.** -/
theorem bind {mid : α → EtcdTransaction → Store → Prop} {call : TxCall α}
    (first : Runs change sees fails mid call tx seen store)
    (second : ∀ {seen} value after later, Evolves change store later → mid value after later →
      Runs change sees fails post (next value) after seen later) :
    Runs change sees fails post (call >>= next) tx seen store := by
  refine Routine.Sound.bind first.evolved fun result seen later ended => ?_
  obtain ⟨result, after⟩ := result
  obtain ⟨-, evolved, ended⟩ := ended
  cases result with
  | error failure => exact throw ended
  | ok value => exact second value after later evolved ended

theorem mono {stronger : β → EtcdTransaction → Store → Prop} {call : TxCall β}
    (runs : Runs change sees fails stronger call tx seen store)
    (implies : ∀ value after later, stronger value after later → post value after later) :
    Runs change sees fails post call tx seen store := by
  refine Routine.Sound.mono runs fun result _ later ended => ?_
  obtain ⟨result, after⟩ := result
  cases result with
  | error failure => exact ended
  | ok value => exact implies value after later ended

theorem context {text : String} {call : TxCall β}
    (runs : Runs change sees fails post call tx seen store) :
    Runs change sees fails post (call.context text) tx seen store := by
  refine Routine.Sound.bind runs fun result seen later ended => ?_
  obtain ⟨result, after⟩ := result
  cases result with
  | error failure => exact throw ended
  | ok value => exact pure ended

/-- A call that fails where a condition holds. -/
theorem ensure {condition : Prop} [Decidable condition] {failure : Failure}
    {rest : PUnit → TxCall β} (failing : fails tx store)
    (passes : ¬condition → Runs change sees fails post (rest ⟨⟩) tx seen store) :
    Runs change sees fails post
      (if condition then MonadExcept.throw failure >>= rest else rest ⟨⟩) tx seen store := by
  split
  case isTrue => exact throw failing
  case isFalse holds => exact passes holds

theorem get_bind {next : EtcdTransaction → TxCall β}
    (rest : Runs change sees fails post (next tx) tx seen store) :
    Runs change sees fails post (get >>= next) tx seen store :=
  rest

variable {update : EtcdTransaction → EtcdTransaction}

theorem modifies
    {post : Unit → EtcdTransaction → Store → Prop} (holds : post () (update tx) store) :
    Runs change sees fails post (modify update) tx seen store :=
  holds

theorem modify_bind {next : Unit → TxCall β}
    (rest : Runs change sees fails post (next ()) (update tx) seen store) :
    Runs change sees fails post (modify update >>= next) tx seen store :=
  rest

theorem ofExcept_bind {result : Except Failure α} (failing : fails tx store)
    (rest : ∀ value, result = .ok value → Runs change sees fails post (next value) tx seen store) :
    Runs change sees fails post (TxCall.ofExcept result >>= next) tx seen store := by
  cases result with
  | error failure => exact throw failing
  | ok value => exact rest value rfl

variable {known : α → List Store → Store → Prop}

/-- A call on the data store leaves the transaction as it is. -/
theorem ofCall_bind {call : Call α} (failing : ∀ later, Evolves change store later → fails tx later)
    (sound : Call.Sound change sees known call seen store)
    (rest : ∀ {seen} value later, Evolves change store later → known value seen later →
      Runs change sees fails post (next value) tx seen later) :
    Runs change sees fails post (TxCall.ofCall call >>= next) tx seen store := by
  have lifted : (StateT.lift call.run tx : Steps _).Sound (evolution change) sees
      (fun result seen later => result.2 = tx ∧ Evolves change store later ∧
        ∀ value, result.1 = .ok value → known value seen later) seen store :=
    Routine.Sound.bind (Routine.Sound.evolved sound) fun _ _ _ ended => ⟨rfl, ended.2⟩
  refine Routine.Sound.bind lifted fun result seen later ended => ?_
  obtain ⟨result, after⟩ := result
  obtain ⟨rfl, evolved, holds⟩ := ended
  cases result with
  | error failure => exact throw (failing later evolved)
  | ok value => exact rest value later evolved (holds value rfl)

/-- A call on the data store whose error is looked at. -/
theorem attempt_bind {call : Call α}
    {next : Except Failure α → TxCall β} (sound : Call.Sound change sees known call seen store)
    (rest : ∀ {seen} result later, Evolves change store later →
      Runs change sees fails post (next result) tx seen later) :
    Runs change sees fails post (TxCall.attempt call >>= next) tx seen store := by
  have lifted : (StateT.lift call.run tx : Steps _).Sound (evolution change) sees
      (fun result _ later => result.2 = tx ∧ Evolves change store later) seen store :=
    Routine.Sound.bind (Routine.Sound.evolved sound) fun _ _ _ ended => ⟨rfl, ended.2.1⟩
  have attempted : Runs change sees fails
      (fun _ after later => after = tx ∧ Evolves change store later) (TxCall.attempt call) tx
        seen store :=
    Routine.Sound.bind lifted fun _ _ _ same => same
  refine bind attempted fun result after later _ ended => ?_
  obtain ⟨rfl, evolved⟩ := ended
  exact rest result later evolved

end Runs

end TxCall

variable {ops : List Op}

section Calls

open EtcdTransaction TxCall

variable {change : Store → List Op → Prop} {sees : List Store → Store → Prop}
  {tx : EtcdTransaction} {fails : EtcdTransaction → Store → Prop} {rules : TextRules}
  {context : Context} {seen : List Store} {store : Store}

theorem runs_checkVIPTupleAvailable
    (failing : ∀ later, Evolves change store later → fails tx later) (vip : VIP) :
    Runs change sees fails (fun needs after _ => after = tx ∧ tx.Available sees vip needs)
      (EtcdTransaction.checkVIPTupleAvailable vip) tx seen store := by
  have read : Call.Sound change sees
      (fun owner _ _ => owner = store.owner (.vipTuple vip.tuple) ∧ sees seen store)
      (Call.read fun store => store.owner (.vipTuple vip.tuple)) seen store :=
    .read fun _ _ saw => ⟨rfl, saw⟩
  refine .get_bind (.ensure (failing _ .refl) fun free =>
    .ofCall_bind failing read fun owner later reading found => ?_)
  obtain ⟨named, saw⟩ := found
  have available : ∀ needs : Bool, (needs = false → (tx.vipReleasedTuples vip.tuple).isSome = true ∨
      tx.shadows vip.tuple store = true) → tx.Available sees vip needs := by
    intro needs reason
    refine ⟨fun other owned => ?_, fun unneeded =>
      (reason unneeded).imp_right fun shadows => ⟨seen, store, saw, shadows⟩⟩
    by_contra different
    exact free (by simp [owned, different])
  have released : tx.Available sees vip (tx.vipReleasedTuples vip.tuple).isNone :=
    available _ fun unneeded => .inl (by simpa using unneeded)
  cases owner with
  | none => exact .pure ⟨rfl, released⟩
  | some owner =>
    dsimp only
    split
    · exact .pure ⟨rfl, released⟩
    · split
      next deleted =>
        refine .pure ⟨rfl, available _ fun _ => .inr ?_⟩
        rw [shadows, ← named, Option.any_some, deleted, Bool.true_or]
      next =>
        split
        next moved =>
          refine .pure ⟨rfl, available _ fun _ => .inr ?_⟩
          rw [shadows, ← named, Option.any_some, moved, Bool.or_true]
        next => exact .throw (failing later reading)

/-- A call on a transaction makes one of its moves, also where it fails. -/
abbrev MakesMove (change : Store → List Op → Prop) (sees : List Store → Store → Prop)
    (rules : TextRules) (context : Context) (tx : EtcdTransaction) (operation : TxOperation)
    (seen : List Store) (store : Store) : Prop :=
  Runs change sees (Move change sees context tx operation)
    (fun _ => Move change sees context tx operation) (operation.call rules context) tx seen store

theorem makesMove_createVIP (given : VIP) :
    MakesMove change sees rules context tx (.createVIP given) seen store := by
  refine .ofExcept_bind .unchanged fun _ _ => .get_bind (.ensure .unchanged fun fresh => ?_)
  refine .bind (runs_checkVIPTupleAvailable (fun _ _ => .unchanged) _).context
    fun needs after later _ checked => ?_
  obtain ⟨rfl, available⟩ := checked
  exact .modifies (.createVIP needs (by simpa using fresh) available)

theorem runs_parentVIPForBackend (sane : Sane store) (vipID : String)
    (failing : ∀ later, fails tx later) :
    Runs change sees fails
      (fun parent after later => ∃ checks, after = tx.addChecks checks ∧
        (∀ vip, tx.vipSpecs vipID = some vip → parent = vip) ∧
        (tx.vipSpecs vipID = none → ∀ now, Evolves change later now →
          (tx.addChecks checks).Applies now → now.vip vipID = some parent))
      (parentVIPForBackend vipID) tx seen store := by
  refine .get_bind ?_
  cases tx.vipSpecs vipID with
  | some vip =>
    exact .pure ⟨[], by simp [addChecks], fun _ same => Option.some.inj same,
      fun unknown => nomatch unknown⟩
  | none =>
    refine .ofCall_bind (fun _ _ => failing _) (sound_getVIPWithModRevision vipID)
      fun entry read reading looked => .modify_bind
        (.pure ⟨parentChecks vipID entry.modRevision, rfl, ?_, ?_⟩)
    · intro _ known
      cases known
    intro _ now evolved applies
    exact stored_of_parentChecks sane (reading.trans evolved) looked fun check member =>
      applies check (List.mem_append_right _ member)

theorem makesMove_addBackend (sane : Sane store) (given : Backend) :
    MakesMove change sees rules context tx (.addBackend given) seen store := by
  refine .ofExcept_bind .unchanged fun _ _ => .get_bind
    (.ensure .unchanged fun _ => .ensure .unchanged fun kept => ?_)
  refine .ofCall_bind (fun _ _ => .unchanged) (sound_checkBackendIPAvailable _).context
    fun _ checked checking _ => ?_
  refine .bind (runs_parentVIPForBackend (sane_of_evolves checking sane) _
    fun _ => .unchanged).context fun parent after later _ extended => ?_
  obtain ⟨checks, rfl, own, stored⟩ := extended
  refine .ofExcept_bind (.readParent checks) fun _ family =>
    .ensure (.readParent checks) fun _ => .modifies ?_
  exact .addBackend checks (by simpa [prepareNewBackend] using kept)
    (validateBackendAddressFamilyForVIP_eq_ok.mp family) own stored

/-- The VIP is stored and the number of the configuration is the same, wherever the conditions
of the transaction hold. -/
def Unmoved (change : Store → List Op → Prop) (id : String) (after : EtcdTransaction)
    (later : Store) : Prop :=
  ∀ now, Evolves change later now → after.Applies now →
    (∃ stored, now.vip id = some stored) ∧ later.number = now.number

theorem Unmoved.evolves {id : String} {after : EtcdTransaction} {later : Store}
    (unmoved : Unmoved change id after store) (evolved : Evolves change store later) :
    Unmoved change id after later := by
  intro now further applies
  obtain ⟨found, number⟩ := unmoved now (evolved.trans further) applies
  have := (grown_of_evolves evolved).number_le
  have := (grown_of_evolves further).number_le
  exact ⟨found, by omega⟩

theorem runs_prepareStoredVIP (given : VIP) (foreign : given.id ∉ tx.createdVIPIDs)
    (failing : ∀ later, fails tx later) :
    Runs change sees fails
      (fun vip after later => (vip.id = given.id ∧ vip.tuple = given.tuple) ∧
        Recorded change later given.id tx after ∧ Unmoved change given.id after later)
      (prepareStoredVIP context given) tx seen store := by
  refine .ofCall_bind (fun _ _ => failing _) sound_getRevisionValue
    fun revision started starting counted => ?_
  refine .ofCall_bind (fun _ _ => failing _) (sound_getVIP given.id).context
    fun existing read reading found => ?_
  have same : (prepareChangedVIP context given existing).id = given.id ∧
      (prepareChangedVIP context given existing).tuple = given.tuple :=
    ⟨prepareChangedVIP_id .., prepareHealthCheckForVIP_tuple ..⟩
  -- where the revision is the one that was read, nothing has changed since
  have stands : ∀ later now, Evolves change read later → Evolves change later now →
      (Etcd.Compare.value .revision revision).holds now = true →
        now.vip given.id = some existing ∧ later.number = now.number := by
    intro later now evolved further current
    have unchanged : store.number = now.number := by
      rw [Store.number, Store.number, counted, Store.count, Etcd.holds_value.mp current]
    have fromStart := reading.trans (evolved.trans further)
    have := (grown_of_evolves starting).number_le
    have := (grown_of_evolves fromStart).number_le
    have := (grown_of_evolves (starting.trans (reading.trans evolved))).number_le
    have := (grown_of_evolves further).number_le
    refine ⟨?_, by omega⟩
    rw [← found]
    exact (grown_of_evolves fromStart).vip_same (by omega) given.id
  have unmoved : ∀ (after : EtcdTransaction) (later : Store), Evolves change read later →
      Unmoved change given.id (after.addChecks [⟨.value .revision revision, .conflict⟩]) later := by
    intro after later evolved now further applies
    exact (stands later now evolved further (applies ⟨_, _⟩
      (List.mem_append_right _ List.mem_cons_self))).imp_left fun stored => ⟨existing, stored⟩
  refine .get_bind ?_
  split
  case isTrue unknown =>
    refine .ofCall_bind (fun _ _ => failing _) (sound_claimVIPTupleIndex existing _).context
      fun owned claimed claiming _ => .modify_bind (.modify_bind
        (.pure ⟨same, ?_, unmoved _ claimed claiming⟩))
    refine .now existing.tuple owned _ foreign (Option.isNone_iff_eq_none.mp unknown) ?_
    intro now further holds
    exact ⟨existing, (stands claimed now claiming further (holds _ List.mem_cons_self)).1, rfl⟩
  case isFalse known =>
    obtain ⟨tuple, original⟩ := Option.ne_none_iff_exists'.mp
      fun unknown => known (Option.isNone_iff_eq_none.mpr unknown)
    exact .modify_bind (.pure ⟨same, .before _ original, unmoved tx read .refl⟩)

theorem runs_backendsForVIP (failing : ∀ later, Evolves change store later → fails tx later)
    (id : String) :
    Runs change sees fails
      (fun backends after _ => after = tx ∧ tx.backendSpecsByVIP id ⊆ backends ∧
        (id ∉ tx.createdVIPIDs → store.backends id ⊆ backends))
      (backendsForVIP id) tx seen store := by
  refine .get_bind ?_
  split
  case isTrue own =>
    exact .pure ⟨rfl, List.Subset.refl _, fun foreign => absurd (by simpa using own) foreign⟩
  case isFalse =>
    refine .ofCall_bind failing (sound_listBackends id).context fun backends later _ listed => ?_
    subst listed
    exact .pure ⟨rfl, List.subset_append_right .., fun _ => List.subset_append_left ..⟩

theorem makesMove_updateVIP (given : VIP) :
    MakesMove change sees rules context tx (.updateVIP given) seen store := by
  have finish : ∀ {seen store} (vip : VIP) (after : EtcdTransaction),
      (vip.id = given.id ∧ vip.tuple = given.tuple) → given.id ∉ tx.deletedVIPIDs →
      Recorded change store given.id tx after →
      (given.id ∉ after.createdVIPIDs → Unmoved change given.id after store) →
      Runs change sees (Move change sees context tx (.updateVIP given))
        (fun _ => Move change sees context tx (.updateVIP given)) (do
          let needsEmptyIndexCheck ← (EtcdTransaction.checkVIPTupleAvailable vip).context
            "failed to verify VIP tuple"
          let backends ← backendsForVIP vip.id
          TxCall.ofExcept (validateBackendFamiliesForVIP vip backends)
          modify (putVIP vip needsEmptyIndexCheck)) after seen store := by
    intro seen store vip after same kept recorded unmoved
    refine .bind (runs_checkVIPTupleAvailable
      (fun _ evolved => .readUpdated (recorded.evolves evolved)) vip).context
      fun needs _ checked checking available => ?_
    obtain ⟨rfl, available⟩ := available
    have recorded := recorded.evolves checking
    refine .bind (runs_backendsForVIP
      (fun _ evolved => .readUpdated (recorded.evolves evolved)) vip.id)
      fun backends _ listed listing held => ?_
    obtain ⟨rfl, own, stored⟩ := held
    have recorded := recorded.evolves listing
    refine .ofExcept_bind (.readUpdated recorded) fun _ valid => .modifies ?_
    have valid := validateBackendFamiliesForVIP_eq_ok.mp valid
    refine .updateVIP needs same kept recorded available (fun backend member =>
      valid backend (own member)) fun foreign now evolved applies => ?_
    have further := listing.trans evolved
    obtain ⟨found, number⟩ :=
      ((unmoved (same.1 ▸ foreign)).evolves checking) now further applies
    refine ⟨same.1 ▸ found, fun id backend present => valid backend (stored foreign ?_)⟩
    rw [(grown_of_evolves further).backend_same number] at present
    exact Store.mem_backends.mpr ⟨id, present⟩
  refine .ofExcept_bind .unchanged fun _ _ => .ofExcept_bind .unchanged fun _ _ =>
    .get_bind (.ensure .unchanged fun kept => ?_)
  have kept : given.id ∉ tx.deletedVIPIDs := by simpa using kept
  dsimp only
  split
  case isTrue own =>
    have own : given.id ∈ tx.createdVIPIDs := by simpa using own
    exact finish _ tx ⟨prepareHealthCheckForVIP_id .., prepareHealthCheckForVIP_tuple ..⟩ kept
      (.own own) fun foreign => absurd own foreign
  case isFalse foreign =>
    refine .bind (runs_prepareStoredVIP given (by simpa using foreign) fun _ => .unchanged)
      fun vip after later _ prepared => ?_
    obtain ⟨same, recorded, unmoved⟩ := prepared
    exact finish vip after same kept recorded fun _ => unmoved

theorem runs_recordStoredVIP (id : String) (failing : ∀ later, fails tx later) :
    Runs change sees fails
      (fun _ after _ => ∃ tuple owned, after = tx.recordOriginal id tuple owned)
      (recordStoredVIP context id) tx seen store := by
  refine .attempt_bind (sound_getVIP id) fun result later _ => ?_
  cases result with
  | ok vip =>
    exact .ofCall_bind (fun _ _ => failing _) (sound_claimVIPTupleIndex vip _).context
      fun owned _ _ _ => .modifies ⟨vip.tuple, owned, rfl⟩
  | error failure =>
    dsimp only
    split
    · exact .ofCall_bind (fun _ _ => failing _) (sound_deleteBackendIndexesForVIP id)
        fun _ _ _ _ => .throw (failing _)
    · exact .throw (failing _)

theorem makesMove_deleteVIP (id : String) :
    MakesMove change sees rules context tx (.deleteVIP id) seen store := by
  refine .ofExcept_bind .unchanged fun _ _ => .get_bind (.ensure .unchanged fun kept => ?_)
  have kept : id ∉ tx.deletedVIPIDs := by simpa using kept
  dsimp only
  split
  case isTrue reads =>
    simp only [Bool.and_eq_true, Bool.not_eq_true', Option.isNone_iff_eq_none] at reads
    refine .bind (runs_recordStoredVIP id fun _ => .unchanged) fun _ after later _ recorded => ?_
    obtain ⟨tuple, owned, rfl⟩ := recorded
    -- the VIP is not the transaction's own, so this does not fail any more
    have passes : ¬(((tx.recordOriginal id tuple owned).currentTuple id).isNone &&
        (tx.recordOriginal id tuple owned).createdVIPIDs.contains id) = true := by
      rw [show (tx.recordOriginal id tuple owned).createdVIPIDs.contains id = false from reads.1]
      simp
    refine .get_bind ?_
    rw [if_neg passes]
    exact .modifies (.deleteStoredVIP tuple owned kept reads.2)
  case isFalse =>
    exact .get_bind (.ensure .unchanged fun _ => .modifies (.deleteVIP kept))

/-- The clean-up changes nothing but which deletions are remembered. -/
theorem runs_cleanupVIPIndexes (ids : List String)
    (failing : ∀ deletedVIPIDs later, fails { tx with deletedVIPIDs := deletedVIPIDs } later) :
    Runs change sees fails
      (fun _ after _ => ∃ deletedVIPIDs, after = { tx with deletedVIPIDs := deletedVIPIDs })
      (cleanupVIPIndexes ids) tx seen store := by
  induction ids generalizing tx seen store with
  | nil => exact .pure ⟨tx.deletedVIPIDs, rfl⟩
  | cons id rest ih =>
    refine .ofCall_bind (fun _ _ => failing tx.deletedVIPIDs _)
      (sound_deleteBackendIndexesForVIP id) fun _ _ _ _ => .modify_bind ?_
    exact @ih { tx with deletedVIPIDs := tx.deletedVIPIDs.filter (· ≠ id) } _ _ failing

theorem keyed_compacted (keyed : Keyed ops) : Keyed (compacted ops) :=
  ⟨fun id vip put => keyed.1 id vip (mem_of_mem_compacted put),
    fun vipID id backend put => keyed.2 vipID id backend (mem_of_mem_compacted put)⟩

theorem makesMove_commit (keyed : Keyed tx.ops)
    (changes : ∀ now, Evolves change store now → tx.Applies now → change now (compacted tx.ops)) :
    MakesMove change sees rules context tx .commit seen store := by
  have cleaned : ∀ {seen store} committed, Runs change sees (Move change sees context tx .commit)
      (fun _ => Move change sees context tx .commit) cleanupDeletedVIPIndexes
      { tx with committed := committed } seen store := by
    intro seen store committed
    refine .get_bind ((runs_cleanupVIPIndexes _ fun _ _ => .commit _ committed).mono ?_)
    rintro _ _ _ ⟨deletedVIPIDs, rfl⟩
    exact .commit deletedVIPIDs committed
  have committed : Call.Sound change sees Anything
      (commitWithRevision tx.checks (compacted tx.ops) context.rounds) seen store :=
    sound_commitWithRevision (keyed_compacted keyed) changes _
  refine .get_bind ?_
  dsimp only
  split
  case isFalse => exact .pure .unchanged
  split
  case isFalse => exact cleaned tx.committed
  refine .attempt_bind committed fun result later _ => ?_
  cases result with
  | ok _ => exact .modify_bind (cleaned true)
  | error failure =>
    dsimp only
    split
    · exact .bind (cleaned tx.committed) fun _ after later _ moved => .throw moved
    · exact .throw .unchanged

/-- **One call.** Every call on a transaction makes one of its moves. -/
theorem makesMove (operation : TxOperation) (sane : Sane store) (keyed : Keyed tx.ops)
    (changes : ∀ now, Evolves change store now → tx.Applies now → change now (compacted tx.ops)) :
    MakesMove change sees rules context tx operation seen store := by
  cases operation with
  | createVIP given => exact makesMove_createVIP given
  | addBackend given => exact makesMove_addBackend sane given
  | updateVIP given => exact makesMove_updateVIP given
  | deleteVIP id => exact makesMove_deleteVIP id
  | commit => exact makesMove_commit keyed changes
  | rollback => exact .modifies .rollback

end Calls

/-! ## What is written -/

section Writes

open EtcdTransaction

variable {change : Store → List Op → Prop} {sees : List Store → Store → Prop}
  {tx next : EtcdTransaction} {context : Context} {operation : TxOperation} {id : String}
  {later : Store}

/-- Operations that write nothing but index entries. -/
def IndexOps (ops : List Op) : Prop :=
  ∀ op ∈ ops, (∃ index owner, op = .put (.index index) owner) ∨ ∃ index, op = .delete (.index index)

theorem IndexOps.writtenVIP (index : IndexOps ops) (id : String) : writtenVIP id ops = none := by
  refine writtenVIP_eq_none.mpr fun op member => ?_
  obtain ⟨_, _, rfl⟩ | ⟨_, rfl⟩ := index op member <;> rfl

theorem IndexOps.keyed (index : IndexOps ops) : Keyed ops :=
  keyed_of_no_object fun op member => (index op member).imp id fun ⟨_, same⟩ => .inl ⟨_, same⟩

theorem IndexOps.put_backend (index : IndexOps ops) {vipID id : String}
    {backend : Backend} : .put (.backend vipID id) backend ∉ ops := by
  intro member
  obtain ⟨_, _, same⟩ | ⟨_, same⟩ := index _ member <;> cases same

theorem IndexOps.delete_vip (index : IndexOps ops) {id : String} : .delete (.vip id) ∉ ops := by
  intro member
  obtain ⟨_, _, same⟩ | ⟨_, same⟩ := index _ member <;> cases same

/-- The write of `UpdateVIP`, apart from what concerns the tuple index. -/
theorem putVIP_spec (vip : VIP) (needs : Bool) (tx : EtcdTransaction) :
    ∃ more extra, IndexOps more ∧
      (EtcdTransaction.putVIP vip needs tx).ops = tx.ops ++ .put (.vip vip.id) vip :: more ∧
      (EtcdTransaction.putVIP vip needs tx).checks = tx.checks ++ extra ∧
      (EtcdTransaction.putVIP vip needs tx).vipSpecs =
        Function.update tx.vipSpecs vip.id (some vip) ∧
      (EtcdTransaction.putVIP vip needs tx).createdVIPIDs = tx.createdVIPIDs ∧
      (EtcdTransaction.putVIP vip needs tx).backendSpecsByVIP = tx.backendSpecsByVIP := by
  unfold EtcdTransaction.putVIP
  dsimp only
  split
  · cases tx.currentTuple vip.id with
    | none =>
      refine ⟨[.put (.index (.vipTuple vip.tuple)) vip.id], _, by simp [IndexOps], ?_, rfl, rfl,
        rfl, rfl⟩
      simp [EtcdTransaction.takeVIPTuple, EtcdTransaction.addOps, EtcdTransaction.addChecks]
    | some old =>
      refine ⟨[.delete (.index (.vipTuple old)), .put (.index (.vipTuple vip.tuple)) vip.id], _,
        by simp [IndexOps], ?_, rfl, rfl, rfl, rfl⟩
      simp [EtcdTransaction.takeVIPTuple, EtcdTransaction.releaseVIPTuple,
        EtcdTransaction.addOps, EtcdTransaction.addChecks]
  · refine ⟨[.put (.index (.vipTuple vip.tuple)) vip.id], [], by simp [IndexOps], ?_, ?_, rfl, rfl,
      rfl⟩ <;> simp [EtcdTransaction.takeVIPTuple, EtcdTransaction.addOps]

theorem removeVIP_spec (id : String) (tx : EtcdTransaction) :
    ∃ more, IndexOps more ∧
      (EtcdTransaction.removeVIP id tx).ops =
        tx.ops ++ .delete (.vip id) :: .deleteRange (.backends id) :: more ∧
      (EtcdTransaction.removeVIP id tx).checks = tx.checks ∧
      (EtcdTransaction.removeVIP id tx).vipSpecs = tx.vipSpecs ∧
      (EtcdTransaction.removeVIP id tx).createdVIPIDs = tx.createdVIPIDs ∧
      (EtcdTransaction.removeVIP id tx).backendSpecsByVIP = tx.backendSpecsByVIP := by
  unfold EtcdTransaction.removeVIP
  cases tx.currentTuple id with
  | none => exact ⟨[], by simp [IndexOps], rfl, rfl, rfl, rfl, rfl⟩
  | some tuple =>
    refine ⟨[.delete (.index (.vipTuple tuple))], by simp [IndexOps], ?_, rfl, rfl, rfl, rfl⟩
    simp [EtcdTransaction.releaseVIPTuple, EtcdTransaction.addOps]

theorem EtcdTransaction.Recorded.ops_eq (recorded : Recorded change later id tx next) :
    next.ops = tx.ops := by
  cases recorded <;> rfl

/-- Every move writes objects under their own identifiers. -/
theorem EtcdTransaction.Move.keyed (move : Move change sees context tx operation next later)
    (keyed : Keyed tx.ops) : Keyed next.ops := by
  cases move with
  | unchanged | readParent _ | commit _ _ => exact keyed
  | rollback => exact keyed_of_no_object (by simp)
  | readUpdated recorded =>
    rw [recorded.ops_eq]
    exact keyed
  | createVIP needs => exact (keyed.append (keyed_putVIP _)).append (keyed_putIndex ..)
  | updateVIP needs _ _ recorded =>
    obtain ⟨more, -, index, ops, -⟩ := putVIP_spec _ needs _
    rw [ops, recorded.ops_eq]
    exact keyed.append ((keyed_putVIP _).append index.keyed)
  | deleteVIP _ | deleteStoredVIP _ _ _ _ =>
    obtain ⟨more, index, ops, -⟩ := removeVIP_spec _ _
    have deletes : ∀ id, Keyed [.delete (.vip id), .deleteRange (.backends id)] := fun _ =>
      keyed_of_no_object (by simp)
    rw [ops]
    exact keyed.append ((deletes _).append index.keyed)
  | addBackend =>
    exact keyed.append ((keyed_putBackend _).append
      ((keyed_putIndex ..).append (keyed_putIndex ..)))

end Writes

end ArcaLB.Datastore
