import ArcaLB.Datastore.Sound

/-!
# Controllers on one store

Any number of controllers make calls of the operations outside transactions, in any
interleaving of their reads and transactions, from an empty store on.  A VIP can always be
found in the tuple index, so no two VIPs have the same tuple.
-/

namespace ArcaLB.Datastore

open Etcd (Reply)

/-- The operations that write, outside transactions. -/
inductive Operation where
  | createVIP (vip : VIP)
  | updateVIP (vip : VIP)
  | deleteVIP (id : String)
  | addBackend (backend : Backend)
  | updateBackend (backend : Backend)
  | deleteBackend (id : String)
  deriving DecidableEq, Repr

/-- The client's method for an operation. -/
def Operation.call (rules : TextRules) (context : Context) : Operation → Call Unit
  | createVIP vip => Datastore.createVIP rules context vip
  | updateVIP vip => Datastore.updateVIP rules context vip
  | deleteVIP id => Datastore.deleteVIP context id
  | addBackend backend => Datastore.addBackend context backend
  | updateBackend backend => Datastore.updateBackend context backend
  | deleteBackend id => Datastore.deleteBackend context id

/-- An operation with what it takes from its surroundings. -/
abbrev Invocation := Context × Operation

/-- A controller remembers nothing between its calls. -/
def Invocation.program (rules : TextRules) (invocation : Invocation) (_ : Unit) : Steps Unit :=
  (invocation.2.call rules invocation.1).run >>= fun _ => pure ()

/-- The controllers, each with its calls to the one store. -/
abbrev Controllers := Sessions Store Txn Reply Invocation Unit

/-- All controllers on an empty store. -/
def controllers (rules : TextRules) :
    TransitionSystem Controllers (Sessions.Event Invocation) :=
  Sessions.system (Etcd.handle Range.covers) (Invocation.program rules) Store.empty ()

/-- A call at time `0` whose loops get three rounds, for concrete runs. -/
def Operation.invoke (operation : Operation) : Invocation :=
  (⟨0, "new", "new", 3⟩, operation)

/-- No one has called yet. -/
def Controllers.start : Controllers := ⟨Store.empty, fun _ => .idle ()⟩

theorem controllers_start (rules : TextRules)
    (guard : Controllers → Sessions.Event Invocation → Prop) :
    (controllers rules).Reachable guard Controllers.start :=
  .initial rfl

theorem lookup_empty {key : Key} (object : key ≠ .revision) : Store.empty.lookup key = none :=
  AList.lookup_insert_ne object

theorem value_empty {key : Key} (object : key ≠ .revision) : Store.empty.value key = none := by
  rw [Etcd.value, lookup_empty object]
  rfl

theorem sane_empty : Sane Store.empty := by
  refine ⟨⟨1, rfl⟩, ?_, ?_, ?_⟩
  · intro key entry looked
    by_cases revision : key = .revision
    · subst revision
      cases looked
      exact Nat.le_refl _
    · cases (lookup_empty revision).symm.trans looked
  · intro id vip stored
    cases (value_empty (by simp)).symm.trans stored
  · intro vipID id backend stored
    cases (value_empty (by simp)).symm.trans stored

section Invariants

variable {rules : TextRules}

/-- What the controllers see where no other backend crosses an update of a backend. -/
def Operation.uncrossed (operation : Operation) (seen : List Store) (store : Store) : Bool :=
  match operation with
  | .updateBackend backend => Datastore.uncrossed backend seen store
  | _ => true

/-- Every operation is sound. -/
theorem sound_operation {strict : Prop} {change : Store → List Op → Prop}
    {sees : List Store → Store → Prop} {store : Store} {context : Context}
    (includes : ∀ store ops, Change strict store ops → change store ops) (sane : Sane store)
    (operation : Operation)
    (clear : strict → ∀ seen store, sees seen store → operation.uncrossed seen store = true) :
    Call.Sound change sees Anything (operation.call rules context) [] store := by
  cases operation with
  | createVIP vip => exact sound_createVIP includes vip
  | updateVIP vip => exact sound_updateVIP includes sane vip
  | deleteVIP id => exact sound_deleteVIP includes id
  | addBackend backend => exact sound_addBackend includes sane backend
  | updateBackend backend => exact sound_updateBackend includes sane backend clear
  | deleteBackend id => exact sound_deleteBackend includes id

/-- Where `strict`, no update of a backend is crossed. -/
def Sees (strict : Prop) (invocation : Invocation) (_ : Unit) (seen : List Store)
    (store : Store) : Prop :=
  strict → invocation.2.uncrossed seen store = true

/-- What writes keep is an invariant that all operations respect. -/
theorem obligations_of_writes {strict : Prop} {invariant : Store → Prop}
    (kept : ∀ store ops, Sane store → invariant store → Write (Change strict) store ops →
      Etcd.Op.putOnce Range.covers ops = true → invariant (store.apply ops)) :
    Sessions.Obligations (evolution (Change strict)) (Invocation.program rules)
      (fun _ _ => True) (Sees strict) (fun store => Sane store ∧ invariant store)
      (fun _ _ => True) where
  kept := fun _ _ holds evolved => keeps_of_evolves invariant evolved kept holds
  sound := fun invocation _ _ _ holds _ => Routine.Sound.bind
    (sound_operation (fun _ _ changes => changes) holds.1 invocation.2
      fun apart _ _ saw => saw apart) fun _ _ _ _ => trivial

/-- **Invariants of the store.** What every write keeps holds at every moment of every
interleaving. -/
theorem invariant_of_reachable (strict : Prop) (invariant : Store → Prop)
    {guard : Controllers → Sessions.Event Invocation → Prop} {sessions : Controllers}
    (allows : ∀ sessions event, guard sessions event →
      sessions.ReadsAllowed (Sees strict) event) (initially : invariant Store.empty)
    (kept : ∀ store ops, Sane store → invariant store → Write (Change strict) store ops →
      Etcd.Op.putOnce Range.covers ops = true → invariant (store.apply ops))
    (reached : (controllers rules).Reachable guard sessions) :
    Sane sessions.state ∧ invariant sessions.state :=
  (Sessions.secure_of_reachable (obligations_of_writes kept) ⟨sane_empty, initially⟩
    (fun _ _ => trivial) (fun sessions event meets =>
      ⟨Sessions.callsAllowed_of_forall (fun _ _ => trivial) sessions event,
        allows sessions event meets⟩) reached).invariant

end Invariants

/-! ## Tuples -/

/-- The tuple index has an entry for every VIP, which names it. -/
def TuplesIndexed (store : Store) : Prop :=
  ∀ id vip, store.vip id = some vip → store.owner (.vipTuple vip.tuple) = some id

theorem TuplesIndexed.unique {store : Store} (indexed : TuplesIndexed store)
    {first second : String} {one other : VIP} (stored : store.vip first = some one)
    (also : store.vip second = some other) (same : one.tuple = other.tuple) : first = second := by
  have named := indexed second other also
  rw [← same, indexed first one stored] at named
  exact Option.some.inj named

section TupleSteps

open Etcd

variable {strict : Prop} {store : Store} {ops : List Op}

/-- A change leaves the tuple index entry of every VIP that it leaves alone. -/
theorem Change.spares_tuple (changes : Change strict store ops)
    (indexed : TuplesIndexed store) {id : String} {vip : VIP} (found : store.vip id = some vip)
    (kept : ∀ op ∈ ops, op.Spares Range.covers (.vip id)) :
    ∀ op ∈ ops, op.Spares Range.covers (.index (.vipTuple vip.tuple)) := by
  have owned := indexed id vip found
  -- an entry that names another VIP, or nothing, is not this one
  have differs : ∀ {tuple other}, other ≠ some id → store.owner (.vipTuple tuple) = other →
      tuple ≠ vip.tuple := by
    rintro _ other different named rfl
    exact different (named.symm.trans owned)
  cases changes with
  | createVIP fresh free => simp [Op.Spares, differs (by simp) free]
  | @updateVIP new existing owns stored families own foreign free =>
    have another : some new.id ≠ some id := by
      simpa [Op.Spares] using kept _ List.mem_cons_self
    have old := differs another (indexed new.id existing stored)
    have fresh : new.tuple ≠ vip.tuple := by
      by_cases same : existing.tuple = new.tuple
      · exact same ▸ old
      · exact differs (by simp) (free same)
    unfold moveOps
    split <;> simp [Op.Spares, old, fresh]
  | @deleteVIP deleted _ tuple owns stored own =>
    have another : some deleted ≠ some id := by
      simpa [Op.Spares] using kept _ List.mem_cons_self
    unfold releaseOps
    split
    case isTrue mine => simp [Op.Spares, Range.covers, differs another (own mine)]
    case isFalse => simp [Op.Spares, Range.covers]
  | addBackend => simp [Op.Spares]
  | updateBackend =>
    unfold moveOps
    split <;> simp [Op.Spares]
  | deleteBackend =>
    unfold releaseOps
    split <;> simp [Op.Spares]

/-- A VIP that a change puts is entered into the tuple index. -/
theorem Change.puts_tuple (changes : Change strict store ops) {id : String} {vip : VIP}
    (put : .put (.vip id) vip ∈ ops) : .put (.index (.vipTuple vip.tuple)) id ∈ ops := by
  cases changes with
  | createVIP fresh free =>
    simp at put
    obtain ⟨rfl, rfl⟩ := put
    simp
  | updateVIP stored families own foreign free =>
    unfold moveOps at put ⊢
    split at put <;> simp at put <;> obtain ⟨rfl, rfl⟩ := put <;> simp
  | deleteVIP stored own =>
    unfold releaseOps at put
    split at put <;> simp at put
  | addBackend => simp at put
  | updateBackend =>
    unfold moveOps at put
    split at put <;> simp at put
  | deleteBackend =>
    unfold releaseOps at put
    split at put <;> simp at put

/-- Writes that enter every VIP they put into the tuple index, and leave the entry of every
VIP that they leave alone. -/
structure Indexing (store : Store) (ops : List Op) : Prop where
  puts_tuple : ∀ {id vip}, .put (.vip id) vip ∈ ops → .put (.index (.vipTuple vip.tuple)) id ∈ ops
  spares_tuple : ∀ {id vip}, store.vip id = some vip →
    (∀ op ∈ ops, op.Spares Range.covers (.vip id)) →
      ∀ op ∈ ops, op.Spares Range.covers (.index (.vipTuple vip.tuple))

theorem Change.indexing (changes : Change strict store ops)
    (indexed : TuplesIndexed store) : Indexing store ops :=
  ⟨changes.puts_tuple, changes.spares_tuple indexed⟩

theorem TuplesIndexed.write {change : Store → List Op → Prop} (indexed : TuplesIndexed store)
    (writes : Write change store ops) (fine : Op.putOnce Range.covers ops = true)
    (includes : ∀ ops, change store ops → Indexing store ops) :
    TuplesIndexed (store.apply ops) := by
  intro id vip found
  cases writes with
  | @commit ops number counted changes keyed =>
    have indexing := includes ops changes
    obtain put | ⟨stored, kept⟩ := value_write_cases fine found
    · have put : .put (.vip id) vip ∈ ops := by simpa using put
      exact value_write_of_put fine (List.mem_append_left _ (indexing.puts_tuple put))
    · have spares := indexing.spares_tuple stored fun op member =>
        kept op (List.mem_append_left _ member)
      refine (value_write_of_spares fun op member => ?_).trans (indexed id vip stored)
      obtain member | member := List.mem_append.mp member
      · exact spares op member
      · obtain rfl := List.mem_singleton.mp member
        simp [Op.Spares]
  | tend tends =>
    have stored : store.vip id = some vip :=
      (value_write_of_spares (tends.spares (by simp))).symm.trans found
    have owned := indexed id vip stored
    exact (value_write_of_spares (tends.spares_tuple owned)).trans owned

theorem tuplesIndexed_empty : TuplesIndexed Store.empty := by
  intro id vip stored
  cases (value_empty (by simp)).symm.trans stored

end TupleSteps

/-- **Tuples are unique.** Whatever the controllers do, no two stored VIPs have the same
address text, port and protocol, and the tuple index entry of every stored VIP names it. -/
theorem stored_vips_have_own_tuples {rules : TextRules} {sessions : Controllers}
    (reached : (controllers rules).Reachable TransitionSystem.unguarded sessions) :
    (∀ first second one other, sessions.state.vip first = some one →
      sessions.state.vip second = some other → one.vip = other.vip → one.port = other.port →
        one.protocol = other.protocol → first = second) ∧
    ∀ id vip, sessions.state.vip id = some vip →
      vip.id = id ∧ sessions.state.owner (.vipTuple vip.tuple) = some vip.id := by
  have always := invariant_of_reachable False TuplesIndexed
    (fun _ _ _ _ _ => False.elim) tuplesIndexed_empty
    (fun _ _ _ indexed writes fine => indexed.write writes fine
      fun _ changes => changes.indexing indexed) reached
  obtain ⟨sane, indexed⟩ := always
  constructor
  · intro first second one other stored also address port protocol
    exact indexed.unique stored also (by rw [VIP.tuple, VIP.tuple, address, port, protocol])
  · intro id vip stored
    have same := sane.vip_id id vip stored
    exact ⟨same, same ▸ indexed id vip stored⟩

/-- Two controllers create a VIP each; the second has to commit again because the first has
changed the revision. -/
def crossingCreates : List (Sessions.Event Invocation) :=
  [.call 0 (Operation.createVIP (.web "a" "192.0.2.1")).invoke,
    .call 1 (Operation.createVIP (.web "b" "192.0.2.2")).invoke,
    .step 0, .step 1, .step 0, .step 1, .step 0] ++ List.replicate 5 (.step 1)

theorem stored_vips_have_own_tuples_crossing :
    ∃ sessions, (controllers .lenient).run Controllers.start crossingCreates = some sessions ∧
      (sessions.state.vips.length = 2 ∧ sessions.state.count = some 3) ∧
        ∀ id vip, sessions.state.vip id = some vip →
          vip.id = id ∧ sessions.state.owner (.vipTuple vip.tuple) = some vip.id := by
  obtain ⟨sessions, runs, stored⟩ := (controllers .lenient).exists_run_of_check Controllers.start
    crossingCreates
    (fun sessions => sessions.state.vips.length = 2 ∧ sessions.state.count = some 3)
    (by decide +kernel)
  have reached := (controllers_start .lenient _).run
    (TransitionSystem.meets_unguarded _ _ crossingCreates) runs
  exact ⟨sessions, runs, stored, (stored_vips_have_own_tuples reached).2⟩

end ArcaLB.Datastore
