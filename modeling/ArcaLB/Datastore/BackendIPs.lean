import ArcaLB.Datastore.Controllers

/-!
# The IPs of the backends of a VIP

`UpdateBackend` decides from its reads whether the IP index has to be checked when it
commits: where the backend keeps the IP it was read with and the index entry of that IP named
another backend, nothing is checked.  Two backends of a VIP can end up with one IP that way,
and this is the only way.
-/

namespace ArcaLB.Datastore

open Etcd (Op.Spares)

/-- No `UpdateBackend` that keeps the IP it has read its backend with reads the store while the
index entry of the IP names another backend. -/
def updatesUncrossed (sessions : Controllers) (event : Sessions.Event Invocation) : Prop :=
  sessions.ReadsAllowed (fun invocation _ seen store => invocation.2.uncrossed seen store = true)
    event

instance (sessions : Controllers) (event : Sessions.Event Invocation) :
    Decidable (updatesUncrossed sessions event) := by
  unfold updatesUncrossed
  infer_instance

/-- The IP index has an entry for every backend, which names it. -/
def IPsIndexed (store : Store) : Prop :=
  ∀ vipID id backend, store.backend vipID id = some backend →
    store.owner (.backendIP vipID backend.ip) = some id

section Steps

variable {store : Store} {ops : List Op} {vipID id : String} {backend : Backend}

/-- A change leaves the IP index entry of every backend that it leaves alone. -/
theorem Change.spares_ip (changes : Change True store ops) (indexed : IPsIndexed store)
    (found : store.backend vipID id = some backend)
    (kept : ∀ op ∈ ops, op.Spares Range.covers (.backend vipID id)) :
    ∀ op ∈ ops, op.Spares Range.covers (.index (.backendIP vipID backend.ip)) := by
  have owned := indexed vipID id backend found
  -- an entry that names a backend other than this one is another entry
  have differs : ∀ {other name ip}, Key.backend other name ≠ .backend vipID id →
      (∀ owner, store.owner (.backendIP other ip) = some owner → owner = name) →
        Index.backendIP other ip ≠ .backendIP vipID backend.ip := by
    rintro other name ip different named ⟨⟩
    exact different (named id owned ▸ rfl)
  cases changes with
  | createVIP => simp [Op.Spares]
  | updateVIP =>
    unfold moveOps
    split <;> simp [Op.Spares]
  | deleteVIP stored own =>
    unfold releaseOps
    split <;> simp [Op.Spares, Range.covers]
  | @addBackend new _ stored family fresh unindexed free =>
    have another : Index.backendIP new.vipID new.ip ≠ .backendIP vipID backend.ip :=
      differs (kept _ List.mem_cons_self) (by simp [free])
    simpa [Op.Spares] using another
  | @updateBackend new _ _ ip owns stored family present reverse own uncrossed free =>
    have different := kept _ List.mem_cons_self
    have another : Index.backendIP new.vipID new.ip ≠ .backendIP vipID backend.ip := by
      refine differs different ?_
      by_cases same : ip = new.ip
      · simp [← same, own (uncrossed trivial same)]
      · simp [free same]
    unfold moveOps
    split
    case isTrue moved =>
      have old : Index.backendIP new.vipID ip ≠ .backendIP vipID backend.ip :=
        differs different (by simp [own moved.2])
      simpa [Op.Spares] using And.intro old another
    case isFalse => simpa [Op.Spares] using another
  | @deleteBackend other name ip _ owns present reverse own =>
    unfold releaseOps
    split
    case isTrue mine =>
      have old : Index.backendIP other ip ≠ .backendIP vipID backend.ip :=
        differs (kept _ List.mem_cons_self) (by simp [own mine])
      simpa [Op.Spares] using old
    case isFalse => simp [Op.Spares]

/-- A backend that a change puts is entered into the IP index. -/
theorem Change.puts_ip (changes : Change True store ops)
    (put : .put (.backend vipID id) backend ∈ ops) :
    .put (.index (.backendIP vipID backend.ip)) id ∈ ops := by
  cases changes with
  | createVIP => simp at put
  | updateVIP =>
    unfold moveOps at put
    split at put <;> simp at put
  | deleteVIP stored own =>
    unfold releaseOps at put
    split at put <;> simp at put
  | addBackend =>
    simp at put
    obtain ⟨⟨rfl, rfl⟩, rfl⟩ := put
    simp
  | updateBackend =>
    unfold moveOps at put ⊢
    split at put <;> simp at put <;> obtain ⟨⟨rfl, rfl⟩, rfl⟩ := put <;> simp
  | deleteBackend =>
    unfold releaseOps at put
    split at put <;> simp at put

/-- Tending the indexes takes no IP away from a stored backend. -/
theorem Tending.spares_ip (tends : Tending store ops)
    (found : store.backend vipID id = some backend)
    (owned : store.owner (.backendIP vipID backend.ip) = some id) :
    ∀ op ∈ ops, op.Spares Range.covers (.index (.backendIP vipID backend.ip)) := by
  intro op member
  cases tends with
  | claimIP stored free =>
    obtain rfl := List.mem_singleton.mp member
    rintro ⟨⟩
    cases free.symm.trans owned
  | removeIP own gone =>
    obtain rfl := List.mem_singleton.mp member
    rintro ⟨⟩
    cases own.symm.trans owned
    cases gone.symm.trans found
  | claimTuple | removeBackend =>
    obtain rfl := List.mem_singleton.mp member
    simp [Op.Spares]

theorem IPsIndexed.write (indexed : IPsIndexed store) (writes : Write (Change True) store ops)
    (fine : Etcd.Op.putOnce Range.covers ops = true) : IPsIndexed (store.apply ops) := by
  intro vipID id backend found
  cases writes with
  | @commit ops number counted changes keyed =>
    obtain put | ⟨stored, kept⟩ := value_write_cases fine found
    · have put : .put (.backend vipID id) backend ∈ ops := by simpa using put
      exact value_write_of_put fine (List.mem_append_left _ (changes.puts_ip put))
    · have spares := changes.spares_ip indexed stored fun op member =>
        kept op (List.mem_append_left _ member)
      refine (value_write_of_spares fun op member => ?_).trans (indexed vipID id backend stored)
      obtain member | member := List.mem_append.mp member
      · exact spares op member
      · obtain rfl := List.mem_singleton.mp member
        simp [Op.Spares]
  | tend tends =>
    have stored : store.backend vipID id = some backend :=
      (value_write_of_spares (tends.spares (by simp))).symm.trans found
    have owned := indexed vipID id backend stored
    exact (value_write_of_spares (tends.spares_ip stored owned)).trans owned

theorem ipsIndexed_empty : IPsIndexed Store.empty := by
  intro vipID id backend stored
  cases (value_empty (by simp)).symm.trans stored

end Steps

/-- **IPs are unique.** In every run in which no other backend crosses an update that keeps the IP
of its backend, no two backends of a VIP have the same IP. -/
theorem backends_have_own_ips {rules : TextRules} {sessions : Controllers}
    (reached : (controllers rules).Reachable updatesUncrossed sessions) (vipID : String)
    {first second : String} {one other : Backend}
    (stored : sessions.state.backend vipID first = some one)
    (also : sessions.state.backend vipID second = some other) (same : one.ip = other.ip) :
    first = second := by
  have indexed := (invariant_of_reachable True IPsIndexed (fun _ _ apart read member _ =>
    apart read member) ipsIndexed_empty (fun _ _ _ indexed => indexed.write) reached).2
  have named := indexed vipID second other also
  rw [← same, indexed vipID first one stored] at named
  exact Option.some.inj named

/-- A backend of a VIP is changed and keeps its IP while another one is added. -/
def changedBackend : List (Sessions.Event Invocation) :=
  let backend := fun id => Backend.server id "web"
  Sessions.callThrough 0 (Operation.createVIP (.web "web" "192.0.2.1")).invoke 3 ++
  Sessions.callThrough 0 (Operation.addBackend (backend "b" "10.0.0.1")).invoke 4 ++
  [.call 0 (Operation.updateBackend (backend "b" "10.0.0.1")).invoke,
    .call 1 (Operation.addBackend (backend "c" "10.0.0.2")).invoke,
    .step 0, .step 1, .step 0, .step 1, .step 0, .step 1, .step 0, .step 1] ++
  List.replicate 3 (.step 0)

theorem backends_have_own_ips_changed :
    ∃ sessions, (controllers .lenient).run Controllers.start changedBackend = some sessions ∧
      sessions.state.count = some 5 ∧
        ∀ id backend, sessions.state.backend "web" id = some backend →
          backend.ip = "10.0.0.1" → id = "b" := by
  obtain ⟨sessions, runs, stored⟩ := (controllers .lenient).exists_run_of_check Controllers.start
    changedBackend
    (fun sessions => sessions.state.count = some 5 ∧
      (sessions.state.backend "web" "b").map Backend.ip = some "10.0.0.1") (by decide +kernel)
  have reached := (controllers_start .lenient updatesUncrossed).run (by decide +kernel) runs
  obtain ⟨counted, stored⟩ := stored
  obtain ⟨other, found, ip⟩ := Option.map_eq_some_iff.mp stored
  refine ⟨sessions, runs, counted, fun id backend also same => ?_⟩
  exact backends_have_own_ips reached "web" also found (same.trans ip.symm)

/-- Controller `0` changes the backend `b` of the VIP `web` without touching its IP.  After it
has read `b`, others move `b` away, add `c` at the IP until the claim has seen it there, and
add `d` once `c` is gone. -/
def staleUpdate : List (Sessions.Event Invocation) :=
  let backend := fun id => Backend.server id "web"
  Sessions.callThrough 1 (Operation.createVIP (.web "web" "192.0.2.1")).invoke 3 ++
  Sessions.callThrough 1 (Operation.addBackend (backend "b" "10.0.0.1")).invoke 4 ++
  Sessions.callThrough 0 (Operation.updateBackend (backend "b" "10.0.0.1")).invoke 2 ++
  Sessions.callThrough 1 (Operation.updateBackend (backend "b" "10.0.0.2")).invoke 7 ++
  Sessions.callThrough 1 (Operation.addBackend (backend "c" "10.0.0.1")).invoke 4 ++
  [.step 0] ++
  Sessions.callThrough 1 (Operation.deleteBackend "c").invoke 5 ++
  [.step 0, .step 0] ++
  Sessions.callThrough 1 (Operation.addBackend (backend "d" "10.0.0.1")).invoke 4 ++
  [.step 0, .step 0]

theorem backends_share_ip :
    ∃ sessions, (controllers .lenient).Reachable TransitionSystem.unguarded sessions ∧
      ∃ one other, sessions.state.backend "web" "b" = some one ∧
        sessions.state.backend "web" "d" = some other ∧ one.ip = other.ip := by
  obtain ⟨sessions, runs, first, second⟩ := (controllers .lenient).exists_run_of_check
    Controllers.start staleUpdate
    (fun sessions => (sessions.state.backend "web" "b").map Backend.ip = some "10.0.0.1" ∧
      (sessions.state.backend "web" "d").map Backend.ip = some "10.0.0.1") (by decide +kernel)
  obtain ⟨one, stored, ip⟩ := Option.map_eq_some_iff.mp first
  obtain ⟨other, also, same⟩ := Option.map_eq_some_iff.mp second
  exact ⟨sessions, (controllers_start .lenient _).run
    (TransitionSystem.meets_unguarded _ _ staleUpdate) runs, one, other, stored, also,
    ip.trans same.symm⟩

end ArcaLB.Datastore
