import ArcaLB.Datastore.Builder

/-!
# The parents of backends

Every backend that clients with transactions store has a parent that allows it, as long as no
one adds a backend for a VIP that `Rollback` has taken out of the transaction.
-/

namespace ArcaLB.Datastore

/-- `AddBackend` is called on a transaction only if this still writes the VIP of the backend,
where it remembers one. -/
def addsToWritten (call : ClientCall) (tx : EtcdTransaction) : Prop :=
  match call with
  | .onTx _ (.addBackend backend) => stillWrites tx backend.vipID = true
  | _ => True

instance (call : ClientCall) (tx : EtcdTransaction) : Decidable (addsToWritten call tx) := by
  unfold addsToWritten
  split <;> infer_instance

/-- No backend is added for a VIP that was rolled back. -/
def rollbacksRespected (clients : Clients) (event : Sessions.Event ClientCall) : Prop :=
  clients.CallsAllowed addsToWritten event

instance (clients : Clients) (event : Sessions.Event ClientCall) :
    Decidable (rollbacksRespected clients event) := by
  unfold rollbacksRespected
  infer_instance

theorem parented_empty : Parented Store.empty := by
  intro vipID id backend stored
  cases (value_empty (by simp)).symm.trans stored

theorem clients_obligations {rules : TextRules} :
    Sessions.Obligations (evolution Respects) (ClientCall.program rules) addsToWritten
      (fun _ _ _ _ => True) (fun store => Sane store ∧ Parented store) Fits where
  kept := fun _ _ holds evolved => keeps_of_evolves Parented evolved
    (fun _ _ _ parented => parented.write) holds
  sound := by
    intro call tx store adds holds fits
    refine (sound_program (fun _ _ => Change.respects) holds.1 fits.keyed
      (fun _ => fits.respects) call).mono fun after _ later ended => ?_
    obtain ⟨evolved, leaves⟩ := ended
    have still := fits.evolves evolved
    cases call with
    | plain context operation => exact leaves ▸ still
    | beginTx => exact leaves ▸ fits_begin later
    | onTx context operation =>
      refine still.move leaves ?_
      rintro given rfl
      exact adds

/-- **Parents and families.** In every run in which no backend is added for a VIP that was
rolled back, each stored backend's parent is stored and allows its address family. -/
theorem backends_have_allowing_parents {rules : TextRules} {sessions : Clients}
    (reached : (clients rules).Reachable rollbacksRespected sessions) {vipID id : String}
    {backend : Backend} (stored : sessions.state.backend vipID id = some backend) :
    backend.vipID = vipID ∧ backend.id = id ∧
      ∃ vip, sessions.state.vip vipID = some vip ∧ FamilyAllowed vip backend := by
  have secure := Sessions.secure_of_reachable clients_obligations ⟨sane_empty, parented_empty⟩
    (fun later _ => fits_begin later) (fun _ _ respected => ⟨respected, fun _ _ => trivial⟩) reached
  obtain ⟨sane, parented⟩ := secure.invariant
  obtain ⟨parent, own⟩ := sane.backend_id vipID id backend stored
  exact ⟨parent, own, parented vipID id backend stored⟩

/-- A VIP and its backend are created in one transaction, another client adds a backend, and a
second transaction changes the VIP. -/
def changedInTransaction : List (Sessions.Event ClientCall) :=
  Sessions.callThrough 0 (TxOperation.createVIP (.web "web" "192.0.2.1")).calls 1 ++
  Sessions.callThrough 0 (TxOperation.addBackend (.server "b" "web" "10.0.0.1")).calls 1 ++
  Sessions.callThrough 0 TxOperation.commit.calls 2 ++
  Sessions.callThrough 1 (Operation.addBackend (.server "c" "web" "10.0.0.2")).calls 4 ++
  Sessions.callThrough 0 .beginTx 0 ++
  Sessions.callThrough 0 (TxOperation.updateVIP (.web "web" "192.0.2.2")).calls 5 ++
  Sessions.callThrough 0 TxOperation.commit.calls 2

theorem backends_have_allowing_parents_changed :
    ∃ sessions, (clients .lenient).run Clients.start changedInTransaction = some sessions ∧
      sessions.state.count = some 4 ∧ ∃ backend, sessions.state.backend "web" "c" = some backend ∧
        ∃ vip, sessions.state.vip "web" = some vip ∧ FamilyAllowed vip backend := by
  obtain ⟨sessions, runs, counted, present⟩ := (clients .lenient).exists_run_of_check
    Clients.start changedInTransaction
    (fun sessions => sessions.state.count = some 4 ∧
      (sessions.state.backend "web" "c").isSome = true) (by decide +kernel)
  have reached := (clients_start .lenient rollbacksRespected).run (by decide +kernel) runs
  obtain ⟨backend, stored⟩ := Option.isSome_iff_exists.mp present
  exact ⟨sessions, runs, counted, backend, stored,
    (backends_have_allowing_parents reached stored).2.2⟩

/-- A VIP is created in a transaction and rolled back; a backend for it is added to the same
transaction, which is committed. -/
def rolledBackParent : List (Sessions.Event ClientCall) :=
  Sessions.callThrough 0 (TxOperation.createVIP (.web "web" "192.0.2.1")).calls 1 ++
  Sessions.callThrough 0 TxOperation.rollback.calls 0 ++
  Sessions.callThrough 0 (TxOperation.addBackend (.server "b" "web" "10.0.0.1")).calls 1 ++
  Sessions.callThrough 0 TxOperation.commit.calls 2

theorem backend_without_parent :
    ∃ sessions, (clients .lenient).Reachable TransitionSystem.unguarded sessions ∧
      (∃ backend, sessions.state.backend "web" "b" = some backend) ∧
        sessions.state.vip "web" = none := by
  obtain ⟨sessions, runs, stored, missing⟩ := (clients .lenient).exists_run_of_check
    Clients.start rolledBackParent
    (fun sessions => (sessions.state.backend "web" "b").isSome = true ∧
      sessions.state.vip "web" = none) (by decide +kernel)
  exact ⟨sessions, (clients_start .lenient _).run
    (TransitionSystem.meets_unguarded _ _ rolledBackParent) runs,
    Option.isSome_iff_exists.mp stored, missing⟩

end ArcaLB.Datastore
