import ArcaLB.Datastore.Controllers
import ArcaLB.Datastore.Moves

/-!
# Clients with transactions

Any number of clients make calls of the operations, and calls on a transaction of their own,
in any interleaving of the reads and transactions that these make.
-/

namespace ArcaLB.Datastore

open Etcd (Reply)

/-- The calls of a client. -/
inductive ClientCall where
  | plain (context : Context) (operation : Operation)
  | beginTx
  | onTx (context : Context) (operation : TxOperation)
  deriving DecidableEq, Repr

/-- A client remembers its transaction. -/
def ClientCall.program (rules : TextRules) (call : ClientCall) (tx : EtcdTransaction) :
    Steps EtcdTransaction :=
  match call with
  | plain context operation => (operation.call rules context).run >>= fun _ => pure tx
  | beginTx => pure .begin
  | onTx context operation =>
    (operation.call rules context).run.run tx >>= fun result => pure result.2

/-- The clients, each with the transaction it is building. -/
abbrev Clients := Sessions Store Txn Reply ClientCall EtcdTransaction

/-- All clients on an empty store. -/
def clients (rules : TextRules) : TransitionSystem Clients (Sessions.Event ClientCall) :=
  Sessions.system (Etcd.handle Range.covers) (ClientCall.program rules) Store.empty .begin

/-- No one has called yet. -/
def Clients.start : Clients := ⟨Store.empty, fun _ => .idle .begin⟩

theorem clients_start (rules : TextRules) (guard : Clients → Sessions.Event ClientCall → Prop) :
    (clients rules).Reachable guard Clients.start :=
  .initial rfl

/-- A call at time `0` whose loops get three rounds, for concrete runs. -/
def Operation.calls (operation : Operation) : ClientCall := .plain ⟨0, "new", "new", 3⟩ operation

/-- The same for a call on a transaction. -/
def TxOperation.calls (operation : TxOperation) : ClientCall := .onTx ⟨0, "new", "new", 3⟩ operation

/-- What a call leaves of the transaction of a client. -/
def ClientCall.Leaves (change : Store → List Op → Prop) (sees : List Store → Store → Prop)
    (call : ClientCall) (tx after : EtcdTransaction) (later : Store) : Prop :=
  match call with
  | plain _ _ => after = tx
  | beginTx => after = .begin
  | onTx context operation => EtcdTransaction.Move change sees context tx operation after later

/-- **One call.** Every call of a client is sound and leaves one of the moves of its transaction,
if what the transaction would commit is a change wherever its conditions hold. -/
theorem sound_program {change : Store → List Op → Prop} {sees : List Store → Store → Prop}
    {rules : TextRules} {tx : EtcdTransaction} {store : Store}
    (includes : ∀ store ops, Change False store ops → change store ops) (sane : Sane store)
    (keyed : Keyed tx.ops)
    (changes : ∀ now, Evolves change store now → tx.Applies now → change now (compacted tx.ops))
    (call : ClientCall) :
    (call.program rules tx).Sound (evolution change) sees
      (fun after _ later => Evolves change store later ∧ call.Leaves change sees tx after later)
      [] store := by
  cases call with
  | beginTx => exact ⟨.refl, rfl⟩
  | plain context operation =>
    have sound : Call.Sound change sees Anything (operation.call rules context) [] store :=
      sound_operation includes sane operation False.elim
    exact Routine.Sound.bind (Routine.Sound.evolved sound) fun _ _ _ ended => ⟨ended.2.1, rfl⟩
  | onTx context operation =>
    have makes : MakesMove change sees rules context tx operation [] store :=
      makesMove operation sane keyed changes
    refine Routine.Sound.bind (Routine.Sound.evolved makes) fun result _ later ended => ?_
    obtain ⟨_ | _, _⟩ := result <;> exact ended.2

end ArcaLB.Datastore
