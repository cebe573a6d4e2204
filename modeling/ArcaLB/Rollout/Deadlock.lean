import ArcaLB.Agent.Reconciler
import ArcaLB.Library.Acquisition
import Mathlib.Data.List.Dedup
import Mathlib.Data.Prod.Lex
import Mathlib.Data.String.Basic

/-!
# Rollouts do not wait for each other in a cycle

`RunExclusive` takes the local lock of a key and then its lease, and gives them back in the
opposite order.  Reconcilers call it for sorted keys, one inside the other, and inside of it
only if they hold no key; startup cleanup calls it for one key at a time.  So local locks and
leases are taken in the order of the keys, the lock of a key before its lease.
-/

namespace ArcaLB.Rollout

open Agent (Config Node PassEnv VipUpdatePlan planVIPUpdate rolloutKeysForAddresses)

/-- What a caller can wait for: the local lock of a key in its agent, or a lease. -/
inductive Resource (Agent : Type) where
  | localLock (agent : Agent) (key : String)
  | lease (name : String)
  deriving DecidableEq

variable {Agent : Type}

/-- `LeaseName`, with the hash of the key. -/
def leaseName (keyHash : String → String) (key : String) : String :=
  "arca-lb-rollout-" ++ keyHash key

section Scripts

variable (keyHash : String → String) (agent : Agent)

/-- `RunExclusive`: `fn` runs between the lock and the lease of the key and is followed by
their release; where one of them cannot be acquired, `fn` does not run. -/
def runExclusive (key : String) (fn : Script (Resource Agent) → Script (Resource Agent))
    (rest : Script (Resource Agent)) : Script (Resource Agent) :=
  .take (.localLock agent key)
    (.take (.lease (leaseName keyHash key))
      (fn (.drop (.lease (leaseName keyHash key)) (.drop (.localLock agent key) rest)))
      (.drop (.localLock agent key) rest))
    rest

/-- `runExclusiveRollouts`. -/
def runExclusiveRollouts (fn : Script (Resource Agent) → Script (Resource Agent)) :
    List String → Script (Resource Agent) → Script (Resource Agent)
  | [], rest => fn rest
  | key :: keys, rest => runExclusive keyHash agent key (runExclusiveRollouts fn keys) rest

/-- `repairTuningDrift`: the key of the address is acquired unless it is held. -/
def repairTuningDrift (rollouts : Bool) (address : String) (rolloutHeld : Bool)
    (rest : Script (Resource Agent)) : Script (Resource Agent) :=
  if rollouts && !rolloutHeld then
    runExclusiveRollouts keyHash agent .work (rolloutKeysForAddresses [address]) rest
  else .work rest

/-- `reconcileApplied`; `drifts` says whether it finds tuning drift to repair. -/
def reconcileApplied (rollouts : Bool) (address : String) (rolloutHeld drifts : Bool)
    (rest : Script (Resource Agent)) : Script (Resource Agent) :=
  .work
    (if drifts then
      repairTuningDrift keyHash agent rollouts address rolloutHeld (.work rest)
    else rest)

/-- The part of `reconcile` after its plan is made. -/
def reconcilePlanned (rollouts : Bool) (plan : VipUpdatePlan) (address : String) (drifts : Bool)
    (rest : Script (Resource Agent)) : Script (Resource Agent) :=
  if rollouts && !plan.rolloutKeys.isEmpty then
    runExclusiveRollouts keyHash agent (reconcileApplied keyHash agent rollouts address true drifts)
      plan.rolloutKeys rest
  else reconcileApplied keyHash agent rollouts address false drifts rest

/-- `rolloutKeyForCleanup` of a retained config under a key of the store. -/
def rolloutKeyForCleanup (key address : String) : String :=
  if address ≠ "" then "vip-address/" ++ address else "virtualip/" ++ key

/-- `cleanupStaleLastConfigs`, for the keys and addresses of the configs that are stale. -/
def cleanupStaleLastConfigs (rollouts : Bool) :
    List (String × String) → Script (Resource Agent) → Script (Resource Agent)
  | [], rest => rest
  | (key, address) :: configs, rest =>
    if rollouts then
      runExclusive keyHash agent (rolloutKeyForCleanup key address) .work
        (cleanupStaleLastConfigs rollouts configs rest)
    else .work (cleanupStaleLastConfigs rollouts configs rest)

/-- What callers do: a pass of a reconciler at a state of its node, or startup cleanup. -/
inductive Job where
  | reconcile (config : Config) (env : PassEnv) (vip : VirtualIP) (node : Node) (drifts : Bool)
  | cleanup (rollouts : Bool) (stale : List (String × String))

/-- What the job locks, and in which order. -/
def Job.script : Job → Script (Resource Agent)
  | .reconcile config env vip node drifts =>
    match (planVIPUpdate config env vip node).1 with
    | .ok plan =>
      reconcilePlanned keyHash agent config.rollouts plan vip.spec.address drifts .finished
    | _ => .finished
  | .cleanup rollouts stale => cleanupStaleLastConfigs keyHash agent rollouts stale .finished

end Scripts

/-- Any number of callers in any number of agents.  A lease lapses when it is not renewed, and
it may be left behind where its release fails. -/
def rollouts (Agent Id : Type) [DecidableEq Agent] [DecidableEq Id] (keyHash : String → String) :
    TransitionSystem (Callers (Agent × Id) (Resource Agent))
      (Callers.Event (Agent × Id) (Resource Agent) Job) :=
  Callers.system (fun caller job => job.script keyHash caller.1) fun
    | .localLock _ _ => false
    | .lease _ => true

section Order

variable {keyHash : String → String}

/-- The rank of a resource: its key, and the local lock of the key before its lease. -/
noncomputable def rank (keyHash : String → String) : Resource Agent → String ×ₗ Bool
  | .localLock _ key => toLex (key, false)
  | .lease name => toLex (Function.invFun (leaseName keyHash) name, true)

variable (distinct : Function.Injective (leaseName keyHash))
include distinct

theorem rank_lease (key : String) :
    rank keyHash (.lease (leaseName keyHash key) : Resource Agent) = toLex (key, true) := by
  simp only [rank]
  rw [Function.leftInverse_invFun distinct key]

/-- What is held belongs to smaller keys. -/
def Below (keyHash : String → String) (held : List (Resource Agent)) (key : String) : Prop :=
  ∀ resource ∈ held, rank keyHash resource < toLex (key, false)

variable {agent : Agent} {fn : Script (Resource Agent) → Script (Resource Agent)}
  {rest : Script (Resource Agent)} {held : List (Resource Agent)}

theorem Below.pair {key later : String} (below : Below keyHash held key) (larger : key < later) :
    Below keyHash (.lease (leaseName keyHash key) :: .localLock agent key :: held) later := by
  have step : ∀ level : Bool, (toLex (key, level) : String ×ₗ Bool) < toLex (later, false) := by
    intro level
    exact Prod.Lex.toLex_lt_toLex.mpr (.inl larger)
  intro resource member
  obtain rfl | member := List.mem_cons.mp member
  · rw [rank_lease distinct]
    exact step true
  obtain rfl | member := List.mem_cons.mp member
  · exact step false
  · exact lt_trans (below resource member) (step false)

theorem ordered_runExclusive {key : String} (below : Below keyHash held key)
    (runs : ∀ rest : Script (Resource Agent),
      rest.Ordered (rank keyHash)
        (.lease (leaseName keyHash key) :: .localLock agent key :: held) →
      (fn rest).Ordered (rank keyHash)
        (.lease (leaseName keyHash key) :: .localLock agent key :: held))
    (continues : rest.Ordered (rank keyHash) held) :
    (runExclusive keyHash agent key fn rest).Ordered (rank keyHash) held := by
  refine ⟨below, ⟨?_, ?_, ?_⟩, continues⟩
  · have level : (toLex (key, false) : String ×ₗ Bool) < toLex (key, true) :=
      Prod.Lex.toLex_lt_toLex.mpr (.inr ⟨rfl, Bool.false_lt_true⟩)
    intro resource member
    rw [rank_lease distinct]
    obtain rfl | member := List.mem_cons.mp member
    · exact level
    · exact lt_trans (below resource member) level
  · exact runs _ ⟨_, rfl, _, rfl, continues⟩
  · exact ⟨held, rfl, continues⟩

/-- Nested acquisition of sorted keys. -/
theorem ordered_runExclusiveRollouts {keys : List String} (sorted : keys.Pairwise (· < ·))
    (below : ∀ key ∈ keys, Below keyHash held key)
    (runs : ∀ held rest, Script.Ordered (rank keyHash) held rest →
      (fn rest).Ordered (rank keyHash) held) (continues : rest.Ordered (rank keyHash) held) :
    (runExclusiveRollouts keyHash agent fn keys rest).Ordered (rank keyHash) held := by
  induction keys generalizing held rest with
  | nil => exact runs held rest continues
  | cons key keys ih =>
    obtain ⟨smallest, sorted⟩ := List.pairwise_cons.mp sorted
    have own := below key List.mem_cons_self
    refine ordered_runExclusive distinct own (fun rest continues => ?_) continues
    exact ih sorted (fun later member => own.pair distinct (smallest later member)) continues

omit distinct in
theorem sorted_rolloutKeys (addresses : List String) :
    (rolloutKeysForAddresses addresses).Pairwise (· < ·) := by
  unfold rolloutKeysForAddresses
  generalize (addresses.filter (· ≠ "")).map Agent.rolloutKeyForAddress = keys
  have sorted : (keys.dedup.insertionSort (· ≤ ·)).Pairwise (· ≤ ·) :=
    List.pairwise_insertionSort _ _
  have nodup : (keys.dedup.insertionSort (· ≤ ·)).Nodup :=
    (List.perm_insertionSort _ _).nodup_iff.mpr keys.nodup_dedup
  exact (sorted.and nodup).imp fun both => lt_of_le_of_ne both.1 both.2

omit distinct in
/-- The keys of a plan are in order. -/
theorem sorted_planned {config : Config} {env : PassEnv} {vip : VirtualIP} {node : Node}
    {plan : VipUpdatePlan} (planned : (planVIPUpdate config env vip node).1 = .ok plan) :
    plan.rolloutKeys.Pairwise (· < ·) := by
  have ensures : Effect.Ensures (planVIPUpdate config env vip) (fun _ => True)
      (fun plan _ => plan.rolloutKeys.Pairwise (· < ·)) node := by
    have anything : ∀ {ε α : Type} (body : Effect Node ε α) node,
        Effect.Ensures body (fun _ => True) (fun _ _ => True) node := fun body node =>
      Effect.Ensures.of_forall body (fun _ => trivial) fun _ _ => trivial
    refine Effect.Ensures.read_bind ?_
    split
    · exact sorted_rolloutKeys _
    · refine (anything _ node).bind fun needed next _ => ?_
      match needed with
      | .error _ => exact sorted_rolloutKeys _
      | .ok true => exact sorted_rolloutKeys _
      | .ok false =>
        refine (anything _ next).bind fun needed last _ => ?_
        match needed with
        | .error _ => exact sorted_rolloutKeys _
        | .ok true => exact sorted_rolloutKeys _
        | .ok false => exact List.Pairwise.nil
  exact ensures.returned (Prod.ext planned rfl)

theorem ordered_repairTuningDrift {rollouts rolloutHeld : Bool} {address : String}
    (free : rolloutHeld = true ∨ held = []) (continues : rest.Ordered (rank keyHash) held) :
    (repairTuningDrift keyHash agent rollouts address rolloutHeld rest).Ordered (rank keyHash)
      held := by
  unfold repairTuningDrift
  split
  · rename_i acquires
    obtain held | rfl := free
    · simp [held] at acquires
    · exact ordered_runExclusiveRollouts distinct (sorted_rolloutKeys _) (by simp [Below])
        (fun _ _ continues => continues) continues
  · exact continues

theorem ordered_reconcileApplied {rollouts rolloutHeld drifts : Bool} {address : String}
    (free : rolloutHeld = true ∨ held = []) (continues : rest.Ordered (rank keyHash) held) :
    (reconcileApplied keyHash agent rollouts address rolloutHeld drifts rest).Ordered
      (rank keyHash) held := by
  unfold reconcileApplied
  simp only [Script.Ordered]
  split
  · exact ordered_repairTuningDrift distinct free continues
  · exact continues

theorem ordered_cleanup {rollouts : Bool} (stale : List (String × String))
    (continues : rest.Ordered (rank keyHash) []) :
    (cleanupStaleLastConfigs keyHash agent rollouts stale rest).Ordered (rank keyHash) [] := by
  induction stale with
  | nil => exact continues
  | cons config configs ih =>
    obtain ⟨key, address⟩ := config
    unfold cleanupStaleLastConfigs
    split
    · exact ordered_runExclusive distinct (by simp [Below]) (fun _ continues => continues) ih
    · exact ih

/-- **Every job takes its resources in order.** -/
theorem ordered_script (job : Job) : (job.script keyHash agent).Ordered (rank keyHash) [] := by
  have ends : (Script.finished : Script (Resource Agent)).Ordered (rank keyHash) [] := rfl
  cases job with
  | reconcile config env vip node drifts =>
    simp only [Job.script]
    split
    · rename_i plan planned
      unfold reconcilePlanned
      split
      · exact ordered_runExclusiveRollouts distinct (sorted_planned planned) (by simp [Below])
          (fun _ _ continues => ordered_reconcileApplied distinct (.inl rfl) continues) ends
      · exact ordered_reconcileApplied distinct (.inr rfl) ends
    · exact ends
  | cleanup rollouts stale => exact ordered_cleanup distinct stale ends

end Order

/-- **No deadlock between rollouts.** In no reachable state do reconcilers and startup cleanups
of any agents wait for each other's keys in a cycle. -/
theorem rollouts_never_deadlock {Agent Id : Type} [DecidableEq Agent] [DecidableEq Id]
    {keyHash : String → String} (distinct : Function.Injective (leaseName keyHash))
    {callers : Callers (Agent × Id) (Resource Agent)}
    (reached : (rollouts Agent Id keyHash).Reachable TransitionSystem.unguarded callers)
    (caller : Agent × Id) : ¬Relation.TransGen callers.Waits caller caller :=
  Callers.not_waits_in_cycle (fun _ job => ordered_script distinct job) reached caller

/-- Two callers of one agent clean up the same address. -/
def contendedCleanup :
    List (Callers.Event (Unit × Bool) (Resource Unit) Job) :=
  let job := Job.cleanup true [("default/web", "192.0.2.1")]
  [.start ((), false) job, .start ((), true) job, .take ((), false) true, .take ((), false) true]

/-- The second one waits for the first one, and nobody waits in a cycle. -/
theorem rollouts_never_deadlock_contended :
    ∃ callers, (rollouts Unit Bool id).Reachable TransitionSystem.unguarded callers ∧
      callers.Waits ((), true) ((), false) ∧
      ¬Relation.TransGen callers.Waits ((), true) ((), true) := by
  obtain ⟨callers, runs, wants, owned⟩ := (rollouts Unit Bool id).exists_run_of_check
    ⟨fun _ => .finished, fun _ => .free⟩ contendedCleanup
    (fun callers =>
      (callers.scripts ((), true)).wants = some (.localLock () "vip-address/192.0.2.1") ∧
        callers.owners (.localLock () "vip-address/192.0.2.1") = .held ((), false))
    (by decide +kernel)
  have idle : (rollouts Unit Bool id).initial ⟨fun _ => .finished, fun _ => .free⟩ :=
    ⟨fun _ => rfl, fun _ _ => by simp⟩
  have reached := (TransitionSystem.Reachable.initial idle).run
    (TransitionSystem.meets_unguarded _ _ contendedCleanup) runs
  have distinct : Function.Injective (leaseName id) := fun first second same => by
    simpa [leaseName] using same
  exact ⟨callers, reached, ⟨_, wants, owned⟩, rollouts_never_deadlock distinct reached _⟩

end ArcaLB.Rollout
