import ArcaLB.Routing.Ownership
import ArcaLB.Agent.Frame
import ArcaLB.Agent.Process
import ArcaLB.Agent.Routines

/-!
# Drains across interleaved passes

The reconcilers of any number of VIPs run their passes side by side over one coordinator;
a step is one locked section or one router call.  A pass that took the drain of its address
gives it back on every way out, with one exception: where `SetServing` cannot withdraw the
route of the address, the pass leaves without `FinishDrain`, and its VIP stays the owner.
-/

namespace ArcaLB.Agent

open Effect (Keeps)

section Protocol

/-- How a reconciler uses the coordinator for one address: the phase says whether its VIP
may own the drain. -/
def drainProtocol (address : String) :
    Routine.Protocol Bool Routing.Call (Bool × Option String) where
  legal := fun held call => call.address = address ∧ (held = true → call.Stays)
  answers := fun held call answer next => next = true → call.mayOwnAfter held answer.1 answer.2

/-- A section that leaves the coordinator alone. -/
def LeavesRouting (change : Node → Node) : Prop :=
  ∀ node, (change node).routing = node.routing

/-- A part of a pass that follows the protocol for the address of its VIP. -/
def Obeys {α : Type} (vip : VirtualIP) (post : α → Bool → Prop) (steps : Steps α)
    (held : Bool) : Prop :=
  steps.Follows (drainProtocol vip.spec.address) LeavesRouting post held

/-- No drain is left. -/
def Released {α : Type} (_ : α) (held : Bool) : Prop := held = false

variable {config : Config} {env : PassEnv} {vip : VirtualIP} {healthy : List BackendSpec}
  {held : Bool} {α β : Type}

theorem Obeys.pure {value : α} {post : α → Bool → Prop} (holds : post value held) :
    Obeys vip post (Pure.pure value) held :=
  Routine.Follows.pure holds

variable {rest : α → Steps β}

theorem Obeys.bind {post : β → Bool → Prop} {mid : α → Bool → Prop} {first : Steps α}
    (before : Obeys vip mid first held)
    (after : ∀ value held, mid value held → Obeys vip post (rest value) held) :
    Obeys vip post (first >>= rest) held :=
  Routine.Follows.bind before after

/-- A section is followed by the rest of the pass in the same phase. -/
theorem Obeys.atomic_bind {post : β → Bool → Prop} {body : Effect Node Empty α}
    (quiet : ∀ routing, Keeps (fun node : Node => node.routing = routing) body)
    (after : ∀ value, Obeys vip post (rest value) held) :
    Obeys vip post (Routine.atomic body >>= rest) held := by
  have before : Obeys vip (fun _ phase => phase = held) (Routine.atomic body) held :=
    Routine.Follows.atomic (fun node => quiet node.routing node rfl) fun _ => rfl
  refine before.bind ?_
  rintro value _ rfl
  exact after value

/-- What follows a release goes on without a drain. -/
theorem Obeys.released_bind {first : Steps α} (before : Obeys vip Released first held)
    (after : ∀ value, Obeys vip Released (rest value) false) :
    Obeys vip Released (first >>= rest) held := by
  refine before.bind ?_
  rintro value _ rfl
  exact after value

/-- `SetServing` keeps the drain where it succeeds. -/
theorem obeys_setServing {serving : Bool} :
    Obeys vip (fun answer next => next = true → held = true ∧ answer.2 = none)
      (Routine.ask (.setServing vip.spec.address serving)) held :=
  Routine.Follows.ask ⟨rfl, fun _ => trivial⟩ fun _ _ leads => leads

/-- `FinishDrain` gives the drain back. -/
theorem obeys_finishDrain : Obeys vip Released (Routine.ask (.finishDrain vip.spec.address)) held :=
  Routine.Follows.ask ⟨rfl, fun _ => trivial⟩ fun _ _ leads => Bool.eq_false_iff.mpr leads

/-- `beginDrain` takes the drain where it grants it, and keeps the one that was held where
it refuses. -/
theorem obeys_beginDrain {force : Bool} :
    Obeys vip
      (fun answer next => next = true → answer.2 = none ∧ (answer.1 = true ∨ held = true))
      (Routine.ask (.beginDrain vip.spec.address force)) held :=
  Routine.Follows.ask ⟨rfl, fun _ => trivial⟩ fun _ _ leads => leads

theorem obeys_releaseUpdateDrain {serving : Bool} :
    Obeys vip Released (Steps.releaseUpdateDrain vip serving) held := by
  refine obeys_setServing.bind ?_
  rintro ⟨advertised, setErr⟩ next leads
  cases setErr with
  | none => exact obeys_finishDrain
  | some err =>
    refine Obeys.pure (Bool.eq_false_iff.mpr fun kept => ?_)
    cases (leads kept).2

theorem obeys_report {conditions : List Condition} :
    Obeys vip Released (Steps.report healthy conditions) false :=
  Obeys.pure rfl

/-- A failed repair releases its drain. -/
theorem obeys_releaseRepairDrain {serving : Bool} {err : String} :
    Obeys vip Released (Steps.releaseRepairDrain vip serving err) held := by
  refine obeys_releaseUpdateDrain.bind ?_
  rintro ⟨advertised, releaseErr⟩ next released
  cases releaseErr <;> exact Obeys.pure released

/-- What a repair leaves: the drain that the pass held before, if it was not released. -/
def LeftByRepair (held : Bool) (result : TuningDriftRepairResult) (next : Bool) : Prop :=
  next = true → held = true ∧ result.drainReleased = false

theorem LeftByRepair.of_released {result : TuningDriftRepairResult} {next : Bool}
    (released : next = false) : LeftByRepair held result next := by
  intro kept
  rw [released] at kept
  cases kept

theorem obeys_repairHeld :
    Obeys vip (fun repaired => LeftByRepair held repaired.1)
      (Steps.repairHeld config env vip healthy) held := by
  refine obeys_beginDrain.bind ?_
  rintro ⟨drained, drainErr⟩ next leads
  cases drainErr with
  | some err =>
    refine Obeys.pure fun kept => ?_
    cases (leads kept).1
  | none =>
    cases drained with
    | false =>
      refine Obeys.pure fun kept => ?_
      rcases (leads kept).2 with granted | wasHeld
      · cases granted
      · exact ⟨wasHeld, rfl⟩
    | true =>
      simp only [Bool.not_true, Bool.false_eq_true, ↓reduceIte]
      split
      · exact Routine.Follows.mono obeys_releaseRepairDrain
          fun _ _ => LeftByRepair.of_released
      · refine Obeys.atomic_bind (fun _ => Keeps.attempt fun _ same => same) ?_
        intro recreated
        cases recreated with
        | error err =>
          exact obeys_releaseRepairDrain.bind
            fun _ _ released => Obeys.pure (.of_released released)
        | ok _ =>
          refine obeys_finishDrain.bind ?_
          rintro ⟨advertised, releaseErr⟩ last released
          cases releaseErr <;> exact Obeys.pure (.of_released released)

/-- Leases that are not acquired leave the drain as it is. -/
theorem obeys_runExclusiveRollouts {lease : String → LeaseReply} {skipped : α}
    {body : Steps (α × Option String)} {post : α → Bool → Prop} (unchanged : post skipped held)
    (shown : Obeys vip (fun returned => post returned.1) body held) (keys : List String) :
    Obeys vip (fun returned => post returned.1)
      (Steps.runExclusiveRollouts lease skipped body keys) held := by
  induction keys with
  | nil => exact shown
  | cons key rest ih =>
    unfold Steps.runExclusiveRollouts
    cases (lease key).acquireErr with
    | some err => exact Obeys.pure unchanged
    | none => exact ih.bind fun _ _ after => Obeys.pure after

/-- **A repair of tuning drift** leaves no drain but the one that the pass held before. -/
theorem obeys_repairTuningDrift {rolloutHeld : Bool} :
    Obeys vip (fun repaired => LeftByRepair held repaired.1)
      (Steps.repairTuningDrift config env vip healthy rolloutHeld) held := by
  have untouched : LeftByRepair held {} held := fun kept => ⟨kept, rfl⟩
  unfold Steps.repairTuningDrift
  split
  · exact Obeys.pure untouched
  · split
    · have body : Obeys vip (fun repaired => LeftByRepair held repaired.1)
          (if (!env.repairCurrent) = true then pure ({}, none)
            else Steps.repairHeld config env vip healthy) held := by
        split
        · exact Obeys.pure untouched
        · exact obeys_repairHeld
      exact obeys_runExclusiveRollouts untouched body _
    · exact obeys_repairHeld

theorem obeys_serve {drainHeld : Bool} (known : held = true → drainHeld = true) :
    Obeys vip Released (Steps.serve vip healthy drainHeld) held := by
  refine obeys_setServing.bind ?_
  rintro ⟨advertised, setErr⟩ next leads
  refine Obeys.released_bind ?_ fun _ => obeys_report
  split
  · exact obeys_finishDrain
  · rename_i skipped
    refine Obeys.pure (Bool.eq_false_iff.mpr fun kept => skipped ?_)
    obtain ⟨wasHeld, succeeded⟩ := leads kept
    simp only at succeeded
    simp [succeeded, known wasHeld]

variable {rolloutHeld drainHeld routeAdvertised : Bool}

theorem obeys_repairAndServe (known : held = true → drainHeld = true) :
    Obeys vip Released
      (Steps.repairAndServe config env vip healthy rolloutHeld drainHeld routeAdvertised)
      held := by
  refine Obeys.atomic_bind (fun _ => Keeps.read) ?_
  intro node
  dsimp only
  split
  · exact obeys_serve known
  · refine obeys_repairTuningDrift.bind ?_
    rintro ⟨result, err⟩ next left
    -- What is left of the drain is released here, or was not held.
    have unreleased : next = true → (drainHeld && !result.drainReleased) = true := by
      intro kept
      obtain ⟨wasHeld, notReleased⟩ := left kept
      simp only at notReleased
      simp [known wasHeld, notReleased]
    dsimp only
    split
    · refine Obeys.released_bind ?_ fun _ => obeys_report
      split
      · exact obeys_releaseUpdateDrain
      · rename_i skipped
        refine Routine.Follows.mono obeys_setServing fun _ last leads => ?_
        exact Bool.eq_false_iff.mpr fun kept => skipped (unreleased (leads kept).1)
    · cases err with
      | none => exact obeys_serve fun kept => known (left kept).1
      | some err =>
        refine Obeys.released_bind ?_ fun _ => obeys_report
        split
        · exact obeys_releaseUpdateDrain
        · rename_i skipped
          have released : next = false :=
            Bool.eq_false_iff.mpr fun kept => skipped (unreleased kept)
          split <;> exact Obeys.pure released

theorem obeys_applyAndCommit (known : held = true → drainHeld = true) :
    Obeys vip Released
      (Steps.applyAndCommit config env vip healthy rolloutHeld drainHeld routeAdvertised)
      held := by
  have free : ¬ drainHeld = true → held = false :=
    fun notHeld => Bool.eq_false_iff.mpr fun kept => notHeld (known kept)
  refine Obeys.atomic_bind (fun _ => Keeps.attempt fun _ same => same) ?_
  intro applied
  cases applied with
  | error err =>
    refine Obeys.released_bind ?_ fun _ => obeys_report
    split
    · exact obeys_releaseUpdateDrain
    · rename_i notHeld
      refine Routine.Follows.mono obeys_setServing fun _ last leads => ?_
      refine Bool.eq_false_iff.mpr fun kept => ?_
      exact absurd (leads kept).1 (Bool.eq_false_iff.mp (free notHeld))
  | ok _ =>
    refine Obeys.atomic_bind
      (fun _ => Keeps.attempt (keeps_transaction (fun _ _ same => same) _ _ _)) ?_
    intro committed
    cases committed with
    | error err =>
      refine Obeys.released_bind ?_ fun _ => obeys_report
      split
      · exact obeys_releaseUpdateDrain
      · rename_i notHeld
        exact Obeys.pure (free notHeld)
    | ok _ =>
      refine Obeys.atomic_bind
        (fun _ => keeps_setLastAppliedVIP (fun _ _ same => same) vip) ?_
      intro _
      exact obeys_repairAndServe known

theorem obeys_drainAndApply {rolloutHeld : Bool} :
    Obeys vip Released (Steps.drainAndApply config env vip healthy rolloutHeld) false := by
  refine obeys_beginDrain.bind ?_
  rintro ⟨drained, drainErr⟩ next leads
  cases drainErr with
  | some err =>
    refine Obeys.pure (Bool.eq_false_iff.mpr fun kept => ?_)
    cases (leads kept).1
  | none =>
    cases drained with
    | false =>
      refine Obeys.pure (Bool.eq_false_iff.mpr fun kept => ?_)
      rcases (leads kept).2 with granted | wasHeld
      · cases granted
      · cases wasHeld
    | true =>
      simp only [Bool.not_true, Bool.false_eq_true, ↓reduceIte]
      split
      · exact obeys_releaseUpdateDrain.released_bind fun _ => obeys_report
      · exact obeys_applyAndCommit fun _ => rfl

theorem obeys_reconcileApplied {rolloutHeld drainBeforeApply : Bool} :
    Obeys vip Released
      (Steps.reconcileApplied config env vip healthy rolloutHeld drainBeforeApply) false := by
  refine Obeys.atomic_bind
    (fun _ => Keeps.attempt (keeps_transaction (fun _ _ same => same) _ _ _)) ?_
  intro persisted
  cases persisted with
  | error err => exact obeys_report
  | ok _ =>
    have moves : Obeys vip Released
        (Routine.ask (.prepareAddressChange vip.spec.address)) false :=
      Routine.Follows.ask ⟨rfl, fun kept => by cases kept⟩
        fun _ _ leads => Bool.eq_false_iff.mpr leads
    refine moves.bind ?_
    rintro ⟨advertised, routeErr⟩ _ rfl
    cases routeErr with
    | some err => exact obeys_report
    | none =>
      dsimp only
      split
      · exact obeys_drainAndApply
      · exact obeys_applyAndCommit fun kept => by cases kept

theorem obeys_planVIPUpdate : Obeys vip Released (Steps.planVIPUpdate config env vip) false := by
  refine Obeys.atomic_bind (fun _ => Keeps.read) ?_
  intro node
  split
  · exact Obeys.pure rfl
  · refine Obeys.atomic_bind
      (fun _ => Keeps.attempt (keeps_needsDrainForVIPUpdate fun _ _ same => same)) ?_
    intro needed
    match needed with
    | .error err | .ok true => exact Obeys.pure rfl
    | .ok false =>
      refine Obeys.atomic_bind (fun _ => Keeps.attempt fun _ same => same) ?_
      intro retained
      match retained with
      | .error err | .ok true | .ok false => exact Obeys.pure rfl

/-- **A pass** that starts without a drain ends without one. -/
theorem obeys_reconcile : Obeys vip Released (Steps.reconcile config env vip) false := by
  refine obeys_planVIPUpdate.released_bind ?_
  intro plan
  split
  · have skipped : Released (none : Option Report) false := rfl
    refine Obeys.released_bind (obeys_runExclusiveRollouts skipped ?_ _) fun _ => Obeys.pure rfl
    split
    · exact Obeys.pure rfl
    · exact obeys_reconcileApplied.released_bind fun _ => Obeys.pure rfl
  · exact obeys_reconcileApplied.released_bind fun _ => Obeys.pure rfl

/-- **A deletion** takes no drain. -/
theorem obeys_handleDelete {env : DeleteEnv} :
    Obeys vip Released (Steps.handleDelete config env vip) false := by
  have deletes : Obeys vip Released (Routine.ask (.delete vip.spec.address)) false :=
    Routine.Follows.ask ⟨rfl, fun kept => by cases kept⟩
      fun _ _ leads => Bool.eq_false_iff.mpr leads
  refine deletes.bind ?_
  rintro ⟨_, routeErr⟩ _ rfl
  cases routeErr with
  | some err => exact Obeys.pure rfl
  | none =>
    exact Routine.Follows.atomic
      (fun node => keeps_routing_finishDelete node.routing node rfl) fun _ => rfl

end Protocol

section System

/-- What a reconciler is set to do for its VIP. -/
inductive Job where
  | pass (env : PassEnv) (vip : VirtualIP)
  | repair (env : PassEnv) (vip : VirtualIP) (healthyBackends : List BackendSpec)
      (rolloutHeld : Bool)
  | deletion (env : DeleteEnv) (vip : VirtualIP)

namespace Job

/-- The object a job works on. -/
def vip : Job → VirtualIP
  | pass _ vip => vip
  | repair _ vip _ _ => vip
  | deletion _ vip => vip

/-- The routine of a job, whose result nobody waits for. -/
def steps (config : Config) : Job → Steps Unit
  | pass env vip => do
      let _ ← Steps.reconcile config env vip
      pure ()
  | repair env vip healthyBackends rolloutHeld => do
      let _ ← Steps.repairTuningDrift config env vip healthyBackends rolloutHeld
      pure ()
  | deletion env vip => do
      let _ ← Steps.handleDelete config env vip
      pure ()

/-- **Every job** that starts without a drain ends without one. -/
theorem obeys_steps (config : Config) (job : Job) :
    Obeys job.vip Released (job.steps config) false := by
  cases job with
  | pass env vip => exact obeys_reconcile.released_bind fun _ => Obeys.pure rfl
  | repair env vip healthyBackends rolloutHeld =>
    refine obeys_repairTuningDrift.bind fun _ _ left => Obeys.pure ?_
    refine Bool.eq_false_iff.mpr fun kept => ?_
    cases (left kept).1
  | deletion env vip => exact obeys_handleDelete.released_bind fun _ => Obeys.pure rfl

end Job

/-- A job in progress: between two calls of the coordinator, or within one. -/
inductive Task where
  | running (steps : Steps Unit)
  | calling (call : Routing.Call) (pc : Routing.Pc) (rest : Bool × Option String → Steps Unit)

/-- A node with the jobs in progress, at most one per VIP. -/
structure Concurrent where
  node : Node
  tasks : VIPKey → Option Task

namespace Concurrent

/-- The job of `key` went on to `task`. -/
def resume (state : Concurrent) (key : VIPKey) (task : Option Task) : Concurrent :=
  { state with tasks := Function.update state.tasks key task }

/-- One step of a job: a section, one step of a call of the coordinator, or the return from
either.  The router answers with `reply` and VPP with `vppReplies`, where they are asked. -/
def advance (state : Concurrent) (key : VIPKey) (reply : Routing.Reply)
    (vppReplies : List DataPlane.Reply) : Task → Option Concurrent
  | .running (.done _) => some (state.resume key none)
  | .running .crashed => none
  | .running (.locked change rest) =>
    let node := state.node.answered [] vppReplies
    some { state.resume key (some (.running (rest node))) with node := change node }
  | .running (.request call rest) =>
    some (state.resume key (some (.calling call (.start call) rest)))
  | .calling call pc rest =>
    match pc.result with
    | some answer => some (state.resume key (some (.running (rest answer))))
    | none =>
      let (next, routing) := pc.step key reply state.node.routing
      some { state.resume key (some (.calling call next rest)) with
        node := { state.node with routing } }

end Concurrent

/-- A job starts, or the job in hand at a key makes its next call. -/
inductive Event where
  | start (job : Job)
  | move (key : VIPKey) (reply : Routing.Reply) (vppReplies : List DataPlane.Reply)

/-- The jobs of any number of VIPs, interleaved in any way: a new coordinator over any
router, VPP and store. -/
def jobs (config : Config) : TransitionSystem Concurrent Event where
  initial := fun state =>
    (∃ interval, state.node.routing.coordinator = Routing.newRouteCoordinator interval) ∧
      ∀ key, state.tasks key = none
  step := fun state event =>
    match event with
    | .start job =>
      match state.tasks job.vip.key with
      | some _ => none
      | none => some (state.resume job.vip.key (some (.running (job.steps config))))
    | .move key reply vppReplies => (state.tasks key).bind (state.advance key reply vppReplies)

/-- **Releases reach the router.** No router call fails that a `SetServing` makes for an
address whose drain its VIP owns. -/
def releasesReachRouter (state : Concurrent) : Event → Prop
  | .start _ => True
  | .move key reply _ =>
    match state.tasks key with
    | some (.calling call pc _) =>
      Routing.releaseReachesRouter key reply state.node.routing.coordinator call pc
    | _ => True

instance (state : Concurrent) (event : Event) : Decidable (releasesReachRouter state event) := by
  unfold releasesReachRouter
  cases event with
  | start job => infer_instance
  | move key reply vppReplies =>
    dsimp only
    split <;> infer_instance

/-- What a VIP may own between its jobs and in one. -/
def Bounded (key : VIPKey) (coordinator : Routing.RouteCoordinator) : Option Task → Prop
  | none => ∀ address, coordinator.ownsDrain key address = false
  | some (.running steps) =>
    ∃ vip held, Routing.OwnsAtMost key vip.spec.address (held = true) coordinator ∧
      Obeys vip Released steps held
  | some (.calling call pc rest) =>
    ∃ vip held, call.address = vip.spec.address ∧
      Routing.Owning key held call pc coordinator ∧
      ∀ answer next, (drainProtocol vip.spec.address).answers held call answer next →
        Obeys vip Released (rest answer) next

/-- Every VIP is within its bound. -/
def Concurrent.Bounded (state : Concurrent) : Prop :=
  ∀ key, Agent.Bounded key state.node.routing.coordinator (state.tasks key)

variable {key : VIPKey} {routing : Routing.Shared} {coordinator : Routing.RouteCoordinator}

/-- Where the VIP owns nothing, it may as well be in the phase without a drain. -/
theorem ownsAtMost_of_free {address : String} {allowed : Prop}
    (free : ∀ drained, coordinator.ownsDrain key drained = false) :
    Routing.OwnsAtMost key address allowed coordinator := by
  intro drained owned
  rw [free drained] at owned
  cases owned

/-- A step of another VIP's call keeps the bound. -/
theorem Bounded.other_step {task : Option Task} {caller : VIPKey} {pc : Routing.Pc}
    {reply : Routing.Reply} (bounded : Bounded key routing.coordinator task)
    (distinct : caller ≠ key) : Bounded key (pc.step caller reply routing).2.coordinator task := by
  match task with
  | none =>
    intro address
    refine Bool.eq_false_iff.mpr fun owned => ?_
    have owns : Routing.OwnsAtMost key address False routing.coordinator :=
      ownsAtMost_of_free bounded
    exact (owns.other_step distinct address owned).2.2.2
  | some (.running steps) =>
    obtain ⟨vip, held, owns, obeys⟩ := bounded
    exact ⟨vip, held, owns.other_step distinct, obeys⟩
  | some (.calling call pc rest) =>
    obtain ⟨vip, held, same, owning, obeys⟩ := bounded
    exact ⟨vip, held, same, owning.other_step distinct, obeys⟩

/-- A call that returned leaves the drain or not, and the job goes on accordingly. -/
theorem Bounded.returned {call : Routing.Call} {result : Bool} {err : Option String}
    {rest : Bool × Option String → Steps Unit}
    (bounded : Bounded key coordinator (some (.calling call (.done result err) rest))) :
    Bounded key coordinator (some (.running (rest (result, err)))) := by
  obtain ⟨vip, held, same, owning, obeys⟩ := bounded
  by_cases owns : ∃ drained, coordinator.ownsDrain key drained = true
  · obtain ⟨drained, owned⟩ := owns
    have may : call.mayOwnAfter held result err := (owning.owned drained owned).2.2.2
    refine ⟨vip, true, ?_, obeys _ _ fun _ => may⟩
    rw [← same]
    exact owning.owned.mono fun _ => rfl
  · have free : ∀ drained, coordinator.ownsDrain key drained = false :=
      fun drained => Bool.eq_false_iff.mpr fun owned => owns ⟨drained, owned⟩
    exact ⟨vip, false, ownsAtMost_of_free free, obeys _ _ fun kept => by cases kept⟩

/-- **Steps of a job.** Every step of the job of `key` keeps its bound and leaves those of
the other VIPs alone, if releases reach the router. -/
theorem Concurrent.Bounded.advance {state next : Concurrent} {reply : Routing.Reply}
    {vppReplies : List DataPlane.Reply} {task : Task} (bounded : state.Bounded)
    (present : state.tasks key = some task)
    (reaches : releasesReachRouter state (.move key reply vppReplies))
    (moves : state.advance key reply vppReplies task = some next) : next.Bounded := by
  intro other
  have mine := bounded key
  rw [present] at mine
  -- A step that leaves the coordinator alone changes only the task of `key`.
  have quiet : ∀ {node : Node} {later : Option Task}, node.routing = state.node.routing →
      Agent.Bounded key state.node.routing.coordinator later →
      Agent.Bounded other node.routing.coordinator
        (Function.update state.tasks key later other) := by
    intro node later same kept
    rw [same]
    by_cases here : other = key
    · subst here
      rw [Function.update_self]
      exact kept
    · rw [Function.update_of_ne here]
      exact bounded other
  match task with
  | .running (.done _) =>
    cases moves
    obtain ⟨vip, held, owns, released⟩ := mine
    refine quiet rfl fun address => Bool.eq_false_iff.mpr fun owned => ?_
    have kept := (owns address owned).2.2.2
    rw [show held = false from released] at kept
    cases kept
  | .running .crashed => cases moves
  | .running (.locked change rest) =>
    cases moves
    obtain ⟨vip, held, owns, quietly, obeys⟩ := mine
    exact quiet (quietly _) ⟨vip, held, owns, obeys _⟩
  | .running (.request call rest) =>
    cases moves
    obtain ⟨vip, held, owns, legal, obeys⟩ := mine
    rw [← legal.1] at owns
    exact quiet rfl ⟨vip, held, legal.1, .start owns legal.2, obeys⟩
  | .calling call pc rest =>
    simp only [Concurrent.advance] at moves
    cases result : pc.result with
    | some answer =>
      simp only [result, Option.some.injEq] at moves
      subst moves
      obtain ⟨value, err⟩ := answer
      have ended : pc = .done value err := by
        cases pc <;> simp_all [Routing.Pc.result]
      subst ended
      exact quiet rfl mine.returned
    | none =>
      simp only [result, Option.some.injEq] at moves
      subst moves
      simp only [releasesReachRouter, present] at reaches
      obtain ⟨vip, held, same, owning, obeys⟩ := mine
      simp only [Concurrent.resume]
      by_cases here : other = key
      · subst here
        rw [Function.update_self]
        exact ⟨vip, held, same, owning.step reaches, obeys⟩
      · rw [Function.update_of_ne here]
        exact (bounded other).other_step (Ne.symm here)

/-- Every VIP stays within its bound along every run whose releases reach the router. -/
theorem bounded_of_reachable {config : Config} {state : Concurrent}
    (reached : (jobs config).Reachable releasesReachRouter state) : state.Bounded := by
  refine reached.invariant ?_ ?_
  · rintro state ⟨⟨interval, fresh⟩, idle⟩ key
    rw [idle key, fresh]
    intro address
    rfl
  · intro state event next bounded reaches moves
    cases event with
    | start job =>
      simp only [jobs] at moves
      split at moves
      · cases moves
      · rename_i absent
        cases moves
        intro key
        by_cases here : key = job.vip.key
        · subst here
          have free := bounded job.vip.key
          rw [absent] at free
          simp only [Concurrent.resume, Function.update_self]
          exact ⟨job.vip, false, ownsAtMost_of_free free, job.obeys_steps config⟩
        · simp only [Concurrent.resume, Function.update_of_ne here]
          exact bounded key
    | move key reply vppReplies =>
      obtain ⟨task, present, advances⟩ := Option.bind_eq_some_iff.mp moves
      exact bounded.advance present reaches advances

/-- **No drain is left behind.** In every run of the passes, tuning repairs and deletions of
any number of VIPs in which releases reach the router, a VIP whose job has returned owns no
drain of any address. -/
theorem no_drain_after_return {config : Config} {state : Concurrent}
    (reached : (jobs config).Reachable releasesReachRouter state) {key : VIPKey}
    (returned : state.tasks key = none) (address : String) :
    state.node.routing.coordinator.ownsDrain key address = false := by
  have bounded := bounded_of_reachable reached key
  rw [returned] at bounded
  exact bounded address

/-- A second service on the address of the first. -/
def secureVIP : VirtualIP :=
  let secure := VirtualIP.web ⟨"default", "secure"⟩ "2" "192.0.2.1"
  { secure with spec := { secure.spec with port := 443 } }

/-- Steps of a job that the router and VPP answer well. -/
def moves (vip : VirtualIP) (count : Nat) : List Event :=
  List.replicate count (.move vip.key ⟨0, none⟩ (List.replicate 4 .ok))

/-- A pass that drains its address, since it cannot load what it applied last. -/
def drainingPass (vip : VirtualIP) : Event :=
  .start (.pass { loadErr := some "database not open" } vip)

/-- No job is in progress yet. -/
def Concurrent.empty : Concurrent := ⟨.empty, fun _ => none⟩

theorem Concurrent.reachable_empty (config : Config) :
    (jobs config).Reachable releasesReachRouter .empty :=
  .initial ⟨⟨0, rfl⟩, fun _ => rfl⟩

/-- The pass of one VIP decides to announce the address; that of the other drains it and
applies its update.  The announce reaches the router only now and is recorded. -/
def overtakenRun (first second : VirtualIP) : List Event :=
  .start (.pass {} first) :: moves first 15 ++ drainingPass second :: moves second 20 ++
    moves first 2

/-- `SetServing` of the second pass withdraws the route again, and both passes go on to their
ends. -/
def releasingRun (first second : VirtualIP) : List Event :=
  overtakenRun first second ++ moves second 11 ++ moves first 3

/-- Two passes on one address, one of which drains it while the other one announces it. -/
theorem no_drain_after_return_contended :
    let web := VirtualIP.web .web "1" "192.0.2.1"
    ∃ final, (jobs .plain).run .empty (releasingRun web secureVIP) = some final ∧
      final.node.routing.coordinator.ownsDrain web.key "192.0.2.1" = false ∧
      final.node.routing.coordinator.ownsDrain secureVIP.key "192.0.2.1" = false ∧
      final.node.routing.routes "192.0.2.1" = true := by
  intro web
  obtain ⟨final, runs, first, second, announced⟩ := (jobs .plain).exists_run_of_check .empty
    (releasingRun web secureVIP)
    (fun final => (final.tasks web.key).isNone = true ∧
      (final.tasks secureVIP.key).isNone = true ∧
      final.node.routing.routes "192.0.2.1" = true) (by decide +kernel)
  have meets : (jobs .plain).Meets releasesReachRouter .empty (releasingRun web secureVIP) := by
    decide +kernel
  have reached := (Concurrent.reachable_empty .plain).run meets runs
  exact ⟨final, runs, no_drain_after_return reached (Option.isNone_iff_eq_none.mp first) _,
    no_drain_after_return reached (Option.isNone_iff_eq_none.mp second) _, announced⟩

/-- `SetServing` of the second pass withdraws the route again, which fails; then the first pass
goes on to its end. -/
def leakingRun (first second : VirtualIP) : List Event :=
  overtakenRun first second ++ moves second 1 ++
    [.move second.key ⟨0, some "connection refused"⟩ []] ++ moves second 2 ++ moves first 5

/-- **A drain that outlives its pass.** Both passes have returned, both VIPs are recorded as
serving, and the second still owns the drain, so that the address stays suppressed. -/
theorem drain_outlives_pass :
    ∃ final, (jobs .plain).run .empty
          (leakingRun (.web .web "1" "192.0.2.1") secureVIP) = some final ∧
        (final.tasks .web).isNone = true ∧ (final.tasks secureVIP.key).isNone = true ∧
        final.node.routing.coordinator.ownsDrain secureVIP.key "192.0.2.1" = true ∧
        final.node.routing.routes "192.0.2.1" = false :=
  (jobs .plain).exists_run_of_check .empty (leakingRun (.web .web "1" "192.0.2.1") secureVIP)
    (fun final => (final.tasks .web).isNone = true ∧ (final.tasks secureVIP.key).isNone = true ∧
      final.node.routing.coordinator.ownsDrain secureVIP.key "192.0.2.1" = true ∧
      final.node.routing.routes "192.0.2.1" = false)
    (by decide +kernel)

end System

end ArcaLB.Agent
