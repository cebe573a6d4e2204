import ArcaLB.Library.Transition
import ArcaLB.Api.VirtualIP

/-!
# The reconciler manager

`Manager` keeps three maps, keyed by VIP: the live reconcilers, those that delete
their VIP, and the objects queued until a deletion is done.  Every locked section
reads and writes the entries of one key only, so the manager is modelled as one
slice per key: its entries of the three maps, its reconcilers, and the position of
the event handler that is working on it.  The events of a key are serial; they
interleave with the run loops of the key's reconcilers and their stop callbacks.
-/

namespace ArcaLB.Manager

/-- Reconcilers are numbered in the order in which they are created. -/
abbrev RecId := Nat

/-- An object queued for recreation.  `arrival` is history: the number of the update
event that brought it. -/
structure Queued where
  vip : VirtualIP
  arrival : Nat
  deriving DecidableEq, Repr

/-- Where the goroutine of a reconciler is.  After `run` returned, the goroutine runs
the stop callback, which goes through `stopping` to `stopped`. -/
inductive Phase where
  | created
  | waiting
  | reconciling
  | cleaning
  | stopping
  | relaunching (next : RecId) (queued : Queued)
  | handing (next : RecId) (queued : Queued)
  | signalling (target : RecId)
  | stopped
  deriving DecidableEq, Repr

/-- A per-VIP reconciler: its current object, its channels, the deletion its run loop
works on, and the position of its goroutine.  `origin` is history: the object it was
created for. -/
structure Reconciler where
  origin : VirtualIP
  current : Option VirtualIP := none
  eventCh : List VirtualIP := []
  reconcileCh : Bool := false
  deleteVIP : Option VirtualIP := none
  deleteRetry : Bool := false
  phase : Phase
  deriving DecidableEq, Repr

/-- The position of the event handler. -/
inductive Handler where
  | idle
  | updating (vip : VirtualIP) (arrival : Nat)
  | delivering (target : RecId) (vip : VirtualIP)
  | signalling (target : RecId)
  | deleting (vip : VirtualIP)
  | marking (target : RecId) (vip : VirtualIP)
  deriving DecidableEq, Repr

/-- What the watcher hands over. -/
inductive Event where
  | update (vip : VirtualIP)
  | delete (vip : VirtualIP)
  deriving DecidableEq, Repr

/-- What became of an update that arrived during a deletion. -/
inductive Fate where
  | waiting
  | replaced (arrival : Nat)
  | cancelled (event : VirtualIP)
  | taken (next : RecId)
  | started (next : RecId)
  deriving DecidableEq, Repr

/-- The part of the manager that belongs to one key.  `lastEvent`, `arrivals` and
`fates` are history. -/
structure Slice where
  vips : Option RecId := none
  deleting : Option RecId := none
  pendingRecreates : Option Queued := none
  reconcilers : RecId → Option Reconciler := fun _ => none
  nextId : RecId := 0
  handler : Handler := .idle
  lastEvent : Option Event := none
  arrivals : Nat := 0
  fates : Nat → Option (VirtualIP × Fate) := fun _ => none

namespace Slice

/-- Change a reconciler in place. -/
def modify (slice : Slice) (id : RecId) (change : Reconciler → Reconciler) : Slice :=
  { slice with
    reconcilers := Function.update slice.reconcilers id ((slice.reconcilers id).map change) }

/-- Moves a reconciler to a phase. -/
def setPhase (slice : Slice) (id : RecId) (phase : Phase) : Slice :=
  slice.modify id fun reconciler => { reconciler with phase }

/-- `newVIPReconciler`, published in the map of live reconcilers. -/
def publish (slice : Slice) (origin : VirtualIP) (phase : Phase) : Slice :=
  { slice with
    vips := some slice.nextId
    reconcilers := Function.update slice.reconcilers slice.nextId (some { origin, phase })
    nextId := slice.nextId + 1 }

/-- Records what became of an arrival. -/
def setFate (slice : Slice) (arrival : Nat) (vip : VirtualIP) (fate : Fate) : Slice :=
  { slice with fates := Function.update slice.fates arrival (some (vip, fate)) }

/-- Record that a queued object leaves the queue. -/
def settleQueued (slice : Slice) (fate : Fate) : Slice :=
  match slice.pendingRecreates with
  | none => slice
  | some queued => slice.setFate queued.arrival queued.vip fate

/-- The locked section of `OnVIPUpdate`. -/
def onVIPUpdate (slice : Slice) (vip : VirtualIP) (arrival : Nat) : Slice :=
  match slice.deleting with
  | some _ =>
    { (slice.settleQueued (.replaced arrival)).setFate arrival vip .waiting with
      pendingRecreates := some ⟨vip, arrival⟩
      handler := .idle }
  | none =>
    match slice.vips with
    | some id => { slice with handler := .delivering id vip }
    | none => { slice.publish vip .waiting with handler := .delivering slice.nextId vip }

/-- The locked section of `OnVIPDelete`. -/
def onVIPDelete (slice : Slice) (vip : VirtualIP) : Slice :=
  match slice.vips with
  | some id => { slice with vips := none, deleting := some id, handler := .marking id vip }
  | none =>
    match slice.pendingRecreates with
    | some queued =>
      if queued.vip.uid = vip.uid then
        { slice.settleQueued (.cancelled vip) with
          pendingRecreates := none
          handler := .idle }
      else { slice with handler := .idle }
    | none => { slice with handler := .idle }

/-- The locked section of `onVIPReconcilerStopped`. -/
def onVIPReconcilerStopped (slice : Slice) (id : RecId) : Slice :=
  if slice.deleting = some id then
    match slice.pendingRecreates with
    | some queued =>
      { ((slice.setPhase id (.relaunching slice.nextId queued)).settleQueued
          (.taken slice.nextId)).publish queued.vip .created with
        deleting := none
        pendingRecreates := none }
    | none => { slice.setPhase id .stopped with deleting := none }
  else
    match slice.vips with
    | some current =>
      if current = id then { slice.setPhase id .stopped with vips := none }
      else slice.setPhase id (.signalling current)
    | none => slice.setPhase id .stopped

/-- The locked section of a reconciler's `update`, which then calls `triggerReconcile`. -/
def setCurrent (slice : Slice) (id : RecId) (vip : VirtualIP) : Slice :=
  slice.modify id fun reconciler => { reconciler with current := some vip }

/-- `triggerReconcile`: a non-blocking send on a channel of capacity one. -/
def triggerReconcile (slice : Slice) (id : RecId) : Slice :=
  slice.modify id fun reconciler => { reconciler with reconcileCh := true }

/-- `markDeleted`: a full event channel loses its oldest event. -/
def markDeleted (slice : Slice) (id : RecId) (vip : VirtualIP) : Slice :=
  slice.modify id fun reconciler =>
    { reconciler with
      eventCh :=
        (if reconciler.eventCh.length < 8 then reconciler.eventCh
          else reconciler.eventCh.tail) ++ [vip] }

end Slice

/-- The steps of a run loop.  A pass is started by the ticker or by the reconcile
channel, a deletion by the event channel or by the retry timer. -/
inductive RunStep where
  | wake (ticker : Bool)
  | finishPass
  | receive
  | retry
  | finishDelete (succeeded : Bool)
  deriving DecidableEq, Repr

/-- The run loop.  Passes are skipped once a deletion is known; a failed deletion arms
the retry timer and a successful one ends the loop. -/
def Reconciler.run (reconciler : Reconciler) : RunStep → Option Reconciler
  | .wake ticker =>
    if reconciler.phase = .waiting ∧ (ticker = true ∨ reconciler.reconcileCh = true) then
      some { reconciler with
        reconcileCh := ticker && reconciler.reconcileCh
        phase := if reconciler.deleteVIP.isNone then .reconciling else .waiting }
    else none
  | .finishPass =>
    if reconciler.phase = .reconciling then some { reconciler with phase := .waiting }
    else none
  | .receive =>
    match reconciler.eventCh with
    | [] => none
    | vip :: rest =>
      if reconciler.phase = .waiting then
        some { reconciler with
          eventCh := rest
          deleteVIP := some vip
          phase := .cleaning }
      else none
  | .retry =>
    if reconciler.phase = .waiting ∧ reconciler.deleteRetry = true then
      some { reconciler with
        deleteRetry := false
        phase := if reconciler.deleteVIP.isNone then .waiting else .cleaning }
    else none
  | .finishDelete succeeded =>
    if reconciler.phase = .cleaning then
      some { reconciler with
        deleteRetry := !succeeded
        phase := if succeeded then .stopping else .waiting }
    else none

/-- The moves of the manager and its goroutines. -/
inductive Label where
  | update (vip : VirtualIP)
  | delete (vip : VirtualIP)
  | handle
  | healthChange
  | run (id : RecId) (step : RunStep)
  | callback (id : RecId)
  deriving DecidableEq, Repr

namespace Slice

/-- The next step of the event handler. -/
def handle (slice : Slice) : Option Slice :=
  match slice.handler with
  | .idle => none
  | .updating vip arrival => some (slice.onVIPUpdate vip arrival)
  | .delivering target vip =>
    some { slice.setCurrent target vip with handler := .signalling target }
  | .signalling target => some { slice.triggerReconcile target with handler := .idle }
  | .deleting vip => some (slice.onVIPDelete vip)
  | .marking target vip => some { slice.markDeleted target vip with handler := .idle }

/-- The phase of every reconciler. -/
def phaseOf (slice : Slice) (id : RecId) : Option Phase :=
  (slice.reconcilers id).map Reconciler.phase

/-- The next step of a stop callback. -/
def callback (slice : Slice) (id : RecId) : Option Slice :=
  match slice.phaseOf id with
  | some .stopping => some (slice.onVIPReconcilerStopped id)
  | some (.relaunching next queued) =>
    some (((slice.setPhase next .waiting).setPhase id (.handing next queued)).setFate
      queued.arrival queued.vip (.started next))
  | some (.handing next queued) =>
    some ((slice.setCurrent next queued.vip).setPhase id (.signalling next))
  | some (.signalling target) => some ((slice.triggerReconcile target).setPhase id .stopped)
  | _ => none

/-- One step of a slice: an event arrives at the idle handler, or the handler, a run
loop or a stop callback takes its next step. -/
def step (slice : Slice) : Label → Option Slice
  | .update vip =>
    if slice.handler = .idle then
      some { slice with
        handler := .updating vip slice.arrivals
        lastEvent := some (.update vip)
        arrivals := slice.arrivals + 1 }
    else none
  | .delete vip =>
    if slice.handler = .idle then
      some { slice with handler := .deleting vip, lastEvent := some (.delete vip) }
    else none
  | .handle => slice.handle
  | .healthChange =>
    match slice.vips with
    | some id => some (slice.triggerReconcile id)
    | none => some slice
  | .run id step =>
    match slice.reconcilers id with
    | some reconciler =>
      (reconciler.run step).map fun next =>
        { slice with reconcilers := Function.update slice.reconcilers id (some next) }
    | none => none
  | .callback id => slice.callback id

end Slice

/-- The manager's behaviour for one key, from an empty manager. -/
def slices : TransitionSystem Slice Label where
  initial := fun slice => slice = {}
  step := Slice.step

/-- The manager: an independent slice per key. -/
def system : TransitionSystem (VIPKey → Slice) (VIPKey × Label) :=
  slices.product VIPKey

/-- Each slice of a reachable manager is reached by its own behaviour. -/
theorem slice_reachable {state : VIPKey → Slice}
    (reached : system.Reachable TransitionSystem.unguarded state) (key : VIPKey) :
    slices.Reachable TransitionSystem.unguarded (state key) := by
  have product : (slices.product VIPKey).Reachable
      (fun states label => TransitionSystem.unguarded (states label.1) label.2) state := reached
  exact product.component key

end ArcaLB.Manager
