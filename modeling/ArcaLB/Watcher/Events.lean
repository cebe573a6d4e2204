import ArcaLB.Api.VirtualIP

/-!
# Informer events

The watcher's event handler turns the informer's events into calls of the agent, and drops
updates that change neither generation nor spec.  The events of one key come in an order
that the informer's store determines: an update names the stored object as the old one, and
only a stored object is deleted.
-/

namespace ArcaLB.Watcher

/-- An object that an informer hands over: a VirtualIP, the tombstone of an object whose
deletion the informer missed, or something else. -/
inductive Obj where
  | vip (vip : VirtualIP)
  | tombstone (last : Option VirtualIP)
  | other
  deriving DecidableEq, Repr

/-- The VirtualIP of an object or of a tombstone. -/
def Obj.virtualIP : Obj → Option VirtualIP
  | .vip object => some object
  | .tombstone last => last
  | .other => none

/-- The key under which the gate keeps an object; empty for one without a key. -/
def virtualIPEventKey (obj : Obj) : String :=
  match obj.virtualIP with
  | none => ""
  | some vip => if vip.key.space = "" ∨ vip.key.name = "" then "" else vip.key.text

/-- A call of the agent's handler. -/
inductive HandlerCall where
  | update (vip : VirtualIP)
  | delete (vip : VirtualIP)
  deriving DecidableEq, Repr

/-- The key of a call. -/
def HandlerCall.key : HandlerCall → String
  | .update vip => virtualIPEventKey (.vip vip)
  | .delete vip => virtualIPEventKey (.vip vip)

/-- An informer event; the gate's `pendingSyncEvent` without its key. -/
inductive Event where
  | add (obj : Obj)
  | update (oldObj newObj : Obj)
  | delete (obj : Obj)
  deriving DecidableEq, Repr

/-- The object of an event. -/
def Event.obj : Event → Obj
  | .add obj => obj
  | .update _ obj => obj
  | .delete obj => obj

/-- The key of an event. -/
def Event.key (event : Event) : String := virtualIPEventKey event.obj

/-- An update that changes nothing the agent reads. -/
def sameObservedSpec (oldVIP newVIP : VirtualIP) : Bool :=
  oldVIP.generation = newVIP.generation ∧ oldVIP.spec = newVIP.spec

/-- `OnAdd` of the event handler. -/
def onAdd : Obj → Option HandlerCall
  | .vip vip => if vip.terminating then some (.delete vip) else some (.update vip)
  | _ => none

/-- `OnUpdate` of the event handler. -/
def onUpdate (oldObj newObj : Obj) : Option HandlerCall :=
  match newObj with
  | .vip vip =>
    if vip.terminating then some (.delete vip)
    else
      match oldObj with
      | .vip old => if sameObservedSpec old vip then none else some (.update vip)
      | _ => some (.update vip)
  | _ => none

/-- `OnDelete` of the event handler. -/
def onDelete (obj : Obj) : Option HandlerCall :=
  obj.virtualIP.map .delete

/-- The handler call that delivers an event, if it makes one. -/
def Event.call : Event → Option HandlerCall
  | .add obj => onAdd obj
  | .update oldObj newObj => onUpdate oldObj newObj
  | .delete obj => onDelete obj

theorem Event.key_of_call {event : Event} {call : HandlerCall} (calls : event.call = some call) :
    call.key = event.key := by
  cases event with
  | add obj =>
    cases obj <;> simp only [Event.call, onAdd] at calls
    · split at calls <;> cases calls <;> rfl
    all_goals cases calls
  | update oldObj newObj =>
    cases newObj <;> simp only [Event.call, onUpdate] at calls
    · split at calls
      · cases calls
        rfl
      · split at calls
        · split at calls <;> cases calls
          rfl
        · cases calls
          rfl
    all_goals cases calls
  | delete obj =>
    obtain ⟨vip, present, rfl⟩ := Option.map_eq_some_iff.mp calls
    have same : virtualIPEventKey obj = virtualIPEventKey (.vip vip) := by
      unfold virtualIPEventKey
      rw [present]
      rfl
    exact same.symm

/-- The calls of a key are those of its events. -/
theorem filter_call (events : List Event) (key : String) :
    (events.filterMap Event.call).filter (·.key = key) =
      (events.filter (·.key = key)).filterMap Event.call := by
  induction events with
  | nil => rfl
  | cons event rest ih =>
    cases calls : event.call with
    | none =>
      rw [List.filterMap_cons_none calls, ih, List.filter_cons]
      split
      · rw [List.filterMap_cons_none calls]
      · rfl
    | some call =>
      rw [List.filterMap_cons_some calls, List.filter_cons, List.filter_cons,
        Event.key_of_call calls, ih]
      split
      · rw [List.filterMap_cons_some calls]
      · rfl

/-- The last call that delivering the events makes. -/
def lastCall (events : List Event) : Option HandlerCall :=
  (events.filterMap Event.call).getLast?

theorem lastCall_append (events : List Event) (event : Event) :
    lastCall (events ++ [event]) = event.call.or (lastCall events) := by
  unfold lastCall
  cases calls : event.call <;> simp [List.filterMap_append, calls]

/-- The events of one key and the object that the informer holds after them. -/
inductive Informed : List Event → Option VirtualIP → Prop where
  | nil : Informed [] none
  | add {events : List Event} (vip : VirtualIP) (before : Informed events none) :
      Informed (events ++ [.add (.vip vip)]) (some vip)
  | update {events : List Event} {old : VirtualIP} (vip : VirtualIP)
      (before : Informed events (some old)) :
      Informed (events ++ [.update (.vip old) (.vip vip)]) (some vip)
  | delete {events : List Event} {old : VirtualIP} (obj : Obj)
      (present : obj.virtualIP.isSome = true) (before : Informed events (some old)) :
      Informed (events ++ [.delete obj]) none

/-- The object that the informer holds after an event, where the event can come next. -/
def Event.informs : Event → Option VirtualIP → Option (Option VirtualIP)
  | .add (.vip vip), none => some (some vip)
  | .update (.vip old) (.vip vip), some stored => if old = stored then some (some vip) else none
  | .delete obj, some _ => if obj.virtualIP.isSome then some none else none
  | _, _ => none

theorem Informed.snoc {events : List Event} {stored latest : Option VirtualIP} {event : Event}
    (informed : Informed events stored) (informs : event.informs stored = some latest) :
    Informed (events ++ [event]) latest := by
  unfold Event.informs at informs
  split at informs
  · cases informs
    exact informed.add _
  · split at informs <;> cases informs
    rename_i same
    subst same
    exact informed.update _
  · split at informs <;> cases informs
    rename_i present
    exact informed.delete _ present
  · cases informs

/-- Two objects that the agent cannot tell apart: the same spec, generation and deletion
mark. -/
structure Alike (left right : VirtualIP) : Prop where
  spec : left.spec = right.spec
  generation : left.generation = right.generation
  terminating : left.terminating = right.terminating

theorem Alike.refl (vip : VirtualIP) : Alike vip vip := ⟨rfl, rfl, rfl⟩

theorem Alike.symm {left right : VirtualIP} (alike : Alike left right) : Alike right left :=
  ⟨alike.spec.symm, alike.generation.symm, alike.terminating.symm⟩

theorem Alike.trans {left middle right : VirtualIP} (first : Alike left middle)
    (second : Alike middle right) : Alike left right :=
  ⟨first.spec.trans second.spec, first.generation.trans second.generation,
    first.terminating.trans second.terminating⟩

theorem alike_of_sameObservedSpec {old vip : VirtualIP} (same : sameObservedSpec old vip = true)
    (terminating : old.terminating = vip.terminating) : Alike old vip := by
  simp only [sameObservedSpec, decide_eq_true_eq] at same
  exact ⟨same.2, same.1, terminating⟩

/-- `call` tells the agent what the event says: the deletion, or an object like the
event's. -/
def Event.Shown : Event → Option HandlerCall → Prop
  | .delete obj, call => call = onDelete obj
  | .add (.vip vip), call | .update _ (.vip vip), call =>
    if vip.terminating then call = some (.delete vip)
    else ∃ told, call = some (.update told) ∧ Alike told vip
  | _, _ => True

/-- The calls are of the same kind, with objects that are alike. -/
def Agree : Option HandlerCall → Option HandlerCall → Prop
  | none, none => True
  | some (.update left), some (.update right) => Alike left right
  | some (.delete left), some (.delete right) => Alike left right
  | _, _ => False

theorem Agree.refl (call : Option HandlerCall) : Agree call call := by
  rcases call with _ | _ | _
  · trivial
  · exact Alike.refl _
  · exact Alike.refl _

/-- The last event of an informer leaves nothing open about what it shows. -/
theorem Informed.agree {events : List Event} {stored : Option VirtualIP}
    (informed : Informed events stored) {event : Event} (last : event ∈ events.getLast?)
    {left right : Option HandlerCall} (leftShown : event.Shown left)
    (rightShown : event.Shown right) : Agree left right := by
  have object (vip : VirtualIP)
      (leftTold : if vip.terminating then left = some (.delete vip)
        else ∃ told, left = some (.update told) ∧ Alike told vip)
      (rightTold : if vip.terminating then right = some (.delete vip)
        else ∃ told, right = some (.update told) ∧ Alike told vip) : Agree left right := by
    split at leftTold
    · rename_i terminating
      rw [if_pos terminating] at rightTold
      rw [leftTold, rightTold]
      exact Agree.refl _
    · rename_i live
      rw [if_neg live] at rightTold
      obtain ⟨told, rfl, alike⟩ := leftTold
      obtain ⟨other, rfl, otherAlike⟩ := rightTold
      exact alike.trans otherAlike.symm
  cases informed with
  | nil => cases last
  | add vip | update vip =>
    rw [List.getLast?_concat, Option.mem_some_iff] at last
    subst last
    exact object vip leftShown rightShown
  | delete obj =>
    rw [List.getLast?_concat, Option.mem_some_iff] at last
    subst last
    cases leftShown
    cases rightShown
    exact Agree.refl _

end ArcaLB.Watcher
