import ArcaLB.Watcher.Events
import Mathlib.Data.List.Induction

/-!
# Merged events

While the initial-sync gate holds an event back, a later event of the same key is merged
with it.  What the agent is told in the end is the same, merged or not, with one exception:
the filter that drops updates without a new generation or spec also drops a live object that
replaces a terminating one, where the two agree in generation and spec.
-/

namespace ArcaLB.Watcher

/-- The event held for a key after `next` arrived; `none` where nothing was held. -/
def coalescePendingEvent : Option Event → Event → Event
  | some (.add _), .update _ obj => .add obj
  | some (.update oldObj _), .update _ obj => .update oldObj obj
  | _, next => next

theorem obj_coalescePendingEvent (existing : Option Event) (next : Event) :
    (coalescePendingEvent existing next).obj = next.obj := by
  unfold coalescePendingEvent
  split <;> rfl

theorem key_coalescePendingEvent (existing : Option Event) (next : Event) :
    (coalescePendingEvent existing next).key = next.key := by
  rw [Event.key, obj_coalescePendingEvent, Event.key]

/-- `merged` arises from `events` by merging neighbours, where every event of `merged` met
`allowed` when it was formed. -/
inductive Merges (allowed : Event → Prop) : List Event → List Event → Prop where
  | nil : Merges allowed [] []
  | append {events merged : List Event} {event : Event} (before : Merges allowed events merged)
      (permitted : allowed event) : Merges allowed (events ++ [event]) (merged ++ [event])
  | coalesce {events merged : List Event} {held event : Event}
      (before : Merges allowed events (merged ++ [held]))
      (permitted : allowed (coalescePendingEvent (some held) event)) :
      Merges allowed (events ++ [event]) (merged ++ [coalescePendingEvent (some held) event])

variable {allowed : Event → Prop}

/-- Events that are not merged at all. -/
theorem merges_refl {events : List Event}
    (permitted : ∀ event ∈ events, allowed event) : Merges allowed events events := by
  induction events using List.reverseRecOn with
  | nil => exact .nil
  | append_singleton events event ih =>
    apply Merges.append
    · exact ih fun earlier mem => permitted earlier (List.mem_append_left _ mem)
    · exact permitted event (by simp)

theorem Merges.eq_nil {merged : List Event} (merges : Merges allowed [] merged) : merged = [] := by
  generalize none : ([] : List Event) = events at merges
  cases merges with
  | nil => rfl
  | append => simp at none
  | coalesce => simp at none

/-- **Where the filter of updates loses a recreation.** The event does not report a live
object in place of a terminating one of the same generation and spec. -/
def Event.Apart : Event → Prop
  | .update (.vip old) (.vip vip) => old.terminating = true → vip.terminating = false →
      sameObservedSpec old vip = false
  | _ => True

instance (event : Event) : Decidable event.Apart := by
  unfold Event.Apart
  split <;> infer_instance

private theorem append_inj {left right : List Event} {first second : Event}
    (equal : left ++ [first] = right ++ [second]) : left = right ∧ first = second := by
  have split := List.append_inj_right' equal rfl
  exact ⟨List.append_inj_left' equal rfl, by simpa using split⟩

/-- The last of the merged events is about the object of the last event. -/
theorem Merges.last {events merged : List Event} {event : Event}
    (merges : Merges allowed (events ++ [event]) merged) :
    ∃ before formed, merged = before ++ [formed] ∧ formed.obj = event.obj ∧
      ∀ obj, event = .delete obj → formed = .delete obj := by
  generalize whole : events ++ [event] = all at merges
  cases merges with
  | nil => simp at whole
  | append =>
    obtain ⟨rfl, rfl⟩ := append_inj whole
    exact ⟨_, _, rfl, rfl, fun _ same => same⟩
  | @coalesce _ _ held =>
    obtain ⟨rfl, rfl⟩ := append_inj whole
    refine ⟨_, _, rfl, obj_coalescePendingEvent _ _, ?_⟩
    rintro obj rfl
    cases held <;> rfl

section Conveys

variable {allowed : Event → Prop} {knows : List Event → VirtualIP → Prop}
  {events merged before : List Event} {stored : Option VirtualIP}

/-- What the agent knows once `merged` is delivered: `knows` holds of the object that the
informer stores, unless it is terminating; and before an update that is still at the end, it
held of the object that the update replaces. -/
structure Conveys (knows : List Event → VirtualIP → Prop) (stored : Option VirtualIP)
    (merged : List Event) : Prop where
  current : ∀ vip, stored = some vip → vip.terminating = false → knows merged vip
  base : ∀ before oldObj obj, merged = before ++ [.update oldObj obj] →
    ∃ old, oldObj = .vip old ∧ (old.terminating = false → knows before old)
  gone : ∀ before obj, merged = before ++ [.delete obj] → stored = none

theorem conveys_add {vip : VirtualIP}
    (told : vip.terminating = false → knows (before ++ [.add (.vip vip)]) vip) :
    Conveys knows (some vip) (before ++ [.add (.vip vip)]) where
  current := by
    rintro _ ⟨⟩
    exact told
  base := by simp
  gone := by simp

theorem conveys_update {old vip : VirtualIP} (base : old.terminating = false → knows before old)
    (told : vip.terminating = false →
      knows (before ++ [.update (.vip old) (.vip vip)]) vip) :
    Conveys knows (some vip) (before ++ [.update (.vip old) (.vip vip)]) where
  current := by
    rintro _ ⟨⟩
    exact told
  base := by
    intro front oldObj obj same
    obtain ⟨rfl, formed⟩ := append_inj same
    cases formed
    exact ⟨old, rfl, base⟩
  gone := by simp

theorem conveys_delete {obj : Obj} : Conveys knows none (before ++ [.delete obj]) where
  current := by simp
  base := by simp
  gone := by simp

/-- **Merging rule.** What every added object conveys, and every update of an object of which
it was conveyed, is conveyed of the informer's object, whichever events are merged. -/
theorem conveys_of_merges
    (added : ∀ before vip, vip.terminating = false → knows (before ++ [.add (.vip vip)]) vip)
    (updated : ∀ before old vip, allowed (.update (.vip old) (.vip vip)) →
      (old.terminating = false → knows before old) → vip.terminating = false →
      knows (before ++ [.update (.vip old) (.vip vip)]) vip)
    (merges : Merges allowed events merged) (informed : Informed events stored) :
    Conveys knows stored merged := by
  induction merges generalizing stored with
  | nil =>
    generalize whole : ([] : List Event) = all at informed
    cases informed with
    | nil => constructor <;> simp
    | add | update | delete => simp at whole
  | @append events merged event before permitted ih =>
    generalize whole : events ++ [event] = all at informed
    cases informed with
    | nil => simp at whole
    | add vip informed =>
      obtain ⟨rfl, rfl⟩ := append_inj whole
      exact conveys_add (added merged vip)
    | @update _ old vip informed =>
      obtain ⟨rfl, rfl⟩ := append_inj whole
      have told := (ih informed).current old rfl
      exact conveys_update told (updated merged old vip permitted told)
    | delete obj present informed =>
      obtain ⟨rfl, rfl⟩ := append_inj whole
      exact conveys_delete
  | @coalesce events merged held event before permitted ih =>
    generalize whole : events ++ [event] = all at informed
    cases informed with
    | nil => simp at whole
    | add vip informed =>
      obtain ⟨rfl, rfl⟩ := append_inj whole
      have formed : coalescePendingEvent (some held) (.add (.vip vip)) = .add (.vip vip) := by
        cases held <;> rfl
      rw [formed]
      exact conveys_add (added merged vip)
    | @update _ old vip informed =>
      obtain ⟨rfl, rfl⟩ := append_inj whole
      cases held with
      | add obj => exact conveys_add (added merged vip)
      | update oldObj obj =>
        obtain ⟨older, rfl, told⟩ := (ih informed).base merged oldObj obj rfl
        exact conveys_update told (updated merged older vip permitted told)
      | delete obj =>
        -- the informer holds no object after a deletion
        cases (ih informed).gone merged obj rfl
    | delete obj present informed =>
      obtain ⟨rfl, rfl⟩ := append_inj whole
      have formed : coalescePendingEvent (some held) (.delete obj) = .delete obj := by
        cases held <;> rfl
      rw [formed]
      exact conveys_delete

end Conveys

/-- The last call tells the agent of an object like this one. -/
def Told (delivered : List Event) (vip : VirtualIP) : Prop :=
  ∃ told, lastCall delivered = some (.update told) ∧ Alike told vip

theorem told_add (before : List Event) (vip : VirtualIP) (live : vip.terminating = false) :
    Told (before ++ [.add (.vip vip)]) vip := by
  refine ⟨vip, ?_, Alike.refl vip⟩
  simp [lastCall_append, Event.call, onAdd, live]

/-- An update is told by its call, or, where the filter drops it, by the last call before
it. -/
theorem told_update (before : List Event) (old vip : VirtualIP)
    (apart : (Event.update (.vip old) (.vip vip)).Apart)
    (base : old.terminating = false → Told before old) (live : vip.terminating = false) :
    Told (before ++ [.update (.vip old) (.vip vip)]) vip := by
  cases same : sameObservedSpec old vip with
  | false =>
    refine ⟨vip, ?_, Alike.refl vip⟩
    simp [lastCall_append, Event.call, onUpdate, live, same]
  | true =>
    have oldLive : old.terminating = false := by
      by_contra terminating
      have different := apart (by simpa using terminating) live
      simp [different] at same
    obtain ⟨told, called, alike⟩ := base oldLive
    refine ⟨told, ?_, alike.trans
      (alike_of_sameObservedSpec same (oldLive.trans live.symm))⟩
    simp [lastCall_append, Event.call, onUpdate, live, same, called]

/-- Every event about a terminating object makes the agent delete it. -/
theorem Event.call_of_terminating {event : Event} {vip : VirtualIP} (about : event.obj = .vip vip)
    (terminating : vip.terminating = true) : event.call = some (.delete vip) := by
  cases event <;> cases about <;>
    simp [Event.call, onAdd, onUpdate, onDelete, Obj.virtualIP, terminating]

/-- The events tell the agent what they say, merged or not, as long as the filter loses no
recreation. -/
theorem shown_of_merges {events merged : List Event} (merges : Merges Event.Apart events merged)
    {stored : Option VirtualIP} (informed : Informed events stored) {event : Event}
    (last : event ∈ events.getLast?) : event.Shown (lastCall merged) := by
  have conveys : Conveys Told stored merged :=
    conveys_of_merges told_add told_update merges informed
  have object {vip : VirtualIP} {events : List Event} {event : Event}
      (merges : Merges Event.Apart (events ++ [event]) merged) (about : event.obj = .vip vip)
      (told : vip.terminating = false → Told merged vip) :
      if vip.terminating then lastCall merged = some (.delete vip)
      else ∃ told, lastCall merged = some (.update told) ∧ Alike told vip := by
    split
    · rename_i terminating
      obtain ⟨before, formed, rfl, same, _⟩ := merges.last
      rw [lastCall_append, Event.call_of_terminating (same.trans about) terminating]
      rfl
    · rename_i live
      exact told (by simpa using live)
  cases informed with
  | nil => cases last
  | add vip | update vip =>
    rw [List.getLast?_concat, Option.mem_some_iff] at last
    subst last
    exact object merges rfl (conveys.current vip rfl)
  | delete obj present =>
    rw [List.getLast?_concat, Option.mem_some_iff] at last
    subst last
    obtain ⟨before, formed, rfl, _, deletes⟩ := merges.last
    obtain ⟨vip, object⟩ := Option.isSome_iff_exists.mp present
    simp [lastCall_append, deletes obj rfl, Event.Shown, Event.call, onDelete, object]

end ArcaLB.Watcher
