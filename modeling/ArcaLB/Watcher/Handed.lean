import ArcaLB.Status.Updater
import ArcaLB.Watcher.Gate

/-!
# The object that was handed over last

An agent reports on the object that its handler was given last, and the status updater
writes the report only if that object has the UID and generation of the stored one.  The
filter of updates compares generation and spec: an object that was deleted and created anew
while the informer was disconnected can agree with its predecessor in both, and is then never
handed over.
-/

namespace ArcaLB.Watcher

/-- The object of an update call. -/
def HandlerCall.updated : HandlerCall → Option VirtualIP
  | .update vip => some vip
  | .delete _ => none

/-- The object that was most recently handed over by an update call. -/
def handed (delivered : List Event) : Option VirtualIP :=
  ((delivered.filterMap Event.call).filterMap HandlerCall.updated).getLast?

theorem handed_append (before : List Event) (event : Event) :
    handed (before ++ [event]) = (event.call.bind HandlerCall.updated).or (handed before) := by
  unfold handed
  cases calls : event.call with
  | none => simp [List.filterMap_append, calls]
  | some call => cases call <;> simp [List.filterMap_append, calls, HandlerCall.updated]

/-- The object has the UID, generation and spec of the latest one. -/
structure Represents (told latest : VirtualIP) : Prop where
  uid : told.uid = latest.uid
  generation : told.generation = latest.generation
  spec : told.spec = latest.spec

/-- The object that was handed over last represents the latest one. -/
def Represented (delivered : List Event) (latest : VirtualIP) : Prop :=
  ∃ told, handed delivered = some told ∧ Represents told latest

/-- An update that the filter drops is one of a live object with the same UID. -/
def Event.Traced : Event → Prop
  | .update (.vip old) (.vip vip) => vip.terminating = false → sameObservedSpec old vip = true →
      old.uid = vip.uid ∧ old.terminating = false
  | _ => True

instance : (event : Event) → Decidable event.Traced
  | .update (.vip _) (.vip _) => inferInstanceAs (Decidable (_ → _ → _))
  | .add _ | .delete _ | .update (.tombstone _) _ | .update .other _
  | .update (.vip _) (.tombstone _) | .update (.vip _) .other => isTrue trivial

theorem represented_add (before : List Event) (vip : VirtualIP)
    (live : vip.terminating = false) : Represented (before ++ [.add (.vip vip)]) vip := by
  refine ⟨vip, ?_, rfl, rfl, rfl⟩
  simp [handed_append, Event.call, onAdd, live, HandlerCall.updated]

section Update

variable {before : List Event} {old vip : VirtualIP}

theorem handed_update (live : vip.terminating = false) :
    handed (before ++ [.update (.vip old) (.vip vip)]) =
      if sameObservedSpec old vip then handed before else some vip := by
  simp only [handed_append, Event.call, onUpdate, live, Bool.false_eq_true, ↓reduceIte]
  split <;> rfl

/-- An update is represented exactly if it is not dropped, or has the UID of the object that
it replaces. -/
theorem represented_update_iff (base : Represented before old) (live : vip.terminating = false) :
    Represented (before ++ [.update (.vip old) (.vip vip)]) vip ↔
      (sameObservedSpec old vip = true → old.uid = vip.uid) := by
  rw [Represented, handed_update live]
  cases same : sameObservedSpec old vip with
  | false =>
    simp only [Bool.false_eq_true, ↓reduceIte, false_implies, iff_true]
    exact ⟨vip, rfl, rfl, rfl, rfl⟩
  | true =>
    obtain ⟨told, last, represents⟩ := base
    simp only [sameObservedSpec, decide_eq_true_eq] at same
    simp only [↓reduceIte, last, forall_const, Option.some.injEq, exists_eq_left']
    constructor
    · intro current
      exact represents.uid.symm.trans current.uid
    · intro uid
      exact ⟨represents.uid.trans uid, represents.generation.trans same.1,
        represents.spec.trans same.2⟩

end Update

theorem represented_update (before : List Event) (old vip : VirtualIP)
    (traced : (Event.update (.vip old) (.vip vip)).Traced)
    (base : old.terminating = false → Represented before old) (live : vip.terminating = false) :
    Represented (before ++ [.update (.vip old) (.vip vip)]) vip := by
  cases same : sameObservedSpec old vip with
  | false =>
    refine ⟨vip, ?_, rfl, rfl, rfl⟩
    rw [handed_update live, same]
    rfl
  | true =>
    obtain ⟨uid, oldLive⟩ := traced live same
    exact (represented_update_iff (base oldLive) live).mpr fun _ => uid

variable {latest : VirtualIP}

/-- The latest object is represented, whichever events the gate merges. -/
theorem represented_of_merges {events merged : List Event}
    (merges : Merges Event.Traced events merged) (informed : Informed events (some latest))
    (live : latest.terminating = false) : Represented merged latest :=
  (conveys_of_merges represented_add represented_update merges informed).current latest rfl live

/-- A report on an object that represents the stored one is written. -/
theorem Represents.writes {told latest : VirtualIP} (represents : Represents told latest)
    (live : latest.terminating = false) (status : Status.VirtualIPStatus) :
    Status.skipsUpdate told ⟨latest, status⟩ = false := by
  simp [Status.skipsUpdate, represents.uid, represents.generation, live]

theorem Held.merges_handled {allowed : Event → Prop} {state : State} (held : Held allowed state)
    (released : state.released = true) (free : state.direct = none) (key : String) :
    Merges allowed (ofKey key state.events) (ofKey key state.handled) := by
  have merges := held.merges key
  rwa [held.waiting_eq_nil released free, List.append_nil] at merges

/-- **The latest object is handed over.** For every history of one key in which each update
that changes neither generation nor spec is of one live object: if the latest object is not
terminating, the object of the last update call has its UID, generation and spec, and a
report on it is not skipped.  One more update of a live object keeps this exactly if it
changes the generation or the spec, or has the same UID. -/
theorem latest_handed_over {events : List Event} (informed : Informed events (some latest))
    (traced : ∀ event ∈ events, event.Traced) (live : latest.terminating = false) :
    (∃ told, handed events = some told ∧ told.uid = latest.uid ∧
      told.generation = latest.generation ∧ told.spec = latest.spec ∧
      ∀ status, Status.skipsUpdate told ⟨latest, status⟩ = false) ∧
    (∀ vip : VirtualIP, vip.terminating = false →
      ((∃ told, handed (events ++ [.update (.vip latest) (.vip vip)]) = some told ∧
          told.uid = vip.uid ∧ told.generation = vip.generation ∧ told.spec = vip.spec) ↔
        (latest.generation = vip.generation → latest.spec = vip.spec →
          latest.uid = vip.uid))) := by
  have base := represented_of_merges (merges_refl traced) informed live
  refine ⟨?_, ?_⟩
  · obtain ⟨told, last, represents⟩ := base
    exact ⟨told, last, represents.uid, represents.generation, represents.spec,
      represents.writes live⟩
  · intro vip newLive
    have kept := represented_update_iff base newLive
    simp only [sameObservedSpec, decide_eq_true_eq, and_imp] at kept
    rw [← kept]
    constructor
    · rintro ⟨told, last, uid, generation, spec⟩
      exact ⟨told, last, uid, generation, spec⟩
    · rintro ⟨told, last, represents⟩
      exact ⟨told, last, represents.uid, represents.generation, represents.spec⟩

/-- **Behind the gate.** The same holds behind the initial-sync gate, once it is open, if what
the gate merges meets the condition. -/
theorem handed_over_behind_gate {state : State} {key : String}
    (reached : gate.Reachable (admits Event.Traced) state) (released : state.released = true)
    (free : state.direct = none) (named : key ≠ "") (stored : state.store key = some latest)
    (live : latest.terminating = false) :
    ∃ told, handed (ofKey key state.handled) = some told ∧ told.uid = latest.uid ∧
      told.generation = latest.generation ∧ told.spec = latest.spec ∧
      ∀ status, Status.skipsUpdate told ⟨latest, status⟩ = false := by
  have held := held_of_reachable reached
  have informed := held.informed key named
  rw [stored] at informed
  obtain ⟨told, last, represents⟩ :=
    represented_of_merges (held.merges_handled released free key) informed live
  exact ⟨told, last, represents.uid, represents.generation, represents.spec,
    represents.writes live⟩

/-- A recreated object with another spec is handed over. -/
theorem latest_handed_over_recreated :
    ∃ told, handed [.add (.vip (webAt "1" "192.0.2.1" 1 false)),
        .update (.vip (webAt "1" "192.0.2.1" 1 false)) (.vip (webAt "2" "192.0.2.2" 1 false))] =
        some told ∧ told.uid = "2" ∧ told.generation = 1 := by
  obtain ⟨⟨told, last, uid, generation, -⟩, -⟩ := latest_handed_over
    ((Informed.nil.add (webAt "1" "192.0.2.1" 1 false)).update
      (webAt "2" "192.0.2.2" 1 false)) (by decide +kernel) rfl
  exact ⟨told, last, uid, generation⟩

/-- **A recreated object that is never handed over.** The web VIP is deleted and created anew
with the same spec while the informer is disconnected.  The relist is one update between two
objects of generation 1, which the filter drops, and every report on the object that was
handed over is skipped. -/
theorem recreation_not_handed_over :
    Informed [.add (.vip (webAt "1" "192.0.2.1" 1 false)),
      .update (.vip (webAt "1" "192.0.2.1" 1 false)) (.vip (webAt "2" "192.0.2.1" 1 false))]
      (some (webAt "2" "192.0.2.1" 1 false)) ∧
    handed [.add (.vip (webAt "1" "192.0.2.1" 1 false)),
      .update (.vip (webAt "1" "192.0.2.1" 1 false)) (.vip (webAt "2" "192.0.2.1" 1 false))] =
      some (webAt "1" "192.0.2.1" 1 false) ∧
    ∀ status, Status.skipsUpdate (webAt "1" "192.0.2.1" 1 false)
      ⟨webAt "2" "192.0.2.1" 1 false, status⟩ = true :=
  ⟨(Informed.nil.add (webAt "1" "192.0.2.1" 1 false)).update _, by decide +kernel,
    fun _ => rfl⟩

end ArcaLB.Watcher
