import ArcaLB.Octavia.Operations
import ArcaLB.Octavia.Outcomes

/-!
# Operations that run alone

`Call.Ends` is the precondition of a call that nobody interrupts, with one rule per combinator.
An update that starts from a stored object then goes through at the first attempt.
-/

namespace ArcaLB.Octavia

variable {python : Python} {α β : Type}

/-- The API server answers every request at once. -/
def server (python : Python) (request : Request) : Effect World Empty Reply := fun world =>
  (.ok (perform python request world).1, (perform python request world).2)

/-- Run from `world`, the call returns or stops as `post` says. -/
def Call.Ends (python : Python) (call : Call α) (post : Except Stop α → World → Prop)
    (world : World) : Prop :=
  Effect.wp (Routine.run (server python) call.run)
    (fun
      | .ok result, after => post result after
      | .error _, _ => False
      | .crashed, _ => False) world

namespace Call

variable {post : Except Stop α → World → Prop} {world : World}

@[simp] theorem ends_pure (value : α) :
    (pure value : Call α).Ends python post world ↔ post (.ok value) world := Iff.rfl

@[simp] theorem ends_ofExcept (result : Checked α) :
    (ofExcept result).Ends python post world ↔ post result world := Iff.rfl

@[simp] theorem ends_read (part : World → α) :
    (read part).Ends python post world ↔ post (.ok (part world)) world := Iff.rfl

@[simp] theorem ends_ask {post : Except Stop Reply → World → Prop} (request : Request) :
    (ask request).Ends python post world ↔
      post (.ok (perform python request world).1) (perform python request world).2 := Iff.rfl

/-- What is left of a sequence. -/
def after (python : Python) (rest : α → Call β) (post : Except Stop β → World → Prop) :
    Except Stop α → World → Prop
  | .ok value, world => (rest value).Ends python post world
  | .error stop, world => post (.error stop) world

/-- Continue a routine with what its result decides. -/
theorem wp_run_bind {γ δ : Type} {post : Outcome Empty δ → World → Prop} (first : Steps γ)
    (rest : γ → Steps δ) (stuck : ∀ world, ¬ post .crashed world) :
    Effect.wp (Routine.run (server python) (first >>= rest)) post world ↔
      Effect.wp (Routine.run (server python) first)
        (fun
          | .ok value, world => Effect.wp (Routine.run (server python) (rest value)) post world
          | .error _, _ => False
          | .crashed, _ => False) world := by
  rw [Routine.run_bind, Effect.wp_bind]
  unfold Effect.wp
  rcases Routine.run (server python) first world with ⟨outcome, next⟩
  cases outcome with
  | ok value => exact Iff.rfl
  | error err => exact err.elim
  | crashed => exact iff_of_false (stuck next) id

/-- **Sequence.** -/
theorem ends_bind {post : Except Stop β → World → Prop} (first : Call α) (rest : α → Call β) :
    (first >>= rest).Ends python post world ↔ first.Ends python (after python rest post) world := by
  refine (wp_run_bind first.run (ExceptT.bindCont rest) fun _ => id).trans ?_
  unfold Ends Effect.wp
  rcases Routine.run (server python) first.run world with ⟨outcome, next⟩
  cases outcome with
  | ok result => cases result <;> exact Iff.rfl
  | error _ | crashed => exact Iff.rfl

/-- What is caught goes on with its handler. -/
theorem ends_tryCatch (body : Call α) (handle : Stop → Call α) :
    (tryCatch body handle).Ends python post world ↔
      body.Ends python (fun
        | .ok value, world => post (.ok value) world
        | .error stop, world => (handle stop).Ends python post world) world := by
  refine (wp_run_bind body.run _ fun _ => id).trans ?_
  unfold Ends Effect.wp
  rcases Routine.run (server python) body.run world with ⟨outcome, next⟩
  cases outcome with
  | ok result => cases result <;> exact Iff.rfl
  | error _ | crashed => exact Iff.rfl

/-- **Consequence.** -/
theorem Ends.mono {weaker : Except Stop α → World → Prop} {call : Call α}
    (ends : call.Ends python post world)
    (implies : ∀ result world, post result world → weaker result world) :
    call.Ends python weaker world := by
  apply Effect.wp_mono ends
  intro outcome next
  cases outcome with
  | ok result => exact implies result next
  | error _ | crashed => exact id

end Call

/-! ## Stored objects -/

/-- Objects have different names. -/
def World.Sane (world : World) : Prop := (world.vips.map VirtualIP.name).Nodup

instance (world : World) : Decidable world.Sane := inferInstanceAs (Decidable (List.Nodup _))

namespace World

variable {world : World} {vip current : VirtualIP} {name : String}

theorem mem_of_get (found : world.get name = some vip) : vip ∈ world.vips ∧ vip.name = name :=
  ⟨List.mem_of_find?_eq_some found, by simpa using List.find?_some found⟩

/-- Names identify objects. -/
theorem Sane.eq_of_name (sane : world.Sane) {other : VirtualIP} (first : vip ∈ world.vips)
    (second : other ∈ world.vips) (same : vip.name = other.name) : vip = other :=
  List.inj_on_of_nodup_map sane first second same

/-- A stored object is found under its name. -/
theorem Sane.get_of_mem (sane : world.Sane) (stored : vip ∈ world.vips) :
    world.get vip.name = some vip := by
  cases found : world.get vip.name with
  | none =>
    have missing := List.find?_eq_none.mp found vip stored
    simp at missing
  | some other =>
    obtain ⟨member, same⟩ := mem_of_get found
    rw [sane.eq_of_name member stored same]

/-- What the server holds after a replacement. -/
theorem mem_replace {other : VirtualIP} :
    other ∈ (world.replace vip).vips ↔
      (other = vip ∧ ∃ old ∈ world.vips, old.name = vip.name) ∨
        (other ∈ world.vips ∧ other.name ≠ vip.name) := by
  constructor
  · intro member
    obtain ⟨old, stored, rfl⟩ := List.mem_map.mp member
    by_cases same : old.name = vip.name
    · rw [if_pos same]
      exact .inl ⟨rfl, old, stored, same⟩
    · rw [if_neg same]
      exact .inr ⟨stored, same⟩
  · rintro (⟨rfl, old, stored, same⟩ | ⟨stored, different⟩)
    · exact List.mem_map.mpr ⟨old, stored, if_pos same⟩
    · exact List.mem_map.mpr ⟨other, stored, if_neg different⟩

theorem map_name_replace : (world.replace vip).vips.map VirtualIP.name =
    world.vips.map VirtualIP.name := by
  rw [replace, List.map_map]
  refine List.map_congr_left fun other _ => ?_
  by_cases same : other.name = vip.name
  · simp [same]
  · simp [same]

theorem Sane.replace (sane : world.Sane) : (world.replace vip).Sane := by
  rw [Sane, map_name_replace]
  exact sane

end World

/-! ## Updates -/

/-- The object after a patch that has gone through. -/
def patchedTo (python : Python) (world : World) (current seen : VirtualIP) (draft : Draft) :
    VirtualIP :=
  { current.patched python seen draft with resourceVersion := world.version + 1 }

/-- The server returns an object as it was patched. -/
theorem get_patchedTo {world : World} {current : VirtualIP} (sane : world.Sane)
    (stored : current ∈ world.vips) (seen : VirtualIP) (draft : Draft) :
    (world.replace (patchedTo python world current seen draft)).get current.name =
      some (patchedTo python world current seen draft) := by
  have made : (world.replace (patchedTo python world current seen draft)).Sane := sane.replace
  exact made.get_of_mem (World.mem_replace.mpr (.inl ⟨rfl, current, stored, rfl⟩))

variable {mutation : Mutation}

/-- **An update alone.** It starts from the stored object, so it goes through at the first
attempt, or its closure stops it. -/
theorem ends_updateVirtualIPWithRetry {world : World} {current seen : VirtualIP}
    {post : Except Stop Update → World → Prop} (stored : world.get seen.name = some current)
    (version : current.resourceVersion = seen.resourceVersion) :
    (updateVirtualIPWithRetry python seen mutation).Ends python post world ↔
      match mutation.apply python world.octavia seen.draft with
      | .error stop => post (.error stop) world
      | .ok draft => post (.ok ⟨seen, draft, patchedTo python world current seen draft⟩)
          (world.replace (patchedTo python world current seen draft)) := by
  rw [updateVirtualIPWithRetry, updateMaxAttempts, updateVirtualIP, nextVirtualIP,
    Call.ends_bind, Call.ends_pure, Call.after, Call.ends_bind, Call.check, Call.ends_bind,
    Call.ends_read, Call.after, Call.ends_ofExcept]
  cases mutation.apply python world.octavia seen.draft with
  | error stop => exact Iff.rfl
  | ok draft =>
    have accepted : perform python (.patch seen.name seen draft) world =
        (.object (patchedTo python world current seen draft),
          world.replace (patchedTo python world current seen draft)) := by
      simp only [perform, World.patch, stored, version, ne_eq, not_true_eq_false, if_false,
        patchedTo]
    rw [Call.after, Call.ends_bind, Call.ends_ask, accepted]
    exact Iff.rfl

/-- An update that may be skipped. -/
theorem ends_skippable {world : World} {update : Call α}
    {post : Except Stop (Option α) → World → Prop} :
    (skippable update).Ends python post world ↔
      update.Ends python (fun
        | .ok done, after => post (.ok (some done)) after
        | .error .skipped, after => post (.ok none) after
        | .error stop, after => post (.error stop) after) world := by
  rw [skippable, Call.ends_tryCatch, Call.ends_bind]
  refine ⟨fun ends => ends.mono fun result after => ?_,
    fun ends => ends.mono fun result after => ?_⟩
  all_goals
    cases result with
    | ok done => exact id
    | error stop => cases stop <;> exact id

/-! ## Found objects -/

section Found

variable {vips : List VirtualIP} {vip : VirtualIP} {world : World} {id : String}

/-- What a search finds is stored and noted under the identifier. -/
theorem mem_of_findFirst {hash : Labels → Option String} {noted : Annotations → Option String}
    (found : findFirst python vips hash noted id = some vip) :
    vip ∈ vips ∧ noted vip.annotations = some id := by
  rcases Option.or_eq_some_iff.mp found with hashed | ⟨-, listed⟩
  · have member := List.mem_of_find?_eq_some hashed
    exact ⟨List.mem_of_mem_filter (List.mem_of_mem_filter member),
      by simpa using List.find?_some hashed⟩
  · exact ⟨List.mem_of_mem_filter (List.mem_of_find?_eq_some listed),
      by simpa using List.find?_some listed⟩

theorem mem_of_findByPool (found : findByPool python world id = some vip) :
    vip ∈ world.vips ∧ vip.annotations.poolID = some id :=
  mem_of_findFirst found

theorem mem_of_findByListener (found : findByListener python world id = some vip) :
    vip ∈ world.vips ∧ vip.annotations.listenerID = some id :=
  mem_of_findFirst found

/-- What is left where the closure on a found object ends so. -/
def afterClosure (python : Python) (world : World) (vip : VirtualIP)
    (post : Except Stop Unit → World → Prop) : Checked Draft → Prop
  | .ok draft => post (.ok ()) (world.replace (patchedTo python world vip vip draft))
  | .error .skipped => post (.ok ()) world
  | .error stop => post (.error stop) world

/-- A pool with a VirtualIP: its closure is run once. -/
theorem ends_updatePool {post : Except Stop α → World → Prop}
    {unassociated : Call α} {rest : VirtualIP → Option Update → Call α} (sane : world.Sane)
    (found : findByPool python world id = some vip) :
    (updatePool python id mutation unassociated rest).Ends python post world ↔
      match mutation.apply python world.octavia vip.draft with
      | .ok draft =>
        let updated := patchedTo python world vip vip draft
        (rest vip (some ⟨vip, draft, updated⟩)).Ends python post (world.replace updated)
      | .error .skipped => (rest vip none).Ends python post world
      | .error stop => post (.error stop) world := by
  have stored := sane.get_of_mem (mem_of_findByPool found).1
  rw [updatePool, Call.ends_bind, Call.ends_read, found]
  simp only [Call.after]
  rw [Call.ends_bind, updatePoolVirtualIPWithRetry, ends_skippable,
    ends_updateVirtualIPWithRetry stored rfl]
  cases mutation.apply python world.octavia vip.draft with
  | ok draft => exact Iff.rfl
  | error stop => cases stop <;> exact Iff.rfl

variable {post : Except Stop Unit → World → Prop}

/-- A call whose value is not used. -/
theorem Call.ends_discard {call : Call α} :
    (do let _ ← call : Call Unit).Ends python post world ↔
      call.Ends python (fun result after => post (result.map fun _ => ()) after) world := by
  rw [Call.ends_bind]
  refine ⟨fun ends => ends.mono ?_, fun ends => ends.mono ?_⟩ <;>
    · rintro (_ | _) _ <;> exact id

/-- Statuses that are accepted change nothing. -/
theorem ends_pushMemberActiveStatus {members : List Member} {poolID : String} :
    (pushMemberActiveStatus acceptStatus vip poolID members).Ends python
      (fun result after => post (result.map fun _ => ()) after) world ↔ post (.ok ()) world := by
  unfold pushMemberActiveStatus pushResourceStatus
  dsimp only
  split <;> exact Iff.rfl

/-- `member_create` and `member_update` on a pool with a VirtualIP. -/
theorem ends_setMemberStatuses
    {m : Member} (sane : world.Sane) (found : findByPool python world id = some vip) :
    (setMemberStatuses python acceptStatus mutation id m).Ends python
        (fun result after => post (result.map fun _ => ()) after) world ↔
      afterClosure python world vip post (mutation.apply python world.octavia vip.draft) := by
  rw [setMemberStatuses, ends_updatePool sane found]
  cases mutation.apply python world.octavia vip.draft with
  | ok draft => exact ends_pushMemberActiveStatus
  | error stop => cases stop <;> exact Iff.rfl

end Found

end ArcaLB.Octavia
