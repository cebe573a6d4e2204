import ArcaLB.Octavia.Alone
import ArcaLB.Octavia.Exactness
import ArcaLB.Octavia.Faults

/-!
# Statuses that the Octavia driver pushes

An update that finds its VirtualIP with another pool is skipped, and then nothing is pushed.
Other operations may run in between, so a call is followed among whatever worlds it meets.
`Addition.told_iff_not_overtaken` says which calls tell Octavia of what they were called for, and
`update_made_on_current` that no update is lost among others.
-/

namespace ArcaLB.Octavia

/-! ## Calls among others -/

/-- What a call returns or stops with that is carried out on the listed worlds, one step after
another, and the worlds that are left. -/
def Call.among {α : Type} (python : Python) (call : Call α) (worlds : List World) :
    Option (Checked α × List World) :=
  Routine.among (perform python) call.run worlds

namespace Call

variable {α β : Type} {python : Python} {world : World} {worlds left : List World}

@[simp] theorem among_fault (user operator : String) :
    (fault user operator : Call α).among python worlds =
      some (.error (.fault user operator), worlds) := rfl

@[simp] theorem among_ofExcept (result : Checked α) :
    (ofExcept result).among python worlds = some (result, worlds) := rfl

@[simp] theorem among_read_nil (part : World → α) : (read part).among python [] = none := rfl

@[simp] theorem among_read_cons (part : World → α) :
    (read part).among python (world :: worlds) = some (.ok (part world), worlds) := rfl

@[simp] theorem among_ask_nil (request : Request) : (ask request).among python [] = none := rfl

@[simp] theorem among_ask_cons (request : Request) :
    (ask request).among python (world :: worlds) =
      some (.ok (perform python request world).1, worlds) := rfl

/-- **Sequence.** -/
theorem among_bind (first : Call α) (rest : α → Call β) :
    (first >>= rest).among python worlds =
      (first.among python worlds).bind fun
        | (.ok value, left) => (rest value).among python left
        | (.error stop, left) => some (.error stop, left) := by
  refine (Routine.among_bind (perform python) first.run (ExceptT.bindCont rest) worlds).trans ?_
  refine congrArg (Option.bind _) (funext fun returned => ?_)
  rcases returned with ⟨_ | _, left⟩ <;> rfl

/-- What is caught goes on with its handler. -/
theorem among_tryCatch (body : Call α) (handle : Stop → Call α) :
    (tryCatch body handle).among python worlds =
      (body.among python worlds).bind fun
        | (.ok value, left) => some (.ok value, left)
        | (.error stop, left) => (handle stop).among python left := by
  refine (Routine.among_bind (perform python) body.run _ worlds).trans ?_
  refine congrArg (Option.bind _) (funext fun returned => ?_)
  rcases returned with ⟨_ | _, left⟩ <;> rfl

variable {rest : α → Call β}

/-- A sequence that returns has done its parts. -/
theorem exists_of_among_bind {first : Call α} {value : β}
    (returns : (first >>= rest).among python worlds = some (.ok value, left)) :
    ∃ mid between, first.among python worlds = some (.ok mid, between) ∧
      (rest mid).among python between = some (.ok value, left) := by
  rw [among_bind] at returns
  obtain ⟨⟨_ | mid, between⟩, done, returns⟩ := Option.bind_eq_some_iff.mp returns
  · cases returns
  · exact ⟨mid, between, done, returns⟩

/-- A sequence that returns has passed its checks. -/
theorem exists_of_among_ofExcept_bind {result : Checked α} {value : β}
    (returns : (ofExcept result >>= rest).among python worlds = some (.ok value, left)) :
    ∃ mid, result = .ok mid ∧ (rest mid).among python worlds = some (.ok value, left) := by
  rw [among_bind, among_ofExcept, Option.bind_some] at returns
  cases result with
  | error stop => cases returns
  | ok mid => exact ⟨mid, rfl, returns⟩

/-- A sequence that reads first has met a world. -/
theorem exists_of_among_read_bind {part : World → α} {value : β}
    (returns : (read part >>= rest).among python worlds = some (.ok value, left)) :
    ∃ mid world between, worlds = world :: between ∧ part world = mid ∧
      (rest mid).among python between = some (.ok value, left) := by
  obtain ⟨mid, between, reads, returns⟩ := exists_of_among_bind returns
  cases worlds with
  | nil => cases reads
  | cons world worlds =>
    cases reads
    exact ⟨_, world, _, rfl, rfl, returns⟩

end Call

/-! ## Updates that are overtaken -/

/-- An update that starts with `vip` meets an object that it does not want: this one, or one that
it reads again after a conflict.  An attempt runs its closure in one world and patches in the
next, and reads the object in a third one if there was a conflict. -/
def overtaken (name : String) (wanted : Annotations → Bool) : VirtualIP → List World → Bool
  | vip, _ :: patched :: reread :: worlds =>
    !wanted vip.annotations ||
      (patched.get name).any (·.resourceVersion ≠ vip.resourceVersion) &&
        (reread.get name).any fun again => overtaken name wanted again worlds
  | vip, _ => !wanted vip.annotations

variable {attempts : Nat}

section Overtaken

variable {python : Python} {name : String} {mutation : Mutation} {wanted : Annotations → Bool}
  {vip : VirtualIP} {worlds left : List World}

/-- An update that starts with an unwanted object is overtaken. -/
theorem overtaken_of_unwanted (unwanted : wanted vip.annotations = false) :
    overtaken name wanted vip worlds = true := by
  unfold overtaken
  split <;> simp [unwanted]

/-- An update whose first patch arrives in time is not. -/
theorem overtaken_eq_false {world patched : World} {current : VirtualIP}
    (welcome : wanted vip.annotations = true) (found : patched.get name = some current)
    (same : current.resourceVersion = vip.resourceVersion) :
    overtaken name wanted vip (world :: patched :: worlds) = false := by
  cases worlds with
  | nil => simp [overtaken, welcome]
  | cons reread worlds => simp [overtaken, welcome, found, same]

/-- After a conflict it is about the object that is read again. -/
theorem overtaken_reread {world patched reread : World} {current again : VirtualIP}
    (welcome : wanted vip.annotations = true) (found : patched.get name = some current)
    (different : current.resourceVersion ≠ vip.resourceVersion)
    (read : reread.get name = some again) :
    overtaken name wanted vip (world :: patched :: reread :: worlds) =
      overtaken name wanted again worlds := by
  rw [overtaken]
  simp [welcome, found, different, read]

/-- The closure is skipped for unwanted objects, and for no other reason. -/
def Mutation.Skips (python : Python) (wanted : Annotations → Bool) (mutation : Mutation) : Prop :=
  ∀ octavia draft, mutation.apply python octavia draft = .error .skipped ↔
    wanted draft.annotations = false

/-- An update ends as skipped only if it was overtaken, and goes through only if it was not. -/
def Heeds {α : Type} (overtook : Bool) : Checked α → Prop
  | .ok _ => overtook = false
  | .error stop => stop = .skipped → overtook = true

/-- The ways in which one attempt goes on. -/
inductive Attempt (python : Python) (name : String) (mutation : Mutation) (attempts : Nat)
    (vip : VirtualIP) : List World → Checked Update → List World → Prop where
  | stopped {world : World} {left : List World} {stop : Stop}
      (closure : mutation.apply python world.octavia vip.draft = .error stop) :
      Attempt python name mutation attempts vip (world :: left) (.error stop) left
  | refused {world patched : World} {left : List World} {draft : Draft} {code : Nat}
      (closure : mutation.apply python world.octavia vip.draft = .ok draft) :
      Attempt python name mutation attempts vip (world :: patched :: left) (.error (.api code)) left
  | patched {world patched : World} {current updated : VirtualIP} {left : List World}
      {draft : Draft}
      (closure : mutation.apply python world.octavia vip.draft = .ok draft)
      (found : patched.get name = some current)
      (same : current.resourceVersion = vip.resourceVersion) :
      Attempt python name mutation attempts vip (world :: patched :: left)
        (.ok ⟨vip, draft, updated⟩) left
  | again {world patched : World} {current : VirtualIP} {worlds left : List World}
      {draft : Draft} {result : Checked Update}
      (closure : mutation.apply python world.octavia vip.draft = .ok draft)
      (found : patched.get name = some current)
      (different : current.resourceVersion ≠ vip.resourceVersion)
      (ended : (updateVirtualIP python name mutation attempts none).among python worlds =
        some (result, left)) :
      Attempt python name mutation attempts vip (world :: patched :: worlds) result left

variable {result : Checked Update}

/-- One attempt, as the retry loop makes it. -/
theorem attempt_of_among
    (ended : (updateVirtualIP python name mutation (attempts + 1) (some vip)).among python
      worlds = some (result, left)) :
    Attempt python name mutation attempts vip worlds result left := by
  rw [updateVirtualIP, nextVirtualIP, pure_bind] at ended
  simp only [Call.check, bind_assoc, Call.among_bind] at ended
  cases worlds with
  | nil => simp at ended
  | cons world worlds =>
    simp only [Call.among_read_cons, Option.bind_some, Call.among_ofExcept] at ended
    cases closure : mutation.apply python world.octavia vip.draft with
    | error stop =>
      simp only [closure, Option.some.injEq, Prod.mk.injEq] at ended
      obtain ⟨rfl, rfl⟩ := ended
      exact .stopped closure
    | ok draft =>
      cases worlds with
      | nil => simp [closure] at ended
      | cons patched worlds =>
        simp only [closure, Call.among_ask_cons, Option.bind_some, perform, World.patch]
          at ended
        cases found : patched.get name with
        | none =>
          simp [found] at ended
          obtain ⟨rfl, rfl⟩ := ended
          exact .refused closure
        | some current =>
          by_cases same : current.resourceVersion = vip.resourceVersion
          · simp [found, same] at ended
            obtain ⟨rfl, rfl⟩ := ended
            exact .patched closure found same
          · simp only [found, same, ne_eq, not_false_eq_true, if_true, true_and] at ended
            by_cases last : attempts = 0
            · simp [last] at ended
              obtain ⟨rfl, rfl⟩ := ended
              exact .refused closure
            · simp only [last, not_false_eq_true, if_true] at ended
              exact .again closure found same ended

/-- A fresh attempt reads the object and goes on with it. -/
theorem exists_of_among_reread
    (ended : (updateVirtualIP python name mutation attempts none).among python worlds =
      some (result, left)) :
    (∃ user operator, result = .error (.fault user operator)) ∨
      ∃ reread rest again, worlds = reread :: rest ∧ reread.get name = some again ∧
        (updateVirtualIP python name mutation attempts (some again)).among python rest =
          some (result, left) := by
  cases attempts with
  | zero =>
    rw [updateVirtualIP, Call.among_fault] at ended
    exact .inl ⟨_, _, (congrArg Prod.fst (Option.some.inj ended)).symm⟩
  | succ attempts =>
    rw [updateVirtualIP, nextVirtualIP, Call.among_bind] at ended
    cases worlds with
    | nil =>
      rw [Call.among_read_nil] at ended
      simp at ended
    | cons reread rest =>
      rw [Call.among_read_cons, Option.bind_some] at ended
      cases found : reread.get name with
      | none =>
        simp only [found, Call.among_fault] at ended
        exact .inl ⟨_, _, (congrArg Prod.fst (Option.some.inj ended)).symm⟩
      | some again =>
        refine .inr ⟨reread, rest, again, rfl, found, ?_⟩
        rw [updateVirtualIP, nextVirtualIP, pure_bind]
        simp only [found] at ended
        exact ended

/-- **Skipped updates.** An update whose closure is skipped for unwanted objects only is skipped
if it is overtaken. -/
theorem heeds_of_among_updateVirtualIP (skips : mutation.Skips python wanted)
    (ended : (updateVirtualIP python name mutation attempts (some vip)).among python worlds =
      some (result, left)) :
    Heeds (overtaken name wanted vip worlds) result := by
  have welcome {world : World} {vip : VirtualIP} {draft : Draft}
      (closure : mutation.apply python world.octavia vip.draft = .ok draft) :
      wanted vip.annotations = true := by
    by_contra unwanted
    have skipped := (skips world.octavia vip.draft).mpr (Bool.eq_false_iff.mpr unwanted)
    rw [closure] at skipped
    cases skipped
  induction attempts generalizing vip worlds with
  | zero =>
    rw [updateVirtualIP, Call.among_fault] at ended
    obtain rfl := congrArg Prod.fst (Option.some.inj ended)
    exact Stop.noConfusion
  | succ attempts ih =>
    cases attempt_of_among ended with
    | stopped closure =>
      rintro rfl
      exact overtaken_of_unwanted ((skips _ _).mp closure)
    | refused closure => exact Stop.noConfusion
    | patched closure found same => exact overtaken_eq_false (welcome closure) found same
    | again closure found different ended =>
      obtain ⟨user, operator, rfl⟩ | ⟨reread, rest, again, rfl, read, ended⟩ :=
        exists_of_among_reread ended
      · exact Stop.noConfusion
      · rw [overtaken_reread (welcome closure) found different read]
        exact ih ended

/-- A skippable update returns nothing exactly if it was overtaken. -/
theorem overtaken_eq_isNone_of_among (skips : mutation.Skips python wanted) {update : Option Update}
    (returns : (updatePoolVirtualIPWithRetry python vip mutation).among python worlds =
      some (.ok update, left)) :
    overtaken vip.name wanted vip worlds = update.isNone := by
  rw [updatePoolVirtualIPWithRetry, skippable, Call.among_tryCatch, Call.among_bind] at returns
  obtain ⟨⟨result, between⟩, done, returns⟩ := Option.bind_eq_some_iff.mp returns
  obtain ⟨⟨inner, between⟩, ended, done⟩ := Option.bind_eq_some_iff.mp done
  have heeds := heeds_of_among_updateVirtualIP skips ended
  cases inner with
  | ok value =>
    cases done
    cases returns
    exact heeds
  | error stop =>
    cases done
    cases stop with
    | skipped =>
      cases returns
      exact heeds rfl
    | fault user operator | api status => cases returns

end Overtaken

/-! ## Updates that are not lost -/

/-- What others do between two steps of a call: any requests, while Octavia changes. -/
def Follows (python : Python) : World → World → Prop :=
  Relation.ReflTransGen fun before after =>
    ∃ request octavia, after = { (perform python request before).2 with octavia }

/-- No version is higher than the counter. -/
def World.Numbered (world : World) : Prop :=
  ∀ name vip, world.get name = some vip → vip.resourceVersion ≤ world.version

/-- An object is as before, or it has a version that was not given out before. -/
structure World.Since (before after : World) : Prop where
  grown : before.version ≤ after.version
  fresh : ∀ name vip, after.get name = some vip → before.get name = some vip ∨
    before.version < vip.resourceVersion ∧ vip.resourceVersion ≤ after.version

variable {mutation : Mutation}

section Kept

variable {python : Python} {before middle after : World}

/-- Changes one after another. -/
theorem World.Since.trans (first : Since before middle) (second : Since middle after) :
    Since before after := by
  refine ⟨first.grown.trans second.grown, fun name vip found => ?_⟩
  rcases second.fresh name vip found with same | ⟨above, below⟩
  · exact (first.fresh name vip same).imp_right fun given =>
      ⟨given.1, given.2.trans second.grown⟩
  · exact .inr ⟨first.grown.trans_lt above, below⟩

theorem World.Numbered.since (numbered : before.Numbered) (since : before.Since after) :
    after.Numbered := fun name vip found =>
  (since.fresh name vip found).elim (fun same => (numbered name vip same).trans since.grown)
    And.right

/-- **One request.** -/
theorem since_perform (python : Python) (request : Request) (world : World) :
    world.Since (perform python request world).2 := by
  have unchanged : world.Since world := ⟨le_rfl, fun _ _ found => .inl found⟩
  cases request with
  | create name draft =>
    change world.Since (world.create python name draft).2
    unfold World.create
    split
    · exact unchanged
    · refine ⟨Nat.le_succ _, fun other vip found => ?_⟩
      rw [World.get, List.find?_append] at found
      rcases Option.or_eq_some_iff.mp found with old | ⟨-, made⟩
      · exact .inl old
      · obtain rfl := List.mem_singleton.mp (List.mem_of_find?_eq_some made)
        exact .inr ⟨Nat.lt_succ_self _, le_rfl⟩
  | patch name seen draft =>
    change world.Since (world.patch python name seen draft).2
    unfold World.patch
    split
    · exact unchanged
    · split
      · exact unchanged
      · refine ⟨Nat.le_succ _, fun other vip found => ?_⟩
        simp only [World.get, World.replace, List.find?_map] at found
        obtain ⟨old, held, rfl⟩ := Option.map_eq_some_iff.mp found
        split
        · exact .inr ⟨Nat.lt_succ_self _, le_rfl⟩
        · refine .inl (Eq.trans (congrArg (List.find? · world.vips) (funext fun vip => ?_)) held)
          simp only [Function.comp]
          split <;> simp [*]
  | delete name =>
    refine ⟨le_rfl, fun other vip found => .inl ?_⟩
    have kept := (List.mem_filter.mp (List.mem_of_find?_eq_some found)).2
    have named := List.find?_some found
    simp only [decide_eq_true_eq] at kept named
    simp only [World.get, perform, World.delete, List.find?_filter] at found
    refine Eq.trans (congrArg (List.find? · world.vips) (funext fun held => ?_)) found
    subst named
    by_cases same : held.name = vip.name <;> simp [same, kept]

/-- **Versions are given out once**, whatever others do. -/
theorem Follows.since (follows : Follows python before after) : before.Since after := by
  induction follows with
  | refl => exact ⟨le_rfl, fun _ _ found => .inl found⟩
  | tail _ step ih =>
    obtain ⟨request, octavia, rfl⟩ := step
    obtain ⟨grown, fresh⟩ := since_perform python request _
    exact ih.trans ⟨grown, fresh⟩

end Kept

/-! ## Which statuses are pushed -/

section Pushed

variable {python : Python} {push : StatusUpdate → Checked Unit} {worlds left : List World}
  {updates : List StatusUpdate}

/-- `_clean_ids` keeps the identifiers that are given. -/
theorem mem_cleanIDs {ids : List (Option String)} {id : String} :
    id ∈ cleanIDs ids ↔ some id ∈ ids.map given := by
  simp [cleanIDs, List.mem_eraseDups, List.mem_filterMap, List.mem_map]

theorem map_fst_statusEntries (ids : List (Option String)) (status : Provisioning) :
    (statusEntries ids status).map Prod.fst = cleanIDs ids := by
  simp [statusEntries, List.map_map, Function.comp_def]

/-- A status is pushed unless it is empty. -/
theorem mem_of_among_pushResourceStatus {status : Provisioning} {lbID : Option String}
    {listenerIDs poolIDs memberIDs hmIDs : List (Option String)}
    (returns : (pushResourceStatus push status lbID listenerIDs poolIDs memberIDs hmIDs).among
      python worlds = some (.ok updates, left))
    (nonempty : resourceStatus status lbID listenerIDs poolIDs memberIDs hmIDs ≠ .empty) :
    resourceStatus status lbID listenerIDs poolIDs memberIDs hmIDs ∈ updates := by
  unfold pushResourceStatus at returns
  dsimp only at returns
  rw [if_neg nonempty] at returns
  obtain ⟨_, between, -, returns⟩ := Call.exists_of_among_bind returns
  cases returns
  exact List.mem_singleton.mpr rfl

/-- One of the statuses lists the object. -/
def Listed (entries : StatusUpdate → List (String × Provisioning)) (updates : List StatusUpdate)
    (object : Option String) : Prop :=
  ∃ id ∈ object, ∃ update ∈ updates, id ∈ (entries update).map Prod.fst

variable {object : Option String} {entries : StatusUpdate → List (String × Provisioning)}

/-- A status that lists an object is pushed. -/
theorem listed_iff_of_pushed {update : StatusUpdate} (pushed : update ≠ .empty → update ∈ updates)
    (none : entries .empty = []) {ids : List (Option String)} {status : Provisioning}
    (listed : entries update = statusEntries ids status) (member : object ∈ ids.map given) :
    Listed entries updates object ↔ object.isSome = true := by
  constructor
  · rintro ⟨id, rfl, -⟩
    rfl
  · intro given
    obtain ⟨id, rfl⟩ := Option.isSome_iff_exists.mp given
    have present : id ∈ (entries update).map Prod.fst := by
      rw [listed, map_fst_statusEntries]
      exact mem_cleanIDs.mpr member
    have nonempty : update ≠ .empty := by
      rintro rfl
      rw [none] at present
      cases present
    exact ⟨id, rfl, update, pushed nonempty, present⟩

theorem Member.given_memberID (m : Member) : given m.memberID = m.memberID := by
  simp [Member.memberID, given, Option.filter_filter]

theorem map_given_memberID (members : List Member) :
    (members.map Member.memberID).map given = members.map Member.memberID := by
  rw [List.map_map]
  exact List.map_congr_left fun m _ => m.given_memberID

/-- A change of members that is deferred is told of. -/
theorem told_of_deferMembers {poolID : String} {members : List Member} {checked : Checked Unit}
    (returns : (deferMembers push poolID members checked).among python worlds =
      some (.ok updates, left)) (member : object ∈ members.map Member.memberID) :
    Listed StatusUpdate.members updates object ↔ object.isSome = true := by
  obtain ⟨found, between, -, returns⟩ := Call.exists_of_among_bind returns
  cases found with
  | none =>
    rw [Call.among_fault] at returns
    cases (congrArg Prod.fst (Option.some.inj returns))
  | some lbID =>
    obtain ⟨_, between, -, returns⟩ := Call.exists_of_among_bind returns
    refine listed_iff_of_pushed (mem_of_among_pushResourceStatus returns) rfl rfl ?_
    rwa [map_given_memberID]

/-- Members whose status is pushed are told of. -/
theorem told_of_pushMemberActiveStatus {vip : VirtualIP} {poolID : String} {members : List Member}
    {pushed : List StatusUpdate}
    (returns : (pushMemberActiveStatus push vip poolID members).among python worlds =
      some (.ok pushed, left)) (kept : pushed ⊆ updates)
    (member : object ∈ members.map Member.memberID) :
    Listed StatusUpdate.members updates object ↔ object.isSome = true := by
  refine listed_iff_of_pushed
    (fun nonempty => kept (mem_of_among_pushResourceStatus returns nonempty)) rfl rfl ?_
  rwa [map_given_memberID]

/-- A skipped call has pushed nothing. -/
theorem not_told_of_nil : ¬ Listed entries [] object := by
  rintro ⟨_, -, _, none, -⟩
  cases none

end Pushed

/-! ## Nothing stays pending -/

/-- The operations that put a pool or members on a VirtualIP, with what Octavia passes. -/
inductive Addition where
  | poolCreate (poolID : String) (listenerID lbID : Option String)
  | memberCreate (poolID : String) (m : Member)
  | memberUpdate (poolID : String) (m : Member)
  | memberBatchUpdate (poolID : String) (members : List Member)
  deriving DecidableEq, Repr

/-- The pool is the one of the VirtualIP, or there is none. -/
def poolFits (poolID : String) (annotations : Annotations) : Bool :=
  (given annotations.poolID).all (· = poolID)

/-- The pool is still the one of the VirtualIP. -/
def poolStays (poolID : String) (annotations : Annotations) : Bool :=
  annotations.poolID = some poolID

/-- An operation on members meets the VirtualIP of their pool with another pool. -/
def membersOvertaken (python : Python) (poolID : String) : List World → Bool
  | [] => false
  | world :: worlds => (findByPool python world poolID).any fun vip =>
    overtaken vip.name (poolStays poolID) vip worlds

namespace Addition

/-- The call of the driver, with the statuses it pushes. -/
def call (python : Python) (push : StatusUpdate → Checked Unit) :
    Addition → Call (List StatusUpdate)
  | .poolCreate poolID listenerID lbID => poolCreateStatuses python push poolID listenerID lbID
  | .memberCreate poolID m => memberCreateStatuses python push poolID m
  | .memberUpdate poolID m => memberUpdateStatuses python push poolID m
  | .memberBatchUpdate poolID members => memberBatchUpdateStatuses python push poolID members

/-- The identifiers of the pool or the members that the operation is called for. -/
def objects : Addition → List (Option String)
  | .poolCreate poolID _ _ => [given (some poolID)]
  | .memberCreate _ m => [m.memberID]
  | .memberUpdate _ m => [m.memberID]
  | .memberBatchUpdate _ members => members.map Member.memberID

/-- Where a status update lists such objects. -/
def entries : Addition → StatusUpdate → List (String × Provisioning)
  | .poolCreate .. => StatusUpdate.pools
  | .memberCreate .. | .memberUpdate .. | .memberBatchUpdate .. => StatusUpdate.members

/-- The statuses include everything that the operation is called for. -/
def Told (operation : Addition) (updates : List StatusUpdate) : Prop :=
  ∀ object ∈ operation.objects, ∃ id ∈ object, ∃ update ∈ updates,
    id ∈ (operation.entries update).map Prod.fst

/-- The operation meets its VirtualIP with another pool. -/
def overtaken (python : Python) : Addition → List World → Bool
  | .poolCreate _ _ _, [] => false
  | .poolCreate poolID listenerID _, world :: worlds =>
    (given listenerID).any fun listenerID =>
      (findByListener python world listenerID).any fun vip =>
        vip.annotations.poolID ≠ some poolID &&
          Octavia.overtaken vip.name (poolFits poolID) vip worlds
  | .memberCreate poolID _, worlds
  | .memberUpdate poolID _, worlds
  | .memberBatchUpdate poolID _, worlds => membersOvertaken python poolID worlds

end Addition

section Told

variable {python : Python} {push : StatusUpdate → Checked Unit} {worlds left : List World}
  {updates : List StatusUpdate} {poolID : String}

theorem skips_memberCreate (m : Member) :
    Mutation.Skips python (poolStays poolID) (.memberCreate poolID m) :=
  fun _ _ => (guarded_eq_skipped_iff mutateMember_ne_skipped).trans decide_eq_false_iff_not.symm

theorem skips_memberUpdate (m : Member) :
    Mutation.Skips python (poolStays poolID) (.memberUpdate poolID m) :=
  fun _ _ => (guarded_eq_skipped_iff mutateMember_ne_skipped).trans decide_eq_false_iff_not.symm

/-- Closures for members are skipped where the pool is another one. -/
theorem skips_memberBatchUpdate (members : List Member) :
    Mutation.Skips python (poolStays poolID) (.memberBatchUpdate poolID members) :=
  fun _ _ =>
    (guarded_eq_skipped_iff mutateMemberBatchUpdate_ne_skipped).trans decide_eq_false_iff_not.symm

/-- An association is skipped where another pool is in the place. -/
theorem skips_associatePool : Mutation.Skips python (poolFits poolID) (.associatePool poolID) := by
  intro octavia draft
  rw [Mutation.apply, mutateAssociatePool, poolFits]
  cases given draft.annotations.poolID with
  | none => simp [mutateAssociatePool.associate, pure, Except.pure]
  | some present =>
    by_cases same : present = poolID
    · simp [same, mutateAssociatePool.associate, pure, Except.pure]
    · simp [same]

section Members

variable {members : List Member} {object : Option String} {world : World}

/-- What is told of members whose pool has no VirtualIP. -/
theorem told_without_virtualIP {checked : Checked Unit}
    (looked : findByPool python world poolID = none)
    (returns : (deferMembers push poolID members checked).among python worlds =
      some (.ok updates, left)) (member : object ∈ members.map Member.memberID) :
    Listed StatusUpdate.members updates object ↔
      object.isSome = true ∧ membersOvertaken python poolID (world :: worlds) = false := by
  rw [told_of_deferMembers returns member, membersOvertaken, looked]
  simp

variable (push) in
/-- What is told of members after an update of the VirtualIP of their pool. -/
theorem told_with_virtualIP {vip : VirtualIP} {rest : Option Update → Call (List StatusUpdate)}
    (looked : findByPool python world poolID = some vip)
    (skips : mutation.Skips python (poolStays poolID))
    (returns : (updatePoolVirtualIPWithRetry python vip mutation >>= rest).among python worlds =
      some (.ok updates, left)) (skipped : rest none = pure []) (pushes : ∀ update between,
      (rest (some update)).among python between = some (.ok updates, left) →
        ∃ pushed later, (pushMemberActiveStatus push vip poolID members).among python between =
          some (.ok pushed, later) ∧ pushed ⊆ updates)
    (member : object ∈ members.map Member.memberID) :
    Listed StatusUpdate.members updates object ↔
      object.isSome = true ∧ membersOvertaken python poolID (world :: worlds) = false := by
  obtain ⟨update, between, done, returns⟩ := Call.exists_of_among_bind returns
  rw [membersOvertaken, looked, Option.any_some, overtaken_eq_isNone_of_among skips done]
  cases update with
  | none =>
    rw [skipped] at returns
    cases returns
    exact iff_of_false not_told_of_nil (by simp)
  | some update =>
    obtain ⟨pushed, later, active, kept⟩ := pushes update between returns
    rw [told_of_pushMemberActiveStatus active kept member]
    simp

/-- `member_create` and `member_update` after their checks. -/
theorem told_of_setMemberStatuses {m : Member} (skips : mutation.Skips python (poolStays poolID))
    (returns : (setMemberStatuses python push mutation poolID m).among python worlds =
      some (.ok updates, left)) (member : object ∈ [m].map Member.memberID) :
    Listed StatusUpdate.members updates object ↔
      object.isSome = true ∧ membersOvertaken python poolID worlds = false := by
  obtain ⟨found, world, between, rfl, looked, returns⟩ := Call.exists_of_among_read_bind returns
  cases found with
  | none => exact told_without_virtualIP looked returns member
  | some vip =>
    exact told_with_virtualIP push looked skips returns rfl
      (fun update between active => ⟨updates, left, active, List.Subset.refl _⟩) member

/-- `member_batch_update`. -/
theorem told_of_memberBatchUpdateStatuses
    (returns : (memberBatchUpdateStatuses python push poolID members).among python worlds =
      some (.ok updates, left)) (member : object ∈ members.map Member.memberID) :
    Listed StatusUpdate.members updates object ↔
      object.isSome = true ∧ membersOvertaken python poolID worlds = false := by
  obtain ⟨found, world, between, rfl, looked, returns⟩ := Call.exists_of_among_read_bind returns
  cases found with
  | none => exact told_without_virtualIP looked returns member
  | some vip =>
    obtain ⟨_, -, returns⟩ := Call.exists_of_among_ofExcept_bind returns
    refine told_with_virtualIP push looked (skips_memberBatchUpdate members) returns rfl
      (fun update between active => ?_) member
    obtain ⟨pushed, later, told, returns⟩ := Call.exists_of_among_bind active
    obtain ⟨deleted, _, -, returns⟩ := Call.exists_of_among_bind returns
    cases returns
    exact ⟨pushed, later, told, List.subset_append_left _ _⟩

end Members

/-- A pool is associated unless it has no identifier or another pool is in its place. -/
theorem isSome_of_among_associatePool {vip : VirtualIP}
    {associated : Option (Option String × Option String)}
    (returns : (associatePoolWithVirtualIP python vip poolID).among python worlds =
      some (.ok associated, left)) :
    associated.isSome = true ↔ (given (some poolID)).isSome = true ∧
      (vip.annotations.poolID ≠ some poolID && overtaken vip.name (poolFits poolID) vip worlds) =
        false := by
  unfold associatePoolWithVirtualIP at returns
  by_cases nameless : poolID = ""
  · rw [if_pos nameless] at returns
    cases returns
    simp [given, nameless]
  · rw [if_neg nameless] at returns
    have named : (given (some poolID)).isSome = true := by
      simp [given, nameless]
    by_cases present : vip.annotations.poolID = some poolID
    · rw [if_pos present] at returns
      cases returns
      simp [present, named]
    · rw [if_neg present] at returns
      simp only [ne_eq, present, not_false_eq_true, decide_true, Bool.true_and, named, true_and]
      by_cases other : (given vip.annotations.poolID).isSome
      · rw [if_pos other] at returns
        cases returns
        obtain ⟨id, has⟩ := Option.isSome_iff_exists.mp other
        have unwanted : poolFits poolID vip.annotations = false := by
          rw [poolFits, has]
          have stored := (Option.filter_eq_some_iff.mp has).1
          rw [stored] at present
          simpa using fun same => present (congrArg some same)
        simp [overtaken_of_unwanted unwanted]
      · rw [if_neg other] at returns
        obtain ⟨update, between, done, returns⟩ := Call.exists_of_among_bind returns
        rw [overtaken_eq_isNone_of_among skips_associatePool done]
        cases returns
        cases update <;> simp

/-- `pool_create`. -/
theorem told_of_poolCreateStatuses {listenerID lbID : Option String}
    (returns : (poolCreateStatuses python push poolID listenerID lbID).among python worlds =
      some (.ok updates, left)) :
    Listed StatusUpdate.pools updates (given (some poolID)) ↔
      (given (some poolID)).isSome = true ∧
        Addition.overtaken python (.poolCreate poolID listenerID lbID) worlds = false := by
  have listed : given (some poolID) ∈ [some poolID].map given := List.mem_singleton.mpr rfl
  unfold poolCreateStatuses at returns
  cases listener : given listenerID with
  | none =>
    rw [listener] at returns
    rw [listed_iff_of_pushed (mem_of_among_pushResourceStatus returns) rfl rfl listed]
    cases worlds <;> simp [Addition.overtaken, listener]
  | some listenerID =>
    rw [listener] at returns
    obtain ⟨found, world, between, rfl, looked, returns⟩ := Call.exists_of_among_read_bind returns
    cases found with
    | none =>
      obtain ⟨_, between, -, returns⟩ := Call.exists_of_among_bind returns
      rw [Call.among_fault] at returns
      cases congrArg Prod.fst (Option.some.inj returns)
    | some vip =>
      obtain ⟨associated, between, done, returns⟩ := Call.exists_of_among_bind returns
      have outcome := isSome_of_among_associatePool done
      simp only [Addition.overtaken, listener, Option.any_some, looked]
      cases associated with
      | none =>
        cases returns
        exact iff_of_false not_told_of_nil fun fits => nomatch outcome.mpr fits
      | some ids =>
        rw [listed_iff_of_pushed (mem_of_among_pushResourceStatus returns) rfl rfl listed]
        exact (and_iff_left (outcome.mp rfl).2).symm

end Told

/-- **What is left pending.** A call that returns has pushed a status for everything that it was
called for, unless something has no identifier or the call met the VirtualIP with another
pool. -/
theorem Addition.told_iff_not_overtaken {python : Python} {push : StatusUpdate → Checked Unit}
    {operation : Addition} {worlds left : List World} {updates : List StatusUpdate}
    (returns : (operation.call python push).among python worlds = some (.ok updates, left)) :
    operation.Told updates ↔
      ∀ object ∈ operation.objects,
        object.isSome = true ∧ operation.overtaken python worlds = false := by
  refine forall₂_congr fun object member => ?_
  cases operation with
  | poolCreate poolID listenerID lbID =>
    obtain rfl := List.mem_singleton.mp member
    exact told_of_poolCreateStatuses returns
  | memberCreate poolID m =>
    obtain ⟨_, -, returns⟩ := Call.exists_of_among_ofExcept_bind returns
    obtain ⟨_, -, returns⟩ := Call.exists_of_among_ofExcept_bind returns
    exact told_of_setMemberStatuses (skips_memberCreate m) returns member
  | memberUpdate poolID m =>
    obtain ⟨_, -, returns⟩ := Call.exists_of_among_ofExcept_bind returns
    by_cases nameless : poolID = ""
    · rw [if_pos nameless, Call.among_fault] at returns
      cases congrArg Prod.fst (Option.some.inj returns)
    · rw [if_neg nameless] at returns
      obtain ⟨_, -, returns⟩ := Call.exists_of_among_ofExcept_bind returns
      exact told_of_setMemberStatuses (skips_memberUpdate m) returns member
  | memberBatchUpdate poolID members => exact told_of_memberBatchUpdateStatuses returns member

/-- A VirtualIP with a pool and no members. -/
def pooledVirtualIP : VirtualIP where
  name := "octavia-1"
  resourceVersion := 7
  labels := ⟨some labelManagedByValue, some "lb", some "listener", some "pool", []⟩
  annotations := { Annotations.none with
    lbID := some "lb", listenerID := some "listener", poolID := some "pool" }
  spec := ⟨some "192.0.2.1", some 80, some "TCP", some "L3DSR", some 10, some [], none⟩

/-- A server with this VirtualIP only. -/
def pooledWorld : World := ⟨[pooledVirtualIP], 7, .empty⟩

/-- `listener_update` that gives the listener another pool. -/
def movedListener : Listener := ⟨"listener", none, none, none, some (some "other")⟩

/-- The server after this update. -/
def movedWorld : World :=
  (Routine.run (server .plain) (listenerUpdate .plain movedListener).run pooledWorld).2

/-- A member of the pool. -/
def addedMember : Member :=
  ⟨some "member", some "198.51.100.1", some 1, some true, some false, some 80, none, none⟩

/-- Somebody else's `member_create` has gone through. -/
def addedWorld : World :=
  (perform .plain (.patch "octavia-1" pooledVirtualIP (pooledVirtualIP.draft.setMember addedMember))
    pooledWorld).2

theorem numbered_pooledWorld : pooledWorld.Numbered := fun _ vip found => by
  obtain rfl := List.mem_singleton.mp (List.mem_of_find?_eq_some found)
  exact le_rfl

/-- A member is created while somebody else adds one. -/
theorem told_iff_not_overtaken_member_create :
    let operation := Addition.memberCreate "pool"
      { addedMember with id := some "second", address := some "198.51.100.2" }
    ∃ updates left, (operation.call .plain acceptStatus).among .plain
        ([pooledWorld, pooledWorld] ++ List.replicate 4 addedWorld) = some (.ok updates, left) ∧
      operation.Told updates := by
  intro operation
  have returned : ((operation.call .plain acceptStatus).among .plain
      ([pooledWorld, pooledWorld] ++ List.replicate 4 addedWorld)).any
        (fun ended => ended.1.toBool) = true := by
    decide +kernel
  obtain ⟨⟨result, left⟩, returns, ok⟩ := (Option.any_eq_true ..).mp returned
  cases result with
  | error stop => cases ok
  | ok updates =>
    exact ⟨updates, left, returns,
      (Addition.told_iff_not_overtaken returns).mpr (by decide +kernel)⟩

/-- A pool that is created for a listener with another pool is never told of, and neither is a
member whose pool loses the VirtualIP between the driver's read and its patch. -/
theorem pool_and_member_left_pending :
    (((Addition.poolCreate "other" (some "listener") (some "lb")).call .plain acceptStatus).among
        .plain [pooledWorld]).map Prod.fst = some (.ok []) ∧
      (((Addition.memberCreate "pool" addedMember).call .plain acceptStatus).among .plain
        [pooledWorld, pooledWorld, movedWorld, movedWorld, movedWorld]).map Prod.fst =
          some (.ok []) ∧
      ¬ (Addition.poolCreate "other" (some "listener") (some "lb")).Told [] ∧
      ¬ (Addition.memberCreate "pool" addedMember).Told [] := by
  refine ⟨by decide +kernel, by decide +kernel, fun told => ?_, fun told => ?_⟩
  · exact not_told_of_nil (told (some "other") (by decide))
  · exact not_told_of_nil (told (some "member") (by decide))

end ArcaLB.Octavia
