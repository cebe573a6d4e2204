import ArcaLB.Library.Transition
import Mathlib.Logic.Relation
import Mathlib.Order.Basic

/-!
# Callers that take resources in order

A script is what is left of a caller: it takes resources, works, and drops them again.  A
caller that finds a resource taken waits until it is free or until it gives up.  When every
script takes resources in the order of some rank, nested takes included, no callers ever wait
for each other in a cycle.
-/

/-- A caller goes on with `refused` where it gives up on a resource. -/
inductive Script (Resource : Type) where
  | finished
  | work (rest : Script Resource)
  | take (resource : Resource) (granted refused : Script Resource)
  | drop (resource : Resource) (rest : Script Resource)

namespace Script

variable {Resource Rank : Type}

/-- The script takes every resource above those that are held, and ends with none. -/
def Ordered [Preorder Rank] (rank : Resource → Rank) : List Resource → Script Resource → Prop
  | held, finished => held = []
  | held, work rest => rest.Ordered rank held
  | held, take resource granted refused =>
    (∀ other ∈ held, rank other < rank resource) ∧
      granted.Ordered rank (resource :: held) ∧ refused.Ordered rank held
  | held, drop resource rest => ∃ others, held = resource :: others ∧ rest.Ordered rank others

/-- The resource that the script takes next. -/
def wants : Script Resource → Option Resource
  | take resource _ _ => some resource
  | _ => none

/-- A resource that is taken next is above those that are held. -/
theorem Ordered.above [Preorder Rank] {rank : Resource → Rank} {held : List Resource}
    {script : Script Resource} (ordered : script.Ordered rank held) {resource other : Resource}
    (next : script.wants = some resource) (member : other ∈ held) : rank other < rank resource := by
  cases script with
  | take wanted granted refused =>
    cases next
    exact ordered.1 other member
  | _ => cases next

end Script

/-- Who has a resource.  A resource is stale after a caller failed to give it back. -/
inductive Owner (Caller : Type) where
  | free
  | held (caller : Caller)
  | stale
  deriving DecidableEq

/-- Callers with what is left of them, and the resources. -/
structure Callers (Caller Resource : Type) where
  scripts : Caller → Script Resource
  owners : Resource → Owner Caller

namespace Callers

variable {Caller Resource Job Rank : Type}

/-- `granted` says whether a caller takes the resource or gives up, `clean` whether a resource
is given back. -/
inductive Event (Caller Resource Job : Type) where
  | start (caller : Caller) (job : Job)
  | work (caller : Caller)
  | take (caller : Caller) (granted : Bool)
  | drop (caller : Caller) (clean : Bool)
  | lapse (resource : Resource)

variable [DecidableEq Caller] [DecidableEq Resource]

/-- The callers with another script for one of them. -/
def setScript (callers : Callers Caller Resource) (caller : Caller) (script : Script Resource) :
    Callers Caller Resource :=
  { callers with scripts := Function.update callers.scripts caller script }

/-- The callers with another owner of a resource. -/
def setOwner (callers : Callers Caller Resource) (resource : Resource) (owner : Owner Caller) :
    Callers Caller Resource :=
  { callers with owners := Function.update callers.owners resource owner }

/-- Callers that carry out one job after another.  Only resources that lapse can be lost, or be
left behind. -/
def system (script : Caller → Job → Script Resource) (lapses : Resource → Bool) :
    TransitionSystem (Callers Caller Resource) (Event Caller Resource Job) where
  initial := fun callers =>
    (∀ caller, callers.scripts caller = .finished) ∧
      ∀ resource caller, callers.owners resource ≠ .held caller
  step := fun callers event =>
    match event with
    | .start caller job =>
      match callers.scripts caller with
      | .finished => some (callers.setScript caller (script caller job))
      | _ => none
    | .work caller =>
      match callers.scripts caller with
      | .work rest => some (callers.setScript caller rest)
      | _ => none
    | .take caller granted =>
      match callers.scripts caller with
      | .take resource accepted refused =>
        if granted then
          if callers.owners resource = .free then
            some ((callers.setScript caller accepted).setOwner resource (.held caller))
          else none
        else some (callers.setScript caller refused)
      | _ => none
    | .drop caller clean =>
      match callers.scripts caller with
      | .drop resource rest =>
        let moved := callers.setScript caller rest
        if callers.owners resource = .held caller then
          some (moved.setOwner resource (if lapses resource && !clean then .stale else .free))
        else some moved
      | _ => none
    | .lapse resource => if lapses resource then some (callers.setOwner resource .free) else none

/-- The first caller has to wait for a resource that the second one has. -/
def Waits (callers : Callers Caller Resource) (first second : Caller) : Prop :=
  ∃ resource, (callers.scripts first).wants = some resource ∧
    callers.owners resource = .held second

/-- Every script is in order, with the resources that its caller has among those it takes to
be held. -/
def Orderly [Preorder Rank] (rank : Resource → Rank) (callers : Callers Caller Resource) : Prop :=
  ∀ caller, ∃ held, (callers.scripts caller).Ordered rank held ∧
    ∀ resource, callers.owners resource = .held caller → resource ∈ held

section Order

variable [Preorder Rank] {rank : Resource → Rank} {callers next : Callers Caller Resource}
  {script : Caller → Job → Script Resource} {lapses : Resource → Bool}

variable (orderly : Orderly rank callers)
include orderly

omit [DecidableEq Resource] in
/-- One caller moves on, and the others have no more than before. -/
theorem Orderly.update (caller : Caller)
    (scripts : ∀ other, other ≠ caller → next.scripts other = callers.scripts other)
    (owners : ∀ other, other ≠ caller → ∀ resource, next.owners resource = .held other →
      callers.owners resource = .held other)
    (own : ∃ held, (next.scripts caller).Ordered rank held ∧
      ∀ resource, next.owners resource = .held caller → resource ∈ held) :
    Orderly rank next := by
  intro other
  by_cases same : other = caller
  · rwa [same]
  · obtain ⟨held, ordered, has⟩ := orderly other
    refine ⟨held, ?_, fun resource owned => has resource (owners other same resource owned)⟩
    rwa [scripts other same]

omit [DecidableEq Resource] in
/-- One caller moves on with what it has. -/
theorem Orderly.moved {caller : Caller}
    {script : Script Resource} {held : List Resource} (ordered : script.Ordered rank held)
    (has : ∀ resource, callers.owners resource = .held caller → resource ∈ held) :
    Orderly rank (callers.setScript caller script) := by
  refine orderly.update caller (fun other distinct => ?_) (fun _ _ _ owned => owned) ⟨held, ?_, has⟩
  · simp [setScript, distinct]
  · simpa [setScript] using ordered

omit orderly in
omit [DecidableEq Caller] in
/-- Who has a resource after another change of owners had it before. -/
theorem owners_of_setOwner {resource other : Resource} {owner : Owner Caller} {caller : Caller}
    (different : owner ≠ .held caller)
    (owned : (callers.setOwner resource owner).owners other = .held caller) :
    other ≠ resource ∧ callers.owners other = .held caller := by
  by_cases same : other = resource
  · subst same
    simp only [setOwner, Function.update_self] at owned
    exact absurd owned different
  · refine ⟨same, ?_⟩
    simpa [setOwner, same] using owned

/-- **One step.** -/
theorem Orderly.step {event : Event Caller Resource Job}
    (ordered : ∀ caller job, (script caller job).Ordered rank [])
    (moves : (system script lapses).step callers event = some next) : Orderly rank next := by
  cases event with
  | start caller job =>
    simp only [system] at moves
    split at moves <;> cases moves
    rename_i idle
    obtain ⟨held, done, has⟩ := orderly caller
    rw [idle] at done
    cases done
    exact orderly.moved (ordered caller job) has
  | work caller =>
    simp only [system] at moves
    split at moves <;> cases moves
    rename_i rest working
    obtain ⟨held, left, has⟩ := orderly caller
    rw [working] at left
    exact orderly.moved left has
  | take caller granted =>
    simp only [system] at moves
    split at moves
    · rename_i resource accepted refused waiting
      obtain ⟨held, left, has⟩ := orderly caller
      rw [waiting] at left
      obtain ⟨above, goesOn, givesUp⟩ := left
      split at moves
      · split at moves <;> cases moves
        refine orderly.update caller (fun other distinct => ?_) ?_ ⟨resource :: held, ?_, ?_⟩
        · simp [setScript, setOwner, distinct]
        · intro other distinct taken owned
          exact (owners_of_setOwner (by simpa using distinct.symm) owned).2
        · simpa [setScript, setOwner] using goesOn
        · intro taken owned
          by_cases same : taken = resource
          · rw [same]
            exact List.mem_cons_self
          · have before : callers.owners taken = .held caller := by
              simpa [setOwner, setScript, same] using owned
            exact List.mem_cons_of_mem _ (has taken before)
      · cases moves
        exact orderly.moved givesUp has
    · cases moves
  | drop caller clean =>
    simp only [system] at moves
    split at moves
    · rename_i resource rest dropping
      obtain ⟨held, left, has⟩ := orderly caller
      rw [dropping] at left
      obtain ⟨others, rfl, goesOn⟩ := left
      have remaining : ∀ taken, taken ≠ resource → callers.owners taken = .held caller →
          taken ∈ others := by
        intro taken different owned
        exact (List.mem_cons.mp (has taken owned)).resolve_left different
      split at moves
      · cases moves
        have lost : ∀ holder : Caller,
            (if lapses resource && !clean then Owner.stale else .free) ≠ .held holder := by
          intro holder
          split <;> simp
        refine orderly.update caller (fun other distinct => ?_) ?_ ⟨others, ?_, ?_⟩
        · simp [setScript, setOwner, distinct]
        · intro other _ taken owned
          exact (owners_of_setOwner (lost other) owned).2
        · simpa [setScript, setOwner] using goesOn
        · intro taken owned
          obtain ⟨different, before⟩ := owners_of_setOwner (lost caller) owned
          exact remaining taken different before
      · rename_i taken
        cases moves
        refine orderly.moved goesOn fun kept owned => remaining kept ?_ owned
        rintro rfl
        exact taken owned
    · cases moves
  | lapse resource =>
    simp only [system] at moves
    split at moves <;> cases moves
    intro caller
    obtain ⟨held, left, has⟩ := orderly caller
    exact ⟨held, left, fun taken owned => has taken (owners_of_setOwner (by simp) owned).2⟩

omit orderly in
/-- **Every run.** -/
theorem orderly_of_reachable (ordered : ∀ caller job, (script caller job).Ordered rank [])
    (reached : (system script lapses).Reachable TransitionSystem.unguarded callers) :
    Orderly rank callers := by
  refine reached.invariant ?_ fun _ _ _ orderly _ moves => orderly.step ordered moves
  intro callers starts caller
  refine ⟨[], ?_, fun resource owned => absurd owned (starts.2 resource caller)⟩
  rw [starts.1 caller]
  rfl

omit [DecidableEq Caller] [DecidableEq Resource] in
/-- Whoever has a resource waits for a higher one. -/
theorem Orderly.rank_lt_of_waits {first second : Caller} (waits : callers.Waits first second)
    {resource taken : Resource} (wants : (callers.scripts first).wants = some resource)
    (also : (callers.scripts second).wants = some taken) : rank resource < rank taken := by
  obtain ⟨wanted, waiting, owned⟩ := waits
  cases wants.symm.trans waiting
  obtain ⟨held, left, has⟩ := orderly second
  exact left.above also (has resource owned)

omit [DecidableEq Caller] [DecidableEq Resource] in
/-- The resources that callers wait for rise along a chain of waits. -/
theorem Orderly.rank_lt_of_chain {first last : Caller}
    (chain : Relation.TransGen callers.Waits first last) {resource taken : Resource}
    (wants : (callers.scripts first).wants = some resource)
    (also : (callers.scripts last).wants = some taken) : rank resource < rank taken := by
  induction chain generalizing taken with
  | single waits => exact orderly.rank_lt_of_waits waits wants also
  | tail _ waits ih =>
    have ⟨between, waiting, _⟩ := waits
    exact lt_trans (ih waiting) (orderly.rank_lt_of_waits waits waiting also)

omit orderly

/-- **No cycle.** Callers that take resources in order never wait for each other in a cycle. -/
theorem not_waits_in_cycle (ordered : ∀ caller job, (script caller job).Ordered rank [])
    (reached : (system script lapses).Reachable TransitionSystem.unguarded callers)
    (caller : Caller) : ¬Relation.TransGen callers.Waits caller caller := by
  intro cycle
  have orderly := orderly_of_reachable ordered reached
  obtain ⟨next, ⟨resource, wants, _⟩, _⟩ := Relation.TransGen.head'_iff.mp cycle
  exact lt_irrefl _ (orderly.rank_lt_of_chain cycle wants wants)

end Order

end Callers
