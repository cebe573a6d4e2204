import ArcaLB.Library.Transition
import Mathlib.Data.Set.Card

/-!
# The local locks of a coordinator

`RunExclusive` takes the local lock of its key before the lease, so that the goroutines of one
process do not contend for the lease.  A lock is a channel with one slot and a count of the calls
that refer to it; the table of the locks is behind a mutex, the channels are not.  Any number of
goroutines call `RunExclusive` for any keys, also from inside the functions that it runs, and the
contexts of those that wait are cancelled at any time.
-/

namespace ArcaLB.Rollout

/-! ## The code -/

/-- `localLeaseLock`: whether the slot of the channel is full, and the references. -/
structure LocalLock where
  full : Bool
  refs : Int
  deriving DecidableEq, Repr

/-- Where a call of `RunExclusive` is with the lock of its key. -/
inductive LocalPhase where
  /-- In the `select` of `acquireLocal`. -/
  | waiting
  /-- Past the lock: `acquireLocal` has sent on the channel. -/
  | past
  /-- In `unlockLocal`, which has received from the channel. -/
  | unlocked
  /-- In `acquireLocal`, whose context is done. -/
  | cancelled
  deriving DecidableEq, Repr

/-- A call of `RunExclusive` that has a reference to a lock. -/
structure LocalCall where
  key : String
  lock : Nat
  phase : LocalPhase
  deriving DecidableEq, Repr

/-- The table `localLocks`, the locks that it and the calls point to, how many have been made, and
the calls of each goroutine, the innermost one first. -/
structure Locals (Id : Type) where
  localLocks : String → Option Nat
  locks : Nat → LocalLock
  made : Nat
  calls : Id → List LocalCall

/-- The steps of goroutines at the local locks. -/
inductive LocalEvent (Id : Type) where
  /-- `RunExclusive` is called and runs the first critical section of `acquireLocal`. -/
  | enter (goroutine : Id) (key : String)
  /-- The `select` sends on the channel. -/
  | send (goroutine : Id)
  /-- The `select` finds the context done. -/
  | cancel (goroutine : Id)
  /-- `unlockLocal` receives from the channel. -/
  | receive (goroutine : Id)
  /-- The critical section of `releaseLocalRef`. -/
  | release (goroutine : Id)
  deriving DecidableEq, Repr

namespace Locals

variable {Id : Type} [DecidableEq Id]

/-- The first critical section of `acquireLocal`: the lock that the table has for the key, or a new
one, with one more reference. -/
def refer (state : Locals Id) (key : String) : Nat × Locals Id :=
  match state.localLocks key with
  | some lock =>
    (lock, { state with
      locks := Function.update state.locks lock
        { state.locks lock with refs := (state.locks lock).refs + 1 } })
  | none =>
    (state.made, { state with
      localLocks := Function.update state.localLocks key (some state.made)
      locks := Function.update state.locks state.made ⟨false, 1⟩
      made := state.made + 1 })

/-- `releaseLocalRef`. -/
def releaseLocalRef (state : Locals Id) (key : String) (lock : Nat) : Locals Id :=
  let refs := (state.locks lock).refs - 1
  { state with
    locks := Function.update state.locks lock { state.locks lock with refs := refs }
    localLocks :=
      if refs = 0 then Function.update state.localLocks key none else state.localLocks }

/-- Fills or empties a lock's channel. -/
def setFull (state : Locals Id) (lock : Nat) (full : Bool) : Locals Id :=
  { state with locks := Function.update state.locks lock { state.locks lock with full := full } }

/-- Replaces a goroutine's calls. -/
def setCalls (state : Locals Id) (goroutine : Id) (calls : List LocalCall) : Locals Id :=
  { state with calls := Function.update state.calls goroutine calls }

/-- A goroutine calls `RunExclusive` outside of any call, or inside of the function of one. -/
def step (state : Locals Id) : LocalEvent Id → Option (Locals Id)
  | .enter goroutine key =>
    let calls := state.calls goroutine
    if calls.head?.all fun call => call.phase = .past then
      let (lock, state) := state.refer key
      some (state.setCalls goroutine (⟨key, lock, .waiting⟩ :: calls))
    else none
  | .send goroutine =>
    match state.calls goroutine with
    | ⟨key, lock, .waiting⟩ :: outer =>
      if (state.locks lock).full then none
      else some ((state.setFull lock true).setCalls goroutine (⟨key, lock, .past⟩ :: outer))
    | _ => none
  | .cancel goroutine =>
    match state.calls goroutine with
    | ⟨key, lock, .waiting⟩ :: outer =>
      some (state.setCalls goroutine (⟨key, lock, .cancelled⟩ :: outer))
    | _ => none
  | .receive goroutine =>
    match state.calls goroutine with
    | ⟨key, lock, .past⟩ :: outer =>
      if (state.locks lock).full then
        some ((state.setFull lock false).setCalls goroutine (⟨key, lock, .unlocked⟩ :: outer))
      else none
    | _ => none
  | .release goroutine =>
    match state.calls goroutine with
    | ⟨key, lock, .unlocked⟩ :: outer | ⟨key, lock, .cancelled⟩ :: outer =>
      some ((state.releaseLocalRef key lock).setCalls goroutine outer)
    | _ => none

/-- No goroutine has called `RunExclusive` yet. -/
def start : Locals Id := ⟨fun _ => none, fun _ => ⟨false, 0⟩, 0, fun _ => []⟩

end Locals

/-- The goroutines of a process. -/
def goroutines (Id : Type) [DecidableEq Id] : TransitionSystem (Locals Id) (LocalEvent Id) where
  initial state := state = Locals.start
  step := Locals.step

/-! ## Calls as slots

The stack of a goroutine matters only for who acts next.  Without it, a call of `RunExclusive` is a
slot, named by its goroutine and its depth.
-/

/-- The calls that refer to locks, by slot. -/
structure Slots (Slot : Type) where
  localLocks : String → Option Nat
  locks : Nat → LocalLock
  made : Nat
  call : Slot → Option LocalCall

namespace Slots

variable {Slot : Type} [DecidableEq Slot]

/-- Set the call of a slot, and a lock. -/
def set (slots : Slots Slot) (slot : Slot) (call : Option LocalCall) (lock : Nat)
    (value : LocalLock) : Slots Slot :=
  { slots with
    locks := Function.update slots.locks lock value
    call := Function.update slots.call slot call }

/-- What one call can do. -/
inductive Step (slots : Slots Slot) : Slots Slot → Prop where
  | join (slot : Slot) (key : String) (lock : Nat) (free : slots.call slot = none)
      (entry : slots.localLocks key = some lock) :
      Step slots (slots.set slot (some ⟨key, lock, .waiting⟩) lock
        { slots.locks lock with refs := (slots.locks lock).refs + 1 })
  | make (slot : Slot) (key : String) (free : slots.call slot = none)
      (missing : slots.localLocks key = none) :
      Step slots { slots.set slot (some ⟨key, slots.made, .waiting⟩) slots.made ⟨false, 1⟩ with
        localLocks := Function.update slots.localLocks key (some slots.made)
        made := slots.made + 1 }
  | send (slot : Slot) (key : String) (lock : Nat)
      (waits : slots.call slot = some ⟨key, lock, .waiting⟩)
      (empty : (slots.locks lock).full = false) :
      Step slots
        (slots.set slot (some ⟨key, lock, .past⟩) lock { slots.locks lock with full := true })
  | cancel (slot : Slot) (key : String) (lock : Nat)
      (waits : slots.call slot = some ⟨key, lock, .waiting⟩) :
      Step slots { slots with
        call := Function.update slots.call slot (some ⟨key, lock, .cancelled⟩) }
  | receive (slot : Slot) (key : String) (lock : Nat)
      (holds : slots.call slot = some ⟨key, lock, .past⟩) :
      Step slots
        (slots.set slot (some ⟨key, lock, .unlocked⟩) lock { slots.locks lock with full := false })
  | release (slot : Slot) (key : String) (lock : Nat) (phase : LocalPhase)
      (leaves : slots.call slot = some ⟨key, lock, phase⟩) (outside : phase ≠ .past) :
      Step slots { slots.set slot none lock
          { slots.locks lock with refs := (slots.locks lock).refs - 1 } with
        localLocks := if (slots.locks lock).refs - 1 = 0
          then Function.update slots.localLocks key none else slots.localLocks }

end Slots

namespace Locals

variable {Id : Type} {state next : Locals Id}

/-- The call of a goroutine at a depth, the outermost one being at depth zero. -/
def call (state : Locals Id) (slot : Id × Nat) : Option LocalCall :=
  (state.calls slot.1).reverse[slot.2]?

/-- The table and channels behind the locks. -/
def slots (state : Locals Id) : Slots (Id × Nat) :=
  ⟨state.localLocks, state.locks, state.made, state.call⟩

variable [DecidableEq Id]

theorem getElem?_reverse_cons (innermost : LocalCall) (outer : List LocalCall) (depth : Nat) :
    (innermost :: outer).reverse[depth]? =
      if depth = outer.length then some innermost else outer.reverse[depth]? := by
  grind

variable {outer : List LocalCall}

/-- A call begins or goes on. -/
theorem call_setCalls_cons {goroutine : Id} (innermost : LocalCall)
    (inside : ∀ depth ≠ outer.length,
      (state.calls goroutine).reverse[depth]? = outer.reverse[depth]?) :
    (state.setCalls goroutine (innermost :: outer)).call =
      Function.update state.call (goroutine, outer.length) (some innermost) := by
  funext ⟨other, depth⟩
  simp only [call, setCalls, Function.update_apply, Prod.mk.injEq]
  by_cases same : other = goroutine
  · subst same
    by_cases last : depth = outer.length
    · simp only [last, and_self, ↓reduceIte, getElem?_reverse_cons]
    · simp only [last, and_false, ↓reduceIte, getElem?_reverse_cons, inside depth last]
  · simp only [same, false_and, ↓reduceIte]

/-- The innermost call ends. -/
theorem call_setCalls_tail {goroutine : Id} {innermost : LocalCall}
    (calls : state.calls goroutine = innermost :: outer) :
    (state.setCalls goroutine outer).call =
      Function.update state.call (goroutine, outer.length) none := by
  funext ⟨other, depth⟩
  simp only [call, setCalls, Function.update_apply, Prod.mk.injEq]
  by_cases same : other = goroutine
  · subst same
    by_cases last : depth = outer.length
    · simp [last]
    · simp only [last, and_false, ↓reduceIte, calls, getElem?_reverse_cons]
  · simp only [same, false_and, ↓reduceIte]

omit [DecidableEq Id] in
theorem call_innermost {goroutine : Id} {innermost : LocalCall}
    (calls : state.calls goroutine = innermost :: outer) :
    state.call (goroutine, outer.length) = some innermost := by
  simp only [call, calls, getElem?_reverse_cons, ↓reduceIte]

/-- The innermost call changes. -/
theorem call_setCalls_change (middle : Locals Id) {goroutine : Id} {innermost later : LocalCall}
    (calls : middle.calls goroutine = innermost :: outer) :
    (middle.setCalls goroutine (later :: outer)).call =
      Function.update middle.call (goroutine, outer.length) (some later) := by
  refine call_setCalls_cons later fun depth inner => ?_
  rw [calls, getElem?_reverse_cons, if_neg inner]

theorem slots_setCalls (state : Locals Id) (goroutine : Id) (calls : List LocalCall) :
    (state.setCalls goroutine calls).slots =
      { state.slots with call := (state.setCalls goroutine calls).call } := rfl

/-- **A step is one of a slot.** -/
theorem slots_step {event : LocalEvent Id} (moves : state.step event = some next) :
    state.slots.Step next.slots := by
  cases event with
  | enter goroutine key =>
    simp only [step] at moves
    split at moves
    case isFalse => cases moves
    case isTrue =>
      cases moves
      have free : state.call (goroutine, (state.calls goroutine).length) = none := by
        simp [call]
      rw [slots_setCalls, call_setCalls_cons _ fun _ _ => ?_]
      · unfold refer
        split
        · rename_i lock entry
          exact .join _ key lock free entry
        · rename_i missing
          exact .make _ key free missing
      · unfold refer
        split <;> rfl
  | send goroutine =>
    simp only [step] at moves
    split at moves
    case h_2 => cases moves
    case h_1 key lock outer calls =>
      split at moves
      case isTrue => cases moves
      case isFalse empty =>
        cases moves
        rw [slots_setCalls, call_setCalls_change (state.setFull lock true) calls]
        exact .send _ key lock (call_innermost calls) (Bool.eq_false_iff.mpr empty)
  | cancel goroutine =>
    simp only [step] at moves
    split at moves
    case h_2 => cases moves
    case h_1 key lock outer calls =>
      cases moves
      rw [slots_setCalls, call_setCalls_change state calls]
      exact .cancel _ key lock (call_innermost calls)
  | receive goroutine =>
    simp only [step] at moves
    split at moves
    case h_2 => cases moves
    case h_1 key lock outer calls =>
      split at moves
      case isFalse => cases moves
      case isTrue =>
        cases moves
        rw [slots_setCalls, call_setCalls_change (state.setFull lock false) calls]
        exact .receive _ key lock (call_innermost calls)
  | release goroutine =>
    have leaves : ∀ {key lock phase outer}, state.calls goroutine = ⟨key, lock, phase⟩ :: outer →
        phase ≠ .past → state.slots.Step
          ((state.releaseLocalRef key lock).setCalls goroutine outer).slots := by
      intro key lock phase outer calls outside
      have ends : (state.releaseLocalRef key lock).calls goroutine = _ := calls
      rw [slots_setCalls, call_setCalls_tail ends]
      exact .release _ key lock phase (call_innermost calls) outside
    simp only [step] at moves
    split at moves
    · rename_i calls
      cases moves
      exact leaves calls (by simp)
    · rename_i calls
      cases moves
      exact leaves calls (by simp)
    · cases moves

end Locals

/-! ## Every reference is counted -/

namespace Slots

variable {Slot : Type} {slots next : Slots Slot} {calls : Slot → Option LocalCall}
  {locks : Nat → LocalLock}

/-- The slots whose calls refer to a lock. -/
def users (calls : Slot → Option LocalCall) (lock : Nat) : Set Slot :=
  {slot | ∃ call, calls slot = some call ∧ call.lock = lock}

/-- Some calls, and as many as a count says. -/
structure CountedBy (users : Set Slot) (refs : Int) : Prop where
  nonempty : users.Nonempty
  finite : users.Finite
  refs : refs = users.ncard

theorem CountedBy.singleton (slot : Slot) : CountedBy {slot} 1 :=
  ⟨Set.singleton_nonempty slot, Set.finite_singleton slot, by simp⟩

theorem CountedBy.insert {users : Set Slot} {refs : Int} (counted : CountedBy users refs)
    {slot : Slot} (new : slot ∉ users) : CountedBy (insert slot users) (refs + 1) where
  nonempty := Set.insert_nonempty _ _
  finite := counted.finite.insert slot
  refs := by
    rw [Set.ncard_insert_of_notMem new counted.finite, counted.refs]
    rfl

/-- The count gets to zero when the last call is removed. -/
theorem CountedBy.remove {users : Set Slot} {refs : Int} (counted : CountedBy users refs)
    {slot : Slot} (member : slot ∈ users) :
    (refs - 1 = 0 ∧ users \ {slot} = ∅) ∨
      (refs - 1 ≠ 0 ∧ CountedBy (users \ {slot}) (refs - 1)) := by
  have fewer : refs - 1 = (users \ {slot}).ncard := by
    have before := Set.ncard_sdiff_singleton_add_one member counted.finite
    have same := counted.refs
    omega
  have finite := counted.finite.sdiff (t := {slot})
  by_cases last : users \ {slot} = ∅
  · exact .inl ⟨by simp [fewer, last], last⟩
  · have left := Set.nonempty_iff_ne_empty.mpr last
    have some_left := (Set.ncard_pos finite).mpr left
    exact .inr ⟨by omega, left, finite, fewer⟩

/-- A call past a lock fills its slot alone. -/
structure Filled (locks : Nat → LocalLock) (calls : Slot → Option LocalCall) : Prop where
  full : ∀ slot call, calls slot = some call → call.phase = .past →
    (locks call.lock).full = true
  alone : ∀ one two call other, calls one = some call → calls two = some other →
    call.phase = .past → other.phase = .past → call.lock = other.lock → one = two

/-- Every call refers to the lock that the table has for its key, a lock counts the calls that
refer to it, and a call past a lock fills its slot alone. -/
structure Counted (slots : Slots Slot) : Prop extends Filled slots.locks slots.call where
  entry : ∀ slot call, slots.call slot = some call → slots.localLocks call.key = some call.lock
  apart : ∀ key other lock, slots.localLocks key = some lock →
    slots.localLocks other = some lock → key = other
  made : ∀ key lock, slots.localLocks key = some lock → lock < slots.made
  refs : ∀ key lock, slots.localLocks key = some lock →
    CountedBy (users slots.call lock) (slots.locks lock).refs

variable [DecidableEq Slot] {slot : Slot} {key : String} {lock : Nat} {phase later : LocalPhase}

/-- The calls that refer to a lock, after one of them has changed. -/
theorem users_update (slot : Slot) (call : Option LocalCall) (lock : Nat) :
    users (Function.update calls slot call) lock =
      {other | if other = slot then ∃ found, call = some found ∧ found.lock = lock
        else other ∈ users calls lock} := by
  ext other
  simp only [users, Set.mem_ofPred_eq, Function.update_apply]
  split <;> rfl

/-- A call gets a reference. -/
theorem users_insert (call : LocalCall) (free : calls slot = none) (lock : Nat) :
    users (Function.update calls slot (some call)) lock =
      if lock = call.lock then insert slot (users calls lock) else users calls lock := by
  rw [users_update]
  ext other
  by_cases same : other = slot
  · by_cases its : lock = call.lock <;> simp [same, its, users, free, eq_comm]
  · by_cases its : lock = call.lock <;> simp [same, its]

/-- A call gives its reference back. -/
theorem users_remove (slot : Slot) (lock : Nat) :
    users (Function.update calls slot none) lock = users calls lock \ {slot} := by
  rw [users_update]
  ext other
  by_cases same : other = slot <;> simp [same]

/-- A call keeps its reference. -/
theorem users_change (runs : calls slot = some ⟨key, lock, phase⟩) (name : Nat) :
    users (Function.update calls slot (some ⟨key, lock, later⟩)) name = users calls name := by
  rw [users_update]
  ext other
  by_cases same : other = slot <;> simp [same, users, runs]

variable {call : Option LocalCall}

/-- A call and its lock change: a call past the lock fills it, and no other one is past it. -/
theorem Filled.set (filled : Filled locks calls) {value : LocalLock}
    (own : ∀ later, call = some later → later.lock = lock)
    (fills : ∀ later, call = some later → later.phase = .past → value.full = true)
    (others : ∀ other found, other ≠ slot → calls other = some found → found.lock = lock →
      found.phase = .past → value.full = true ∧ ∀ later, call = some later →
        later.phase ≠ .past) :
    Filled (Function.update locks lock value) (Function.update calls slot call) := by
  constructor
  · intro other found there past
    have kept := filled.full other found
    grind [Function.update_apply]
  · intro one two found other first second
    have kept := filled.alone one two found other
    grind [Function.update_apply]

/-- A call that does not get past its lock leaves it as full as it is. -/
theorem Filled.keep (filled : Filled locks calls) {value : LocalLock}
    (own : ∀ later, call = some later → later.lock = lock ∧ later.phase ≠ .past)
    (same : value.full = (locks lock).full) :
    Filled (Function.update locks lock value) (Function.update calls slot call) := by
  refine filled.set (fun later is => (own later is).1)
    (fun later is past => absurd past (own later is).2) ?_
  intro other found _ there its past
  exact ⟨same ▸ its ▸ filled.full other found there past, fun later is => (own later is).2⟩

/-- Entries of the calls, after one of them has changed. -/
theorem entry_update {entries : String → Option Nat}
    (own : ∀ later, call = some later → entries later.key = some later.lock)
    (others : ∀ other found, other ≠ slot → slots.call other = some found →
      entries found.key = some found.lock) :
    ∀ other found, Function.update slots.call slot call other = some found →
      entries found.key = some found.lock := by
  intro other found there
  by_cases same : other = slot
  · subst same
    rw [Function.update_self] at there
    exact own found there
  · rw [Function.update_of_ne same] at there
    exact others other found same there

variable (counted : slots.Counted)
include counted

/-- A call changes what it does with its lock. -/
theorem Counted.change {full : Bool} (runs : slots.call slot = some ⟨key, lock, phase⟩)
    (filled : Filled (Function.update slots.locks lock { slots.locks lock with full })
      (Function.update slots.call slot (some ⟨key, lock, later⟩))) :
    Counted (slots.set slot (some ⟨key, lock, later⟩) lock { slots.locks lock with full }) where
  toFilled := filled
  entry := by
    refine entry_update ?_ fun other found _ there => counted.entry other found there
    rintro _ ⟨⟩
    exact counted.entry slot ⟨key, lock, phase⟩ runs
  apart := counted.apart
  made := counted.made
  refs := by
    intro name found entry
    have before := counted.refs name found entry
    change CountedBy (users (Function.update _ _ _) _) _
    rw [users_change runs]
    by_cases same : found = lock
    · subst same
      simpa [Slots.set] using before
    · simpa [Slots.set, same] using before

/-- A call joins those that refer to a lock. -/
theorem Counted.join (free : slots.call slot = none) (entry : slots.localLocks key = some lock) :
    Counted (slots.set slot (some ⟨key, lock, .waiting⟩) lock
      { slots.locks lock with refs := (slots.locks lock).refs + 1 }) where
  toFilled := counted.toFilled.keep (by rintro _ ⟨⟩; simp) rfl
  entry := by
    refine entry_update ?_ fun other found _ there => counted.entry other found there
    rintro _ ⟨⟩
    exact entry
  apart := counted.apart
  made := counted.made
  refs := by
    intro one name named
    have before := counted.refs one name named
    have unused : slot ∉ users slots.call name := by simp [users, free]
    change CountedBy (users (Function.update _ _ _) _) _
    rw [users_insert _ free]
    by_cases same : name = lock
    · subst same
      simpa [Slots.set] using before.insert unused
    · simpa [Slots.set, same] using before

/-- A call makes the lock of its key. -/
theorem Counted.make (free : slots.call slot = none) (missing : slots.localLocks key = none) :
    Counted { slots.set slot (some ⟨key, slots.made, .waiting⟩) slots.made ⟨false, 1⟩ with
      localLocks := Function.update slots.localLocks key (some slots.made)
      made := slots.made + 1 } := by
  have old : ∀ other call, slots.call other = some call → call.lock < slots.made :=
    fun other call found => counted.made _ _ (counted.entry other call found)
  have unused : users slots.call slots.made = ∅ := by
    refine Set.eq_empty_of_forall_notMem fun other => ?_
    rintro ⟨call, found, same⟩
    exact Nat.ne_of_lt (old other call found) same
  constructor
  case toFilled =>
    refine counted.toFilled.set (by rintro _ ⟨⟩; rfl) (by rintro _ ⟨⟩ ⟨⟩) ?_
    intro other found _ there its
    exact absurd its (Nat.ne_of_lt (old other found there))
  case entry =>
    refine entry_update ?_ fun other found _ there => ?_
    · rintro _ ⟨⟩
      exact Function.update_self ..
    · have entry := counted.entry other found there
      have different : found.key ≠ key := fun same => by simp [same, missing] at entry
      exact (Function.update_of_ne different ..).trans entry
  case apart =>
    intro one two lock
    have kept := counted.apart one two lock
    have first := counted.made one lock
    have second := counted.made two lock
    grind [Function.update_apply]
  case made =>
    intro one lock named
    have kept := counted.made one lock
    grind [Function.update_apply]
  case refs =>
    intro one lock named
    change CountedBy (users (Function.update _ _ _) _) _
    rw [users_insert _ free]
    by_cases same : one = key
    · subst same
      cases (Function.update_self ..).symm.trans named
      simpa [Slots.set, unused] using CountedBy.singleton slot
    · have earlier := (Function.update_of_ne same ..).symm.trans named
      have older := Nat.ne_of_lt (counted.made one lock earlier)
      simpa [Slots.set, older] using counted.refs one lock earlier

/-- A call gives its reference back; the last one removes the lock from the table. -/
theorem Counted.release (leaves : slots.call slot = some ⟨key, lock, phase⟩) :
    Counted { slots.set slot none lock
        { slots.locks lock with refs := (slots.locks lock).refs - 1 } with
      localLocks := if (slots.locks lock).refs - 1 = 0
        then Function.update slots.localLocks key none else slots.localLocks } := by
  have own := counted.entry slot _ leaves
  have removed := (counted.refs key lock own).remove
    (show slot ∈ users slots.call lock from ⟨_, leaves, rfl⟩)
  -- Where the entry goes, no other call refers to the lock.
  have kept : ∀ name found, (if (slots.locks lock).refs - 1 = 0
      then Function.update slots.localLocks key none else slots.localLocks) name = some found →
      slots.localLocks name = some found := by
    intro name found
    grind [Function.update_apply]
  constructor
  case toFilled => exact counted.toFilled.keep (by simp) rfl
  case entry =>
    refine entry_update (by simp) fun other call same before => ?_
    have entry := counted.entry other call before
    obtain ⟨zero, empty⟩ | ⟨some_left, -⟩ := removed
    · have different : call.key ≠ key := by
        intro equal
        rw [equal] at entry
        cases own.symm.trans entry
        exact Set.eq_empty_iff_forall_notMem.mp empty other ⟨⟨call, before, rfl⟩, same⟩
      rw [if_pos zero]
      exact (Function.update_of_ne different ..).trans entry
    · rw [if_neg some_left]
      exact entry
  case apart =>
    intro one two found first second
    exact counted.apart one two found (kept one found first) (kept two found second)
  case made =>
    intro one found named
    exact counted.made one found (kept one found named)
  case refs =>
    intro one found named
    have before := kept one found named
    change CountedBy (users (Function.update _ _ _) _) _
    rw [users_remove]
    by_cases same : found = lock
    · subst same
      cases counted.apart one key found before own
      obtain ⟨zero, -⟩ | ⟨-, left⟩ := removed
      · dsimp only at named
        rw [if_pos zero] at named
        cases (Function.update_self ..).symm.trans named
      · simpa [Slots.set] using left
    · have elsewhere : slot ∉ users slots.call found := by
        rintro ⟨call, there, its⟩
        cases leaves.symm.trans there
        exact same its.symm
      rw [Set.sdiff_singleton_eq_self elsewhere]
      simpa [Slots.set, same] using counted.refs one found before

/-- **Every step counts.** -/
theorem Counted.step (step : slots.Step next) : next.Counted := by
  cases step with
  | join slot key lock free entry => exact counted.join free entry
  | make slot key free missing => exact counted.make free missing
  | send slot key lock waits empty =>
    refine counted.change waits (counted.toFilled.set (by rintro _ ⟨⟩; rfl) (fun _ _ _ => rfl) ?_)
    intro other call _ found same past
    have full := counted.full other call found past
    rw [same, empty] at full
    cases full
  | cancel slot key lock waits =>
    have unchanged : Function.update slots.locks lock (slots.locks lock) = slots.locks :=
      Function.update_eq_self ..
    rw [← unchanged]
    exact counted.change waits (counted.toFilled.keep (by rintro _ ⟨⟩; simp) rfl)
  | receive slot key lock holds =>
    refine counted.change holds (counted.toFilled.set (by rintro _ ⟨⟩; rfl) (by simp) ?_)
    intro other call different found same past
    exact absurd (counted.alone other slot call _ found holds past rfl same) different
  | release slot key lock phase leaves outside => exact counted.release leaves

/-- A lock stays with its key. -/
theorem Counted.apart_step (step : slots.Step next) {key other : String}
    {lock : Nat} (before : slots.localLocks key = some lock)
    (after : next.localLocks other = some lock) : key = other := by
  have same := counted.apart key other lock before
  cases step with
  | make slot new free missing =>
    have older := Nat.ne_of_lt (counted.made key lock before)
    grind [Function.update_apply]
  | release slot name released phase leaves outside => grind [Function.update_apply]
  | join | send | cancel | receive => exact same after

omit counted

theorem counted_start {Id : Type} : (Locals.start : Locals Id).slots.Counted := by
  refine ⟨⟨?_, ?_⟩, ?_, ?_, ?_, ?_⟩ <;> simp [Locals.start, Locals.slots, Locals.call]

end Slots

/-! ## The locks of the goroutines -/

section Goroutines

variable {Id : Type} [DecidableEq Id] {state : Locals Id}

theorem counted_of_reachable
    (reached : (goroutines Id).Reachable TransitionSystem.unguarded state) :
    state.slots.Counted := by
  induction reached with
  | initial starts =>
    cases starts
    exact Slots.counted_start
  | step _ _ moves counted => exact counted.step (Locals.slots_step moves)

/-- The goroutine has a call of `RunExclusive` for the key that is past the local lock: it has sent
on the channel and not received yet. -/
def Locals.PastLock (state : Locals Id) (goroutine : Id) (key : String) : Prop :=
  ∃ call ∈ state.calls goroutine, call.key = key ∧ call.phase = .past

/-- The goroutine holds or waits for the lock of a key: it is in a call of `RunExclusive` for the
key that has not given its reference back. -/
def Locals.HoldsOrWaits (state : Locals Id) (goroutine : Id) (key : String) : Prop :=
  ∃ call ∈ state.calls goroutine, call.key = key

/-- The goroutine uses a lock, whatever the table has. -/
def Locals.Uses (state : Locals Id) (goroutine : Id) (lock : Nat) : Prop :=
  ∃ call ∈ state.calls goroutine, call.lock = lock

omit [DecidableEq Id] in
theorem Locals.mem_calls {goroutine : Id} {call : LocalCall} :
    call ∈ state.calls goroutine ↔ ∃ depth, state.call (goroutine, depth) = some call := by
  rw [← List.mem_reverse, List.mem_iff_getElem?]
  rfl

/-- **Local locks.** However the calls of any goroutines interleave and whichever waits are
cancelled, at most one goroutine is past the local lock of a key; the table has an entry for a key
exactly while a goroutine holds or waits for it; and a step that takes an entry out of the table or
replaces it leaves no goroutine that uses the old lock. -/
theorem localLocks_exclusive
    (reached : (goroutines Id).Reachable TransitionSystem.unguarded state) :
    (∀ one two key, state.PastLock one key → state.PastLock two key → one = two) ∧
      (∀ key, state.localLocks key ≠ none ↔ ∃ goroutine, state.HoldsOrWaits goroutine key) ∧
      ∀ event next, state.step event = some next →
        ∀ key lock, state.localLocks key = some lock → next.localLocks key ≠ some lock →
          ∀ goroutine, ¬next.Uses goroutine lock := by
  have counted := counted_of_reachable reached
  refine ⟨?_, ?_, ?_⟩
  · rintro one two key ⟨call, member, rfl, past⟩ ⟨other, also, same, alsoPast⟩
    obtain ⟨depth, found⟩ := Locals.mem_calls.mp member
    obtain ⟨level, there⟩ := Locals.mem_calls.mp also
    have lock : call.lock = other.lock := by
      have entry := counted.entry _ other there
      rw [same] at entry
      exact Option.some.inj ((counted.entry _ call found).symm.trans entry)
    exact congrArg Prod.fst (counted.alone _ _ call other found there past alsoPast lock)
  · intro key
    constructor
    · intro present
      obtain ⟨lock, entry⟩ := Option.ne_none_iff_exists'.mp present
      obtain ⟨⟨goroutine, depth⟩, call, found, rfl⟩ := (counted.refs key lock entry).nonempty
      exact ⟨goroutine, call, Locals.mem_calls.mpr ⟨depth, found⟩,
        counted.apart _ _ _ (counted.entry _ call found) entry⟩
    · rintro ⟨goroutine, call, member, rfl⟩
      obtain ⟨depth, found⟩ := Locals.mem_calls.mp member
      exact Option.ne_none_iff_exists'.mpr ⟨call.lock, counted.entry _ call found⟩
  · rintro event next moves key _ entry gone goroutine ⟨call, member, rfl⟩
    obtain ⟨depth, found⟩ := Locals.mem_calls.mp member
    have step := Locals.slots_step moves
    have current := (counted.step step).entry _ call found
    cases counted.apart_step step entry current
    exact gone current

/-- Two goroutines call `RunExclusive` for one key, and the first one gets past the lock. -/
def contendedKey : List (LocalEvent Bool) :=
  [.enter false "vip-address/192.0.2.1", .enter true "vip-address/192.0.2.1", .send false]

instance (state : Locals Id) (goroutine : Id) (key : String) :
    Decidable (state.PastLock goroutine key) :=
  inferInstanceAs (Decidable (∃ call ∈ state.calls goroutine, _))

theorem localLocks_exclusive_contended :
    ∃ state, (goroutines Bool).run Locals.start contendedKey = some state ∧
      state.PastLock false "vip-address/192.0.2.1" ∧
      ¬state.PastLock true "vip-address/192.0.2.1" ∧
      ∃ goroutine, state.HoldsOrWaits goroutine "vip-address/192.0.2.1" := by
  obtain ⟨state, runs, past, present⟩ := (goroutines Bool).exists_run_of_check Locals.start
    contendedKey (fun state => state.PastLock false "vip-address/192.0.2.1" ∧
      state.localLocks "vip-address/192.0.2.1" ≠ none) (by decide +kernel)
  have start : (goroutines Bool).initial Locals.start := rfl
  have reached := (TransitionSystem.Reachable.initial start).run
    (TransitionSystem.meets_unguarded _ _ contendedKey) runs
  obtain ⟨single, entries, -⟩ := localLocks_exclusive reached
  refine ⟨state, runs, past, fun also => ?_, (entries _).mp present⟩
  cases single _ _ _ past also

end Goroutines

end ArcaLB.Rollout
