import Mathlib.Logic.Relation
import ArcaLB.Library.Routine
import ArcaLB.Library.Transition

/-!
# Sessions over a shared state

Any number of sessions make calls; a call runs as a routine whose sections and requests are
atomic on a state that all sessions share, and anything may happen between two of them.  A
call may also be abandoned where it stands.

`Sound` is the rely-guarantee reading of a routine: it changes the shared state only by
requests that it may make, and relies on nothing but such requests of others while it waits.
What it sees in its sections may be restricted, depending on what it has seen before.  Where
every call is sound, the shared state evolves by such requests in every interleaving.
-/

/-- How requests are carried out, and which of them a routine may make. -/
structure Evolution (σ Request Response : Type) where
  perform : Request → σ → Response × σ
  moves : σ → Request → Prop

namespace Evolution

variable {σ Request Response : Type} {evolution : Evolution σ Request Response}
  {first second third : σ}

/-- The shared state changes by a request that a routine may make. -/
def Step (evolution : Evolution σ Request Response) (before after : σ) : Prop :=
  ∃ query, evolution.moves before query ∧ after = (evolution.perform query before).2

/-- The shared state changes by any number of such requests. -/
def evolves (evolution : Evolution σ Request Response) : σ → σ → Prop :=
  Relation.ReflTransGen evolution.Step

theorem evolves.trans (one : evolution.evolves first second)
    (two : evolution.evolves second third) : evolution.evolves first third :=
  Relation.ReflTransGen.trans one two

theorem refl (evolution : Evolution σ Request Response) (state : σ) :
    evolution.evolves state state :=
  .refl

/-- What every step keeps is kept. -/
theorem evolves.keeps (evolved : evolution.evolves first second) (holds : σ → Prop)
    (initially : holds first)
    (kept : ∀ before after, holds before → evolution.Step before after → holds after) :
    holds second := by
  induction evolved with
  | refl => exact initially
  | tail _ step ih => exact kept _ _ ih step

end Evolution

namespace Routine

variable {σ Request Response α β : Type} {evolution : Evolution σ Request Response}
  {sees : List σ → σ → Prop} {seen : List σ} {state : σ}

/-- Started in `state`, the routine reads the shared state in its sections and changes it only
by requests that it may make, as long as everyone else does and every section sees what it
may see; it returns with `post`, if at all.  `seen` lists the states that its sections and
requests were done on, the latest first. -/
def Sound (evolution : Evolution σ Request Response) (sees : List σ → σ → Prop)
    (post : α → List σ → σ → Prop) : Routine σ Request Response α → List σ → σ → Prop
  | .done value, seen, state => post value seen state
  | .crashed, _, _ => False
  | .locked change rest, seen, state =>
    sees seen state → change state = state ∧ ∀ later, evolution.evolves state later →
      (rest state).Sound evolution sees post (state :: seen) later
  | .request query rest, seen, state =>
    evolution.moves state query ∧
      ∀ later, evolution.evolves (evolution.perform query state).2 later →
        (rest (evolution.perform query state).1).Sound evolution sees post (state :: seen) later

namespace Sound

variable {routine : Routine σ Request Response α}

/-- **Sequence.** -/
theorem bind {mid : α → List σ → σ → Prop} {post : β → List σ → σ → Prop}
    {next : α → Routine σ Request Response β} (first : routine.Sound evolution sees mid seen state)
    (second : ∀ value seen state, mid value seen state →
      (next value).Sound evolution sees post seen state) :
    (routine >>= next).Sound evolution sees post seen state := by
  induction routine generalizing seen state with
  | done value => exact second value seen state first
  | crashed => cases first
  | locked change rest ih =>
    exact fun may => ⟨(first may).1, fun later evolved => ih state ((first may).2 later evolved)⟩
  | request query rest ih => exact ⟨first.1, fun later evolved => ih _ (first.2 later evolved)⟩

/-- What follows from the postcondition holds as well. -/
theorem mono {post weaker : α → List σ → σ → Prop}
    (sound : routine.Sound evolution sees post seen state)
    (implies : ∀ value seen state, post value seen state → weaker value seen state) :
    routine.Sound evolution sees weaker seen state := by
  induction routine generalizing seen state with
  | done value => exact implies value seen state sound
  | crashed => cases sound
  | locked change rest ih =>
    exact fun may => ⟨(sound may).1, fun later evolved => ih state ((sound may).2 later evolved)⟩
  | request query rest ih => exact ⟨sound.1, fun later evolved => ih _ (sound.2 later evolved)⟩

/-- Where a sound routine returns, it has seen more, and the state has evolved. -/
theorem evolved {post : α → List σ → σ → Prop}
    (sound : routine.Sound evolution sees post seen state) :
    routine.Sound evolution sees
      (fun value after later =>
        seen <:+ after ∧ evolution.evolves state later ∧ post value after later) seen state := by
  induction routine generalizing seen state with
  | done value => exact ⟨List.suffix_rfl, evolution.refl state, sound⟩
  | crashed => cases sound
  | locked change rest ih =>
    intro may
    obtain ⟨reads, rest⟩ := sound may
    refine ⟨reads, fun later rely => (ih state (rest later rely)).mono ?_⟩
    exact fun _ _ _ ⟨more, evolved, ended⟩ =>
      ⟨(List.suffix_cons ..).trans more, rely.trans evolved, ended⟩
  | request query rest ih =>
    obtain ⟨own, rest⟩ := sound
    refine ⟨own, fun later rely => (ih _ (rest later rely)).mono ?_⟩
    exact fun _ _ _ ⟨more, evolved, ended⟩ => ⟨(List.suffix_cons ..).trans more,
      .head ⟨query, own, rfl⟩ (rely.trans evolved), ended⟩

end Sound

end Routine

/-- A session: what it remembers between its calls, or the call it makes, with what it
remembered before and the states that the sections and requests of the call were done on, the
latest first. -/
inductive Session (σ Request Response Call Memory : Type) where
  | idle (memory : Memory)
  | busy (call : Call) (memory : Memory) (seen : List σ)
      (routine : Routine σ Request Response Memory)
  | gone

/-- Sessions over a shared state. -/
structure Sessions (σ Request Response Call Memory : Type) where
  state : σ
  session : Nat → Session σ Request Response Call Memory

namespace Sessions

variable {σ Request Response Call Memory : Type}

/-- What a session may do next. -/
inductive Event (Call : Type) where
  | call (index : Nat) (call : Call)
  | step (index : Nat)
  | abandon (index : Nat)

/-- The session that moves. -/
def Event.index : Event Call → Nat
  | .call index _ | .step index | .abandon index => index

/-- The session that goes on with a routine; a call that has returned is over. -/
def resume (call : Call) (memory : Memory) (seen : List σ) :
    Routine σ Request Response Memory → Session σ Request Response Call Memory
  | .done memory => .idle memory
  | .crashed => .gone
  | routine => .busy call memory seen routine

/-- Another shared state and another session. -/
def set (sessions : Sessions σ Request Response Call Memory) (index : Nat) (state : σ)
    (session : Session σ Request Response Call Memory) :
    Sessions σ Request Response Call Memory where
  state := state
  session := Function.update sessions.session index session

variable (perform : Request → σ → Response × σ)
  (program : Call → Memory → Routine σ Request Response Memory)

/-- One event: a call starts, does its next section or request, or is abandoned. -/
def next (sessions : Sessions σ Request Response Call Memory) :
    Event Call → Option (Sessions σ Request Response Call Memory)
  | .call index call =>
    match sessions.session index with
    | .idle memory =>
      some (sessions.set index sessions.state (resume call memory [] (program call memory)))
    | _ => none
  | .step index =>
    match sessions.session index with
    | .busy call memory seen (.locked change rest) =>
      some (sessions.set index (change sessions.state)
        (resume call memory (sessions.state :: seen) (rest sessions.state)))
    | .busy call memory seen (.request query rest) =>
      some (sessions.set index (perform query sessions.state).2
        (resume call memory (sessions.state :: seen) (rest (perform query sessions.state).1)))
    | _ => none
  | .abandon index =>
    match sessions.session index with
    | .busy .. => some (sessions.set index sessions.state .gone)
    | _ => none

/-- The system of all sessions, started in `state` with nothing to remember but `memory`. -/
def system (state : σ) (memory : Memory) :
    TransitionSystem (Sessions σ Request Response Call Memory) (Event Call) where
  initial := fun sessions => sessions = ⟨state, fun _ => .idle memory⟩
  step := next perform program

/-- An event is of one session. -/
theorem session_next {sessions after : Sessions σ Request Response Call Memory}
    {event : Event Call} (moves : sessions.next perform program event = some after)
    {other : Nat} (different : other ≠ event.index) :
    after.session other = sessions.session other := by
  cases event with
  | call index _ | step index | abandon index =>
    simp only [next] at moves
    split at moves <;> cases moves <;> exact Function.update_of_ne different ..

/-- The request that an event carries out. -/
def pending (sessions : Sessions σ Request Response Call Memory) : Event Call → Option Request
  | .step index =>
    match sessions.session index with
    | .busy _ _ _ (.request query _) => some query
    | _ => none
  | _ => none

/-- The call that an event starts, with what the session remembers. -/
def starting (sessions : Sessions σ Request Response Call Memory) :
    Event Call → Option (Call × Memory)
  | .call index call =>
    match sessions.session index with
    | .idle memory => some (call, memory)
    | _ => none
  | _ => none

/-- Every call that is made is allowed. -/
def CallsAllowed (callable : Call → Memory → Prop)
    (sessions : Sessions σ Request Response Call Memory) (event : Event Call) : Prop :=
  ∀ start ∈ sessions.starting event, callable start.1 start.2

instance {callable : Call → Memory → Prop} [∀ call memory, Decidable (callable call memory)]
    (sessions : Sessions σ Request Response Call Memory) (event : Event Call) :
    Decidable (CallsAllowed callable sessions event) :=
  inferInstanceAs (Decidable (∀ start ∈ sessions.starting event, callable start.1 start.2))

theorem callsAllowed_of_forall {callable : Call → Memory → Prop}
    (always : ∀ call memory, callable call memory)
    (sessions : Sessions σ Request Response Call Memory) (event : Event Call) :
    CallsAllowed callable sessions event :=
  fun _ _ => always _ _

/-- The call whose section an event does, with what the session remembered when it made it and
the states that the call has seen. -/
def reading (sessions : Sessions σ Request Response Call Memory) :
    Event Call → Option (Call × Memory × List σ)
  | .step index =>
    match sessions.session index with
    | .busy call memory seen (.locked _ _) => some (call, memory, seen)
    | _ => none
  | _ => none

/-- Every section sees what its call may see. -/
def ReadsAllowed (sees : Call → Memory → List σ → σ → Prop)
    (sessions : Sessions σ Request Response Call Memory) (event : Event Call) : Prop :=
  ∀ read ∈ sessions.reading event, sees read.1 read.2.1 read.2.2 sessions.state

instance {sees : Call → Memory → List σ → σ → Prop}
    [∀ call memory seen state, Decidable (sees call memory seen state)]
    (sessions : Sessions σ Request Response Call Memory) (event : Event Call) :
    Decidable (ReadsAllowed sees sessions event) :=
  inferInstanceAs (Decidable (∀ read ∈ sessions.reading event,
    sees read.1 read.2.1 read.2.2 sessions.state))

/-- A call with its first steps, one after another. -/
def callThrough (index : Nat) (call : Call) (steps : Nat) : List (Event Call) :=
  .call index call :: List.replicate steps (.step index)

section Soundness

variable {evolution : Evolution σ Request Response}
  {program : Call → Memory → Routine σ Request Response Memory}
  {callable : Call → Memory → Prop} {sees : Call → Memory → List σ → σ → Prop}
  {invariant : σ → Prop} {fits : Memory → σ → Prop}
  {sessions after : Sessions σ Request Response Call Memory} {event : Event Call}

/-- A session whose memory fits, or whose call is sound, however the state evolves. -/
def Session.Sound (evolution : Evolution σ Request Response)
    (sees : Call → Memory → List σ → σ → Prop) (fits : Memory → σ → Prop) (state : σ) :
    Session σ Request Response Call Memory → Prop
  | .idle memory => ∀ later, evolution.evolves state later → fits memory later
  | .busy call memory seen routine => ∀ later, evolution.evolves state later →
    routine.Sound evolution (sees call memory) (fun memory _ => fits memory) seen later
  | .gone => True

variable {session : Session σ Request Response Call Memory}

theorem Session.Sound.evolve {state later : σ}
    (sound : Session.Sound evolution sees fits state session)
    (evolved : evolution.evolves state later) :
    Session.Sound evolution sees fits later session := by
  cases session with
  | idle memory | busy call memory seen routine =>
    exact fun last evolves => sound last (evolved.trans evolves)
  | gone => trivial

theorem Session.sound_resume {call : Call} {memory : Memory} {seen : List σ}
    {routine : Routine σ Request Response Memory} {state : σ}
    (sound : ∀ later, evolution.evolves state later →
      routine.Sound evolution (sees call memory) (fun memory _ => fits memory) seen later) :
    Session.Sound evolution sees fits state (resume call memory seen routine) := by
  cases routine with
  | crashed => trivial
  | done memory | locked change rest | request query rest => exact sound

/-- The shared state keeps its invariant and every session is sound. -/
structure Secure (evolution : Evolution σ Request Response)
    (sees : Call → Memory → List σ → σ → Prop) (invariant : σ → Prop)
    (fits : Memory → σ → Prop) (sessions : Sessions σ Request Response Call Memory) : Prop where
  invariant : invariant sessions.state
  sound : ∀ index, Session.Sound evolution sees fits sessions.state (sessions.session index)

/-- What the calls of a program have to satisfy. -/
structure Obligations (evolution : Evolution σ Request Response)
    (program : Call → Memory → Routine σ Request Response Memory)
    (callable : Call → Memory → Prop) (sees : Call → Memory → List σ → σ → Prop)
    (invariant : σ → Prop) (fits : Memory → σ → Prop) : Prop where
  kept : ∀ state later, invariant state → evolution.evolves state later → invariant later
  sound : ∀ call memory state, callable call memory → invariant state → fits memory state →
    (program call memory).Sound evolution (sees call memory) (fun memory _ => fits memory) []
      state

/-- An event makes only allowed calls, and its section sees what it may see. -/
def Admits (callable : Call → Memory → Prop) (sees : Call → Memory → List σ → σ → Prop)
    (sessions : Sessions σ Request Response Call Memory) (event : Event Call) : Prop :=
  CallsAllowed callable sessions event ∧ ReadsAllowed sees sessions event

variable (obligations : Obligations evolution program callable sees invariant fits)
include obligations

theorem Secure.set (secure : sessions.Secure evolution sees invariant fits) {state : σ}
    (evolved : evolution.evolves sessions.state state) (index : Nat)
    (sound : Session.Sound evolution sees fits state session) :
    (sessions.set index state session).Secure evolution sees invariant fits := by
  refine ⟨obligations.kept _ _ secure.invariant evolved, fun other => ?_⟩
  change Session.Sound evolution sees fits state
    (Function.update sessions.session index session other)
  by_cases same : other = index
  · rw [same, Function.update_self]
    exact sound
  · rw [Function.update_of_ne same]
    exact (secure.sound other).evolve evolved

/-- **One event.** Sound sessions stay sound, and the shared state stays as it is or changes by
one request that may be made. -/
theorem Secure.next (secure : sessions.Secure evolution sees invariant fits)
    (admits : Admits callable sees sessions event)
    (moves : sessions.next evolution.perform program event = some after) :
    after.Secure evolution sees invariant fits ∧
      (after.state = sessions.state ∨ ∃ query ∈ sessions.pending event,
        evolution.moves sessions.state query ∧
          after.state = (evolution.perform query sessions.state).2) := by
  cases event with
  | call index call =>
    simp only [Sessions.next] at moves
    split at moves
    next memory idle =>
      obtain rfl := Option.some.inj moves
      refine ⟨secure.set obligations (evolution.refl _) index ?_, .inl rfl⟩
      have fit := secure.sound index
      rw [idle] at fit
      have starts : sessions.starting (.call index call) = some (call, memory) := by
        simp only [starting, idle]
      exact Session.sound_resume fun later evolved => obligations.sound call memory later
        (admits.1 _ starts) (obligations.kept _ _ secure.invariant evolved)
        (fit later evolved)
    next => cases moves
  | step index =>
    have sound := secure.sound index
    simp only [Sessions.next] at moves
    split at moves
    next call memory seen change rest busy =>
      obtain rfl := Option.some.inj moves
      rw [busy] at sound
      have reads : sessions.reading (.step index) = some (call, memory, seen) := by
        simp only [reading, busy]
      obtain ⟨same, rest⟩ := sound _ (evolution.refl _) (admits.2 _ reads)
      rw [same]
      exact ⟨secure.set obligations (evolution.refl _) index (Session.sound_resume rest), .inl rfl⟩
    next call memory seen query rest busy =>
      obtain rfl := Option.some.inj moves
      rw [busy] at sound
      obtain ⟨own, rest⟩ := sound _ (evolution.refl _)
      have asks : sessions.pending (.step index) = some query := by simp only [pending, busy]
      exact ⟨secure.set obligations (.single ⟨query, own, rfl⟩) index (Session.sound_resume rest),
        .inr ⟨query, asks, own, rfl⟩⟩
    next => cases moves
  | abandon index =>
    simp only [Sessions.next] at moves
    split at moves
    next =>
      obtain rfl := Option.some.inj moves
      exact ⟨secure.set obligations (evolution.refl _) index trivial, .inl rfl⟩
    next => cases moves

/-- The shared state evolves with an event. -/
theorem Secure.evolves_next (secure : sessions.Secure evolution sees invariant fits)
    (admits : Admits callable sees sessions event)
    (moves : sessions.next evolution.perform program event = some after) :
    evolution.evolves sessions.state after.state := by
  obtain same | ⟨query, -, step⟩ := (secure.next obligations admits moves).2
  · exact same ▸ evolution.refl _
  · exact .single ⟨query, step⟩

variable {guard : Sessions σ Request Response Call Memory → Event Call → Prop}

/-- **All interleavings.** -/
theorem secure_of_reachable {state : σ} {memory : Memory} (initially : invariant state)
    (fit : ∀ later, evolution.evolves state later → fits memory later)
    (allows : ∀ sessions event, guard sessions event → Admits callable sees sessions event)
    (reached : (system evolution.perform program state memory).Reachable guard sessions) :
    sessions.Secure evolution sees invariant fits := by
  refine reached.invariant ?_ ?_
  · rintro _ rfl
    exact ⟨initially, fun _ => fit⟩
  · intro before event after secure meets moves
    exact (secure.next obligations (allows before event meets) moves).1

end Soundness

end Sessions
