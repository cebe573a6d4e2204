import ArcaLB.Library.Sessions

/-!
# Calls that others leave alone

A call may depend on the shared state staying as it is between some of its steps.  `Steady`
reads a routine under such a condition: it says what holds at the very moment the routine
returns, as long as others change the state only as the routine tolerates where it stands.
If every session is left alone in this sense, what the sessions remember stays good.
-/

namespace Routine

variable {σ Request Response α β : Type} {perform : Request → σ → Response × σ}
  {tolerates : Nat → σ → σ → Prop} {post : β → Nat → σ → Prop} {taken : Nat} {state later : σ}

/-- After `taken` steps, in `state`: the routine returns with `post` if others make only
changes that it tolerates where it stands.  `post` is told the number of steps. -/
def Steady (perform : Request → σ → Response × σ) (tolerates : Nat → σ → σ → Prop)
    (post : α → Nat → σ → Prop) : Routine σ Request Response α → Nat → σ → Prop
  | .done value, taken, state => post value taken state
  | .crashed, _, _ => True
  | .locked change rest, taken, state =>
    ∀ later, Relation.ReflTransGen (tolerates taken) state later →
      (rest later).Steady perform tolerates post (taken + 1) (change later)
  | .request query rest, taken, state =>
    ∀ later, Relation.ReflTransGen (tolerates taken) state later →
      (rest (perform query later).1).Steady perform tolerates post (taken + 1)
        (perform query later).2

namespace Steady

variable {routine : Routine σ Request Response α}

/-- **Sequence.** -/
theorem bind {mid : α → Nat → σ → Prop} {next : α → Routine σ Request Response β}
    (first : routine.Steady perform tolerates mid taken state)
    (second : ∀ value taken state, mid value taken state →
      (next value).Steady perform tolerates post taken state) :
    (routine >>= next).Steady perform tolerates post taken state := by
  induction routine generalizing taken state with
  | done value => exact second value taken state first
  | crashed => trivial
  | locked change rest ih => exact fun later tolerated => ih later (first later tolerated)
  | request query rest ih => exact fun later tolerated => ih _ (first later tolerated)

/-- What a routine returns that ends with a computation on its value. -/
theorem of_pure {finish : α → β} (holds : ∀ value taken state, post (finish value) taken state) :
    (routine >>= fun value => pure (finish value)).Steady perform tolerates post taken state := by
  induction routine generalizing taken state with
  | done value => exact holds value taken state
  | crashed => trivial
  | locked change rest ih => exact fun later _ => ih later
  | request query rest ih => exact fun later _ => ih _

end Steady

end Routine

namespace Sessions

variable {σ Request Response Call Memory : Type} {perform : Request → σ → Response × σ}
  {program : Call → Memory → Routine σ Request Response Memory}
  {tolerates : Call → Nat → σ → σ → Prop} {good still : Memory → σ → Prop}
  {post : Memory → Memory → σ → Prop}
  {sessions after : Sessions σ Request Response Call Memory} {event : Event Call}

/-- A session that remembers something good, or whose call will, if it is left alone. -/
def Session.Steady (perform : Request → σ → Response × σ) (tolerates : Call → Nat → σ → σ → Prop)
    (good : Memory → σ → Prop) (post : Memory → Memory → σ → Prop) (state : σ) :
    Session σ Request Response Call Memory → Prop
  | .idle memory => good memory state
  | .busy call old seen routine =>
    good old state ∧
      routine.Steady perform (tolerates call) (fun new _ => post old new) seen.length state
  | .gone => True

theorem Session.steady_resume {call : Call} {seen : List σ} {old : Memory} {state : σ}
    {routine : Routine σ Request Response Memory} (remembers : good old state)
    (returns : ∀ new, post old new state → good new state)
    (steady : routine.Steady perform (tolerates call) (fun new _ => post old new) seen.length
      state) :
    Session.Steady perform tolerates good post state (resume call old seen routine) := by
  cases routine with
  | done memory => exact returns memory steady
  | crashed => trivial
  | locked change rest | request query rest => exact ⟨remembers, steady⟩

variable {session : Session σ Request Response Call Memory}

/-- A session that is left alone stays steady. -/
theorem Session.Steady.evolve {state later : σ}
    (steady : Session.Steady perform tolerates good post state session)
    (stable : ∀ memory, good memory state → still memory later)
    (tolerated : ∀ call old seen routine, session = .busy call old seen routine →
      tolerates call seen.length state later)
    (unfinished : ∀ call old seen memory, session ≠ .busy call old seen (.done memory)) :
    Session.Steady perform tolerates still post later session := by
  cases session with
  | idle memory => exact stable memory steady
  | gone => trivial
  | busy call old seen routine =>
    obtain ⟨remembers, steady⟩ := steady
    refine ⟨stable old remembers, ?_⟩
    have accepts := tolerated call old seen routine rfl
    cases routine with
    | done memory => exact absurd rfl (unfinished call old seen memory)
    | crashed => trivial
    | locked change rest | request query rest =>
      exact fun last further => steady last (.head accepts further)

/-- Every session is steady, and a call that has returned is over. -/
structure Steadied (perform : Request → σ → Response × σ)
    (tolerates : Call → Nat → σ → σ → Prop) (good : Memory → σ → Prop)
    (post : Memory → Memory → σ → Prop) (sessions : Sessions σ Request Response Call Memory) :
    Prop where
  steady : ∀ index, Session.Steady perform tolerates good post sessions.state
    (sessions.session index)
  unfinished : ∀ index call old seen memory,
    sessions.session index ≠ .busy call old seen (.done memory)

theorem resume_ne_done {call other : Call} {old older memory : Memory} {seen more : List σ}
    (routine : Routine σ Request Response Memory) :
    resume call old seen routine ≠ .busy other older more (.done memory) := by
  cases routine <;> exact fun same => nomatch same

theorem Steadied.set {index : Nat} {state : σ}
    (steadied : sessions.Steadied perform tolerates good post)
    (stable : ∀ memory, good memory sessions.state → still memory state)
    (tolerated : ∀ other call old seen routine, other ≠ index →
      sessions.session other = .busy call old seen routine →
        tolerates call seen.length sessions.state state)
    (steady : Session.Steady perform tolerates still post state session)
    (unfinished : ∀ call old seen memory, session ≠ .busy call old seen (.done memory)) :
    (sessions.set index state session).Steadied perform tolerates still post := by
  constructor
  · intro other
    change Session.Steady perform tolerates still post state
      (Function.update sessions.session index session other)
    by_cases same : other = index
    · rw [same, Function.update_self]
      exact steady
    · rw [Function.update_of_ne same]
      exact (steadied.steady other).evolve stable
        (fun call old seen routine => tolerated other call old seen routine same)
        (steadied.unfinished other)
  · intro other
    change ∀ call old seen memory, Function.update sessions.session index session other ≠ _
    by_cases same : other = index
    · rw [same, Function.update_self]
      exact unfinished
    · rw [Function.update_of_ne same]
      exact steadied.unfinished other

/-- **One event.** If the other sessions tolerate what an event does to the state, all sessions
stay steady; what is good may be another thing afterwards. -/
theorem Steadied.next (steadied : sessions.Steadied perform tolerates good post)
    (moves : sessions.next perform program event = some after)
    (stable : ∀ memory, good memory sessions.state → still memory after.state)
    (tolerated : ∀ other call old seen routine, other ≠ event.index →
      sessions.session other = .busy call old seen routine →
        tolerates call seen.length sessions.state after.state)
    (starts : ∀ call memory, good memory sessions.state →
      (program call memory).Steady perform (tolerates call) (fun new _ => post memory new) 0
        sessions.state) (returns : ∀ old new, still old after.state → post old new after.state →
      still new after.state) : after.Steadied perform tolerates still post := by
  cases event with
  | call index call =>
    simp only [Sessions.next] at moves
    split at moves
    next memory idle =>
      obtain rfl := Option.some.inj moves
      have remembers := steadied.steady index
      rw [idle] at remembers
      exact steadied.set stable tolerated
        (Session.steady_resume (stable memory remembers)
          (fun new => returns memory new (stable memory remembers))
          (starts call memory remembers)) fun _ _ _ _ => resume_ne_done _
    next => cases moves
  | step index =>
    simp only [Sessions.next] at moves
    split at moves
    case h_1 call old seen change rest busy | h_2 call old seen query rest busy =>
      obtain rfl := Option.some.inj moves
      have steady := steadied.steady index
      rw [busy] at steady
      obtain ⟨remembers, steady⟩ := steady
      exact steadied.set stable tolerated
        (Session.steady_resume (stable old remembers)
          (fun new => returns old new (stable old remembers)) (steady _ .refl))
        fun _ _ _ _ => resume_ne_done _
    next => cases moves
  | abandon index =>
    simp only [Sessions.next] at moves
    split at moves
    next =>
      obtain rfl := Option.some.inj moves
      exact steadied.set stable tolerated trivial (by simp)
    next => cases moves

end Sessions
