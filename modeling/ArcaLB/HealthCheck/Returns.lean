import ArcaLB.HealthCheck.Tracking

/-!
# Backends that return

A backend that is taken out of its VIP and configured again later should prove itself anew.  The
engine forgets it when it is taken out, but its record stays in the store, and the engine restores
the backend from there.  So the backend is healthy only after enough successes since its return
where no record from before its return is restored.
-/

namespace ArcaLB.HealthCheck

open Hysteresis (Life Verdict Earned)

variable (rules : TextRules)

/-- The results that count for a backend since its VIP was last configured without it; `none` as
long as that has not happened. -/
def sinceMissing (key address : String) : History → Option (List Verdict)
  | [] => none
  | step :: past =>
    match accepted rules step with
    | some start =>
      if start.key = key ∧ address ∉ start.addresses then some []
      else sinceMissing key address past
    | none =>
      match step.2 with
      | .result result =>
        if result.vipKey = key ∧ result.backendAddr = address then
          match verdict rules result past with
          | some verdict => (sinceMissing key address past).map (verdict :: ·)
          | none => sinceMissing key address past
        else sinceMissing key address past
      | _ => sinceMissing key address past

/-- A backend that was missing is restored only from what it did since: from a record that is up
only if the backend has earned that, and that counts no other successes. -/
def restoredSince (run : Run) (event : Event) : Prop :=
  ∀ start ∈ accepted rules (run.now, event), ∀ address ∈ start.addresses,
    ∀ verdicts ∈ sinceMissing rules start.key address run.past,
      life rules start.key address run.past = none →
        (Life.mk (start.origin run.now.store address) []).Backed .up .down verdicts

instance (run : Run) (event : Event) : Decidable (restoredSince rules run event) :=
  inferInstanceAs (Decidable (∀ start ∈ accepted rules (run.now, event), _))

/-- What the engine says of a backend that was missing rests on the results since. -/
def Grounded (run : Run) : Prop :=
  ∀ key address verdicts, sinceMissing rules key address run.past = some verdicts →
    ∀ lived, life rules key address run.past = some lived → lived.Backed .up .down verdicts

variable {rules}

theorem Grounded.step {run : Run} {event : Event} (grounded : Grounded rules run)
    (since : restoredSince rules run event) (next : Checks) :
    Grounded rules ⟨next, (run.now, event) :: run.past⟩ := by
  intro key address verdicts missing lived lives
  rw [sinceMissing] at missing
  rw [life] at lives
  cases accepts : accepted rules (run.now, event) with
  | some start =>
    simp only [accepts] at missing lives
    by_cases same : start.key = key
    · subst same
      by_cases configured : address ∈ start.addresses
      · simp only [configured, not_true_eq_false, and_false, if_false, if_true] at missing lives
        cases before : life rules start.key address run.past with
        | none =>
          rw [before] at lives
          cases lives
          exact since start accepts address configured verdicts missing before
        | some earlier =>
          rw [before] at lives
          cases lives
          exact grounded _ _ _ missing _ before
      · simp [configured] at lives
    · simp only [same, false_and, if_false] at missing lives
      exact grounded _ _ _ missing _ lives
  | none =>
    simp only [accepts] at missing lives
    cases event with
    | stopVIP stopped =>
      dsimp only at lives
      split at lives
      · cases lives
      · exact grounded _ _ _ missing _ lives
    | result result =>
      dsimp only at missing lives
      by_cases here : result.vipKey = key ∧ result.backendAddr = address
      · rw [if_pos here] at missing lives
        cases counted : verdict rules result run.past with
        | none =>
          rw [counted] at missing lives
          exact grounded _ _ _ missing _ lives
        | some verdict =>
          rw [counted] at missing lives
          obtain ⟨earlier, found, rfl⟩ := Option.map_eq_some_iff.mp missing
          obtain ⟨before, stood, rfl⟩ := Option.map_eq_some_iff.mp lives
          exact (grounded _ _ _ found _ stood).push _ _ verdict (by simp)
      · rw [if_neg here] at missing lives
        exact grounded _ _ _ missing _ lives
    | startVIP | updateVIP | persist | notify | cleanup => exact grounded _ _ _ missing _ lives

theorem grounded_of_reachable {run : Run}
    (reached : (checks rules).recorded.Reachable (restoredSince rules) run) :
    Grounded rules run := by
  refine reached.invariant ?_ fun run event next grounded since moves => ?_
  · rintro ⟨now, past⟩ ⟨-, rfl⟩ key address verdicts missing
    cases missing
  · obtain ⟨after, -, rfl⟩ := Option.map_eq_some_iff.mp moves
    exact grounded.step since after

/-- **Returning backends.** In every run in which a backend that was missing is restored only from
what it did since, it is healthy only after as many successes in a row since it was configured
again as the rise count asked for. -/
theorem returned_backends_earn_health {run : Run}
    (reached : (checks rules).recorded.Reachable (restoredSince rules) run) {key address : String}
    {verdicts : List Verdict} (missing : sinceMissing rules key address run.past = some verdicts)
    (healthy : run.now.engine.isHealthy key address = true) : Earned verdicts := by
  have tracks := (conforms_of_reachable (reached.mono fun _ _ _ => trivial)).tracks
  have stands := tracks.stands key address
  unfold Engine.isHealthy at healthy
  rw [Engine.standing] at stands
  cases found : run.now.engine.backend key address with
  | none =>
    rw [found] at healthy
    cases healthy
  | some tracked =>
    rw [found] at healthy stands
    obtain ⟨lived, lives, stood⟩ := Option.map_eq_some_iff.mp stands.symm
    have state : lived.health .up .down = tracked.state :=
      congrArg Hysteresis.Standing.state stood
    apply (grounded_of_reachable reached key address verdicts missing lived lives).earned
    simpa [state] using healthy

/-- A backend is taken out and configured again before its VIP has any other result. -/
def returns (before after : List Event) : List Event :=
  [.updateVIP ⟨0, fun _ => true⟩ (watched ["10.0.0.1"])] ++ before ++
  [.updateVIP ⟨0, fun _ => true⟩ (watched ["10.0.0.2"]),
    .updateVIP ⟨0, fun _ => true⟩ (watched ["10.0.0.1"])] ++ after

/-- A backend without results before its return is healthy after two successes. -/
theorem returned_backends_earn_health_untried :
    ∃ run verdicts,
      (checks .lenient).recorded.run ⟨.start, []⟩ (returns [] (handled 3 true ++ handled 3 true)) =
        some run ∧
      sinceMissing .lenient VIPKey.web.text "10.0.0.1" run.past = some verdicts ∧
      verdicts.length = 2 ∧ Earned verdicts := by
  obtain ⟨run, runs, healthy, counted⟩ := (checks .lenient).recorded.exists_run_of_check
    ⟨.start, []⟩ (returns [] (handled 3 true ++ handled 3 true))
    (fun run => run.now.engine.isHealthy VIPKey.web.text "10.0.0.1" = true ∧
      (sinceMissing .lenient VIPKey.web.text "10.0.0.1" run.past).map List.length = some 2)
    (by decide +kernel)
  have starts : (checks .lenient).recorded.Reachable (restoredSince .lenient) ⟨.start, []⟩ :=
    .initial ⟨⟨rfl, rfl, rfl, rfl⟩, rfl⟩
  have reached := starts.run (by decide +kernel) runs
  obtain ⟨verdicts, missing, length⟩ := Option.map_eq_some_iff.mp counted
  exact ⟨run, verdicts, runs, missing, length,
    returned_backends_earn_health reached missing healthy⟩

/-- **Health from before.** A backend that was healthy is taken out and configured again: it is
healthy at once, although not one result has arrived since. -/
theorem returned_backend_healthy_at_once :
    ∃ run, (checks .lenient).recorded.Reachable TransitionSystem.unguarded run ∧
      sinceMissing .lenient VIPKey.web.text "10.0.0.1" run.past = some [] ∧
      run.now.engine.isHealthy VIPKey.web.text "10.0.0.1" = true := by
  obtain ⟨run, runs, missing, healthy⟩ := (checks .lenient).recorded.exists_run_of_check
    ⟨.start, []⟩ (returns (handled 1 true ++ handled 1 true) [])
    (fun run => sinceMissing .lenient VIPKey.web.text "10.0.0.1" run.past = some [] ∧
      run.now.engine.isHealthy VIPKey.web.text "10.0.0.1" = true) (by decide +kernel)
  exact ⟨run, (checks_start .lenient).run (TransitionSystem.meets_unguarded _ _ _) runs, missing,
    healthy⟩

end ArcaLB.HealthCheck
