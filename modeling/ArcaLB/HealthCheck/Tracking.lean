import ArcaLB.Library.Hysteresis
import ArcaLB.Library.Maps
import ArcaLB.HealthCheck.Goroutines

/-!
# The engine follows the histories of its backends

What the engine should say of a backend is read off the run: which VIP was configured last
and under which epoch, which results count, and which streaks they make.  The engine keeps
counters and copies them from one configuration to the next; in every run, whatever arrives
late or is rejected, its counters are the streaks, and its callbacks the changes of state.
-/

namespace ArcaLB.HealthCheck

open Agent (Store BackendHealthRecord)
open Hysteresis (Standing Life Verdict)

/-! ## The reference -/

/-- The steps of a run, the latest first. -/
abbrev History := List (Checks × Event)

variable (rules : TextRules)

/-- A configuration that the engine accepts. -/
structure Start where
  env : StartEnv
  vip : VirtualIP
  spec : HealthCheckSpec

namespace Start

/-- The key of the VIP it starts. -/
def key (start : Start) : String := start.vip.key.text

/-- The backends it tracks. -/
def addresses (start : Start) : List String := start.vip.spec.backends.map BackendSpec.address

/-- How a backend starts that was not tracked: as its record says, else unknown. -/
def origin (start : Start) (store : Store) (address : String) : Standing BackendState :=
  match restored start.env store start.key address with
  | some record => ⟨.ofText record.state, record.consecutiveUp, record.consecutiveDown⟩
  | none => ⟨.unknown, 0, 0⟩

end Start

/-- A call is accepted by a started engine if its health check, where there is one, passes the
checks for a running one. -/
def acceptedCall (checks : Checks) (env : StartEnv) (vip : VirtualIP) : Option Start :=
  match vip.spec.healthCheck with
  | none => none
  | some spec =>
    if checks.engine.started = true ∧
        Validation.validateHealthCheckRuntimeSpec rules (some spec) = .ok () then
      some ⟨env, vip, spec⟩
    else none

/-- The configuration that a step of the run puts in force. -/
def accepted (step : Checks × Event) : Option Start :=
  match step.2 with
  | .startVIP env vip | .updateVIP env vip => acceptedCall rules step.1 env vip
  | _ => none

/-- The number of configurations accepted so far. -/
def epochs : History → UInt64
  | [] => 0
  | step :: past => if (accepted rules step).isSome then epochs past + 1 else epochs past

/-- The configuration in force for a key, with its epoch; none if the VIP is not running. -/
def running (key : String) : History → Option (UInt64 × Start)
  | [] => none
  | step :: past =>
    match accepted rules step with
    | some start =>
      if start.key = key then some (epochs rules past + 1, start) else running key past
    | none =>
      match step.2 with
      | .stopVIP stopped => if stopped = key then none else running key past
      | _ => running key past

/-- What a result says of a backend: nothing, unless it carries the current epoch of a running
VIP in which the backend is configured. -/
def verdict (result : ProbeResult) (past : History) : Option Verdict :=
  match running rules result.vipKey past with
  | none => none
  | some (epoch, start) =>
    if epoch = result.epoch ∧ result.backendAddr ∈ start.addresses then
      some ⟨result.success, start.spec.riseCount, start.spec.fallCount⟩
    else none

/-- The life of a backend of a running VIP: it goes on while its address stays configured, and
the results that count make its history. -/
def life (key address : String) : History → Option (Life BackendState)
  | [] => none
  | step :: past =>
    match accepted rules step with
    | some start =>
      if start.key = key then
        if address ∈ start.addresses then
          some ((life key address past).getD ⟨start.origin step.1.store address, []⟩)
        else none
      else life key address past
    | none =>
      match step.2 with
      | .stopVIP stopped => if stopped = key then none else life key address past
      | .result result =>
        if result.vipKey = key ∧ result.backendAddr = address then
          match verdict rules result past with
          | some verdict => (life key address past).map (·.push verdict)
          | none => life key address past
        else life key address past
      | _ => life key address past

/-- The standing of a backend by its life. -/
def standing (key address : String) (past : History) : Option (Standing BackendState) :=
  (life rules key address past).map (Life.standing .up .down)

/-- The changes of state that the results of a run have made, the latest first. -/
def changes : History → List StateChange
  | [] => []
  | step :: past =>
    match step.2 with
    | .result result =>
      let key := result.vipKey
      let address := result.backendAddr
      match standing rules key address past, standing rules key address (step :: past) with
      | some old, some new =>
        if old.state ≠ new.state then ⟨key, address, old.state, new.state⟩ :: changes past
        else changes past
      | _, _ => changes past
    | _ => changes past

/-! ## The engine -/

section Engine

variable {rules : TextRules} {checks : Checks}

/-- The tracked state as a standing of the hysteresis. -/
def BackendHealthState.standing (backend : BackendHealthState) : Standing BackendState :=
  ⟨backend.state, backend.consecutiveUp, backend.consecutiveDown⟩

/-- The standing of a tracked backend. -/
def Engine.standing (engine : Engine) (key address : String) : Option (Standing BackendState) :=
  (engine.backend key address).map BackendHealthState.standing

/-- The probe settings of a valid health check make a prober. -/
theorem exists_prober {spec : HealthCheckSpec}
    (valid : Validation.validateHealthCheckRuntimeSpec rules (some spec) = .ok ()) :
    ∃ prober, newProberFromSpec spec = .ok prober := by
  obtain ⟨_, valid, -⟩ := Except.exists_of_bind_eq_ok valid
  obtain ⟨_, valid, -⟩ := Except.exists_of_bind_eq_ok valid
  cases kind : spec.type with
  | http | https =>
    cases settings : spec.http with
    | none => simp [Validation.validateProbe, kind, settings] at valid
    | some http => simp [newProberFromSpec, kind, settings]
  | tcp | tlsHello =>
    cases settings : spec.tcp with
    | none => simp [Validation.validateProbe, kind, settings] at valid
    | some tcp => simp [newProberFromSpec, kind, settings]
  | ping => simp [newProberFromSpec, kind]
  | other text => simp [Validation.validateProbe, kind] at valid

/-- What a call makes of a configuration: it is not accepted and changes nothing, or it replaces
what is tracked of the VIP. -/
theorem configureVIP_cases (env : StartEnv) (vip : VirtualIP) :
    (acceptedCall rules checks env vip = none ∧ (configureVIP rules env vip checks).2 = checks) ∨
      ∃ start prober, acceptedCall rules checks env vip = some start ∧
        configureVIP rules env vip checks =
          (.ok (), checks.replaceVIP (checks.newState start.env start.key start.spec prober
            start.vip.spec.backends)) := by
  cases found : vip.spec.healthCheck with
  | none =>
    refine .inl ⟨by simp [acceptedCall, found], ?_⟩
    unfold configureVIP
    rw [found]
    rfl
  | some spec =>
    have runs : configureVIP rules env vip checks =
        (if checks.engine.started then startVIPLocked rules env vip.key.text vip spec
          else Effect.fail "health check engine is not started") checks := by
      unfold configureVIP
      rw [found]
      rfl
    by_cases started : checks.engine.started = true
    · rw [runs, if_pos started]
      unfold startVIPLocked
      cases valid : Validation.validateHealthCheckRuntimeSpec rules (some spec) with
      | error err => exact .inl ⟨by simp [acceptedCall, found, valid], rfl⟩
      | ok _ =>
        obtain ⟨prober, made⟩ := exists_prober valid
        refine .inr ⟨⟨env, vip, spec⟩, prober, by simp [acceptedCall, found, started, valid], ?_⟩
        rw [made]
        rfl
    · rw [runs, if_neg started]
      exact .inl ⟨by simp [acceptedCall, found, started], rfl⟩

theorem standing_initialBackend (start : Start) (backend : BackendSpec) :
    (initialBackend start.env checks.store start.key (checks.engine.vips.lookup start.key)
        backend).standing =
      (checks.engine.standing start.key backend.address).getD
        (start.origin checks.store backend.address) := by
  unfold initialBackend Engine.standing Engine.backend
  split
  next current found =>
    rw [found]
    rfl
  next missing =>
    rw [missing, Option.map_none, Option.getD_none, Start.origin]
    cases restored start.env checks.store start.key backend.address <;> rfl

theorem mem_newState (start : Start) (prober : Prober) (address : String) :
    address ∈ (checks.newState start.env start.key start.spec prober
      start.vip.spec.backends).backends ↔ address ∈ start.addresses := by
  have configured := AList.mem_foldl_insert BackendSpec.address
    (initialBackend start.env checks.store start.key (checks.engine.vips.lookup start.key))
    start.vip.spec.backends ∅ address
  refine configured.trans ?_
  simp [Start.addresses, AList.notMem_empty]

/-- The backends of a new configuration: those tracked before go on, the others start anew. -/
theorem standing_newState (start : Start) (prober : Prober) (address : String) :
    ((checks.newState start.env start.key start.spec prober
        start.vip.spec.backends).backends.lookup address).map BackendHealthState.standing =
      if address ∈ start.addresses then
        some ((checks.engine.standing start.key address).getD
          (start.origin checks.store address))
      else none := by
  have standings : ∀ name found, (checks.newState start.env start.key start.spec prober
      start.vip.spec.backends).backends.lookup name = some found →
        found.standing = (checks.engine.standing start.key name).getD
          (start.origin checks.store name) := by
    refine AList.forall_lookup_foldl_insert BackendSpec.address
      (initialBackend start.env checks.store start.key (checks.engine.vips.lookup start.key))
      (standing_initialBackend start) start.vip.spec.backends ?_
    simp
  split
  next member =>
    obtain ⟨found, looked⟩ := Option.isSome_iff_exists.mp
      (AList.lookup_isSome.mpr ((mem_newState start prober address).mpr member))
    rw [looked, Option.map_some, standings address found looked]
  next missing =>
    rw [AList.lookup_eq_none.mpr fun member =>
      missing ((mem_newState start prober address).mp member), Option.map_none]

theorem lookup_replaceVIP (start : Start) (prober : Prober) :
    (checks.replaceVIP (checks.newState start.env start.key start.spec prober
      start.vip.spec.backends)).engine.vips.lookup start.key =
        some (checks.newState start.env start.key start.spec prober start.vip.spec.backends) :=
  AList.lookup_insert ..

theorem standing_replaceVIP (start : Start) (prober : Prober) (address : String) :
    (checks.replaceVIP (checks.newState start.env start.key start.spec prober
        start.vip.spec.backends)).engine.standing start.key address =
      if address ∈ start.addresses then
        some ((checks.engine.standing start.key address).getD
          (start.origin checks.store address))
      else none := by
  rw [Engine.standing, Engine.backend, lookup_replaceVIP, Option.bind_some, standing_newState]

/-! ## Results -/

/-- The engine counts as the history does. -/
theorem standing_judge (spec : HealthCheckSpec) (result : ProbeResult)
    {backend : BackendHealthState} {life : Life BackendState}
    (same : backend.standing = life.standing .up .down) :
    (judge spec result backend).standing =
      (life.push ⟨result.success, spec.riseCount, spec.fallCount⟩).standing .up .down := by
  have state : backend.state = life.health .up .down := congrArg Standing.state same
  have successes : backend.consecutiveUp = life.successes := congrArg Standing.successes same
  have failures : backend.consecutiveDown = life.failures := congrArg Standing.failures same
  rw [Life.standing_push, ← state, ← successes, ← failures]
  unfold judge
  cases result.success with
  | true =>
    dsimp only
    by_cases reached : spec.riseCount ≤ backend.consecutiveUp + 1 <;>
      by_cases already : backend.state = .up <;>
      simp [BackendHealthState.standing, reached, already]
  | false =>
    dsimp only
    by_cases reached : spec.fallCount ≤ backend.consecutiveDown + 1 <;>
      by_cases already : backend.state = .down <;>
      simp [BackendHealthState.standing, reached, already]

/-! ## One step -/

/-- The engine says of every VIP and every backend what the history says. -/
structure Tracks (rules : TextRules) (engine : Engine) (past : History) : Prop where
  epoch : engine.nextEpoch = epochs rules past
  idle : ∀ key, engine.vips.lookup key = none → running rules key past = none
  runs : ∀ key state, engine.vips.lookup key = some state →
    ∃ start, running rules key past = some (state.epoch, start) ∧ start.spec = state.spec ∧
      ∀ address, address ∈ state.backends ↔ address ∈ start.addresses
  stands : ∀ key address, engine.standing key address = standing rules key address past

variable {engine : Engine} {past : History} {event : Event}

theorem Tracks.configure {start : Start} (tracks : Tracks rules checks.engine past)
    (accepts : accepted rules (checks, event) = some start) (prober : Prober) :
    Tracks rules (checks.replaceVIP (checks.newState start.env start.key start.spec prober
      start.vip.spec.backends)).engine ((checks, event) :: past) := by
  have lookup_other : ∀ {key : String}, key ≠ start.key →
      (checks.replaceVIP (checks.newState start.env start.key start.spec prober
        start.vip.spec.backends)).engine.vips.lookup key = checks.engine.vips.lookup key :=
    fun different => AList.lookup_insert_ne different
  refine ⟨?_, fun key none => ?_, fun key state found => ?_, fun key address => ?_⟩
  · rw [epochs, accepts, ← tracks.epoch]
    rfl
  · by_cases same : key = start.key
    · rw [same, lookup_replaceVIP] at none
      cases none
    · rw [lookup_other same] at none
      rw [running, accepts]
      simpa [Ne.symm same] using tracks.idle key none
  · by_cases same : key = start.key
    · rw [same, lookup_replaceVIP] at found
      cases found
      refine ⟨start, ?_, rfl, mem_newState start prober⟩
      rw [running, accepts, same, ← tracks.epoch]
      simp [Checks.newState]
    · rw [lookup_other same] at found
      rw [running, accepts]
      simpa [Ne.symm same] using tracks.runs key state found
  · by_cases same : key = start.key
    · subst same
      rw [standing_replaceVIP, tracks.stands, standing, standing, life, accepts]
      by_cases configured : address ∈ start.addresses
      · cases life rules start.key address past <;> simp [configured]
      · simp [configured]
    · rw [Engine.standing, Engine.backend, lookup_other same, standing, life, accepts]
      simp only [if_neg (Ne.symm same)]
      exact tracks.stands key address

theorem Tracks.stop (tracks : Tracks rules engine past) (vipKey : String) :
    Tracks rules (stopVIP vipKey engine) ((checks, .stopVIP vipKey) :: past) := by
  have lookup_other : ∀ {key : String}, key ≠ vipKey →
      (stopVIP vipKey engine).vips.lookup key = engine.vips.lookup key := by
    intro key different
    unfold stopVIP
    split
    · rfl
    · exact AList.lookup_erase_ne different
  have lookup_own : (stopVIP vipKey engine).vips.lookup vipKey = none := by
    unfold stopVIP
    split
    · assumption
    · exact AList.lookup_erase ..
  have epoch : (stopVIP vipKey engine).nextEpoch = engine.nextEpoch := by
    unfold stopVIP
    split <;> rfl
  refine ⟨epoch.trans tracks.epoch, fun key none => ?_, fun key state found => ?_,
    fun key address => ?_⟩ <;> by_cases same : key = vipKey
  · simp [running, accepted, same]
  · rw [lookup_other same] at none
    simpa [running, accepted, Ne.symm same] using tracks.idle key none
  · rw [same, lookup_own] at found
    cases found
  · rw [lookup_other same] at found
    simpa [running, accepted, Ne.symm same] using tracks.runs key state found
  · rw [Engine.standing, Engine.backend, same, lookup_own]
    simp [standing, life, accepted]
  · rw [Engine.standing, Engine.backend, lookup_other same, standing, life]
    simp only [accepted, if_neg (Ne.symm same)]
    exact tracks.stands key address

/-- An event that configures nothing, stops nothing and brings no result. -/
theorem Tracks.keep (tracks : Tracks rules engine past)
    (refused : accepted rules (checks, event) = none)
    (stops : ∀ vipKey, event ≠ .stopVIP vipKey) (results : ∀ result, event ≠ .result result) :
    Tracks rules engine ((checks, event) :: past) := by
  have runs : ∀ key, running rules key ((checks, event) :: past) = running rules key past := by
    intro key
    rw [running, refused]
    cases event with
    | stopVIP vipKey => exact absurd rfl (stops vipKey)
    | startVIP | updateVIP | result | persist | notify | cleanup => rfl
  have lives : ∀ key address,
      life rules key address ((checks, event) :: past) = life rules key address past := by
    intro key address
    rw [life, refused]
    cases event with
    | stopVIP vipKey => exact absurd rfl (stops vipKey)
    | result result => exact absurd rfl (results result)
    | startVIP | updateVIP | persist | notify | cleanup => rfl
  refine ⟨?_, fun key none => ?_, fun key state found => ?_, fun key address => ?_⟩
  · rw [epochs, refused]
    exact tracks.epoch
  · rw [runs]
    exact tracks.idle key none
  · rw [runs]
    exact tracks.runs key state found
  · rw [standing, lives]
    exact tracks.stands key address

/-- A result is dropped, or it counts and the backend is judged. -/
theorem Tracks.handleResult_cases (tracks : Tracks rules engine past) (result : ProbeResult) :
    (verdict rules result past = none ∧ handleResult result engine = (engine, none)) ∨
      ∃ state backend, engine.vips.lookup result.vipKey = some state ∧
        state.backends.lookup result.backendAddr = some backend ∧
        verdict rules result past =
          some ⟨result.success, state.spec.riseCount, state.spec.fallCount⟩ ∧
        handleResult result engine =
          ({ engine with
              vips := engine.vips.insert result.vipKey
                { state with
                  backends := state.backends.insert result.backendAddr
                    (judge state.spec result backend) } },
            some (engine.afterwards result backend (judge state.spec result backend))) := by
  unfold verdict handleResult
  cases found : engine.vips.lookup result.vipKey with
  | none =>
    rw [tracks.idle _ found]
    exact .inl ⟨rfl, rfl⟩
  | some state =>
    obtain ⟨start, runs, spec, configured⟩ := tracks.runs _ state found
    rw [runs]
    dsimp only
    by_cases current : state.epoch = result.epoch
    · cases looked : state.backends.lookup result.backendAddr with
      | none =>
        have missing : result.backendAddr ∉ start.addresses := by
          rw [← configured]
          exact AList.lookup_eq_none.mp looked
        simp [current, missing]
      | some backend =>
        have member : result.backendAddr ∈ start.addresses := by
          rw [← configured]
          exact AList.lookup_isSome.mp (by simp [looked])
        refine .inr ⟨state, backend, rfl, looked, ?_, ?_⟩
        · simp [current, member, spec]
        · simp [current]
    · simp [current]

/-- What a result does to the life of a backend. -/
theorem life_result (result : ProbeResult) (key address : String) :
    life rules key address ((checks, .result result) :: past) =
      if result.vipKey = key ∧ result.backendAddr = address then
        match verdict rules result past with
        | some verdict => (life rules key address past).map (·.push verdict)
        | none => life rules key address past
      else life rules key address past := rfl

theorem Tracks.result (tracks : Tracks rules engine past) (result : ProbeResult) :
    Tracks rules (handleResult result engine).1 ((checks, .result result) :: past) := by
  obtain ⟨dropped, handled⟩ | ⟨state, backend, found, looked, counts, handled⟩ :=
    tracks.handleResult_cases result
  · rw [handled]
    refine ⟨tracks.epoch, tracks.idle, tracks.runs, fun key address => ?_⟩
    rw [standing, life_result, dropped]
    simp only [ite_self]
    exact tracks.stands key address
  · rw [handled]
    refine ⟨tracks.epoch, fun key none => ?_, fun key other looks => ?_, fun key address => ?_⟩ <;>
      by_cases same : key = result.vipKey
    · rw [same, AList.lookup_insert] at none
      cases none
    · rw [AList.lookup_insert_ne same] at none
      exact tracks.idle key none
    · rw [same, AList.lookup_insert] at looks
      cases looks
      obtain ⟨start, runs, spec, configured⟩ := tracks.runs _ state found
      refine ⟨start, same ▸ runs, spec, fun address => ?_⟩
      rw [AList.mem_insert, ← configured address, or_iff_right_iff_imp]
      rintro rfl
      exact AList.lookup_isSome.mp (by simp [looked])
    · rw [AList.lookup_insert_ne same] at looks
      exact tracks.runs key other looks
    · rw [Engine.standing, Engine.backend, same, AList.lookup_insert, Option.bind_some, standing,
        life_result, counts]
      have stands := tracks.stands result.vipKey address
      rw [Engine.standing, Engine.backend, found, Option.bind_some] at stands
      by_cases here : address = result.backendAddr
      · rw [here, looked] at stands
        obtain ⟨life, lived, stood⟩ := Option.map_eq_some_iff.mp stands.symm
        rw [here, AList.lookup_insert, if_pos ⟨rfl, rfl⟩, lived]
        exact congrArg some (standing_judge state.spec result stood.symm)
      · rw [AList.lookup_insert_ne here, if_neg fun both => here both.2.symm]
        exact stands
    · rw [Engine.standing, Engine.backend, AList.lookup_insert_ne same, standing, life_result,
        if_neg fun both => same both.1.symm]
      exact tracks.stands key address

/-! ## Callbacks -/

/-- The callback that is still to be fired. -/
def Checks.pendingChange (checks : Checks) : List StateChange :=
  (checks.handling.bind Handling.change).toList

/-- The callback of a result is its change of state. -/
theorem Tracks.changes_result (tracks : Tracks rules engine past) (result : ProbeResult)
    (callback : engine.callback = true) :
    changes rules ((checks, .result result) :: past) =
      ((handleResult result engine).2.bind Handling.change).toList ++ changes rules past := by
  have before := tracks.stands result.vipKey result.backendAddr
  have after : (handleResult result engine).1.standing result.vipKey result.backendAddr =
      standing rules result.vipKey result.backendAddr ((checks, .result result) :: past) :=
    (tracks.result result).stands _ _
  simp only [changes]
  rw [← before, ← after]
  obtain ⟨-, handled⟩ | ⟨state, backend, found, looked, -, handled⟩ :=
    tracks.handleResult_cases result
  · rw [handled]
    cases engine.standing result.vipKey result.backendAddr <;> simp
  · have old : engine.standing result.vipKey result.backendAddr = some backend.standing := by
      simp [Engine.standing, Engine.backend, found, looked]
    have new : (handleResult result engine).1.standing result.vipKey result.backendAddr =
        some (judge state.spec result backend).standing := by
      simp [handled, Engine.standing, Engine.backend]
    rw [old, new, handled]
    by_cases changed : backend.state = (judge state.spec result backend).state <;>
      simp [Engine.afterwards, callback, changed, BackendHealthState.standing]

theorem callback_stopVIP (vipKey : String) :
    (stopVIP vipKey engine).callback = engine.callback := by
  unfold stopVIP
  split <;> rfl

theorem callback_handleResult (result : ProbeResult) :
    (handleResult result engine).1.callback = engine.callback := by
  unfold handleResult
  split
  · rfl
  · split
    · rfl
    · split <;> rfl

/-! ## Runs -/

/-- A run of the engine with its events. -/
abbrev Run := TransitionSystem.Recorded Checks Event

/-- The engine tracks the history, and its callbacks are the changes of state. -/
structure Conforms (rules : TextRules) (run : Run) : Prop where
  tracks : Tracks rules run.now.engine run.past
  notified : run.now.engine.callback = true →
    run.now.pendingChange ++ run.now.fired = changes rules run.past

theorem Conforms.configure {run : Run} (conforms : Conforms rules run) {env : StartEnv}
    {vip : VirtualIP} (called : event = .startVIP env vip ∨ event = .updateVIP env vip) :
    Conforms rules ⟨(configureVIP rules env vip run.now).2, (run.now, event) :: run.past⟩ := by
  have call : accepted rules (run.now, event) = acceptedCall rules run.now env vip := by
    obtain rfl | rfl := called <;> rfl
  have changes : changes rules ((run.now, event) :: run.past) = changes rules run.past := by
    obtain rfl | rfl := called <;> rfl
  obtain ⟨refused, same⟩ | ⟨start, prober, accepts, configured⟩ := configureVIP_cases env vip
  · rw [same]
    refine ⟨conforms.tracks.keep (call.trans refused) ?_ ?_, changes ▸ conforms.notified⟩
    · rintro vipKey rfl
      obtain same | same := called <;> cases same
    · rintro result rfl
      obtain same | same := called <;> cases same
  · rw [configured]
    exact ⟨conforms.tracks.configure (call.trans accepts) prober, changes ▸ conforms.notified⟩

theorem Conforms.step {run next : Run} (conforms : Conforms rules run)
    (moves : (HealthCheck.checks rules).recorded.step run event = some next) :
    Conforms rules next := by
  obtain ⟨after, moved, rfl⟩ := Option.map_eq_some_iff.mp moves
  cases event with
  | startVIP env vip =>
    cases moved
    exact conforms.configure (.inl rfl)
  | updateVIP env vip =>
    cases moved
    exact conforms.configure (.inr rfl)
  | stopVIP vipKey =>
    cases moved
    refine ⟨conforms.tracks.stop vipKey, fun callback => conforms.notified ?_⟩
    exact (callback_stopVIP vipKey).symm.trans callback
  | result result =>
    simp only [HealthCheck.checks, Checks.next] at moved
    split at moved <;> cases moved
    next free =>
      refine ⟨conforms.tracks.result result, fun callback => ?_⟩
      rw [callback_handleResult] at callback
      have notified := conforms.notified callback
      rw [Checks.pendingChange, free] at notified
      rw [conforms.tracks.changes_result result callback, ← notified]
      rfl
  | persist saves | notify =>
    simp only [HealthCheck.checks, Checks.next] at moved
    split at moved
    next handling busy =>
      split at moved <;> cases moved
      refine ⟨conforms.tracks.keep rfl (by simp) (by simp), fun callback => ?_⟩
      have notified := conforms.notified callback
      rw [Checks.pendingChange, busy] at notified
      exact notified
    next => cases moved
  | cleanup config env vip node =>
    simp only [HealthCheck.checks, Checks.next] at moved
    split at moved <;> cases moved
    exact ⟨conforms.tracks.keep rfl (by simp) (by simp), conforms.notified⟩

theorem conforms_of_reachable {run : Run}
    (reached : (HealthCheck.checks rules).recorded.Reachable TransitionSystem.unguarded run) :
    Conforms rules run := by
  refine reached.invariant ?_ fun _ _ _ conforms _ moves => conforms.step moves
  rintro ⟨now, past⟩ ⟨fresh, rfl⟩
  refine ⟨⟨fresh.nextEpoch, fun _ _ => rfl, fun key state found => ?_, fun key address => ?_⟩,
    fun _ => ?_⟩
  · rw [fresh.vips] at found
    cases found
  · rw [Engine.standing, Engine.backend, fresh.vips]
    rfl
  · rw [Checks.pendingChange, fresh.handling, fresh.fired]
    rfl

end Engine

/-- The healthy backends are those whose lives are up. -/
theorem Tracks.healthyBackends {engine : Engine} {past : History}
    (tracks : Tracks rules engine past) (key : String) (backends : List BackendSpec) :
    engine.healthyBackends key backends =
      backends.filter fun backend =>
        (life rules key backend.address past).any fun life => life.health .up .down = .up := by
  have lives : ∀ address, ((engine.vips.lookup key).bind fun state =>
      state.backends.lookup address).any (fun tracked => tracked.state = .up) =
        (life rules key address past).any fun life => life.health .up .down = .up := by
    intro address
    have stands := tracks.stands key address
    rw [Engine.standing, standing] at stands
    change (engine.backend key address).any _ = _
    cases tracked : engine.backend key address with
    | none =>
      rw [tracked] at stands
      rw [Option.map_eq_none_iff.mp stands.symm]
      rfl
    | some backend =>
      rw [tracked] at stands
      obtain ⟨life, lived, stood⟩ := Option.map_eq_some_iff.mp stands.symm
      have state : life.health .up .down = backend.state := congrArg Standing.state stood
      simp [lived, state]
  simp only [← lives]
  unfold Engine.healthyBackends
  cases engine.vips.lookup key with
  | none => simp
  | some state => rfl

/-- A call that fails is not accepted, and changes nothing. -/
theorem configureVIP_error {checks : Checks} {env : StartEnv} {vip : VirtualIP} {err : String}
    (failed : (configureVIP rules env vip checks).1 = .error err) :
    acceptedCall rules checks env vip = none ∧ (configureVIP rules env vip checks).2 = checks := by
  obtain refused | ⟨start, prober, -, configured⟩ := configureVIP_cases env vip
  · exact refused
  · rw [configured] at failed
    cases failed

/-- **Hysteresis.** In every run of the engine, in any order of calls and results:

* a running VIP's backends have exactly the state and the streaks of their lives, in which the
  results that count, and no others, are folded, and which go on through updates;
* the healthy backends are those whose lives are up;
* a result that does not count, and a call that fails, change nothing;
* the callbacks fired, with the one to be fired for the result in progress, are the changes of
  state, each once and in their order;
* below `2 ^ 63 - 1` the streaks are counted on as the source's `int` counters are. -/
theorem engine_follows_lives {run : Run}
    (reached : (checks rules).recorded.Reachable TransitionSystem.unguarded run) :
    (∀ key address, run.now.engine.standing key address = standing rules key address run.past) ∧
    (∀ key backends, run.now.engine.healthyBackends key backends =
      backends.filter fun backend =>
        (life rules key backend.address run.past).any fun life => life.health .up .down = .up) ∧
    (∀ result next, (checks rules).step run.now (.result result) = some next →
      verdict rules result run.past = none → next = run.now) ∧
    (∀ env vip err,
      ((startVIP rules env vip run.now).1 = .error err →
        acceptedCall rules run.now env vip = none ∧ (startVIP rules env vip run.now).2 = run.now) ∧
      ((updateVIP rules env vip run.now).1 = .error err →
        acceptedCall rules run.now env vip = none ∧
          (updateVIP rules env vip run.now).2 = run.now)) ∧
    (run.now.engine.callback = true →
      run.now.pendingChange ++ run.now.fired = changes rules run.past) ∧
    (∀ key address standing, run.now.engine.standing key address = some standing →
      (standing.successes < 2 ^ 63 - 1 →
        goIncrement standing.successes = standing.successes + 1) ∧
      (standing.failures < 2 ^ 63 - 1 →
        goIncrement standing.failures = standing.failures + 1)) := by
  have conforms := conforms_of_reachable reached
  refine ⟨conforms.tracks.stands, conforms.tracks.healthyBackends rules,
    fun result next moves dropped => ?_,
    fun env vip err => ⟨configureVIP_error rules, configureVIP_error rules⟩, conforms.notified,
    fun _ _ _ _ => ⟨fun below => if_neg below.ne, fun below => if_neg below.ne⟩⟩
  simp only [checks, Checks.next] at moves
  split at moves
  next => cases moves
  next free =>
    obtain ⟨-, handled⟩ | ⟨_, _, -, -, counts, -⟩ := conforms.tracks.handleResult_cases result
    · cases moves
      rw [handled, ← free]
    · cases counts.symm.trans dropped

/-- A VIP whose health check asks for two successes or three failures, for concrete runs. -/
def watched (backends : List String) : VirtualIP :=
  let web := VirtualIP.web .web "1" "192.0.2.1"
  { web with
    spec := { web.spec with
      backends := backends.map fun address => ⟨address, "", 1⟩
      healthCheck := some ⟨.ping, 5, 1, 2, 3, none, none⟩ } }

/-- A started engine with a callback and an empty store. -/
def Checks.start : Checks where
  engine := { started := true, callback := true }
  store := {}

theorem checks_start (rules : TextRules) :
    (checks rules).recorded.Reachable TransitionSystem.unguarded ⟨.start, []⟩ :=
  .initial ⟨⟨rfl, rfl, rfl, rfl⟩, rfl⟩

/-- A result for the first backend of the watched VIP that is handled to its end. -/
def handled (epoch : UInt64) (success : Bool) : List Event :=
  [.result ⟨VIPKey.web.text, epoch, "10.0.0.1", success, 1⟩, .persist true, .notify]

/-- Two successes with an update and a late failure of the first epoch between them. -/
def updatedBetween : List Event :=
  [.updateVIP ⟨0, fun _ => true⟩ (watched ["10.0.0.1"])] ++ handled 1 true ++
  [.updateVIP ⟨0, fun _ => true⟩ (watched ["10.0.0.1", "10.0.0.2"]),
    .result ⟨VIPKey.web.text, 1, "10.0.0.1", false, 1⟩] ++ handled 2 true

theorem engine_follows_lives_updated :
    ∃ run, (checks .lenient).recorded.run ⟨.start, []⟩ updatedBetween = some run ∧
      standing .lenient VIPKey.web.text "10.0.0.1" run.past = some ⟨.up, 2, 0⟩ ∧
      changes .lenient run.past = [⟨VIPKey.web.text, "10.0.0.1", .unknown, .up⟩] := by
  obtain ⟨run, runs, stands, callback, pending, fired⟩ :=
    (checks .lenient).recorded.exists_run_of_check ⟨.start, []⟩ updatedBetween
    (fun run => run.now.engine.standing VIPKey.web.text "10.0.0.1" = some ⟨.up, 2, 0⟩ ∧
      run.now.engine.callback = true ∧ run.now.pendingChange = [] ∧
      run.now.fired = [⟨VIPKey.web.text, "10.0.0.1", .unknown, .up⟩]) (by decide +kernel)
  have reached : (checks .lenient).recorded.Reachable TransitionSystem.unguarded run :=
    (checks_start .lenient).run (TransitionSystem.meets_unguarded _ _ _) runs
  obtain ⟨follows, -, -, -, notified, -⟩ := engine_follows_lives .lenient reached
  refine ⟨run, runs, (follows _ _).symm.trans stands, ?_⟩
  rw [← notified callback, pending, fired]
  rfl

end ArcaLB.HealthCheck
