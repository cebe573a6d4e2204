import Mathlib.Algebra.Group.Int.Defs
import ArcaLB.Library.Effect
import ArcaLB.Api.Validation
import ArcaLB.Agent.Store

/-!
# The health check engine

The state that `Engine` keeps for every VIP under its mutex, with the calls that change it,
and the result processor.  A result is judged in one locked section; its record is saved and
the callback is fired afterwards, without the mutex.  What schedules the probes and carries
them out is left to whoever delivers results.
-/

namespace ArcaLB.HealthCheck

open Agent (Store BackendHealthRecord)

/-- `V2BackendState`; a stored record may hold any other text. -/
inductive BackendState where
  | unknown
  | up
  | down
  | other (text : String)
  deriving DecidableEq, Repr

namespace BackendState

/-- The state as the store keeps it. -/
def text : BackendState → String
  | unknown => "unknown"
  | up => "up"
  | down => "down"
  | other value => value

/-- Reads a stored state back. -/
def ofText (text : String) : BackendState :=
  if text = "unknown" then .unknown
  else if text = "up" then .up
  else if text = "down" then .down
  else .other text

end BackendState

/-- The probers, by the settings that they are made from. -/
inductive Prober where
  | http (settings : HTTPHealthCheck) (useTLS : Bool)
  | tcp (settings : TCPHealthCheck)
  | ping
  | tlsHello (settings : TCPHealthCheck)
  deriving DecidableEq, Repr

/-- The prober of a spec, or why there is none. -/
def newProberFromSpec (spec : HealthCheckSpec) : Except String Prober :=
  match spec.type with
  | .http | .https =>
    match spec.http with
    | none => .error "HTTP health check config is required"
    | some settings => .ok (.http settings (spec.type = .https))
  | .tcp =>
    match spec.tcp with
    | none => .error "TCP health check config is required"
    | some settings => .ok (.tcp settings)
  | .ping => .ok .ping
  | .tlsHello =>
    match spec.tcp with
    | none => .error "TCP health check config is required for TLS hello"
    | some settings => .ok (.tlsHello settings)
  | .other text => .error ("unsupported health check type: " ++ text)

/-- What the engine tracks of one backend. -/
structure BackendHealthState where
  address : String
  targetAddress : String
  state : BackendState
  consecutiveUp : Int
  consecutiveDown : Int
  lastProbeTime : Time
  lastStateChange : Time
  deriving DecidableEq, Repr

/-- What is tracked of a VIP; `backends` by their addresses. -/
structure VIPHealthState where
  vipKey : String
  epoch : UInt64
  spec : HealthCheckSpec
  backends : AList (fun _ : String => BackendHealthState)
  prober : Prober

/-- `callback` says whether a callback is set. -/
structure Engine where
  started : Bool
  callback : Bool
  vips : AList (fun _ : String => VIPHealthState) := ∅
  nextEpoch : UInt64 := 0

/-- One probe's outcome, with the epoch of the VIP it was made for. -/
structure ProbeResult where
  vipKey : String
  epoch : UInt64
  backendAddr : String
  success : Bool
  timestamp : Time
  deriving DecidableEq, Repr

/-- The arguments of the callback. -/
structure StateChange where
  vipKey : String
  backendAddr : String
  oldState : BackendState
  newState : BackendState
  deriving DecidableEq, Repr

/-- A result that was judged: the record to be saved, and the callback to be fired. -/
structure Handling where
  vipKey : String
  backendAddr : String
  record : BackendHealthRecord
  change : Option StateChange
  saved : Bool := false
  deriving DecidableEq, Repr

/-- The engine and the store, with the result that is being handled and the callbacks that
were fired, the latest first. -/
structure Checks where
  engine : Engine
  store : Store
  handling : Option Handling := none
  fired : List StateChange := []

/-! ## Starting, updating and stopping -/

/-- The time of a call, and the backends whose record can be loaded. -/
structure StartEnv where
  now : Time
  loads : String → Bool

/-- The monitor address if there is one. -/
def probeTargetAddress (backend : BackendSpec) : String :=
  if backend.monitorAddress ≠ "" then backend.monitorAddress else backend.address

/-- The record from which a backend is restored. -/
def restored (env : StartEnv) (store : Store) (vipKey address : String) :
    Option BackendHealthRecord :=
  if env.loads address then store.loadHealthState vipKey address else none

/-- The first state of a backend: that of the VIP so far, else that of its record, else
unknown. -/
def initialBackend (env : StartEnv) (store : Store) (vipKey : String)
    (existing : Option VIPHealthState) (backend : BackendSpec) : BackendHealthState :=
  match existing.bind fun state => state.backends.lookup backend.address with
  | some current =>
    { current with
      address := backend.address
      targetAddress := probeTargetAddress backend }
  | none =>
    match restored env store vipKey backend.address with
    | some record =>
      { address := backend.address
        targetAddress := probeTargetAddress backend
        state := .ofText record.state
        consecutiveUp := record.consecutiveUp
        consecutiveDown := record.consecutiveDown
        lastProbeTime := record.lastProbeTime
        lastStateChange := record.lastStateChange }
    | none =>
      { address := backend.address
        targetAddress := probeTargetAddress backend
        state := .unknown
        consecutiveUp := 0
        consecutiveDown := 0
        lastProbeTime := 0
        lastStateChange := env.now }

/-- The VIP under a new epoch. -/
def Checks.newState (checks : Checks) (env : StartEnv) (vipKey : String) (spec : HealthCheckSpec)
    (prober : Prober) (backends : List BackendSpec) : VIPHealthState where
  vipKey := vipKey
  epoch := checks.engine.nextEpoch + 1
  spec := spec
  backends := backends.foldl (fun map backend => map.insert backend.address
    (initialBackend env checks.store vipKey (checks.engine.vips.lookup vipKey) backend)) ∅
  prober := prober

/-- Installs a VIP's state under a new epoch. -/
def Checks.replaceVIP (checks : Checks) (state : VIPHealthState) : Checks :=
  { checks with
    engine := { checks.engine with
      nextEpoch := checks.engine.nextEpoch + 1
      vips := checks.engine.vips.insert state.vipKey state } }

variable (rules : TextRules)

/-- `startVIPLocked`; the callers have found the health check. -/
def startVIPLocked (env : StartEnv) (vipKey : String) (vip : VirtualIP) (spec : HealthCheckSpec) :
    Effect Checks String Unit := do
  Effect.ofExcept ((Validation.validateHealthCheckRuntimeSpec rules (some spec)).mapError
    ("invalid health check spec for VIP " ++ vipKey ++ ": " ++ ·))
  let prober ← Effect.ofExcept ((newProberFromSpec spec).mapError
    ("failed to create prober for VIP " ++ vipKey ++ ": " ++ ·))
  Effect.modify fun checks =>
    checks.replaceVIP (checks.newState env vipKey spec prober vip.spec.backends)

/-- What `StartVIP` and `UpdateVIP` do alike. -/
def configureVIP (env : StartEnv) (vip : VirtualIP) : Effect Checks String Unit :=
  match vip.spec.healthCheck with
  | none => pure ()
  | some spec => do
      let checks ← Effect.read
      if checks.engine.started then startVIPLocked rules env vip.key.text vip spec
      else Effect.fail "health check engine is not started"

/-- `StartVIP`. -/
def startVIP (env : StartEnv) (vip : VirtualIP) : Effect Checks String Unit :=
  configureVIP rules env vip

/-- `UpdateVIP`. -/
def updateVIP (env : StartEnv) (vip : VirtualIP) : Effect Checks String Unit :=
  configureVIP rules env vip

/-- `StopVIP`. -/
def stopVIP (vipKey : String) (engine : Engine) : Engine :=
  match engine.vips.lookup vipKey with
  | none => engine
  | some _ => { engine with vips := engine.vips.erase vipKey }

/-! ## Results -/

/-- `n++` on an `int` of Go. -/
def goIncrement (n : Int) : Int := if n = 2 ^ 63 - 1 then -2 ^ 63 else n + 1

/-- The state of a backend after a result, with counters that do not overflow. -/
def judge (spec : HealthCheckSpec) (result : ProbeResult) (backend : BackendHealthState) :
    BackendHealthState :=
  if result.success then
    let counted := { backend with
      lastProbeTime := result.timestamp
      consecutiveUp := backend.consecutiveUp + 1
      consecutiveDown := 0 }
    if counted.state ≠ .up ∧ spec.riseCount ≤ counted.consecutiveUp then
      { counted with state := .up, lastStateChange := result.timestamp }
    else counted
  else
    let counted := { backend with
      lastProbeTime := result.timestamp
      consecutiveDown := backend.consecutiveDown + 1
      consecutiveUp := 0 }
    if counted.state ≠ .down ∧ spec.fallCount ≤ counted.consecutiveDown then
      { counted with state := .down, lastStateChange := result.timestamp }
    else counted

/-- The record that is saved of a backend. -/
def BackendHealthState.record (backend : BackendHealthState) : BackendHealthRecord where
  state := backend.state.text
  consecutiveUp := backend.consecutiveUp
  consecutiveDown := backend.consecutiveDown
  lastProbeTime := backend.lastProbeTime
  lastStateChange := backend.lastStateChange

/-- What is left to do once a result has changed a backend from `old` to `new`. -/
def Engine.afterwards (engine : Engine) (result : ProbeResult) (old new : BackendHealthState) :
    Handling where
  vipKey := result.vipKey
  backendAddr := result.backendAddr
  record := new.record
  change :=
    if old.state ≠ new.state ∧ engine.callback = true then
      some ⟨result.vipKey, result.backendAddr, old.state, new.state⟩
    else none

/-- The locked section of `handleResult`. -/
def handleResult (result : ProbeResult) (engine : Engine) : Engine × Option Handling :=
  match engine.vips.lookup result.vipKey with
  | none => (engine, none)
  | some state =>
    if state.epoch ≠ result.epoch then (engine, none)
    else
      match state.backends.lookup result.backendAddr with
      | none => (engine, none)
      | some backend =>
        let judged := judge state.spec result backend
        let tracked := { state with
          backends := state.backends.insert result.backendAddr judged }
        ({ engine with vips := engine.vips.insert result.vipKey tracked },
          some (engine.afterwards result backend judged))

/-! ## Queries -/

/-- The tracked state of a backend. -/
def Engine.backend (engine : Engine) (vipKey address : String) : Option BackendHealthState :=
  (engine.vips.lookup vipKey).bind fun state => state.backends.lookup address

/-- `IsHealthy`. -/
def Engine.isHealthy (engine : Engine) (vipKey backendAddr : String) : Bool :=
  (engine.backend vipKey backendAddr).any fun tracked => tracked.state = .up

/-- `HealthyBackends`, in the order of the spec. -/
def Engine.healthyBackends (engine : Engine) (vipKey : String) (backends : List BackendSpec) :
    List BackendSpec :=
  match engine.vips.lookup vipKey with
  | none => []
  | some state =>
    backends.filter fun backend =>
      (state.backends.lookup backend.address).any fun tracked => tracked.state = .up

end ArcaLB.HealthCheck
