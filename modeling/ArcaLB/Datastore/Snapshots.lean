import Mathlib.Algebra.Group.Int.Defs
import Mathlib.Algebra.Group.Nat.Defs
import ArcaLB.Library.Steady
import ArcaLB.Datastore.Clients

/-!
# Configuration snapshots

`GetConfig` reads the VIPs, the revision and the backends one after another, and the sync
service compares nothing but revisions.  A configuration is the content of the store at its
revision if no one commits between the first and the last of these reads; an agent then holds
what belongs to the revision that it reports.
-/

namespace ArcaLB.Datastore

open Etcd (Reply Op.putOnce)

/-! ## Content -/

/-- A configuration is the content of a store. -/
structure Content (config : Config) (store : Store) : Prop where
  revision : store.count = some config.revision
  vips : ∀ vip, (∃ entry ∈ config.vips, entry.vip = vip) ↔ ∃ id, store.vip id = some vip
  once : (config.vips.map fun entry => entry.vip.id).Nodup
  healthChecks : ∀ entry ∈ config.vips, entry.healthCheck = entry.vip.healthCheck
  backends : ∀ entry ∈ config.vips, ∀ backend, backend ∈ entry.backends ↔
    ∃ id, store.backend entry.vip.id id = some backend
  backendsOnce : ∀ entry ∈ config.vips, (entry.backends.map Backend.id).Nodup

section Content

variable {store later : Store} {config : Config}

theorem number_eq (sane : Sane store) : store.count = some store.number := by
  obtain ⟨number, counted⟩ := sane.counted
  rw [Store.number, counted]
  rfl

theorem Content.number (content : Content config store) : config.revision = store.number := by
  rw [Store.number, content.revision]
  rfl

/-- Stores of one run with the same number have the same content. -/
theorem content_congr (grown : Grown store later) (number : store.number = later.number)
    (sane : Sane store) (saneLater : Sane later) : Content config store ↔ Content config later := by
  have counts : later.count = store.count := by
    rw [number_eq sane, number_eq saneLater, number]
  have vips := grown.vip_same number
  have backends := grown.backend_same number
  constructor <;> intro content
  · exact
      { content with
        revision := counts.trans content.revision
        vips := by simpa only [vips] using content.vips
        backends := by simpa only [backends] using content.backends }
  · exact
      { content with
        revision := counts.symm.trans content.revision
        vips := by simpa only [vips] using content.vips
        backends := by simpa only [backends] using content.backends }

theorem nodup_vips (sane : Sane store) : (store.vips.map VIP.id).Nodup := by
  refine List.pairwise_map.mpr (Etcd.pairwise_list ?_)
  intro key other value value' vip vip' different found found' selected selected'
  cases key <;> cases selected
  cases other <;> cases selected'
  rw [sane.vip_id _ _ found, sane.vip_id _ _ found']
  exact fun same => different (congrArg Key.vip same)

theorem nodup_backends (sane : Sane store) (vipID : String) :
    ((store.allBackends.filter fun backend => backend.vipID = vipID).map Backend.id).Nodup := by
  refine List.pairwise_map.mpr (List.pairwise_filter.mpr ?_)
  refine Etcd.pairwise_list ?_
  intro key other value value' backend backend' different found found' selected selected'
  cases key <;> cases selected
  cases other <;> cases selected'
  intro same same' equal
  obtain ⟨parent, own⟩ := sane.backend_id _ _ _ found
  obtain ⟨parent', own'⟩ := sane.backend_id _ _ _ found'
  refine different ?_
  rw [← parent, ← own, ← parent', ← own', equal, of_decide_eq_true same, of_decide_eq_true same']

/-- The three reads of `GetConfig`, if the number of the configuration stays the same. -/
theorem content_assemble {revision : Nat} (sane : Sane store) (saneLater : Sane later)
    (grown : Grown store later) (number : store.number = later.number)
    (counted : later.count = some revision) :
    Content (.assemble store.vips revision later.allBackends) later where
  revision := counted
  vips := by
    intro vip
    simp [Config.assemble, Store.mem_vips, grown.vip_same number]
  once := by
    have once := nodup_vips sane
    simpa [Config.assemble, Function.comp_def] using once
  healthChecks := by simp [Config.assemble]
  backends := by
    intro entry member backend
    obtain ⟨vip, -, rfl⟩ := List.mem_map.mp member
    simp only [List.mem_filter, Store.mem_allBackends, decide_eq_true_eq]
    constructor
    · rintro ⟨⟨vipID, id, stored⟩, same⟩
      obtain ⟨parent, -⟩ := saneLater.backend_id vipID id backend stored
      exact ⟨id, by rw [← same, parent]; exact stored⟩
    · rintro ⟨id, stored⟩
      exact ⟨⟨vip.id, id, stored⟩, (saneLater.backend_id _ _ _ stored).1⟩
  backendsOnce := by
    intro entry member
    obtain ⟨vip, -, rfl⟩ := List.mem_map.mp member
    exact nodup_backends saneLater vip.id

end Content

/-! ## The sync service -/

/-- `GetConfig` of the sync service for an agent that reports `current`; no configuration is
sent if the agent has it already. -/
def serveConfig (current : Nat) : Call (Option Config) := do
  let revision ← getRevisionValue
  if 0 < current ∧ current = revision then pure none
  else
    let config ← getConfig
    pure (if 0 < current ∧ current = config.revision then none else some config)

/-- `RegisterAgent`, and `WatchConfig` after an event, send the configuration. -/
def sendConfig : Call (Option Config) := do
  let config ← getConfig
  pure (some config)

/-- `WatchConfig` sends the first configuration if its revision is another one. -/
def watchConfig (current : Nat) : Call (Option Config) := do
  let config ← getConfig
  pure (if config.revision ≠ current then some config else none)

/-- `Heartbeat` says whether the agent has to fetch a configuration. -/
def heartbeat (current : Nat) : Call Bool := do
  let revision ← getRevisionValue
  pure (decide (current ≠ revision))

/-- The calls in which an agent may receive a configuration. -/
inductive Fetch where
  | getConfig
  | registerAgent
  | watchConfig
  | configChanged
  deriving DecidableEq, Repr

/-- The handler of a fetch. -/
def Fetch.call : Fetch → Nat → Call (Option Config)
  | getConfig, current => serveConfig current
  | registerAgent, _ => sendConfig
  | watchConfig, current => Datastore.watchConfig current
  | configChanged, _ => sendConfig

/-- The call has listed the VIPs and still has to read the revision or the backends. -/
def Fetch.reading : Fetch → Nat → Bool
  | getConfig, taken => taken = 2 || taken = 3
  | registerAgent, taken | watchConfig, taken | configChanged, taken => taken = 1 || taken = 2

/-- A client of the store or an agent: a transaction, the configuration that was received last,
and what the last heartbeat said. -/
structure Party where
  tx : EtcdTransaction
  held : Option Config
  resyncRequired : Bool

namespace Party

/-- The revision that an agent reports. -/
def currentRevision (party : Party) : Nat :=
  (party.held.map Config.revision).getD 0

/-- The party keeps the configuration it is sent. -/
def receive (party : Party) : Except Failure (Option Config) → Party
  | .ok (some config) => { party with held := some config }
  | .ok none | .error _ => party

/-- The party keeps what the heartbeat said. -/
def hear (party : Party) : Except Failure Bool → Party
  | .ok resync => { party with resyncRequired := resync }
  | .error _ => party

end Party

/-- What a party does next. -/
inductive PartyCall where
  | write (call : ClientCall)
  | fetch (kind : Fetch)
  | heartbeat
  deriving DecidableEq, Repr

/-- The steps of a call. -/
def PartyCall.program (rules : TextRules) (call : PartyCall) (party : Party) : Steps Party :=
  match call with
  | write call => call.program rules party.tx >>= fun tx => pure { party with tx := tx }
  | fetch kind => (kind.call party.currentRevision).run >>= fun sent => pure (party.receive sent)
  | heartbeat => (Datastore.heartbeat party.currentRevision).run >>= fun said =>
    pure (party.hear said)

/-- Is the call inside a fetch's reads? -/
def PartyCall.reading : PartyCall → Nat → Bool
  | fetch kind, taken => kind.reading taken
  | write _, _ | heartbeat, _ => false

/-- The writers and agents over the one store. -/
abbrev Parties := Sessions Store Txn Reply PartyCall Party

/-- Clients and agents on an empty store. -/
def parties (rules : TextRules) : TransitionSystem Parties (Sessions.Event PartyCall) :=
  Sessions.system (Etcd.handle Range.covers) (PartyCall.program rules) Store.empty
    ⟨.begin, none, false⟩

/-- A session is between the first and the last read of a configuration. -/
def Parties.reading (parties : Parties) (index : Nat) : Bool :=
  match parties.session index with
  | .busy call _ seen _ => call.reading seen.length
  | .idle _ | .gone => false

/-- A run of clients and agents. -/
abbrev PartyRun := TransitionSystem.Recorded Parties (Sessions.Event PartyCall)

/-- The configuration that a party holds between its calls. -/
def Parties.held (parties : Parties) (index : Nat) : Option Config :=
  match parties.session index with
  | .idle party => party.held
  | .busy .. | .gone => none

/-- The operation writes the number of the configuration. -/
def counts : Op → Bool
  | .put .revision _ => true
  | _ => false

/-- No transaction that counts as a new configuration goes through while someone is between
the first and the last read of a configuration. -/
def undisturbed (parties : Parties) (event : Sessions.Event PartyCall) : Prop :=
  ∀ txn ∈ parties.pending event, txn.conditions.all (Etcd.Compare.holds parties.state) = true →
    txn.ops.any counts = true → ∀ index, parties.reading index = false

/-! ## Reading undisturbed -/

/-- What a reader tolerates: the store grows, and its number stays while the reader is
between its reads. -/
structure Tolerates (reading : Bool) (store later : Store) : Prop where
  grown : Grown store later
  sane : Sane store → Sane later
  number : reading = true → store.number = later.number

section Reading

variable {store later : Store} {rules : TextRules}

theorem tolerates_closed {reading : Bool}
    (tolerated : Relation.ReflTransGen (Tolerates reading) store later) :
    Tolerates reading store later := by
  induction tolerated with
  | refl => exact ⟨.refl store, id, fun _ => rfl⟩
  | tail _ last ih =>
    exact ⟨ih.grown.trans last.grown, fun sane => last.sane (ih.sane sane),
      fun reading => (ih.number reading).trans (last.number reading)⟩

/-- A call of a reader that is steady under what the reader tolerates. -/
def Call.Steady {α : Type} (reading : Nat → Bool) (post : Except Failure α → Nat → Store → Prop)
    (call : Call α) (taken : Nat) (store : Store) : Prop :=
  call.run.Steady (Etcd.handle Range.covers) (fun taken => Tolerates (reading taken)) post taken
    store

namespace Call.Steady

variable {α β : Type} {reading : Nat → Bool} {post : Except Failure β → Nat → Store → Prop}
  {taken : Nat}

theorem bind {mid : α → Nat → Store → Prop} {call : Call α} {next : α → Call β}
    (first : call.Steady reading (fun result taken later =>
      ∀ value, result = .ok value → mid value taken later) taken store)
    (second : ∀ value taken later, mid value taken later →
      (next value).Steady reading post taken later)
    (fails : ∀ failure taken later, post (.error failure) taken later) :
    (call >>= next).Steady reading post taken store := by
  refine Routine.Steady.bind first fun result taken later holds => ?_
  cases result with
  | error failure => exact fails failure taken later
  | ok value => exact second value taken later (holds value rfl)

theorem read_bind {part : Store → α} {next : α → Call β}
    (rest : ∀ later, Tolerates (reading taken) store later →
      (next (part later)).Steady reading post (taken + 1) later) :
    (Call.read part >>= next).Steady reading post taken store :=
  fun later tolerated => rest later (tolerates_closed tolerated)

end Call.Steady

variable {reading : Nat → Bool}

/-- The revision is read in one step. -/
theorem steady_getRevisionValue {taken : Nat} :
    getRevisionValue.Steady reading (fun result after later =>
      ∀ revision, result = .ok revision → after = taken + 1 ∧
        Tolerates (reading taken) store later ∧ later.count = some revision) taken store := by
  refine .read_bind fun later tolerated => ?_
  cases counted : later.count with
  | none => rintro _ ⟨⟩
  | some revision =>
    rintro _ ⟨⟩
    exact ⟨rfl, tolerated, counted⟩

theorem steady_context {α : Type} {taken : Nat} {text : String} {call : Call α}
    {known : α → Nat → Store → Prop} (steady : call.Steady reading (fun result taken later =>
      ∀ value, result = .ok value → known value taken later) taken store) :
    (call.context text).Steady reading (fun result taken later =>
      ∀ value, result = .ok value → known value taken later) taken store := by
  refine Routine.Steady.bind steady fun result taken later holds => ?_
  cases result with
  | error failure => rintro _ ⟨⟩
  | ok value => exact holds

/-- What is sent is the content of the store at that moment. -/
def Sent (result : Except Failure (Option Config)) (_ : Nat) (store : Store) : Prop :=
  ∀ config, result = .ok (some config) → Content config store

/-- **`GetConfig`.** Undisturbed, it returns the content of the store. -/
theorem steady_getConfig {taken : Nat} (first : reading (taken + 1) = true)
    (second : reading (taken + 2) = true) (sane : Sane store) :
    getConfig.Steady reading (fun result _ later =>
      ∀ config, result = .ok config → Content config later) taken store := by
  refine .read_bind fun listed listing => ?_
  have saneListed := listing.sane sane
  refine .bind (steady_context steady_getRevisionValue)
    (fun revision after counted counting => ?_) (by rintro _ _ _ _ ⟨⟩)
  obtain ⟨rfl, counting, revised⟩ := counting
  refine .read_bind fun last reading => ?_
  rintro _ ⟨⟩
  have saneCounted := counting.sane saneListed
  have saneLast := reading.sane saneCounted
  have same := reading.number second
  refine content_assemble saneListed saneLast (counting.grown.trans reading.grown)
    ((counting.number first).trans same) ?_
  rw [number_eq saneLast, ← same, ← number_eq saneCounted, revised]

theorem steady_fetch (fetch : Fetch) (current : Nat) (sane : Sane store) :
    (fetch.call current).Steady fetch.reading Sent 0 store := by
  have fails : ∀ failure taken later, Sent (.error failure) taken later := by
    rintro _ _ _ _ ⟨⟩
  cases fetch with
  | getConfig =>
    refine .bind steady_getRevisionValue (fun revision taken counted counting => ?_) fails
    obtain ⟨rfl, counting, -⟩ := counting
    split
    · rintro _ ⟨⟩
    · refine .bind (steady_getConfig rfl rfl (counting.sane sane))
        (fun config taken later content => ?_) fails
      intro sent returned
      split at returned <;> cases returned
      exact content
  | registerAgent | configChanged =>
    refine .bind (steady_getConfig rfl rfl sane) (fun config taken later content => ?_) fails
    rintro _ ⟨⟩
    exact content
  | watchConfig =>
    refine .bind (steady_getConfig rfl rfl sane) (fun config taken later content => ?_) fails
    intro sent returned
    split at returned <;> cases returned
    exact content

variable {change : Store → List Op → Prop}

theorem sound_getConfig {sees : List Store → Store → Prop}
    {seen : List Store} : Call.Sound change sees Anything getConfig seen store :=
  .read_bind fun _ _ _ => .bind sound_getRevisionValue.context fun _ _ _ _ =>
    .read_bind fun _ _ _ => .pure trivial

theorem sound_fetch {sees : List Store → Store → Prop}
    {seen : List Store} (fetch : Fetch) (current : Nat) :
    Call.Sound change sees Anything (fetch.call current) seen store := by
  cases fetch with
  | getConfig =>
    refine .bind sound_getRevisionValue fun _ _ _ _ => ?_
    split
    · exact .pure trivial
    · exact .bind sound_getConfig fun _ _ _ _ => .pure trivial
  | registerAgent | configChanged | watchConfig =>
    exact .bind sound_getConfig fun _ _ _ _ => .pure trivial

/-- Every call is sound, and objects are written under their own identifiers. -/
theorem parties_obligations : Sessions.Obligations (evolution fun _ _ => True)
    (PartyCall.program rules) (fun _ _ => True) (fun _ _ _ _ => True) Sane
    (fun party _ => Keyed party.tx.ops) where
  kept := fun _ _ sane evolved => sane_of_evolves evolved sane
  sound := by
    intro call party store _ sane keyed
    cases call with
    | write call =>
      refine Routine.Sound.bind (sound_program (fun _ _ _ => trivial) sane keyed
        (fun _ _ _ => trivial) call) fun after _ later ended => ?_
      change Keyed after.ops
      obtain ⟨-, leaves⟩ := ended
      cases call with
      | plain context operation => exact leaves ▸ keyed
      | beginTx =>
        obtain rfl := leaves
        exact keyed_of_no_object (by simp [EtcdTransaction.begin])
      | onTx context operation => exact EtcdTransaction.Move.keyed leaves keyed
    | fetch kind =>
      have sound : Call.Sound (fun _ _ => True) (fun _ _ => True) Anything
          (kind.call party.currentRevision) [] store := sound_fetch kind _
      refine Routine.Sound.bind sound fun sent _ _ _ => ?_
      have same : (party.receive sent).tx = party.tx := by
        unfold Party.receive
        split <;> rfl
      change Keyed (party.receive sent).tx.ops
      rw [same]
      exact keyed
    | heartbeat =>
      have sound : Call.Sound (fun _ _ => True) (fun _ _ => True) Anything
          (heartbeat party.currentRevision) [] store :=
        .bind sound_getRevisionValue fun _ _ _ _ => .pure trivial
      refine Routine.Sound.bind sound fun said _ _ _ => ?_
      have same : (party.hear said).tx = party.tx := by
        unfold Party.hear
        split <;> rfl
      change Keyed (party.hear said).tx.ops
      rw [same]
      exact keyed

/-- A party remembers what it remembered before, or the content of the store. -/
def Received (old new : Party) (store : Store) : Prop :=
  new.held = old.held ∨ ∃ config, new.held = some config ∧ Content config store

theorem steady_program (call : PartyCall) (party : Party) (sane : Sane store) :
    (call.program rules party).Steady (Etcd.handle Range.covers)
      (fun taken => Tolerates (call.reading taken)) (fun new _ => Received party new) 0 store := by
  cases call with
  | write call => exact Routine.Steady.of_pure fun _ _ _ => .inl rfl
  | heartbeat =>
    refine Routine.Steady.of_pure fun said _ _ => .inl ?_
    unfold Party.hear
    split <;> rfl
  | fetch kind =>
    refine Routine.Steady.bind (steady_fetch kind party.currentRevision sane)
      fun sent _ later content => ?_
    change Received party (party.receive sent) later
    unfold Party.receive
    split
    · exact .inr ⟨_, rfl, content _ rfl⟩
    · exact .inl rfl
    · exact .inl rfl

/-- Writes that do not count keep the number. -/
theorem number_of_uncounted {ops : List Op}
    (writes : Write change store ops) (uncounted : ops.any counts = false) :
    store.number = (store.apply ops).number := by
  cases writes with
  | commit counted changes keyed => simp [counts] at uncounted
  | tend tends =>
    have kept : (store.apply ops).count = store.count :=
      value_write_of_spares (tends.spares (by simp))
    rw [Store.number, Store.number, kept]

end Reading

/-! ## Runs -/

section Runs

variable {rules : TextRules} {sessions after : Parties} {event : Sessions.Event PartyCall}

/-- The invariant of the store and the calls of all parties. -/
abbrev Parties.Secure (sessions : Parties) : Prop :=
  Sessions.Secure (evolution fun _ _ => True) (fun _ _ _ _ => True) Sane
    (fun party _ => Keyed party.tx.ops) sessions

theorem Parties.admits (sessions : Parties) (event : Sessions.Event PartyCall) :
    Sessions.Admits (fun _ _ => True) (fun _ _ _ _ => True) sessions event :=
  ⟨fun _ _ => trivial, fun _ _ => trivial⟩

/-- One event: the store grows, and its number stays where someone reads. -/
theorem step_tolerates (secure : sessions.Secure) (quiet : undisturbed sessions event)
    (moves : (parties rules).step sessions event = some after) :
    after.Secure ∧ ∀ index, Tolerates (sessions.reading index) sessions.state after.state := by
  have evolved := secure.evolves_next parties_obligations (sessions.admits event) moves
  obtain ⟨still, made⟩ := secure.next parties_obligations (sessions.admits event) moves
  refine ⟨still, fun index => ⟨grown_of_evolves evolved, sane_of_evolves evolved, ?_⟩⟩
  intro reading
  obtain same | ⟨txn, asks, writes, performed⟩ := made
  · rw [same]
  · obtain same | ⟨-, holds, wrote, written⟩ := Etcd.handle_writes Range.covers txn sessions.state
    · exact (congrArg Store.number (performed.trans same)).symm
    · have uncounted : txn.ops.any counts = false := by
        by_contra counted
        have idle := quiet txn asks holds (by simpa using counted) index
        rw [idle] at reading
        cases reading
      rw [performed.trans written]
      exact number_of_uncounted (writes holds wrote) uncounted

/-- What a party holds was the content of the store at a moment of the run, and is its content
whenever the store has the revision of it. -/
def Honest (moments : List Parties) (config : Config) : Prop :=
  (∃ moment ∈ moments, Content config moment.state) ∧
    ∀ moment ∈ moments, moment.state.number = config.revision → Content config moment.state

/-- All parties are honest, the stores of the run have grown, and nobody is disturbed. -/
structure Faithful (run : PartyRun) : Prop where
  secure : run.now.Secure
  past : ∀ moment ∈ run.moments, Sane moment.state ∧ Grown moment.state run.now.state
  steadied : Sessions.Steadied (Etcd.handle Range.covers)
    (fun call taken => Tolerates (call.reading taken))
    (fun party _ => ∀ config, party.held = some config → Honest run.moments config)
    Received run.now

theorem Honest.extend {moments : List Parties} {config : Config} (honest : Honest moments config)
    (past : ∀ moment ∈ moments, Sane moment.state ∧ Grown moment.state after.state)
    (sane : Sane after.state) : Honest (after :: moments) config := by
  obtain ⟨⟨moment, member, content⟩, always⟩ := honest
  refine ⟨⟨moment, List.mem_cons_of_mem _ member, content⟩, List.forall_mem_cons.mpr ⟨?_, always⟩⟩
  intro number
  obtain ⟨saneThen, grown⟩ := past moment member
  exact (content_congr grown (content.number.symm.trans number.symm) saneThen sane).mp content

theorem honest_of_content {moments : List Parties} {config : Config}
    (content : Content config after.state)
    (past : ∀ moment ∈ moments, Sane moment.state ∧ Grown moment.state after.state)
    (sane : Sane after.state) : Honest (after :: moments) config := by
  refine ⟨⟨after, List.mem_cons_self, content⟩, List.forall_mem_cons.mpr ⟨fun _ => content, ?_⟩⟩
  intro moment member number
  obtain ⟨saneThen, grown⟩ := past moment member
  exact (content_congr grown (number.trans content.number) saneThen sane).mpr content

theorem Faithful.step {run next : PartyRun} (faithful : Faithful run)
    (quiet : undisturbed run.now event)
    (moves : (parties rules).recorded.step run event = some next) : Faithful next := by
  obtain ⟨after, moved, rfl⟩ := Option.map_eq_some_iff.mp moves
  obtain ⟨secure, tolerates⟩ := step_tolerates faithful.secure quiet moved
  have grown := (tolerates 0).grown
  have past : ∀ moment ∈ run.moments, Sane moment.state ∧ Grown moment.state after.state :=
    fun moment member => ⟨(faithful.past moment member).1,
      (faithful.past moment member).2.trans grown⟩
  refine ⟨secure, List.forall_mem_cons.mpr ⟨⟨secure.invariant, .refl _⟩, past⟩, ?_⟩
  refine faithful.steadied.next moved ?_ ?_ ?_ ?_
  · intro party honest config held
    exact (honest config held).extend past secure.invariant
  · intro other call old seen routine different busy
    have tolerated := tolerates other
    rwa [Parties.reading, busy] at tolerated
  · intro call party _
    exact steady_program call party faithful.secure.invariant
  · intro old new honest received config held
    obtain same | ⟨sent, holds, content⟩ := received
    · exact honest config (same ▸ held)
    · cases holds.symm.trans held
      exact honest_of_content content past secure.invariant

/-- No one has called yet. -/
def Parties.start : PartyRun where
  now := ⟨Store.empty, fun _ => .idle ⟨.begin, none, false⟩⟩
  past := []

theorem faithful_start : Faithful Parties.start where
  secure := ⟨sane_empty, fun _ _ _ => keyed_of_no_object (by simp [EtcdTransaction.begin])⟩
  past := by
    intro moment member
    cases List.mem_singleton.mp member
    exact ⟨sane_empty, .refl _⟩
  steadied := ⟨fun _ _ held => (nomatch held), fun _ _ _ _ _ same => nomatch same⟩

end Runs

/-- **Honest snapshots.** In every run in which no one commits between the first and the last
read of a configuration, what a party holds was the content of the store at a moment of the
run, and is the content of the store at every moment that has its revision. -/
theorem snapshots_are_honest {rules : TextRules} {run : PartyRun}
    (reached : (parties rules).recorded.Reachable (fun run => undisturbed run.now) run)
    {index : Nat} {config : Config} (held : run.now.held index = some config) :
    (∃ moment ∈ run.moments, Content config moment.state) ∧
      ∀ moment ∈ run.moments, moment.state.number = config.revision →
        Content config moment.state := by
  have faithful : Faithful run := by
    refine reached.invariant ?_ fun _ _ _ faithful quiet moves => faithful.step quiet moves
    rintro ⟨now, past⟩ ⟨rfl, rfl⟩
    exact faithful_start
  have remembers := faithful.steadied.steady index
  unfold Parties.held at held
  split at held
  next party idle =>
    rw [idle] at remembers
    exact remembers config held
  next => cases held
  next => cases held

/-- The same condition where only the first parties do anything. -/
def undisturbedBelow (bound : Nat) (parties : Parties) (event : Sessions.Event PartyCall) : Prop :=
  event.index < bound ∧ ∀ txn ∈ parties.pending event,
    txn.conditions.all (Etcd.Compare.holds parties.state) = true →
      txn.ops.any counts = true → ∀ index < bound, parties.reading index = false

instance (bound : Nat) (parties : Parties) (event : Sessions.Event PartyCall) :
    Decidable (undisturbedBelow bound parties event) := by
  unfold undisturbedBelow
  infer_instance

theorem reachable_of_below {rules : TextRules} {bound : Nat} {run : PartyRun}
    (reached : (parties rules).recorded.Reachable (fun run => undisturbedBelow bound run.now) run) :
    (parties rules).recorded.Reachable (fun run => undisturbed run.now) run ∧
      ∀ index, bound ≤ index → run.now.reading index = false := by
  induction reached with
  | initial starts =>
    refine ⟨.initial starts, fun index _ => ?_⟩
    rw [Parties.reading, starts.1]
  | step _ meets moves ih =>
    obtain ⟨after, moved, rfl⟩ := Option.map_eq_some_iff.mp moves
    refine ⟨ih.1.step ?_ moves, fun index above => ?_⟩
    · intro txn asks holds counted index
      obtain below | above := Nat.lt_or_ge index bound
      · exact meets.2 txn asks holds counted index below
      · exact ih.2 index above
    · have different := Nat.ne_of_gt (Nat.lt_of_lt_of_le meets.1 above)
      have idle := ih.2 index above
      rwa [Parties.reading, ← Sessions.session_next _ _ moved different] at idle

theorem parties_start (rules : TextRules) (guard : PartyRun → Sessions.Event PartyCall → Prop) :
    (parties rules).recorded.Reachable guard Parties.start :=
  .initial ⟨rfl, rfl⟩

/-- An agent registers while a client adds a backend, which is committed after the last read
of the agent. -/
def readWhileAdding : List (Sessions.Event PartyCall) :=
  Sessions.callThrough 0 (.write (Operation.createVIP (.web "web" "192.0.2.1")).calls) 3 ++
  Sessions.callThrough 1 (.fetch .registerAgent) 1 ++
  Sessions.callThrough 0 (.write (Operation.addBackend (.server "b" "web" "10.0.0.1")).calls) 3 ++
  [.step 1, .step 1, .step 0]

theorem snapshots_are_honest_while_adding :
    ∃ run, (parties .lenient).recorded.run Parties.start readWhileAdding = some run ∧
      run.now.state.number = 3 ∧ ∃ config, run.now.held 1 = some config ∧ config.revision = 2 ∧
        ∃ moment ∈ run.moments, Content config moment.state := by
  obtain ⟨run, runs, number, found⟩ := (parties .lenient).recorded.exists_run_of_check
    Parties.start readWhileAdding
    (fun run => run.now.state.number = 3 ∧
      (run.now.held 1).map Config.revision = some 2) (by decide +kernel)
  have reached := (parties_start .lenient fun run => undisturbedBelow 2 run.now).run
    (by decide +kernel) runs
  obtain ⟨config, held, revision⟩ := Option.map_eq_some_iff.mp found
  exact ⟨run, runs, number, config, held, revision,
    (snapshots_are_honest (reachable_of_below reached).1 held).1⟩

/-- The number of the configuration as the source has it, an `int64`. -/
def Store.int64Number (store : Store) : Int := (store.number : Int).bmod (2 ^ 64)

/-- **Revisions identify content.** However writers, transactions and readers interleave, the
revision is never lower than at an earlier moment, and where it is the same no VIP and no backend
has changed since.  Below `2 ^ 63` it is the `int64` of the source. -/
theorem revisions_identify_content {rules : TextRules} {run : PartyRun}
    (reached : (parties rules).recorded.Reachable TransitionSystem.unguarded run)
    {moment : Parties} (member : moment ∈ run.moments) :
    moment.state.number ≤ run.now.state.number ∧
      (moment.state.number = run.now.state.number →
        (∀ id, run.now.state.vip id = moment.state.vip id) ∧
          ∀ vipID id, run.now.state.backend vipID id = moment.state.backend vipID id) ∧
      (run.now.state.number < 2 ^ 63 → moment.state.int64Number = moment.state.number) := by
  have grows : run.now.Secure ∧ ∀ moment ∈ run.moments, Grown moment.state run.now.state := by
    clear member
    induction reached with
    | @initial run starts =>
      obtain ⟨now, past⟩ := run
      obtain ⟨rfl, rfl⟩ := starts
      exact ⟨faithful_start.secure, fun moment member => (faithful_start.past moment member).2⟩
    | step _ _ moves ih =>
      obtain ⟨after, moved, rfl⟩ := Option.map_eq_some_iff.mp moves
      have evolved := ih.1.evolves_next parties_obligations (Parties.admits _ _) moved
      refine ⟨(ih.1.next parties_obligations (Parties.admits _ _) moved).1,
        List.forall_mem_cons.mpr ⟨.refl _, fun moment member => ?_⟩⟩
      exact (ih.2 moment member).trans (grown_of_evolves evolved)
  have grown := grows.2 moment member
  refine ⟨grown.number_le, fun same => ⟨grown.vip_same same, grown.backend_same same⟩, ?_⟩
  intro bound
  have := grown.number_le
  exact Int.bmod_eq_of_le (by omega) (by omega)

/-- The same, and the agent asks once more. -/
def addedWhileReading : List (Sessions.Event PartyCall) :=
  readWhileAdding ++ Sessions.callThrough 1 .heartbeat 1

theorem revisions_identify_content_while_adding :
    ∃ run, (parties .lenient).recorded.run Parties.start addedWhileReading = some run ∧
      (run.now.state.int64Number = 3 ∧
        (run.moments.filter fun moment => moment.state.number = 3).length = 3) ∧
      ∀ moment ∈ run.moments, moment.state.int64Number ≤ 3 ∧
        (moment.state.number = 3 → moment.state.vip "web" = run.now.state.vip "web") := by
  obtain ⟨run, runs, number, again⟩ := (parties .lenient).recorded.exists_run_of_check
    Parties.start addedWhileReading
    (fun run => run.now.state.number = 3 ∧
      (run.moments.filter fun moment => moment.state.number = 3).length = 3) (by decide +kernel)
  have reached := (parties_start .lenient _).run
    (TransitionSystem.meets_unguarded _ _ addedWhileReading) runs
  have known := fun moment (member : moment ∈ run.moments) =>
    revisions_identify_content reached member
  refine ⟨run, runs, ⟨?_, again⟩, fun moment member => ?_⟩
  · rw [(known run.now List.mem_cons_self).2.2 (by omega), number]
    rfl
  · obtain ⟨lower, same, int64⟩ := known moment member
    rw [int64 (by omega)]
    exact ⟨by omega, fun three => ((same (three.trans number.symm)).1 "web").symm⟩

/-- A client creates a VIP after an agent has listed the VIPs and before it reads the revision;
afterwards the agent is told that it has the latest configuration. -/
def createdWhileReading : List (Sessions.Event PartyCall) :=
  Sessions.callThrough 1 (.fetch .registerAgent) 1 ++
  Sessions.callThrough 0 (.write (Operation.createVIP (.web "web" "192.0.2.1")).calls) 3 ++
  [.step 1, .step 1] ++
  Sessions.callThrough 1 .heartbeat 1 ++
  Sessions.callThrough 1 (.fetch .getConfig) 1

theorem snapshot_without_vip :
    ∃ run, (parties .lenient).recorded.Reachable TransitionSystem.unguarded run ∧
      ∃ config, run.now.held 1 = some config ∧ run.now.state.number = config.revision ∧
        ¬ Content config run.now.state := by
  obtain ⟨run, runs, held, number, stored⟩ := (parties .lenient).recorded.exists_run_of_check
    Parties.start createdWhileReading
    (fun run => run.now.held 1 = some ⟨2, []⟩ ∧ run.now.state.number = 2 ∧
      (run.now.state.vip "web").isSome = true) (by decide +kernel)
  refine ⟨run, (parties_start .lenient _).run
    (TransitionSystem.meets_unguarded _ _ createdWhileReading) runs, _, held, number, ?_⟩
  intro content
  obtain ⟨vip, stored⟩ := Option.isSome_iff_exists.mp stored
  obtain ⟨entry, member, -⟩ := (content.vips vip).mpr ⟨"web", stored⟩
  cases member

end ArcaLB.Datastore
