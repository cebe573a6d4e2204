import ArcaLB.Library.IPText
import ArcaLB.HealthCheck.Tracking
import ArcaLB.Agent.Frame
import ArcaLB.Agent.Process

/-!
# Health records of deleted VIPs

A delete event stops the checks of a VIP, and the cleanup that follows deletes its health
records.  The record of a result that was judged before the stop may still be on its way to
the store; if it arrives after the cleanup, it stays.  Otherwise nothing of the VIP is left,
and a VIP that is created later under its name starts anew.
-/

namespace ArcaLB

/-- Names as Kubernetes allows them have no slash. -/
def VIPKey.Plain (key : VIPKey) : Prop :=
  '/' ∉ key.space.toList ∧ '/' ∉ key.name.toList

instance (key : VIPKey) : Decidable key.Plain :=
  inferInstanceAs (Decidable (_ ∧ _))

namespace Agent

open Store (belongsTo hcKey)

/-- The records of a VIP belong to it. -/
theorem belongsTo_hcKey (key address : String) : belongsTo key (hcKey key address) = true := by
  rw [belongsTo, List.isPrefixOf_iff_prefix]
  exact ⟨address.toList, String.toList_append.symm⟩

/-- The records of other VIPs do not. -/
theorem key_of_belongsTo {key other : VIPKey} (plain : key.Plain) (also : other.Plain)
    {address : String} (belongs : belongsTo key.text (hcKey other.text address) = true) :
    key = other := by
  rw [belongsTo, List.isPrefixOf_iff_prefix] at belongs
  obtain ⟨rest, same⟩ := belongs
  have slash : "/".toList = ['/'] := rfl
  simp only [hcKey, VIPKey.text, String.toList_append, slash, List.append_assoc,
    List.cons_append, List.nil_append] at same
  obtain ⟨space, same⟩ := List.eq_of_append_separator plain.1 also.1 same
  obtain ⟨name, -⟩ := List.eq_of_append_separator plain.2 also.2 same
  exact congrArg₂ VIPKey.mk (String.toList_inj.mp space) (String.toList_inj.mp name)

/-- The records that are left after those of a VIP were deleted. -/
theorem mem_deleteHealthStatesForVIP (store : Store) (key record : String) :
    record ∈ (store.deleteHealthStatesForVIP key).healthStates ↔
      record ∈ store.healthStates ∧ belongsTo key record = false := by
  rw [Store.deleteHealthStatesForVIP, AList.mem_foldl_erase, List.mem_filter, AList.mem_keys]
  simp only [not_and, Bool.not_eq_true]
  exact ⟨fun left => ⟨left.1, left.2 left.1⟩, fun left => ⟨left.1, fun _ => left.2⟩⟩

section Cleanup

variable {config : Config} {env : DeleteEnv} {vip : VirtualIP} {before next : Node}

/-- No health record is new. -/
def Shrunk (before next : Node) : Prop :=
  ∀ record ∈ next.store.healthStates, record ∈ before.store.healthStates

/-- The health records are as before. -/
def Untouched (before next : Node) : Prop :=
  next.store.healthStates = before.store.healthStates

theorem Untouched.shrunk (untouched : Untouched before next) : Shrunk before next := by
  intro record member
  rwa [untouched] at member

theorem ensures_untouched {α : Type} {body : Effect Node Empty α}
    (kept : Effect.Keeps (Untouched before) body) (untouched : Untouched before next) :
    Effect.Ensures body (Shrunk before) (fun _ => Untouched before) next :=
  (Effect.Keeps.ensures (Untouched before) untouched (fun _ same => same) kept).mono
    (fun _ untouched => untouched.shrunk) fun _ _ untouched => untouched

/-- What a cleanup does to the health records: it adds none, and if it succeeds, with a
transaction that does not fail, it leaves none of the VIP. -/
theorem ensures_healthStates :
    Effect.Ensures (handleDelete config env vip) (Shrunk before)
      (fun succeeded next => Shrunk before next ∧
        (succeeded = true → env.deleteHealthErr = none →
          ∀ record ∈ next.store.healthStates, belongsTo vip.key.text record = false)) before := by
  refine (ensures_untouched (fun _ same => same) rfl).bind ?_
  rintro ⟨_, routeErr⟩ next untouched
  cases routeErr with
  | some err => exact ⟨untouched.shrunk, by simp⟩
  | none =>
    have removes : Effect.Keeps (Untouched before)
        (dataplane (DataPlane.removeVIP config.vpp vip)) := fun _ same => same
    refine (ensures_untouched (Effect.Keeps.attempt removes) untouched).bind ?_
    intro removed next untouched
    cases removed with
    | error err => exact ⟨untouched.shrunk, by simp⟩
    | ok _ =>
      refine (ensures_untouched (keeps_tryTransaction fun _ same => same) untouched).bind ?_
      intro _ next untouched
      refine (ensures_untouched (keeps_tryTransaction fun _ same => same) untouched).bind ?_
      intro _ next untouched
      unfold tryTransaction
      cases env.deleteHealthErr with
      | some err => exact ⟨untouched.shrunk, by simp⟩
      | none =>
        have left := mem_deleteHealthStatesForVIP next.store vip.key.text
        refine ⟨fun record member => ?_, fun _ _ record member => ?_⟩
        · exact untouched.shrunk record ((left record).mp member).1
        · exact ((left record).mp member).2

end Cleanup

end Agent

namespace HealthCheck

open Agent.Store (belongsTo hcKey)

variable (rules : TextRules)

/-- The cleanup reports success, and its transaction on the health records does not fail. -/
def Checks.cleansUp (checks : Checks) (config : Agent.Config) (env : Agent.DeleteEnv)
    (vip : VirtualIP) (node : Agent.Node) : Bool :=
  (checks.cleanup config env vip node).1 = .ok true && env.deleteHealthErr.isNone

/-- The cleanup after a deletion of the VIP has succeeded while its checks were stopped, and they
were not started again since. -/
def cleaned (key : String) : History → Bool
  | [] => false
  | step :: past =>
    match accepted rules step with
    | some start => if start.key = key then false else cleaned key past
    | none =>
      match step.2 with
      | .cleanup config env vip node =>
        (vip.key.text = key && step.1.cleansUp config env vip node &&
          (running rules key past).isNone) || cleaned key past
      | _ => cleaned key past

/-- A cleanup runs only while no record of the VIP is on its way to the store; objects have plain
names. -/
def savedFirst (checks : Checks) (event : Event) : Prop :=
  match event with
  | .startVIP _ vip | .updateVIP _ vip => vip.key.Plain
  | .cleanup _ _ vip _ =>
    ∀ handling ∈ checks.handling, handling.saved = true ∨ handling.vipKey ≠ vip.key.text
  | _ => True

instance (checks : Checks) (event : Event) : Decidable (savedFirst checks event) := by
  unfold savedFirst
  split <;> infer_instance

section Steps

variable {rules : TextRules} {key : String} {before : Checks} {event : Event} {past : History}
  {start : Start}

/-- How a step changes which configuration is in force. -/
theorem running_cases (rules : TextRules) (key : String) (step : Checks × Event) (past : History) :
    (∃ start, accepted rules step = some start ∧ start.key = key ∧
      running rules key (step :: past) = some (epochs rules past + 1, start)) ∨
    running rules key (step :: past) = none ∨
      running rules key (step :: past) = running rules key past := by
  rw [running]
  split
  next start accepts =>
    split
    next same => exact .inl ⟨start, accepts, same, rfl⟩
    next => exact .inr (.inr rfl)
  next =>
    split
    · split
      · exact .inr (.inl rfl)
      · exact .inr (.inr rfl)
    · exact .inr (.inr rfl)

theorem vip_of_acceptedCall {env : StartEnv} {vip : VirtualIP}
    (accepts : acceptedCall rules before env vip = some start) : start.vip = vip := by
  unfold acceptedCall at accepts
  split at accepts
  · cases accepts
  · split at accepts <;> cases accepts
    rfl

theorem plain_of_accepted (meets : savedFirst before event)
    (accepts : accepted rules (before, event) = some start) : start.vip.key.Plain := by
  cases event with
  | startVIP env vip | updateVIP env vip =>
    rw [vip_of_acceptedCall accepts]
    exact meets
  | stopVIP | result | persist | notify | cleanup => cases accepts

/-- A VIP that is cleaned was so before, or has just been cleaned up; it was not started. -/
theorem cleaned_cases (clean : cleaned rules key ((before, event) :: past) = true) :
    (∀ start, accepted rules (before, event) = some start → start.key ≠ key) ∧
      (cleaned rules key past = true ∨
        ∃ config env vip node, event = .cleanup config env vip node ∧ vip.key.text = key ∧
          before.cleansUp config env vip node = true ∧ running rules key past = none) := by
  rw [cleaned] at clean
  split at clean
  next start accepts =>
    split at clean
    next => cases clean
    next different =>
      refine ⟨fun other also => ?_, .inl clean⟩
      cases accepts.symm.trans also
      exact different
  next refused =>
    refine ⟨fun start accepts => (nomatch refused.symm.trans accepts), ?_⟩
    split at clean
    next config env vip node cleanup =>
      simp only [Bool.or_eq_true, Bool.and_eq_true, decide_eq_true_eq,
        Option.isNone_iff_eq_none] at clean
      obtain ⟨⟨same, cleans⟩, stopped⟩ | clean := clean
      · exact .inr ⟨config, env, vip, node, cleanup, same, cleans, stopped⟩
      · exact .inl clean
    next => exact .inl clean

/-- The checks of a cleaned VIP are stopped. -/
theorem stopped_of_cleaned (stopped : cleaned rules key past = true → running rules key past = none)
    (clean : cleaned rules key ((before, event) :: past) = true) :
    running rules key ((before, event) :: past) = none := by
  obtain ⟨others, was⟩ := cleaned_cases clean
  have stoppedBefore : running rules key past = none := by
    obtain was | ⟨_, _, _, _, -, -, -, stopped⟩ := was
    · exact stopped was
    · exact stopped
  obtain ⟨start, accepts, same, -⟩ | stops | keeps :=
    running_cases rules key (before, event) past
  · exact absurd same (others start accepts)
  · exact stops
  · exact keeps.trans stoppedBefore

/-- A configuration leaves the store and the result in progress alone. -/
theorem configureVIP_frame (rules : TextRules) (checks : Checks) (env : StartEnv)
    (vip : VirtualIP) :
    (configureVIP rules env vip checks).2.store = checks.store ∧
      (configureVIP rules env vip checks).2.handling = checks.handling := by
  obtain ⟨-, same⟩ | ⟨start, prober, -, configured⟩ := @configureVIP_cases rules checks env vip
  · rw [same]
    exact ⟨rfl, rfl⟩
  · rw [configured]
    exact ⟨rfl, rfl⟩

/-- What is known of the records of a VIP, of running VIPs and of the record that is on its way
to the store. -/
structure Tidied (rules : TextRules) (key : VIPKey) (run : Run) : Prop where
  conforms : Conforms rules run
  plain : ∀ text epoch start, running rules text run.past = some (epoch, start) →
    start.vip.key.Plain ∧ start.key = text
  named : ∀ handling ∈ run.now.handling, handling.saved = false →
    ∃ other : VIPKey, other.Plain ∧ handling.vipKey = other.text
  stopped : cleaned rules key.text run.past = true → running rules key.text run.past = none
  gone : cleaned rules key.text run.past = true →
    ∀ record ∈ run.now.store.healthStates, belongsTo key.text record = false
  elsewhere : cleaned rules key.text run.past = true →
    ∀ handling ∈ run.now.handling, handling.saved = false → handling.vipKey ≠ key.text

variable {own : VIPKey} {run next : Run}

/-- What is left to show of a step. -/
theorem Tidied.extend (tidied : Tidied rules own run) (meets : savedFirst run.now event)
    {after : Checks} (conforms : Conforms rules ⟨after, (run.now, event) :: run.past⟩)
    (named : ∀ handling ∈ after.handling, handling.saved = false →
      ∃ other : VIPKey, other.Plain ∧ handling.vipKey = other.text)
    (gone : cleaned rules own.text ((run.now, event) :: run.past) = true →
      ∀ record ∈ after.store.healthStates, belongsTo own.text record = false)
    (elsewhere : cleaned rules own.text ((run.now, event) :: run.past) = true →
      ∀ handling ∈ after.handling, handling.saved = false → handling.vipKey ≠ own.text) :
    Tidied rules own ⟨after, (run.now, event) :: run.past⟩ := by
  refine ⟨conforms, fun text epoch start runs => ?_, named, stopped_of_cleaned tidied.stopped, gone,
    elsewhere⟩
  obtain ⟨other, accepts, same, started⟩ | stops | keeps :=
    running_cases rules text (run.now, event) run.past
  · cases started.symm.trans runs
    exact ⟨plain_of_accepted meets accepts, same⟩
  · cases stops.symm.trans runs
  · exact tidied.plain text epoch start (keeps.symm.trans runs)

/-- Nothing but a cleanup makes a VIP cleaned. -/
theorem cleaned_before (noCleanup : ∀ config env vip node, event ≠ .cleanup config env vip node)
    (clean : cleaned rules key ((before, event) :: past) = true) :
    cleaned rules key past = true := by
  obtain ⟨-, was | ⟨config, env, vip, node, same, -⟩⟩ := cleaned_cases clean
  · exact was
  · exact absurd same (noCleanup config env vip node)

/-- An event that leaves the store and the result in progress alone. -/
theorem Tidied.keep (tidied : Tidied rules own run) (meets : savedFirst run.now event)
    {after : Checks} (conforms : Conforms rules ⟨after, (run.now, event) :: run.past⟩)
    (store : after.store = run.now.store) (handling : after.handling = run.now.handling)
    (noCleanup : ∀ config env vip node, event ≠ .cleanup config env vip node) :
    Tidied rules own ⟨after, (run.now, event) :: run.past⟩ := by
  refine tidied.extend meets conforms ?_ (fun clean => ?_) fun clean => ?_
  · rw [handling]
    exact tidied.named
  · rw [store]
    exact tidied.gone (cleaned_before noCleanup clean)
  · rw [handling]
    exact tidied.elsewhere (cleaned_before noCleanup clean)

/-- A record that is on its way to the store is of a running VIP. -/
theorem Tidied.running_of_judged (tidied : Tidied rules own run) {result : ProbeResult}
    {handling : Handling} (judged : (handleResult result run.now.engine).2 = some handling) :
    ∃ epoch start, running rules handling.vipKey run.past = some (epoch, start) := by
  obtain ⟨-, handled⟩ | ⟨state, backend, found, -, -, handled⟩ :=
    tidied.conforms.tracks.handleResult_cases result
  · cases (congrArg Prod.snd handled).symm.trans judged
  · cases (congrArg Prod.snd handled).symm.trans judged
    obtain ⟨start, runs, -, -⟩ := tidied.conforms.tracks.runs _ state found
    exact ⟨state.epoch, start, runs⟩

theorem Tidied.step (plain : own.Plain) (tidied : Tidied rules own run)
    (meets : savedFirst run.now event)
    (moves : (checks rules).recorded.step run event = some next) : Tidied rules own next := by
  have conforms := tidied.conforms.step moves
  obtain ⟨after, moved, rfl⟩ := Option.map_eq_some_iff.mp moves
  cases event with
  | startVIP env vip | updateVIP env vip =>
    cases moved
    have frame := configureVIP_frame rules run.now env vip
    exact tidied.keep meets conforms frame.1 frame.2 (by simp)
  | stopVIP vipKey =>
    cases moved
    exact tidied.keep meets conforms rfl rfl (by simp)
  | result result =>
    simp only [checks, Checks.next] at moved
    split at moved <;> cases moved
    refine tidied.extend meets conforms (fun handling judged _ => ?_)
      (fun clean => tidied.gone (cleaned_before (by simp) clean))
      fun clean handling judged _ same => ?_
    · obtain ⟨epoch, start, runs⟩ := tidied.running_of_judged judged
      obtain ⟨plain, same⟩ := tidied.plain _ epoch start runs
      exact ⟨start.vip.key, plain, same.symm⟩
    · obtain ⟨epoch, start, runs⟩ := tidied.running_of_judged judged
      rw [same, tidied.stopped (cleaned_before (by simp) clean)] at runs
      cases runs
  | persist saves =>
    simp only [checks, Checks.next] at moved
    split at moved
    next handling busy =>
      split at moved <;> cases moved
      next unsaved =>
        have unsaved := Bool.eq_false_iff.mpr unsaved
        refine tidied.extend meets conforms ?_ (fun clean record member => ?_) ?_
        · rintro _ ⟨⟩ ⟨⟩
        · have clean := cleaned_before (by simp) clean
          dsimp only at member
          split at member
          next =>
            obtain rfl | member := (AList.mem_insert _).mp member
            · obtain ⟨other, also, named⟩ := tidied.named handling busy unsaved
              refine Bool.eq_false_iff.mpr fun belongs => ?_
              rw [named] at belongs
              have same := Agent.key_of_belongsTo plain also belongs
              exact tidied.elsewhere clean handling busy unsaved (same ▸ named)
            · exact tidied.gone clean record member
          next => exact tidied.gone clean record member
        · rintro _ _ ⟨⟩ ⟨⟩
    next => cases moved
  | notify =>
    simp only [checks, Checks.next] at moved
    split at moved
    next handling busy =>
      split at moved <;> cases moved
      exact tidied.extend meets conforms (by simp)
        (fun clean => tidied.gone (cleaned_before (by simp) clean)) (by simp)
    next => cases moved
  | cleanup config env vip node =>
    simp only [checks, Checks.next] at moved
    split at moved <;> cases moved
    next succeeded left ended =>
      obtain ⟨shrunk, deleted⟩ := Agent.ensures_healthStates.returned ended
      refine tidied.extend meets conforms tidied.named (fun clean record member => ?_)
        fun clean handling busy unsaved => ?_
      · obtain ⟨-, was | ⟨_, _, _, _, same, key, cleans, -⟩⟩ := cleaned_cases clean
        · exact tidied.gone was record (shrunk record member)
        · cases same
          rw [Checks.cleansUp, ended] at cleans
          obtain ⟨rfl, ok⟩ : succeeded = true ∧ env.deleteHealthErr = none := by
            simpa using cleans
          exact key ▸ deleted rfl ok record member
      · obtain ⟨-, was | ⟨_, _, _, _, same, key, -, -⟩⟩ := cleaned_cases clean
        · exact tidied.elsewhere was handling busy unsaved
        · cases same
          rw [← key]
          exact (meets handling busy).resolve_left (by simp [unsaved])

theorem tidied_of_reachable (plain : own.Plain)
    (reached : (checks rules).recorded.Reachable (fun run => savedFirst run.now) run) :
    Tidied rules own run := by
  refine reached.invariant ?_ fun _ _ _ tidied meets moves => tidied.step plain meets moves
  rintro ⟨now, past⟩ ⟨fresh, rfl⟩
  refine ⟨conforms_of_reachable (.initial ⟨fresh, rfl⟩), fun _ _ _ runs => (nomatch runs),
    fun handling busy => ?_, fun clean => (nomatch clean), fun clean => (nomatch clean),
    fun clean => (nomatch clean)⟩
  rw [fresh.handling] at busy
  cases busy

end Steps

/-- **Nothing is left of a deleted VIP.** In every run in which no cleanup runs while a record of
its VIP is on its way to the store: once the cleanup of a VIP has succeeded, the store has no
health record of it until its checks are started again, and then all its backends start anew. -/
theorem no_health_record_after_cleanup {run : Run}
    (reached : (checks rules).recorded.Reachable (fun run => savedFirst run.now) run)
    {key : VIPKey} (plain : key.Plain) (clean : cleaned rules key.text run.past = true) :
    (∀ record ∈ run.now.store.healthStates, belongsTo key.text record = false) ∧
      ∀ env vip start, vip.key = key → acceptedCall rules run.now env vip = some start →
        ∀ address ∈ start.addresses,
          (updateVIP rules env vip run.now).2.engine.standing key.text address =
            some ⟨.unknown, 0, 0⟩ := by
  have tidied := tidied_of_reachable plain reached
  have gone := tidied.gone clean
  refine ⟨gone, fun env vip start same accepts address configured => ?_⟩
  have own : start.key = key.text := by rw [Start.key, vip_of_acceptedCall accepts, same]
  have untracked : run.now.engine.vips.lookup key.text = none := by
    cases found : run.now.engine.vips.lookup key.text with
    | none => rfl
    | some state =>
      obtain ⟨_, runs, -, -⟩ := tidied.conforms.tracks.runs _ state found
      cases (tidied.stopped clean).symm.trans runs
  have unrecorded : run.now.store.loadHealthState key.text address = none := by
    have missing : hcKey key.text address ∉ run.now.store.healthStates := fun member => by
      cases (Agent.belongsTo_hcKey key.text address).symm.trans (gone _ member)
    rw [Agent.Store.loadHealthState, AList.lookup_eq_none.mpr missing]
    rfl
  obtain ⟨refused, -⟩ | ⟨other, prober, also, updated⟩ := @configureVIP_cases rules run.now env vip
  · cases refused.symm.trans accepts
  · cases also.symm.trans accepts
    have standing : run.now.engine.standing start.key address = none := by
      rw [Engine.standing, Engine.backend, own, untracked]
      rfl
    have origin : start.origin run.now.store address = ⟨.unknown, 0, 0⟩ := by
      simp [Start.origin, restored, own, unrecorded]
    change (configureVIP rules env vip run.now).2.engine.standing key.text address = _
    rw [updated, ← own, standing_replaceVIP, if_pos configured, standing, origin]
    rfl

/-- The cleanup of the watched VIP on a node that holds nothing of it. -/
def cleanUp : Event :=
  .cleanup .plain {} (watched ["10.0.0.1"])
    (Agent.Node.empty.answered (List.replicate 6 ⟨0, none⟩) [.ok])

/-- A result is judged and saved before the checks are stopped and the VIP is cleaned up. -/
def savedBeforeCleanup : List Event :=
  [.updateVIP ⟨0, fun _ => true⟩ (watched ["10.0.0.1"])] ++ handled 1 true ++ handled 1 true ++
  [.stopVIP VIPKey.web.text, cleanUp]

theorem no_health_record_after_cleanup_saved :
    ∃ run, (checks .lenient).recorded.run ⟨.start, []⟩ savedBeforeCleanup = some run ∧
      changes .lenient run.past = [⟨VIPKey.web.text, "10.0.0.1", .unknown, .up⟩] ∧
      ∀ record ∈ run.now.store.healthStates, belongsTo VIPKey.web.text record = false := by
  obtain ⟨run, runs, changed, clean⟩ := (checks .lenient).recorded.exists_run_of_check ⟨.start, []⟩
    savedBeforeCleanup
    (fun run => changes .lenient run.past = [⟨VIPKey.web.text, "10.0.0.1", .unknown, .up⟩] ∧
      cleaned .lenient VIPKey.web.text run.past = true) (by decide +kernel)
  have initially : (checks .lenient).recorded.Reachable (fun run => savedFirst run.now)
      ⟨.start, []⟩ := .initial ⟨⟨rfl, rfl, rfl, rfl⟩, rfl⟩
  have reached := initially.run (by decide +kernel) runs
  exact ⟨run, runs, changed, (no_health_record_after_cleanup .lenient reached (by decide) clean).1⟩

/-- The second success is judged before the checks are stopped, and saved after the cleanup. -/
def savedAfterCleanup : List Event :=
  [.updateVIP ⟨0, fun _ => true⟩ (watched ["10.0.0.1"])] ++ handled 1 true ++
  [.result ⟨VIPKey.web.text, 1, "10.0.0.1", true, 1⟩, .stopVIP VIPKey.web.text, cleanUp,
    .persist true, .notify]

/-- **A late record.** With the cleanup over and no result in progress, the store has a record of
the deleted VIP, and a VIP of the same name starts with a backend that is up. -/
theorem health_record_after_cleanup :
    ∃ run, (checks .lenient).recorded.Reachable TransitionSystem.unguarded run ∧
      cleaned .lenient VIPKey.web.text run.past = true ∧ run.now.handling = none ∧
      (hcKey VIPKey.web.text "10.0.0.1") ∈ run.now.store.healthStates ∧
      (updateVIP .lenient ⟨0, fun _ => true⟩ (watched ["10.0.0.1"]) run.now).2.engine.standing
        VIPKey.web.text "10.0.0.1" = some ⟨.up, 2, 0⟩ := by
  obtain ⟨run, runs, clean, free, found, starts⟩ :=
    (checks .lenient).recorded.exists_run_of_check ⟨.start, []⟩ savedAfterCleanup
    (fun run => cleaned .lenient VIPKey.web.text run.past = true ∧ run.now.handling = none ∧
      (hcKey VIPKey.web.text "10.0.0.1") ∈ run.now.store.healthStates ∧
      (updateVIP .lenient ⟨0, fun _ => true⟩ (watched ["10.0.0.1"]) run.now).2.engine.standing
        VIPKey.web.text "10.0.0.1" = some ⟨.up, 2, 0⟩) (by decide +kernel)
  exact ⟨run, (checks_start .lenient).run (TransitionSystem.meets_unguarded _ _ _) runs, clean,
    free, found, starts⟩

end HealthCheck

end ArcaLB
