import ArcaLB.DataPlane.Sound
import ArcaLB.Agent.Frame
import ArcaLB.Agent.Process

/-!
# The journal of configs

A pass saves the spec it is about to apply as pending and, once it is applied, commits it
as last applied.  The two configs of a key are all that a later process has to find what
this one left in VPP.
-/

namespace ArcaLB.Agent

open Effect (Keeps Ensures)
open DataPlane (Tuple Sound Confined Applied Touched tupleOf specTuple)

/-- A stored config names the tuple of its spec. -/
def StoredConfig.Names (config : StoredConfig) (tuple : Tuple) : Prop :=
  ∃ spec, config = .spec spec ∧ specTuple spec = .ok tuple

/-- Every tuple that was added for the key and not deleted is named by a stored config. -/
def Journaled (key : VIPKey) (node : Node) : Prop :=
  ∀ tuple, node.vpp.addedBy tuple = some key →
    ∃ config, node.store.holds key.text config ∧ config.Names tuple

/-- What holds between passes. -/
structure Logged (key : VIPKey) (node : Node) : Prop where
  sound : Sound key node.vpp
  journaled : Journaled key node

/-- What holds once the pending config is saved: what was added is the tuple of the spec
or of the config applied last. -/
structure Pending (vip : VirtualIP) (last : Option StoredConfig) (node : Node) : Prop where
  sound : Sound vip.key node.vpp
  pending : node.store.pendingConfigs.lookup vip.key.text = some (.spec vip.spec)
  lastApplied : node.store.lastConfigs.lookup vip.key.text = last
  added : ∀ tuple, node.vpp.addedBy tuple = some vip.key →
    tupleOf vip = .ok tuple ∨ ∃ config, last = some config ∧ config.Names tuple

/-- What holds once the VIP is applied: only its own tuple was added. -/
structure Current (vip : VirtualIP) (node : Node) : Prop where
  sound : Sound vip.key node.vpp
  holds : node.store.holds vip.key.text (.spec vip.spec)
  added : ∀ tuple, node.vpp.addedBy tuple = some vip.key → tupleOf vip = .ok tuple

section Pass

variable {vip : VirtualIP} {last : Option StoredConfig} {node : Node} {config : Config}
  {env : PassEnv} {healthy : List BackendSpec}

theorem Pending.logged (pending : Pending vip last node) : Logged vip.key node := by
  refine ⟨pending.sound, ?_⟩
  intro tuple holder
  rcases pending.added tuple holder with own | ⟨config, applied, names⟩
  · exact ⟨.spec vip.spec, .inr pending.pending, vip.spec, rfl, own⟩
  · exact ⟨config, .inl (pending.lastApplied.trans applied), names⟩

theorem Current.logged (current : Current vip node) : Logged vip.key node := by
  refine ⟨current.sound, ?_⟩
  intro tuple holder
  exact ⟨.spec vip.spec, current.holds, vip.spec, rfl, current.added tuple holder⟩

theorem offline_pending : Offline (Pending vip last) where
  routing := fun _ _ _ pending =>
    ⟨pending.sound, pending.pending, pending.lastApplied, pending.added⟩
  applied := fun _ _ pending => ⟨pending.sound, pending.pending, pending.lastApplied, pending.added⟩

theorem offline_current : Offline (Current vip) where
  routing := fun _ _ _ current => ⟨current.sound, current.holds, current.added⟩
  applied := fun _ _ current => ⟨current.sound, current.holds, current.added⟩

/-- A call for the VIP adds nothing but its tuple. -/
theorem added_of_confined {vpp : DataPlane.VPP} {named : Tuple → Prop}
    (confined : Confined vip (Touched vip node.vpp) node.vpp vpp)
    (added : ∀ tuple, node.vpp.addedBy tuple = some vip.key → tupleOf vip = .ok tuple ∨ named tuple)
    (tuple : Tuple) (holder : vpp.addedBy tuple = some vip.key) :
    tupleOf vip = .ok tuple ∨ named tuple := by
  rcases confined.added tuple holder with before | own
  · exact added tuple before
  · exact .inl own

/-- Applying the VIP: cut off, the two configs name what was added; done, it is the tuple
of the VIP only. -/
theorem ensures_apply (config : Config) (healthy : List BackendSpec) (now : Time)
    (pending : Pending vip last node) :
    Ensures (dataplane (DataPlane.applyVIP config.vpp vip healthy now))
      (Pending vip last) (fun _ => Current vip) node := by
  have kept : Keeps (Confined vip (Touched vip node.vpp) node.vpp)
      (DataPlane.applyVIP config.vpp vip healthy now) :=
    (Confined.writeInvariant (.inl rfl)).applyVIP healthy now
  apply Ensures.zoom
  apply ((DataPlane.ensures_applyVIP healthy now pending.sound).and_keeps kept Confined.refl).mono
  · intro vpp both
    exact ⟨both.1, pending.pending, pending.lastApplied,
      added_of_confined both.2 pending.added⟩
  · intro _ vpp both
    obtain ⟨entry, found, rfl, _⟩ := both.1.cached
    exact ⟨both.1.sound, .inr pending.pending,
      fun tuple holder => both.1.sound.ledger_eq found holder⟩

/-- Recreating the VIP adds nothing but its tuple. -/
theorem keeps_recreate :
    Keeps (Current vip) (dataplane (DataPlane.recreateVIP config.vpp vip healthy)) := by
  intro node current
  have kept : Keeps (Confined vip (Touched vip node.vpp) node.vpp)
      (DataPlane.recreateVIP config.vpp vip healthy) :=
    (Confined.writeInvariant (.inl rfl)).rebuilds.recreateVIP healthy
  have confined := kept node.vpp Confined.refl
  refine ⟨?_, current.holds, ?_⟩
  · exact DataPlane.keeps_recreateVIP healthy node.vpp current.sound
  · intro tuple holder
    rcases confined.added tuple holder with before | own
    · exact current.added tuple before
    · exact own

theorem keeps_commit : Keeps (Current vip) (commitLastConfig env vip) := by
  unfold commitLastConfig transaction
  cases env.commitErr with
  | some err => exact Keeps.fail _
  | none =>
    apply Keeps.modify
    intro node current
    refine ⟨current.sound, .inl ?_, current.added⟩
    exact AList.lookup_insert node.store.lastConfigs

/-- **Applying and committing.** -/
theorem ensures_applyAndCommit (pending : Pending vip last node)
    (rolloutHeld drainHeld routeAdvertised : Bool) :
    Ensures
      (applyAndCommit config env vip healthy rolloutHeld drainHeld routeAdvertised)
      (Logged vip.key) (fun _ => Logged vip.key) node := by
  refine ((ensures_apply config healthy env.now pending).attempt.mono
    (fun _ pending => pending.logged) fun _ _ after => after).bind ?_
  intro result next after
  cases result with
  | error err =>
    apply Keeps.ensures (Pending vip last) after fun _ pending => pending.logged
    refine Keeps.bind (Keeps.ite ((offline_pending.routes _).releaseUpdateDrain _)
      (offline_pending.route _ _)) ?_
    intro _
    exact Keeps.pure _
  | ok _ =>
    apply Keeps.ensures (Current vip) after fun _ current => current.logged
    refine Keeps.bind (Keeps.attempt keeps_commit) ?_
    intro committed
    cases committed with
    | error err =>
      refine Keeps.bind (Keeps.ite ((offline_current.routes _).releaseUpdateDrain _)
        (Keeps.pure _)) ?_
      intro _
      exact Keeps.pure _
    | ok _ =>
      refine Keeps.bind (keeps_setLastAppliedVIP offline_current.applied _) ?_
      intro _
      exact (offline_current.routes _).repairAndServe keeps_recreate _ _ _

/-- A route call between two parts of a pass. -/
theorem Pending.ensures_route (pending : Pending vip last node) (key : VIPKey)
    (call : Routing.Call) :
    Ensures (route key call) (Logged vip.key) (fun _ => Pending vip last) node :=
  (Keeps.ensures (Pending vip last) pending (fun _ kept => kept)
    (offline_pending.route key call)).mono (fun _ pending => pending.logged)
    fun _ _ pending => pending

theorem ensures_drainAndApply (pending : Pending vip last node) (rolloutHeld : Bool) :
    Ensures (drainAndApply config env vip healthy rolloutHeld) (Logged vip.key)
      (fun _ => Logged vip.key) node := by
  apply (pending.ensures_route vip.key (.beginDrain vip.spec.address true)).bind
  intro ⟨drained, drainErr⟩ next pending
  cases drainErr with
  | some err => exact pending.logged
  | none =>
    cases drained with
    | false => exact pending.logged
    | true =>
      simp only [Bool.not_true, Bool.false_eq_true, if_false]
      split
      · apply Keeps.ensures (Pending vip last) pending fun _ pending => pending.logged
        refine Keeps.bind ((offline_pending.routes _).releaseUpdateDrain _) ?_
        intro _
        exact Keeps.pure _
      · exact ensures_applyAndCommit pending _ _ _

/-- What a pass starts from: where the pending config will be replaced, the new one and
the last applied one name what was added. -/
structure Ready (env : PassEnv) (vip : VirtualIP) (node : Node) : Prop where
  logged : Logged vip.key node
  named : env.persistErr = none → ∀ tuple, node.vpp.addedBy tuple = some vip.key →
    tupleOf vip = .ok tuple ∨
      ∃ config, node.store.lastConfigs.lookup vip.key.text = some config ∧ config.Names tuple

theorem offline_ready : Offline (Ready env vip) where
  routing := fun _ _ _ ready => ⟨⟨ready.logged.sound, ready.logged.journaled⟩, ready.named⟩
  applied := fun _ _ ready => ⟨⟨ready.logged.sound, ready.logged.journaled⟩, ready.named⟩

theorem keeps_inspect :
    Keeps (Ready env vip)
      (dataplane (DataPlane.needsDrainForRetainedVIP config.vpp vip)) := by
  intro node ready
  have kept : Keeps
      (fun vpp => Sound vip.key vpp ∧ vpp.addedBy = node.vpp.addedBy)
      (DataPlane.needsDrainForRetainedVIP config.vpp vip) := by
    apply DataPlane.keeps_needsDrainForRetainedVIP
    · intro vpp rest both
      exact ⟨both.1.answered rest, both.2⟩
    · intro vpp both
      exact ⟨both.1.markVIPNeedsVerification, both.2⟩
  obtain ⟨sound, same⟩ := kept node.vpp ⟨ready.logged.sound, rfl⟩
  refine ⟨⟨sound, ?_⟩, ?_⟩
  · intro tuple holder
    exact ready.logged.journaled tuple ((congrFun same tuple).symm.trans holder)
  · intro persists tuple holder
    exact ready.named persists tuple ((congrFun same tuple).symm.trans holder)

/-- **A pass after its leases.** -/
theorem ensures_reconcileApplied (ready : Ready env vip node)
    (rolloutHeld drainBeforeApply : Bool) :
    Ensures (reconcileApplied config env vip healthy rolloutHeld drainBeforeApply)
      (Logged vip.key) (fun _ => Logged vip.key) node := by
  unfold reconcileApplied persistPendingConfig transaction
  cases persists : env.persistErr with
  | some err => exact ready.logged
  | none =>
    have pending : Pending vip (node.store.lastConfigs.lookup vip.key.text)
        { node with store := node.store.savePendingConfig vip.key.text (.spec vip.spec) } :=
      ⟨ready.logged.sound, AList.lookup_insert node.store.pendingConfigs, rfl,
        ready.named persists⟩
    apply (pending.ensures_route vip.key (.prepareAddressChange vip.spec.address)).bind
    intro ⟨advertised, routeErr⟩ next pending
    cases routeErr with
    | some err => exact pending.logged
    | none =>
      dsimp only
      split
      · exact ensures_drainAndApply pending _
      · exact ensures_applyAndCommit pending _ _ _

/-- **A whole pass keeps the journal**, wherever it is cut off. -/
theorem ensures_reconcile (ready : Ready env vip node) :
    Ensures (reconcile config env vip) (Logged vip.key) (fun _ => Logged vip.key) node := by
  apply ensures_reconcile_of (Ready env vip)
    (keeps_planVIPUpdate offline_ready.applied keeps_inspect)
  · exact fun _ ready => ready.logged
  · exact fun _ ready => ready.logged
  · exact fun _ _ _ ready => ensures_reconcileApplied ready _ _
  · exact ready

end Pass

section Runs

variable {config : Config} {key : VIPKey}

/-- The condition on a pass: where it replaces the pending config, every tuple that was
added for the key is that of the pass's spec or of the config applied last. -/
def journalGuard (key : VIPKey) (process : Process) (pass : Pass) : Prop :=
  pass.env.persistErr = none → ∀ tuple, process.node.vpp.addedBy tuple = some key →
    tupleOf pass.vip = .ok tuple ∨
      ∃ config, process.node.store.lastConfigs.lookup key.text = some config ∧ config.Names tuple

/-- **The journal is crash safe.** In every run in which no pass replaces the pending
config of a tuple that only this config names, every tuple that was added for the VIP and
not deleted is named by the pending or the last applied config, also where the process
was cut off. -/
theorem added_tuples_journaled {process : Process}
    (reached : (passes config key).Reachable (journalGuard key) process) :
    Journaled key process.node := by
  have logged : Logged key process.node := by
    apply reached.invariant
    · intro process fresh
      constructor
      · constructor
        · simp [fresh.addedBy]
        · simp [fresh.vips]
      · intro tuple holder
        simp [fresh.addedBy] at holder
    · intro process pass next logged meets moves
      obtain ⟨_, rfl, rfl⟩ := passes_step moves
      have ready : Ready pass.env pass.vip
          (process.node.answered pass.routerReplies pass.vppReplies) :=
        ⟨⟨logged.sound.answered _, logged.journaled⟩, meets⟩
      exact (ensures_reconcile ready).last
  exact logged.journaled

/-- A pass for the web VIP at `address` that fails to add its backend. -/
def backendRefused (address : String) : Pass where
  vip := .web .web "1" address
  routerReplies := List.replicate 6 ⟨0, none⟩
  vppReplies := [.ok, .ok, .ok, .refused (-1)]

/-- A pass for the web VIP at `address` that is cut off at its first router call. -/
def cutOff (address : String) : Pass where
  vip := .web .web "2" address

/-- The tuple of a pass that failed on its backend is in the journal. -/
theorem added_tuples_journaled_refused :
    ∃ process, (passes .plain .web).run ⟨.empty, true⟩ [backendRefused "192.0.2.1"] =
        some process ∧
      process.node.vpp.addedBy ⟨.v4 192 0 2 1, 6, 80⟩ = some .web ∧
      Journaled .web process.node := by
  obtain ⟨process, runs, added⟩ := (passes .plain .web).exists_run_of_check ⟨.empty, true⟩
    [backendRefused "192.0.2.1"]
    (fun process => process.node.vpp.addedBy ⟨.v4 192 0 2 1, 6, 80⟩ = some .web)
    (by decide +kernel)
  have meets : (passes .plain .web).Meets (journalGuard .web) ⟨.empty, true⟩
      [backendRefused "192.0.2.1"] := by
    refine ⟨?_, ?_⟩
    · intro _ tuple holder
      cases holder
    · split <;> trivial
  have starts : (passes .plain .web).Reachable (journalGuard .web) ⟨.empty, true⟩ :=
    .initial Process.fresh_empty
  exact ⟨process, runs, added, added_tuples_journaled (starts.run meets runs)⟩

/-- **A tuple falls out of the journal.** The first pass adds its tuple and fails on the
backend, so its spec is only pending; the pass for the next spec overwrites it and is cut
off before the old tuple is deleted. -/
theorem pending_config_overwritten :
    ∃ process, (passes .plain .web).run ⟨.empty, true⟩
        [backendRefused "192.0.2.1", cutOff "192.0.2.2"] = some process ∧
      ¬ Journaled .web process.node := by
  obtain ⟨process, runs, added, last, pending⟩ :=
    (passes .plain .web).exists_run_of_check ⟨.empty, true⟩
      [backendRefused "192.0.2.1", cutOff "192.0.2.2"]
      (fun process =>
        process.node.vpp.addedBy ⟨.v4 192 0 2 1, 6, 80⟩ = some .web ∧
        process.node.store.lastConfigs.lookup VIPKey.web.text = none ∧
        process.node.store.pendingConfigs.lookup VIPKey.web.text =
          some (.spec (VirtualIP.web .web "2" "192.0.2.2").spec))
      (by decide +kernel)
  refine ⟨process, runs, ?_⟩
  intro journaled
  obtain ⟨config, holds, spec, rfl, named⟩ := journaled _ added
  rcases holds with applied | saved
  · rw [last] at applied
    cases applied
  · rw [pending, Option.some.injEq, StoredConfig.spec.injEq] at saved
    subst saved
    revert named
    decide +kernel

end Runs

end ArcaLB.Agent
