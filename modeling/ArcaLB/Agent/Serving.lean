import ArcaLB.DataPlane.Sound
import ArcaLB.Agent.Frame
import ArcaLB.Agent.Process

/-!
# Serving and the data plane

While the coordinator records a VIP as serving its address, the node attracts traffic for
it.  The pass must therefore leave the record in line with the data plane at each of its
ends.
-/

namespace ArcaLB.Agent

open Effect (Keeps Ensures)
open DataPlane (VPP Sound Applied tupleOf)
open Routing (Tracks)

/-- The coordinator records the VIP as serving on the address. -/
def Serves (key : VIPKey) (node : Node) (address : String) : Prop :=
  node.routing.coordinator.marks key address = some true

/-- The cache has the VIP on the address with a backend. -/
def Backed (key : VIPKey) (vpp : VPP) (address : String) : Prop :=
  ∃ entry, vpp.vips key = some entry ∧ entry.vip.spec.address = address ∧
    entry.backends.keys ≠ []

/-- The VIP serves only where the cache has it with a backend. -/
structure Covered (key : VIPKey) (node : Node) : Prop where
  sound : Sound key node.vpp
  tracks : Tracks key node.routing.coordinator
  backed : ∀ address, Serves key node address → Backed key node.vpp address

/-- The VIP serves nowhere. -/
structure Silent (key : VIPKey) (node : Node) : Prop where
  sound : Sound key node.vpp
  tracks : Tracks key node.routing.coordinator
  idle : ∀ address, ¬ Serves key node address

/-- The VIP is applied and serves, if at all, on its own address. -/
structure Live (vip : VirtualIP) (healthy : List BackendSpec) (node : Node) : Prop where
  applied : Applied vip healthy node.vpp
  tracks : Tracks vip.key node.routing.coordinator
  only : ∀ address, Serves vip.key node address → address = vip.spec.address

section Facts

variable {vip : VirtualIP} {healthy : List BackendSpec} {node next : Node}

theorem Silent.covered {key : VIPKey} (silent : Silent key node) : Covered key node :=
  ⟨silent.sound, silent.tracks, fun address serves => absurd serves (silent.idle address)⟩

theorem Applied.backed {vpp : VPP} (applied : Applied vip healthy vpp) (some_ : healthy ≠ []) :
    Backed vip.key vpp vip.spec.address := by
  obtain ⟨entry, found, same, listed⟩ := applied.cached
  exact ⟨entry, found, by rw [same], listed some_⟩

theorem Live.covered (live : Live vip healthy node) (some_ : healthy ≠ []) :
    Covered vip.key node := by
  refine ⟨live.applied.sound, live.tracks, ?_⟩
  intro address serves
  rw [live.only address serves]
  exact Applied.backed live.applied some_

end Facts

section Calls

variable {vip : VirtualIP} {healthy : List BackendSpec} {node : Node} {key : VIPKey}

/-- What a route call leaves. -/
structure Routed (key : VIPKey) (call : Routing.Call) (node : Node)
    (returned : Bool × Option String) (next : Node) : Prop where
  vpp : next.vpp = node.vpp
  tracks : Tracks key next.routing.coordinator
  leaves : call.Leaves (node.routing.coordinator.marks key) returned.1 returned.2
    (next.routing.coordinator.marks key)

theorem ensures_route (call : Routing.Call) (tracks : Tracks key node.routing.coordinator) :
    Ensures (route key call) (fun _ => True) (Routed key call node) node := by
  apply Ensures.zoom
  apply (Routing.ensures_perform_marks call tracks).imp
  intro returned next after
  exact ⟨rfl, after.1, after.2⟩

/-- Setting the VIP not serving silences it. -/
theorem ensures_release (named : vip.spec.address ≠ "") (serving : Bool)
    (sound : Sound vip.key node.vpp) (tracks : Tracks vip.key node.routing.coordinator)
    (backed : serving = true → Backed vip.key node.vpp vip.spec.address) :
    Ensures (releaseUpdateDrain vip serving) (fun _ => True)
      (fun _ => Covered vip.key) node := by
  apply (ensures_route (.setServing vip.spec.address serving) tracks).bind
  intro ⟨advertised, setErr⟩ middle set
  have covered : Covered vip.key middle := by
    refine ⟨set.vpp ▸ sound, set.tracks, ?_⟩
    intro address serves
    obtain ⟨rfl, serving_⟩ := set.leaves named address serves
    rw [set.vpp]
    exact backed serving_
  cases setErr with
  | some err => exact covered
  | none =>
    apply (ensures_route (.finishDrain vip.spec.address) set.tracks).imp
    intro _ next finished
    refine ⟨finished.vpp ▸ covered.sound, finished.tracks, ?_⟩
    intro address serves
    have same : next.routing.coordinator.marks vip.key = _ := finished.leaves
    rw [finished.vpp]
    exact covered.backed address ((congrFun same address).symm.trans serves)

/-- A call that only takes marks away keeps the VIP covered. -/
theorem Covered.of_fewer {next : Node} (covered : Covered key node) (vpp : next.vpp = node.vpp)
    (tracks : Tracks key next.routing.coordinator)
    (fewer : ∀ address, Serves key next address → Serves key node address) : Covered key next := by
  refine ⟨vpp ▸ covered.sound, tracks, ?_⟩
  intro address serves
  rw [vpp]
  exact covered.backed address (fewer address serves)

/-- Beginning a drain: the VIP is silent unless the drain is refused. -/
theorem ensures_beginDrain (named : vip.spec.address ≠ "") (force : Bool)
    (sound : Sound vip.key node.vpp) (tracks : Tracks vip.key node.routing.coordinator) :
    Ensures (route vip.key (.beginDrain vip.spec.address force)) (fun _ => True)
      (fun returned next => next.vpp = node.vpp ∧ Tracks vip.key next.routing.coordinator ∧
        (∀ address, Serves vip.key next address → Serves vip.key node address) ∧
        (returned.1 = true ∨ returned.2 ≠ none → Silent vip.key next)) node := by
  apply (ensures_route (.beginDrain vip.spec.address force) tracks).imp
  intro returned next routed
  obtain ⟨fewer, idle⟩ := routed.leaves named
  exact ⟨routed.vpp, routed.tracks, fewer,
    fun ended => ⟨routed.vpp ▸ sound, routed.tracks, idle ended⟩⟩

end Calls

section Repair

variable {config : Config} {env : PassEnv} {vip : VirtualIP} {healthy : List BackendSpec}
  {node : Node}

/-- What a repair leaves.  Unless it is blocked, a repair that fails or is `late` leaves every
served address covered. -/
structure Mended (vip : VirtualIP) (healthy : List BackendSpec) (late : Prop)
    (returned : TuningDriftRepairResult × Option String) (node : Node) : Prop where
  sound : Sound vip.key node.vpp
  tracks : Tracks vip.key node.routing.coordinator
  applied : returned.1.blocked = true ∨ returned.2 = none → Applied vip healthy node.vpp
  covered : returned.1.blocked = false → returned.2 ≠ none ∨ late → Covered vip.key node

theorem ensures_releaseRepairDrain (named : vip.spec.address ≠ "") (serving : Bool) (err : String)
    (sound : Sound vip.key node.vpp) (tracks : Tracks vip.key node.routing.coordinator)
    (backed : serving = true → Backed vip.key node.vpp vip.spec.address) :
    Ensures (releaseRepairDrain vip serving err) (fun _ => True)
      (fun returned next => returned.1.blocked = false ∧ returned.1.drainReleased = true ∧
        returned.2 ≠ none ∧ Covered vip.key next) node := by
  apply (ensures_release named serving sound tracks backed).bind
  intro ⟨advertised, releaseErr⟩ next covered
  cases releaseErr with
  | some text | none => exact ⟨rfl, rfl, by simp, covered⟩

variable {returned : TuningDriftRepairResult × Option String} {late later : Prop}

theorem Mended.imp (mended : Mended vip healthy late returned node) (less : later → late) :
    Mended vip healthy later returned node :=
  { mended with
    covered := fun open_ failed => mended.covered open_ (failed.imp_right less) }

theorem Mended.of_failed (after : returned.1.blocked = false ∧ returned.1.drainReleased = true ∧
      returned.2 ≠ none ∧ Covered vip.key node) : Mended vip healthy late returned node where
  sound := after.2.2.2.sound
  tracks := after.2.2.2.tracks
  applied := by
    intro ended
    rcases ended with blocked | fine
    · rw [after.1] at blocked
      cases blocked
    · exact absurd fine after.2.2.1
  covered := fun _ _ => after.2.2.2

/-- The recreation of a drained VIP. -/
theorem ensures_recreate (live : Live vip healthy node) :
    Ensures
      (Effect.attempt (dataplane (DataPlane.recreateVIP config.vpp vip healthy)) :
        Effect Node Empty (Except DataPlane.VIPRecreateError Unit)) (fun _ => True)
      (fun result next => next.routing = node.routing ∧
        match result with
        | .ok _ => Applied vip healthy next.vpp
        | .error err => Sound vip.key next.vpp ∧
            (err.routeSafeToRestore = true → Applied vip healthy next.vpp)) node := by
  unfold Ensures
  rw [Effect.wp_attempt]
  unfold dataplane
  rw [Effect.wp_zoom]
  apply Effect.wp_mono (DataPlane.wp_recreateVIP healthy live.applied.sound)
  intro outcome vpp after
  cases outcome with
  | ok _ => exact ⟨rfl, after⟩
  | crashed => trivial
  | error err =>
    refine ⟨rfl, after.1, ?_⟩
    intro safe
    obtain ⟨rest, rfl⟩ := after.2 safe
    exact ⟨live.applied.sound.answered rest, live.applied.cached⟩

/-- The repair with its leases held. -/
theorem ensures_repairHeld (named : vip.spec.address ≠ "") (live : Live vip healthy node) :
    Ensures (repairHeld config env vip healthy) (fun _ => True)
      (Mended vip healthy True) node := by
  have some_of : (!healthy.isEmpty) = true → healthy ≠ [] := by
    intro full
    cases healthy with
    | nil => cases full
    | cons _ _ => simp
  apply (ensures_beginDrain named false live.applied.sound live.tracks).bind
  intro ⟨drained, drainErr⟩ next after
  obtain ⟨vpp, tracks, fewer, silent⟩ := after
  have applied : Applied vip healthy next.vpp := vpp ▸ live.applied
  cases drainErr with
  | some err =>
    have silent := silent (.inr (by simp))
    exact ⟨silent.sound, silent.tracks, by simp, fun _ _ => silent.covered⟩
  | none =>
    cases drained with
    | false => exact ⟨applied.sound, tracks, fun _ => applied, by simp⟩
    | true =>
      have silent := silent (.inl rfl)
      simp only [Bool.not_true, Bool.false_eq_true, if_false]
      split
      · apply (ensures_releaseRepairDrain named _ _ silent.sound silent.tracks _).imp
        · exact fun _ _ after => Mended.of_failed after
        · intro full
          exact Applied.backed applied (some_of full)
      · have live : Live vip healthy next :=
          ⟨applied, tracks, fun address serves => absurd serves (silent.idle address)⟩
        apply (ensures_recreate live).bind
        intro recreated last after
        obtain ⟨routing, after⟩ := after
        have tracks : Tracks vip.key last.routing.coordinator := routing ▸ silent.tracks
        cases recreated with
        | error err =>
          refine (ensures_releaseRepairDrain named _ _ after.1 tracks ?_).bind ?_
          · intro restores
            simp only [Bool.and_eq_true] at restores
            exact Applied.backed (after.2 restores.2) (some_of restores.1)
          · intro ⟨result, retErr⟩ final released
            exact Mended.of_failed released
        | ok _ =>
          have quiet : Silent vip.key last :=
            ⟨after.sound, tracks, fun address serves => silent.idle address (by
              unfold Serves at serves ⊢
              rw [← routing]
              exact serves)⟩
          apply (ensures_route (.finishDrain vip.spec.address) tracks).bind
          intro ⟨advertised, releaseErr⟩ final finished
          have same : final.routing.coordinator.marks vip.key = _ := finished.leaves
          have covered : Covered vip.key final := by
            apply quiet.covered.of_fewer finished.vpp finished.tracks
            intro address serves
            exact (congrFun same address).symm.trans serves
          have applied : Applied vip healthy final.vpp := finished.vpp ▸ after
          cases releaseErr with
          | some err | none =>
            exact ⟨covered.sound, covered.tracks, fun _ => applied, fun _ _ => covered⟩

/-- The rollout lease of a repair causes no error of its own. -/
def RepairLeaseWorks (env : PassEnv) : Prop :=
  env.repairLease.acquireErr = none ∧
    (env.repairCurrent = true ∨ env.repairLease.releaseErr = none)

/-- The repair under its leases. -/
theorem ensures_repairLeases (named : vip.spec.address ≠ "") (live : Live vip healthy node)
    (calm : Covered vip.key node ∨ RepairLeaseWorks env) (keys : List String) :
    Ensures
      (runExclusiveRollouts (fun _ => env.repairLease) {}
        (if !env.repairCurrent then pure ({}, none) else repairHeld config env vip healthy) keys)
      (fun _ => True) (Mended vip healthy (env.repairLease.releaseErr ≠ none)) node := by
  induction keys with
  | nil =>
    unfold runExclusiveRollouts
    split
    · rename_i stale
      refine ⟨live.applied.sound, live.tracks, fun _ => live.applied, ?_⟩
      intro _ late
      rcases calm with covered | ⟨_, current | released⟩
      · exact covered
      · simp [current] at stale
      · rcases late with failed | late
        · exact absurd rfl failed
        · exact absurd released late
    · exact (ensures_repairHeld named live).forget fun _ _ mended => mended.imp fun _ => trivial
  | cons key rest ih =>
    unfold runExclusiveRollouts
    cases acquired : env.repairLease.acquireErr with
    | some err =>
      refine ⟨live.applied.sound, live.tracks, by simp, ?_⟩
      intro _ _
      rcases calm with covered | works
      · exact covered
      · rw [works.1] at acquired
        cases acquired
    | none =>
      apply ih.bind
      rintro ⟨result, err⟩ next mended
      refine ⟨mended.sound, mended.tracks, ?_, ?_⟩
      · intro ended
        apply mended.applied
        rcases ended with blocked | fine
        · exact .inl blocked
        · cases err with
          | some err => cases fine
          | none => exact .inr rfl
      · intro open_ failed
        apply mended.covered open_
        rcases failed with failed | late
        · cases err with
          | some err => exact .inl (by simp)
          | none => exact .inr failed
        · exact .inr late

theorem ensures_repairTuningDrift (named : vip.spec.address ≠ "") (live : Live vip healthy node)
    (calm : Covered vip.key node ∨ RepairLeaseWorks env) (rolloutHeld : Bool) :
    Ensures (repairTuningDrift config env vip healthy rolloutHeld) (fun _ => True)
      (Mended vip healthy False) node := by
  unfold repairTuningDrift
  split
  · exact ⟨live.applied.sound, live.tracks, fun _ => live.applied, by simp⟩
  · split
    · apply (ensures_repairLeases named live calm _).imp
      exact fun _ _ mended => mended.imp False.elim
    · exact (ensures_repairHeld named live).forget fun _ _ mended => mended.imp fun _ => trivial

end Repair

section Pass

variable {config : Config} {env : PassEnv} {vip : VirtualIP} {healthy : List BackendSpec}
  {node : Node}

theorem ne_nil_of_nonempty {α : Type} {items : List α} (full : (!items.isEmpty) = true) :
    items ≠ [] := by
  cases items with
  | nil => cases full
  | cons _ _ => simp

/-- Setting an applied VIP serving where it has a healthy backend. -/
theorem ensures_setServing (named : vip.spec.address ≠ "") (applied : Applied vip healthy node.vpp)
    (tracks : Tracks vip.key node.routing.coordinator) :
    Ensures (route vip.key (.setServing vip.spec.address (!healthy.isEmpty)))
      (fun _ => True) (fun _ => Covered vip.key) node := by
  apply (ensures_route (.setServing vip.spec.address (!healthy.isEmpty)) tracks).imp
  intro _ next set
  refine ⟨set.vpp ▸ applied.sound, set.tracks, ?_⟩
  intro address serves
  obtain ⟨rfl, full⟩ := set.leaves named address serves
  rw [set.vpp]
  exact Applied.backed applied (ne_nil_of_nonempty full)

theorem Covered.ensures_finishDrain (covered : Covered vip.key node) (address : String) :
    Ensures (route vip.key (.finishDrain address)) (fun _ => True)
      (fun _ => Covered vip.key) node := by
  apply (ensures_route (.finishDrain address) covered.tracks).imp
  intro _ next finished
  have same : next.routing.coordinator.marks vip.key = _ := finished.leaves
  apply covered.of_fewer finished.vpp finished.tracks
  intro address serves
  exact (congrFun same address).symm.trans serves

theorem ensures_serve (named : vip.spec.address ≠ "") (applied : Applied vip healthy node.vpp)
    (tracks : Tracks vip.key node.routing.coordinator) (drainHeld : Bool) :
    Ensures (serve vip healthy drainHeld) (fun _ => True) (fun _ => Covered vip.key)
      node := by
  apply (ensures_setServing named applied tracks).bind
  intro ⟨advertised, setErr⟩ next covered
  have finished : Ensures
      (if setErr.isNone && drainHeld then route vip.key (.finishDrain vip.spec.address)
        else pure (advertised, setErr)) (fun _ => True) (fun _ => Covered vip.key) next := by
    split
    · exact covered.ensures_finishDrain _
    · exact covered
  exact finished.bind fun _ _ covered => covered

/-- **The end of a pass.** -/
theorem ensures_repairAndServe (named : vip.spec.address ≠ "") (live : Live vip healthy node)
    (calm : Covered vip.key node ∨ RepairLeaseWorks env)
    (rolloutHeld drainHeld routeAdvertised : Bool) :
    Ensures
      (repairAndServe config env vip healthy rolloutHeld drainHeld routeAdvertised)
      (fun _ => True) (fun _ => Covered vip.key) node := by
  apply Ensures.read_bind
  dsimp only
  split
  · exact ensures_serve named live.applied live.tracks _
  · apply (ensures_repairTuningDrift named live calm rolloutHeld).bind
    intro ⟨result, err⟩ next mended
    dsimp only
    split
    · rename_i blocked
      have applied := mended.applied (.inl blocked)
      have served : Ensures
          (if drainHeld && !result.drainReleased then releaseUpdateDrain vip (!healthy.isEmpty)
            else route vip.key (.setServing vip.spec.address (!healthy.isEmpty)))
          (fun _ => True) (fun _ => Covered vip.key) next := by
        split
        · exact ensures_release named _ mended.sound mended.tracks
            fun full => Applied.backed applied (ne_nil_of_nonempty full)
        · exact ensures_setServing named applied mended.tracks
      exact served.bind fun _ _ covered => covered
    · rename_i open_
      cases err with
      | none => exact ensures_serve named (mended.applied (.inr rfl)) mended.tracks _
      | some text =>
        have covered := mended.covered (by simpa using open_) (.inl (by simp))
        have released : Ensures
            (if drainHeld && !result.drainReleased then releaseUpdateDrain vip false
              else if result.routeStateKnown then pure (result.routeAdvertised, result.routeErr)
              else pure (routeAdvertised, none))
            (fun _ => True) (fun _ => Covered vip.key) next := by
          split
          · exact ensures_release named _ mended.sound mended.tracks (by simp)
          · split
            · exact covered
            · exact covered
        exact released.bind fun _ _ covered => covered

/-- The store and the rollout lease of a repair do not fail. -/
def Undisturbed (env : PassEnv) : Prop :=
  env.commitErr = none ∧ RepairLeaseWorks env

/-- Where a pass may fail without leaving a VIP serving that has no backend any more. -/
def Calm (env : PassEnv) (vip : VirtualIP) (healthy : List BackendSpec) (node : Node) : Prop :=
  healthy ≠ [] ∨ (∀ address, ¬ Serves vip.key node address) ∨ Undisturbed env

/-- What the VIP is applied from. -/
structure Primed (env : PassEnv) (vip : VirtualIP) (healthy : List BackendSpec) (node : Node) :
    Prop where
  sound : Sound vip.key node.vpp
  tracks : Tracks vip.key node.routing.coordinator
  only : ∀ address, Serves vip.key node address → address = vip.spec.address
  calm : Calm env vip healthy node

theorem Primed.of_silent (silent : Silent vip.key node) : Primed env vip healthy node where
  sound := silent.sound
  tracks := silent.tracks
  only := fun address serves => absurd serves (silent.idle address)
  calm := .inr (.inl silent.idle)

/-- An applied VIP is covered, or nothing that may fail is left to fail. -/
theorem Live.calm_cases (live : Live vip healthy node) (calm : Calm env vip healthy node) :
    Covered vip.key node ∨ Undisturbed env := by
  rcases calm with some_ | idle | undisturbed
  · exact .inl (live.covered some_)
  · exact .inl (Silent.covered ⟨live.applied.sound, live.tracks, idle⟩)
  · exact .inr undisturbed

theorem ensures_applyAndCommit_covered (named : vip.spec.address ≠ "")
    (primed : Primed env vip healthy node) (rolloutHeld drainHeld routeAdvertised : Bool) :
    Ensures
      (applyAndCommit config env vip healthy rolloutHeld drainHeld routeAdvertised)
      (fun _ => True) (fun _ => Covered vip.key) node := by
  have attempted : Ensures
      (Effect.attempt (dataplane (DataPlane.applyVIP config.vpp vip healthy env.now)) :
        Effect Node Empty (Except String Unit)) (fun _ => True)
      (fun result next => next.routing = node.routing ∧
        match result with
        | .ok _ => Applied vip healthy next.vpp
        | .error _ => Sound vip.key next.vpp) node := by
    have applied : Ensures (dataplane (DataPlane.applyVIP config.vpp vip healthy env.now))
        (fun next => next.routing = node.routing ∧ Sound vip.key next.vpp)
        (fun _ next => next.routing = node.routing ∧ Applied vip healthy next.vpp) node := by
      apply Ensures.zoom
      exact (DataPlane.ensures_applyVIP healthy env.now primed.sound).mono
        (fun _ sound => ⟨rfl, sound⟩) fun _ _ applied => ⟨rfl, applied⟩
    apply applied.attempt.forget
    intro result next after
    cases result <;> exact after
  apply attempted.bind
  intro result next after
  obtain ⟨routing, after⟩ := after
  have tracks : Tracks vip.key next.routing.coordinator := routing ▸ primed.tracks
  cases result with
  | error err =>
    have released : Ensures
        (if drainHeld then releaseUpdateDrain vip false
          else route vip.key (.setServing vip.spec.address false))
        (fun _ => True) (fun _ => Covered vip.key) next := by
      split
      · exact ensures_release named _ after tracks (by simp)
      · apply (ensures_route (.setServing vip.spec.address false) tracks).imp
        intro _ last set
        refine ⟨set.vpp ▸ after, set.tracks, ?_⟩
        intro address serves
        exact absurd (set.leaves named address serves).2 (by simp)
    exact released.bind fun _ _ covered => covered
  | ok _ =>
    have same : ∀ address, Serves vip.key next address ↔ Serves vip.key node address := by
      intro address
      unfold Serves
      rw [routing]
    have live : Live vip healthy next :=
      ⟨after, tracks, fun address serves => primed.only address ((same address).mp serves)⟩
    have calm : Calm env vip healthy next := by
      rcases primed.calm with some_ | idle | undisturbed
      · exact .inl some_
      · exact .inr (.inl fun address serves => idle address ((same address).mp serves))
      · exact .inr (.inr undisturbed)
    have cases_ := live.calm_cases calm
    unfold commitLastConfig transaction
    cases commits : env.commitErr with
    | some err =>
      have covered : Covered vip.key next := by
        apply cases_.resolve_right
        intro undisturbed
        rw [undisturbed.1] at commits
        cases commits
      have released : Ensures
          (if drainHeld then releaseUpdateDrain vip false else pure (routeAdvertised, none))
          (fun _ => True) (fun _ => Covered vip.key) next := by
        split
        · exact ensures_release named _ live.applied.sound tracks (by simp)
        · exact covered
      exact released.bind fun _ _ covered => covered
    | none =>
      have live : Live vip healthy
          { next with
            store := next.store.commitLastConfig vip.key.text (.spec vip.spec)
            applied := Function.update next.applied vip.key (some vip) } :=
        ⟨live.applied, live.tracks, live.only⟩
      refine ensures_repairAndServe named live ?_ rolloutHeld drainHeld routeAdvertised
      rcases cases_ with covered | undisturbed
      · exact .inl ⟨covered.sound, covered.tracks, covered.backed⟩
      · exact .inr undisturbed.2

theorem ensures_drainAndApply_covered (named : vip.spec.address ≠ "")
    (covered : Covered vip.key node) (rolloutHeld : Bool) :
    Ensures (drainAndApply config env vip healthy rolloutHeld) (fun _ => True)
      (fun _ => Covered vip.key) node := by
  apply (ensures_beginDrain named true covered.sound covered.tracks).bind
  intro ⟨drained, drainErr⟩ next after
  obtain ⟨vpp, tracks, fewer, silent⟩ := after
  cases drainErr with
  | some err => exact (silent (.inr (by simp))).covered
  | none =>
    cases drained with
    | false => exact covered.of_fewer vpp tracks fewer
    | true =>
      have silent := silent (.inl rfl)
      simp only [Bool.not_true, Bool.false_eq_true, if_false]
      split
      · apply (ensures_release named false silent.sound silent.tracks (by simp)).bind
        exact fun _ _ covered => covered
      · exact ensures_applyAndCommit_covered named (Primed.of_silent silent) _ _ _

/-- **A pass after its leases** leaves the VIP covered. -/
theorem ensures_reconcileApplied_covered (named : vip.spec.address ≠ "")
    (covered : Covered vip.key node) (calm : Calm env vip healthy node)
    (rolloutHeld drainBeforeApply : Bool) :
    Ensures (reconcileApplied config env vip healthy rolloutHeld drainBeforeApply)
      (fun _ => True) (fun _ => Covered vip.key) node := by
  unfold reconcileApplied persistPendingConfig transaction
  cases env.persistErr with
  | some err => exact covered
  | none =>
    have covered : Covered vip.key
        { node with store := node.store.savePendingConfig vip.key.text (.spec vip.spec) } :=
      ⟨covered.sound, covered.tracks, covered.backed⟩
    apply (ensures_route (.prepareAddressChange vip.spec.address) covered.tracks).bind
    intro ⟨advertised, routeErr⟩ next prepared
    have kept := prepared.leaves named
    have covered : Covered vip.key next :=
      covered.of_fewer prepared.vpp prepared.tracks fun address serves =>
        (kept address serves).2
    cases routeErr with
    | some err => exact covered
    | none =>
      have primed : Primed env vip healthy next := by
        refine ⟨covered.sound, covered.tracks, fun address serves =>
          (kept address serves).1, ?_⟩
        rcases calm with some_ | idle | undisturbed
        · exact .inl some_
        · exact .inr (.inl fun address serves => idle address (kept address serves).2)
        · exact .inr (.inr undisturbed)
      dsimp only
      split
      · exact ensures_drainAndApply_covered named covered _
      · exact ensures_applyAndCommit_covered named primed _ _ _

/-- What a pass starts from. -/
structure Poised (env : PassEnv) (vip : VirtualIP) (node : Node) : Prop where
  covered : Covered vip.key node
  calm : Calm env vip (healthyBackendsOf env vip) node

theorem keeps_inspect_poised :
    Keeps (Poised env vip)
      (dataplane (DataPlane.needsDrainForRetainedVIP config.vpp vip)) := by
  intro node poised
  have kept : Keeps
      (fun vpp => Sound vip.key vpp ∧
        ∀ address, Backed vip.key node.vpp address → Backed vip.key vpp address)
      (DataPlane.needsDrainForRetainedVIP config.vpp vip) := by
    apply DataPlane.keeps_needsDrainForRetainedVIP
    · intro vpp rest both
      exact ⟨both.1.answered rest, both.2⟩
    · intro vpp both
      refine ⟨both.1.markVIPNeedsVerification, ?_⟩
      intro address backed
      obtain ⟨entry, found, named, listed⟩ := both.2 address backed
      exact ⟨_, DataPlane.VPP.modifyEntry_found _ found, named, listed⟩
  obtain ⟨sound, backed⟩ := kept node.vpp ⟨poised.covered.sound, fun _ backed => backed⟩
  exact ⟨⟨sound, poised.covered.tracks,
    fun address serves => backed address (poised.covered.backed address serves)⟩, poised.calm⟩

/-- **A whole pass** leaves the VIP covered. -/
theorem ensures_reconcile_covered (named : vip.spec.address ≠ "") (poised : Poised env vip node) :
    Ensures (reconcile config env vip) (fun _ => True) (fun _ => Covered vip.key)
      node := by
  have planned : Keeps (Poised env vip) (planVIPUpdate config env vip) := by
    apply keeps_planVIPUpdate _ keeps_inspect_poised
    intro node applied poised
    exact ⟨⟨poised.covered.sound, poised.covered.tracks, poised.covered.backed⟩, poised.calm⟩
  apply ensures_reconcile_of (Poised env vip) planned
  · exact fun _ _ => trivial
  · exact fun _ poised => poised.covered
  · exact fun _ _ _ poised =>
      ensures_reconcileApplied_covered named poised.covered poised.calm _ _
  · exact poised

end Pass

section Runs

variable {config : Config} {key : VIPKey}

/-- The condition on a pass: some backend is healthy, or the VIP does not serve before the
pass, or neither the commit of its config nor the rollout lease of a repair fails.  Its
address is not empty, as in every spec that the event handler accepts. -/
def servingGuard (process : Process) (pass : Pass) : Prop :=
  pass.vip.spec.address ≠ "" ∧
    Calm pass.env pass.vip (healthyBackendsOf pass.env pass.vip) process.node

theorem Process.Fresh.covered {process : Process} (fresh : process.Fresh) :
    Covered key process.node := by
  obtain ⟨interval, coordinator⟩ := fresh.coordinator
  have unmarked : ∀ address, process.node.routing.coordinator.marks key address = none := by
    intro address
    rw [coordinator]
    rfl
  refine ⟨⟨by simp [fresh.addedBy], by simp [fresh.vips]⟩, Routing.tracks_of_unmarked unmarked, ?_⟩
  intro address serves
  unfold Serves at serves
  rw [unmarked address] at serves
  cases serves

/-- **A serving VIP has a backend.** In every run whose passes meet the condition: when a
pass has ended and the coordinator records the VIP as serving on an address, the data
plane has the VIP on that address, and VPP holds its tuple with a backend. -/
theorem serving_has_backend {process : Process}
    (reached : (passes config key).Reachable servingGuard process) (ended : process.alive = true)
    {address : String} (serves : Serves key process.node address) :
    ∃ entry tuple held, process.node.vpp.vips key = some entry ∧
      entry.vip.spec.address = address ∧ tupleOf entry.vip = .ok tuple ∧
      process.node.vpp.table tuple = some held ∧ held.backends ≠ [] := by
  have covered : process.alive = true → Covered key process.node := by
    apply reached.invariant
    · exact fun process fresh _ => fresh.covered
    · intro process pass next covered meets moves alive
      obtain ⟨running, rfl, rfl⟩ := passes_step moves
      have before := covered running
      have poised : Poised pass.env pass.vip
          (process.node.answered pass.routerReplies pass.vppReplies) :=
        ⟨⟨before.sound.answered _, before.tracks, before.backed⟩, meets.2⟩
      exact Process.after_ensures (ensures_reconcile_covered meets.1 poised) alive
  have covered := covered ended
  obtain ⟨entry, found, named, listed⟩ := covered.backed address serves
  obtain ⟨tuple, held, tuples, present, counts⟩ := covered.sound.counted entry found
  refine ⟨entry, tuple, held, found, named, tuples, present, ?_⟩
  intro empty
  rw [empty] at counts
  exact listed (List.length_eq_zero_iff.mp (Nat.le_zero.mp counts))

/-- A TCP service whose one backend is health-checked, for concrete runs. -/
def checkedVIP : VirtualIP :=
  let web := VirtualIP.web .web "1" "192.0.2.1"
  { web with
    spec :=
      { web.spec with
        healthCheck := some
          { type := .tcp
            intervalSeconds := 5
            timeoutSeconds := 1
            riseCount := 2
            fallCount := 2
            http := none
            tcp := some ⟨80⟩ } } }

/-- The first pass of the service: its backend is healthy, and it starts to serve. -/
def firstServing : Pass where
  vip := checkedVIP
  env := { tracked := checkedVIP.spec.backends }
  routerReplies := List.replicate 6 ⟨0, none⟩
  vppReplies := List.replicate 4 .ok

/-- A later pass: the backend is down, and the config is committed or not. -/
def backendDown (commitErr : Option String) : Pass where
  vip := checkedVIP
  env := { commitErr }
  routerReplies := List.replicate 6 ⟨0, none⟩
  vppReplies := List.replicate 2 .ok

/-- After its first pass the service is recorded as serving and has its backend. -/
theorem serving_has_backend_first :
    ∃ process, (passes .plain .web).run ⟨.empty, true⟩ [firstServing] = some process ∧
      Serves .web process.node "192.0.2.1" ∧
      ∃ entry tuple held, process.node.vpp.vips .web = some entry ∧
        entry.vip.spec.address = "192.0.2.1" ∧ tupleOf entry.vip = .ok tuple ∧
        process.node.vpp.table tuple = some held ∧ held.backends ≠ [] := by
  obtain ⟨process, runs, alive, serves⟩ :=
    (passes .plain .web).exists_run_of_check ⟨.empty, true⟩ [firstServing]
      (fun process => process.alive = true ∧
        process.node.routing.coordinator.marks .web "192.0.2.1" = some true)
      (by decide +kernel)
  have meets : (passes .plain .web).Meets servingGuard ⟨.empty, true⟩ [firstServing] := by
    refine ⟨⟨by decide, .inl (by decide)⟩, ?_⟩
    split <;> trivial
  have starts : (passes .plain .web).Reachable servingGuard ⟨.empty, true⟩ :=
    .initial Process.fresh_empty
  exact ⟨process, runs, serves, serving_has_backend (starts.run meets runs) alive serves⟩

/-- **A serving VIP loses its last backend.** The backend goes down and the pass removes
it from VPP, but the commit of the config fails, so the pass ends before it records that
the VIP does not serve any more. -/
theorem serving_without_backend :
    ∃ process, (passes .plain .web).run ⟨.empty, true⟩
        [firstServing, backendDown (some "disk full")] = some process ∧
      process.alive = true ∧ Serves .web process.node "192.0.2.1" ∧
      process.node.vpp.backendsOf ⟨.v4 192 0 2 1, 6, 80⟩ = [] ∧
      process.node.routing.routes "192.0.2.1" = true :=
  (passes .plain .web).exists_run_of_check ⟨.empty, true⟩
    [firstServing, backendDown (some "disk full")]
    (fun process => process.alive = true ∧
      process.node.routing.coordinator.marks .web "192.0.2.1" = some true ∧
      process.node.vpp.backendsOf ⟨.v4 192 0 2 1, 6, 80⟩ = [] ∧
      process.node.routing.routes "192.0.2.1" = true)
    (by decide +kernel)

end Runs

end ArcaLB.Agent
