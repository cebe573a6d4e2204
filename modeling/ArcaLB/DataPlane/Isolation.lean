import ArcaLB.Api.Validation
import ArcaLB.DataPlane.Runs

/-!
# Isolation of VIPs in the data plane

VPP identifies a VIP by its tuple, and the agent by its key.  Validation looks at one object
at a time, so two accepted VIPs may ask for one tuple; a call for either of them then deletes
or changes what the other has established.  Calls for VIPs whose tuple no other key has leave
the tuples of other keys alone.
-/

namespace ArcaLB.DataPlane

/-- A run of data plane calls. -/
abbrev Run := TransitionSystem.Recorded VPP Call

/-- The VIP that a call is for. -/
def Call.key (call : Call) : VIPKey := call.operation.vip.key

/-- What a call does to the data plane. -/
def Call.run (config : VPPConfig) (call : Call) (vpp : VPP) : Outcome String Unit × VPP :=
  call.operation.perform config (vpp.answered call.replies)

variable (config : VPPConfig)

/-- The tuple that the last successful `ApplyVIP` for a key has established, as long as VPP
still has it after the later calls for the key. -/
def established (key : VIPKey) : List (VPP × Call) → Option Tuple
  | [] => none
  | (before, call) :: past =>
    if call.key = key then
      match call.operation, call.run config before with
      | .apply vip _ _, (.ok _, _) => (tupleOf vip).toOption
      | _, (_, after) => (established key past).filter fun tuple => (after.table tuple).isSome
    else established key past

/-- No other key has the tuple of the VIP that a call is for: none has established it, and none
has it in the cache. -/
def unclaimed (run : Run) (call : Call) : Prop :=
  ∀ tuple, tupleOf call.operation.vip = .ok tuple → ∀ other, other ≠ call.key →
    established config other run.past ≠ some tuple ∧
      ∀ entry, run.now.vips other = some entry → tupleOf entry.vip ≠ .ok tuple

section Steps

variable {config : VPPConfig} {run next : Run} {call : Call} {other : VIPKey} {tuple : Tuple}

/-- A call stays within the tuples of its VIP and of the cached one. -/
theorem confined_run (config : VPPConfig) (call : Call) (vpp : VPP) :
    Confined call.operation.vip (Touched call.operation.vip vpp) vpp (call.run config vpp).2 := by
  have writes : WriteInvariant config call.operation.vip (Touched call.operation.vip vpp)
      (Confined call.operation.vip (Touched call.operation.vip vpp) vpp) :=
    Confined.writeInvariant (.inl rfl)
  exact writes.perform call.operation _ (writes.replies call.replies .refl)

/-- A call for another key establishes nothing for this one. -/
theorem established_other {before : VPP} {past : List (VPP × Call)} (foreign : call.key ≠ other) :
    established config other ((before, call) :: past) = established config other past :=
  if_neg foreign

/-- What a key has established after a call for it is the tuple of the VIP of the call, or it
was established before. -/
theorem established_own {before : VPP} {past : List (VPP × Call)}
    (holds : established config call.key ((before, call) :: past) = some tuple) :
    tupleOf call.operation.vip = .ok tuple ∨
      established config call.key past = some tuple := by
  obtain ⟨operation, replies⟩ := call
  rw [established, if_pos rfl] at holds
  split at holds
  next vip _ _ _ _ applies _ =>
    left
    change operation = _ at applies
    subst applies
    change tupleOf vip = _
    cases named : tupleOf vip with
    | error _ => simp [named, Except.toOption] at holds
    | ok found => simpa [named, Except.toOption] using holds
  next => exact .inr (Option.filter_eq_some_iff.mp holds).1

/-- What one key has cached, no other key has established. -/
def Separate (config : VPPConfig) (run : Run) : Prop :=
  ∀ key other entry tuple, key ≠ other → run.now.vips key = some entry →
    tupleOf entry.vip = .ok tuple → established config other run.past ≠ some tuple

/-- A call leaves the tuples that other keys have established. -/
theorem Separate.untouched (separate : Separate config run) (meets : unclaimed config run call)
    (foreign : other ≠ call.key) (holds : established config other run.past = some tuple) :
    (call.run config run.now).2.table tuple = run.now.table tuple := by
  refine (confined_run config call run.now).table tuple ?_
  rintro touched (rfl | ⟨entry, found, rfl⟩) named
  · exact (meets tuple named other foreign).1 holds
  · exact separate call.key other entry tuple foreign.symm found named holds

/-- A call that claims no tuple of another key keeps the keys separate. -/
theorem Separate.step (separate : Separate config run) (meets : unclaimed config run call)
    (moves : (calls config).recorded.step run call = some next) : Separate config next := by
  cases moves
  have confined := confined_run config call run.now
  intro key other entry tuple different found named holds
  change (call.run config run.now).2.vips key = some entry at found
  by_cases own : key = call.key
  · -- the caller's entry is of its new VIP or of the cached one, and neither is the other's
    subst own
    rw [established_other different] at holds
    obtain same | ⟨cached, was, same⟩ := confined.cached entry found
    · rw [same] at named
      exact (meets tuple named other different.symm).1 holds
    · rw [same] at named
      exact separate call.key other cached tuple different was named holds
  · have kept : run.now.vips key = some entry := (confined.others key own).symm.trans found
    by_cases caller : other = call.key
    · subst caller
      obtain new | was := established_own holds
      · exact (meets tuple new key own).2 entry kept named
      · exact separate key call.key entry tuple different kept named was
    · rw [established_other (Ne.symm caller)] at holds
      exact separate key other entry tuple different kept named holds

/-- Keys stay separate in every run. -/
theorem separate_of_reachable (reached : (calls config).recorded.Reachable (unclaimed config) run) :
    Separate config run := by
  refine reached.invariant ?_ fun _ _ _ separate meets moves => separate.step meets moves
  intro run starts key other entry tuple _ found
  cases (starts.1.1 key).symm.trans found

end Steps

variable {config : VPPConfig}

/-- **VIPs are isolated.** In every run whose calls are all for VIPs with a tuple that no other
key has, the next such call leaves VPP's VIP and its backends at every tuple that another key
has established and not removed. -/
theorem calls_leave_other_vips {run : Run}
    (reached : (calls config).recorded.Reachable (unclaimed config) run) {call : Call}
    (meets : unclaimed config run call) {other : VIPKey} (foreign : other ≠ call.key)
    {tuple : Tuple} (holds : established config other run.past = some tuple) :
    (call.run config run.now).2.table tuple = run.now.table tuple :=
  (separate_of_reachable reached).untouched meets foreign holds

/-- VPP without any VIP. -/
def vacant : VPP where
  table := fun _ => none

/-- The service under another key. -/
def neighbour (address : String) : VirtualIP :=
  { greWeb with
    key := ⟨"default", "neighbour"⟩
    spec := { greWeb.spec with address } }

/-- `ApplyVIP` with every request carried out. -/
def applied (vip : VirtualIP) : Call :=
  ⟨.apply vip healthyWeb 0, List.replicate 8 .ok⟩

/-- `RemoveVIP` with every request carried out. -/
def removed (vip : VirtualIP) : Call :=
  ⟨.remove vip, List.replicate 8 .ok⟩

/-- The run after one more call. -/
def extended (config : VPPConfig) (run : Run) (call : Call) : Run :=
  ⟨(call.run config run.now).2, (run.now, call) :: run.past⟩

/-- A call that meets the guard extends a run. -/
theorem reachable_extended {guard : Run → Call → Prop} {run : Run}
    (reached : (calls config).recorded.Reachable guard run) {call : Call} (meets : guard run call) :
    (calls config).recorded.Reachable guard (extended config run call) :=
  .step reached meets rfl

theorem vacant_initial (config : VPPConfig) : (calls config).recorded.initial ⟨vacant, []⟩ :=
  ⟨⟨fun _ => rfl, fun _ => rfl, fun _ _ present => nomatch present⟩, rfl⟩

/-- The run in which the service has been applied. -/
def withWeb : Run := extended greSettings ⟨vacant, []⟩ (applied greWeb)

theorem unclaimed_vacant (config : VPPConfig) (call : Call) :
    unclaimed config ⟨vacant, []⟩ call := by
  intro tuple _ other _
  constructor
  · simp [established]
  · simp [vacant]

/-- After the first call, only its key has a tuple, and that is another one. -/
theorem unclaimed_second {first second : Call} {place : Tuple}
    (named : tupleOf first.operation.vip = .ok place)
    (apart : tupleOf second.operation.vip ≠ .ok place) :
    unclaimed config (extended config ⟨vacant, []⟩ first) second := by
  intro tuple target other _
  have confined := confined_run config first vacant
  constructor
  · intro holds
    by_cases own : first.key = other
    · subst own
      obtain new | was := established_own holds
      · exact apart (target.trans (new.symm.trans named))
      · cases was
    · rw [extended, established_other own] at holds
      cases holds
  · intro entry found same
    by_cases own : other = first.key
    · subst own
      obtain wanted | ⟨cached, was, _⟩ := confined.cached entry found
      · rw [wanted, named] at same
        exact apart (target.trans same.symm)
      · cases was
    · cases (confined.others other own).symm.trans found

/-- A neighbour with an address of its own leaves the service alone. -/
theorem calls_leave_other_vips_neighbour :
    ((applied (neighbour "192.0.2.2")).run greSettings withWeb.now).1 = .ok () ∧
      ((applied (neighbour "192.0.2.2")).run greSettings withWeb.now).2.table greTuple =
        withWeb.now.table greTuple := by
  have reached : (calls greSettings).recorded.Reachable (unclaimed greSettings) withWeb :=
    reachable_extended (.initial (vacant_initial _)) (unclaimed_vacant _ _)
  have webNamed : tupleOf greWeb = .ok greTuple := by decide +kernel
  have meets : unclaimed greSettings withWeb (applied (neighbour "192.0.2.2")) :=
    unclaimed_second webNamed (by decide +kernel)
  have holds : established greSettings .web withWeb.past = some greTuple := by decide +kernel
  exact ⟨by decide +kernel, calls_leave_other_vips reached meets (by decide) holds⟩

/-- **A call deletes the VIP of another key.** The service and its neighbour both pass
validation with one address, port and protocol.  The service has been applied; nothing is
cached for the neighbour, so `RemoveVIP` for it finds the service's VIP in VPP and deletes
it. -/
theorem call_deletes_other_vip :
    Validation.validateCreate .lenient greWeb = .ok () ∧
      Validation.validateCreate .lenient (neighbour "192.0.2.1") = .ok () ∧
      (calls greSettings).recorded.Reachable TransitionSystem.unguarded withWeb ∧
      established greSettings .web withWeb.past = some greTuple ∧
      (removed (neighbour "192.0.2.1")).key ≠ .web ∧
      (withWeb.now.table greTuple).isSome ∧
      ((removed (neighbour "192.0.2.1")).run greSettings withWeb.now).2.table greTuple = none :=
  ⟨by decide +kernel, by decide +kernel, reachable_extended (.initial (vacant_initial _)) trivial,
    by decide +kernel, by decide, by decide +kernel, by decide +kernel⟩

end ArcaLB.DataPlane
