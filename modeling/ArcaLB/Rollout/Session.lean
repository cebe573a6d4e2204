import ArcaLB.Library.Transition
import ArcaLB.Library.Versioned
import ArcaLB.Rollout.Lease

/-!
# Sessions of `RunExclusive`

A session is one call of `RunExclusive` past the local lock of its key, so a coordinator
has at most one per key.  It acquires the lease, runs the function while the renew loop
renews the lease beside it, and releases the lease.  Every API call takes two steps or
more: the server handles a request at any time after it was sent, and the reply is taken
up at any time after that.  A call may also fail at any time; a write that the server has
not handled by then is still on its way, and may be handled later.
-/

namespace ArcaLB.Rollout

/-- What a write is for. -/
inductive Op where
  | claim
  | renew
  | release
  deriving DecidableEq, Repr

/-- A request that creates the lease, or updates the version that its sender read. -/
structure Write where
  op : Op
  version : Option Nat
  spec : LeaseSpec
  deriving DecidableEq, Repr

/-- The lease after the server accepted the request; `none` where it refuses it. -/
def Write.land (write : Write) : Option (Versioned LeaseSpec) → Option (Versioned LeaseSpec)
  | none =>
    match write.version with
    | none => some ⟨0, write.spec⟩
    | some _ => none
  | some stored =>
    match write.version with
    | none => none
    | some version => stored.replace version write.spec

/-- Where a session is in its current API call. -/
inductive Call where
  | resting
  | getting
  | got (read : Versioned LeaseSpec)
  | claiming (read : Versioned LeaseSpec)
  | absent
  | writing (write : Write)
  | written (lease : Versioned LeaseSpec)
  deriving DecidableEq, Repr

/-- The lease that a call has read and not written yet. -/
def Call.read : Call → Option (Versioned LeaseSpec)
  | .got read => some read
  | .claiming read => some read
  | _ => none

/-- The lease as the server accepted it, before the reply arrives. -/
def Call.accepted : Call → Option (Versioned LeaseSpec)
  | .written lease => some lease
  | _ => none

/-- `inside` while the function runs, `leaving` after it returned and before the renew
loop has ended. -/
inductive Phase where
  | idle
  | acquiring
  | inside
  | leaving
  | releasing
  deriving DecidableEq, Repr

/-- `attempts` are the tries left to `RetryOnConflict`; `looping` holds while the renew
loop runs; `cancelled` is the context that the function was given. -/
structure Session where
  phase : Phase := .idle
  call : Call := .resting
  attempts : Nat := 0
  looping : Bool := false
  cancelled : Bool := false
  deriving DecidableEq, Repr

/-- The steps of `retry.DefaultRetry`. -/
def defaultRetrySteps : Nat := 5

/-- What can happen to a session. -/
inductive Action where
  /-- `RunExclusive` is called and takes the local lock. -/
  | start
  /-- The caller's context is cancelled. -/
  | cancel
  /-- The next `Get` is sent, by the acquire loop or at a tick of the renew loop. -/
  | issue
  /-- The server answers the `Get`. -/
  | read
  /-- The session goes on with what it read, at the present time. -/
  | proceed
  /-- The server handles the write. -/
  | deliver
  /-- The reply to an accepted write arrives. -/
  | reply
  /-- The API call returns an error. -/
  | fail
  /-- The renew loop ends because the context or the function is done. -/
  | stop
  /-- The function returns. -/
  | returns
  /-- `release` is called. -/
  | release
  /-- The acquire loop ends because the context is done. -/
  | giveUp
  deriving DecidableEq, Repr

namespace Session

variable (session : Session)

/-- The API call of the session returns an error: `acquire` and `release` end the session
with it, `renewLoop` cancels the context and ends. -/
def failed : Session :=
  match session.phase with
  | .inside | .leaving => { session with call := .resting, looping := false, cancelled := true }
  | _ => {}

/-- The server refuses the write: `tryAcquire` reports that it did not acquire the lease,
`renew` and `release` try again while they have attempts left. -/
def refused : Session :=
  match session.phase with
  | .acquiring => { session with call := .resting }
  | _ =>
    if 1 < session.attempts then
      { session with call := .getting, attempts := session.attempts - 1 }
    else session.failed

/-- The session sends its next `Get`. -/
def issue : Option Session :=
  match session.phase, session.call with
  | .acquiring, .resting => some { session with call := .getting }
  | .inside, .resting | .leaving, .resting =>
    if session.looping then
      some { session with call := .getting, attempts := defaultRetrySteps }
    else none
  | _, _ => none

/-- The local computation between the `Get` and the write. -/
def proceed (coordinator : Coordinator) (now : Time) : Option Session :=
  match session.phase, session.call with
  | .acquiring, .absent =>
    some { session with call := .writing ⟨.claim, none, coordinator.createLease now⟩ }
  | .acquiring, .got read =>
    if coordinator.leaseAvailable now read.value then
      some { session with call := .claiming read }
    else some { session with call := .resting }
  | .acquiring, .claiming read =>
    some { session with
      call := .writing ⟨.claim, some read.version,
        coordinator.claimLease now read.value (valueOrEmpty read.value.holderIdentity)⟩ }
  | .inside, .absent | .leaving, .absent | .releasing, .absent => some session.failed
  | .inside, .got read | .leaving, .got read =>
    if valueOrEmpty read.value.holderIdentity ≠ coordinator.holderIdentity then
      some session.failed
    else
      some { session with
        call := .writing ⟨.renew, some read.version, coordinator.renewed now read.value⟩ }
  | .releasing, .got read =>
    if valueOrEmpty read.value.holderIdentity ≠ coordinator.holderIdentity then some {}
    else
      some { session with
        call := .writing ⟨.release, some read.version, Coordinator.released now read.value⟩ }
  | _, _ => none

/-- The reply to an accepted write: the function is called, the renew loop waits for its
next tick, or `RunExclusive` returns. -/
def replied : Session :=
  match session.phase with
  | .acquiring => { session with phase := .inside, call := .resting, looping := true }
  | .inside | .leaving => { session with call := .resting }
  | _ => {}

/-- What a step of a session leaves: the lease, the session, and a write that it gave up
while it was on its way. -/
structure Moved where
  lease : Option (Versioned LeaseSpec)
  session : Session
  abandoned : Option Write := none

/-- One step of a session at time `now`, where the server holds `lease`. -/
def step (coordinator : Coordinator) (now : Time) (lease : Option (Versioned LeaseSpec))
    (session : Session) : Action → Option Moved
  | .start => if session.phase = .idle then some ⟨lease, { phase := .acquiring }, none⟩ else none
  | .cancel =>
    if session.phase = .idle then none
    else some ⟨lease, { session with cancelled := true }, none⟩
  | .issue => session.issue.map fun next => ⟨lease, next, none⟩
  | .read =>
    match session.call with
    | .getting => some ⟨lease, { session with call := lease.elim .absent .got }, none⟩
    | _ => none
  | .proceed => (session.proceed coordinator now).map fun next => ⟨lease, next, none⟩
  | .deliver =>
    match session.call with
    | .writing write =>
      match write.land lease with
      | some stored => some ⟨some stored, { session with call := .written stored }, none⟩
      | none => some ⟨lease, session.refused, none⟩
    | _ => none
  | .reply =>
    match session.call with
    | .written _ => some ⟨lease, session.replied, none⟩
    | _ => none
  | .fail =>
    match session.call with
    | .getting | .written _ => some ⟨lease, session.failed, none⟩
    | .writing write => some ⟨lease, session.failed, some write⟩
    | _ => none
  | .stop =>
    if session.call = .resting ∧ session.looping ∧
        (session.phase = .leaving ∨ session.phase = .inside ∧ session.cancelled) then
      some ⟨lease, { session with looping := false }, none⟩
    else none
  | .returns =>
    if session.phase = .inside then some ⟨lease, { session with phase := .leaving }, none⟩
    else none
  | .release =>
    if session.phase = .leaving ∧ ¬ session.looping then
      some ⟨lease, { session with
        phase := .releasing, call := .getting, attempts := defaultRetrySteps }, none⟩
    else none
  | .giveUp =>
    if session.phase = .acquiring ∧ session.call = .resting ∧ session.cancelled then
      some ⟨lease, {}, none⟩
    else none

/-- The function runs and its context is not cancelled. -/
def Live : Prop := session.phase = .inside ∧ session.cancelled = false

instance : Decidable session.Live := inferInstanceAs (Decidable (_ ∧ _))

/-- The write that a session sends, from what it read. -/
inductive Sends (coordinator : Coordinator) (now : Time) (session : Session) : Write → Prop where
  | create (phase : session.phase = .acquiring) (call : session.call = .absent) :
      Sends coordinator now session ⟨.claim, none, coordinator.createLease now⟩
  | claim {read : Versioned LeaseSpec} (phase : session.phase = .acquiring)
      (call : session.call = .claiming read) :
      Sends coordinator now session ⟨.claim, some read.version,
        coordinator.claimLease now read.value (valueOrEmpty read.value.holderIdentity)⟩
  | renew {read : Versioned LeaseSpec}
      (phase : session.phase = .inside ∨ session.phase = .leaving)
      (call : session.call = .got read)
      (held : valueOrEmpty read.value.holderIdentity = coordinator.holderIdentity) :
      Sends coordinator now session ⟨.renew, some read.version,
        coordinator.renewed now read.value⟩
  | release {read : Versioned LeaseSpec} (phase : session.phase = .releasing)
      (call : session.call = .got read)
      (held : valueOrEmpty read.value.holderIdentity = coordinator.holderIdentity) :
      Sends coordinator now session ⟨.release, some read.version,
        Coordinator.released now read.value⟩

/-- What a step of a session can do. -/
inductive Moves (coordinator : Coordinator) (now : Time) (lease : Option (Versioned LeaseSpec))
    (session : Session) : Action → Moved → Prop where
  | start {next : Session} (phase : session.phase = .idle) (call : next.call = .resting)
      (idle : next.phase = .acquiring) :
      Moves coordinator now lease session .start ⟨lease, next, none⟩
  | keeps {action : Action} {next : Session} (call : next.call = session.call)
      (phase : next.phase = session.phase ∨
        session.phase = .inside ∧ next.phase = .leaving)
      (active : session.phase ≠ .idle) (live : next.Live → session.Live) :
      Moves coordinator now lease session action ⟨lease, next, none⟩
  | rests {action : Action} {next : Session} {abandoned : Option Write}
      (call : next.call = .resting ∨ next.call = .getting ∨ next.call = .absent)
      (active : next.phase ≠ .idle → session.phase ≠ .idle)
      (live : next.Live → session.Live)
      (sent : ∀ write ∈ abandoned, session.call = .writing write) :
      Moves coordinator now lease session action ⟨lease, next, abandoned⟩
  | reads {read : Versioned LeaseSpec} (call : session.call = .getting)
      (present : lease = some read) :
      Moves coordinator now lease session .read ⟨lease, { session with call := .got read }, none⟩
  | considers {read : Versioned LeaseSpec} (phase : session.phase = .acquiring)
      (call : session.call = .got read)
      (available : coordinator.leaseAvailable now read.value = true) :
      Moves coordinator now lease session .proceed
        ⟨lease, { session with call := .claiming read }, none⟩
  | sends {write : Write} (sends : Sends coordinator now session write) :
      Moves coordinator now lease session .proceed
        ⟨lease, { session with call := .writing write }, none⟩
  | lands {write : Write} {stored : Versioned LeaseSpec} (call : session.call = .writing write)
      (lands : write.land lease = some stored) :
      Moves coordinator now lease session .deliver
        ⟨some stored, { session with call := .written stored }, none⟩
  | enters {stored : Versioned LeaseSpec} (phase : session.phase = .acquiring)
      (call : session.call = .written stored) :
      Moves coordinator now lease session .reply
        ⟨lease, { session with phase := .inside, call := .resting, looping := true }, none⟩

variable {session} {coordinator : Coordinator} {now : Time}
  {lease : Option (Versioned LeaseSpec)}

theorem call_failed : session.failed.call = .resting := by
  unfold failed
  split <;> rfl

theorem active_of_failed (active : session.failed.phase ≠ .idle) : session.phase ≠ .idle := by
  intro idle
  simp [failed, idle] at active

theorem not_live_failed : ¬ session.failed.Live := by
  unfold failed
  split <;> simp [Live]

variable {action : Action}

theorem moves_failed {abandoned : Option Write}
    (sent : ∀ write ∈ abandoned, session.call = .writing write) :
    Moves coordinator now lease session action ⟨lease, session.failed, abandoned⟩ :=
  .rests (.inl call_failed) active_of_failed (fun live => absurd live not_live_failed) sent

theorem moves_refused :
    Moves coordinator now lease session action ⟨lease, session.refused, none⟩ := by
  unfold refused
  split
  · exact .rests (.inl rfl) id id (by simp)
  · split
    · exact .rests (.inr (.inl rfl)) id id (by simp)
    · exact moves_failed (by simp)

theorem moves_issue {next : Session} (issues : session.issue = some next) :
    Moves coordinator now lease session action ⟨lease, next, none⟩ := by
  unfold issue at issues
  split at issues
  · cases issues
    exact .rests (.inr (.inl rfl)) id id (by simp)
  all_goals try split at issues
  all_goals cases issues
  all_goals exact .rests (.inr (.inl rfl)) id id (by simp)

theorem moves_proceed {next : Session} (proceeds : session.proceed coordinator now = some next) :
    Moves coordinator now lease session .proceed ⟨lease, next, none⟩ := by
  unfold proceed at proceeds
  split at proceeds
  case h_1 phase call =>
    cases proceeds
    exact .sends (.create phase call)
  case h_2 read phase call =>
    split at proceeds <;> cases proceeds
    · rename_i available
      exact .considers phase call available
    · exact .rests (.inl rfl) id id (by simp)
  case h_3 read phase call =>
    cases proceeds
    exact .sends (.claim phase call)
  case h_7 read phase call =>
    split at proceeds <;> cases proceeds
    · exact moves_failed (by simp)
    · rename_i held
      exact .sends (.renew (.inl phase) call (not_not.mp held))
  case h_8 read phase call =>
    split at proceeds <;> cases proceeds
    · exact moves_failed (by simp)
    · rename_i held
      exact .sends (.renew (.inr phase) call (not_not.mp held))
  case h_9 read phase call =>
    split at proceeds <;> cases proceeds
    · exact .rests (.inl rfl) (by simp) (by simp [Live]) (by simp)
    · rename_i held
      exact .sends (.release phase call (not_not.mp held))
  all_goals cases proceeds
  all_goals exact moves_failed (by simp)

theorem moves_replied {stored : Versioned LeaseSpec} (call : session.call = .written stored) :
    Moves coordinator now lease session .reply ⟨lease, session.replied, none⟩ := by
  unfold replied
  split
  · rename_i phase
    exact .enters phase call
  · exact .rests (.inl rfl) id id (by simp)
  · exact .rests (.inl rfl) id id (by simp)
  · exact .rests (.inl rfl) (by simp) (by simp [Live]) (by simp)

variable {moved : Moved}

theorem moves_of_step (steps : step coordinator now lease session action = some moved) :
    Moves coordinator now lease session action moved := by
  cases action with
  | start =>
    simp only [step] at steps
    split at steps <;> cases steps
    rename_i idle
    exact .start idle rfl rfl
  | cancel =>
    simp only [step] at steps
    split at steps <;> cases steps
    rename_i active
    exact .keeps rfl (.inl rfl) active (by simp [Live])
  | issue =>
    obtain ⟨next, issues, rfl⟩ := Option.map_eq_some_iff.mp steps
    exact moves_issue issues
  | read =>
    simp only [step] at steps
    split at steps <;> cases steps
    rename_i call
    cases lease with
    | none => exact .rests (.inr (.inr rfl)) id id (by simp)
    | some read => exact .reads call rfl
  | proceed =>
    obtain ⟨next, proceeds, rfl⟩ := Option.map_eq_some_iff.mp steps
    exact moves_proceed proceeds
  | deliver =>
    simp only [step] at steps
    split at steps
    · rename_i write call
      split at steps <;> cases steps
      · rename_i lands
        exact .lands call lands
      · exact moves_refused
    · cases steps
  | reply =>
    simp only [step] at steps
    split at steps <;> cases steps
    rename_i call
    exact moves_replied call
  | fail =>
    simp only [step] at steps
    split at steps <;> cases steps
    · exact moves_failed (by simp)
    · exact moves_failed (by simp)
    · rename_i call
      exact moves_failed (by simp [call])
  | stop =>
    simp only [step] at steps
    split at steps <;> cases steps
    rename_i enabled
    refine .keeps rfl (.inl rfl) ?_ id
    rcases enabled.2.2 with phase | ⟨phase, -⟩ <;> simp [phase]
  | returns =>
    simp only [step] at steps
    split at steps <;> cases steps
    rename_i phase
    exact .keeps rfl (.inr ⟨phase, rfl⟩) (by simp [phase]) (by simp [Live])
  | release =>
    simp only [step] at steps
    split at steps <;> cases steps
    rename_i enabled
    exact .rests (.inr (.inl rfl)) (by simp [enabled.1]) (by simp [Live]) (by simp)
  | giveUp =>
    simp only [step] at steps
    split at steps <;> cases steps
    exact .rests (.inl rfl) (by simp) (by simp [Live]) (by simp)

/-- A session that has the lease, as far as it knows or will know at the next reply. -/
def Holding (session : Session) : Prop :=
  session.Live ∨ session.phase = .acquiring ∧ ∃ stored, session.call = .written stored

theorem Sends.active {write : Write} (sends : session.Sends coordinator now write) :
    session.phase ≠ .idle := by
  cases sends with
  | create phase => simp [phase]
  | claim phase => simp [phase]
  | renew phase => rcases phase with phase | phase <;> simp [phase]
  | release phase => simp [phase]

theorem Holding.active (holding : session.Holding) : session.phase ≠ .idle := by
  rcases holding with ⟨phase, -⟩ | ⟨phase, -⟩ <;> simp [phase]

/-- A session that has the lease sends nothing but renewals. -/
theorem Holding.sends (holding : session.Holding) {write : Write}
    (sends : session.Sends coordinator now write) :
    write.op = .renew ∧ coordinator.Owns write.spec (newMicroTime now) := by
  rcases holding with ⟨inside, -⟩ | ⟨-, stored, written⟩
  · cases sends with
    | create phase => simp [inside] at phase
    | claim phase => simp [inside] at phase
    | renew _ _ held => exact ⟨rfl, Coordinator.owns_renewed held⟩
    | release phase => simp [inside] at phase
  · cases sends <;> simp_all

variable (moves : session.Moves coordinator now lease action moved)
include moves

/-- A session that runs its function did so before, or its claim has just been answered. -/
theorem Moves.live (live : moved.session.Live) :
    session.Live ∨ action = .reply ∧ session.phase = .acquiring ∧
      ∃ stored, session.call = .written stored := by
  cases moves with
  | start _ _ acquiring => simp [Live, acquiring] at live
  | keeps _ _ _ kept => exact .inl (kept live)
  | rests _ _ kept => exact .inl (kept live)
  | enters phase call => exact .inr ⟨rfl, phase, _, call⟩
  | _ => exact .inl live

/-- A claim that was accepted was so before, or lands now. -/
theorem Moves.claimed {stored : Versioned LeaseSpec}
    (phase : moved.session.phase = .acquiring) (call : moved.session.call = .written stored) :
    session.phase = .acquiring ∧ (session.call = .written stored ∨
      ∃ write, session.call = .writing write ∧ write.land lease = some stored ∧
        moved.lease = some stored) := by
  cases moves with
  | start _ resting => simp [resting] at call
  | keeps kept stays =>
    rcases stays with same | ⟨-, leaving⟩
    · exact ⟨same ▸ phase, .inl (kept ▸ call)⟩
    · simp [leaving] at phase
  | rests rests => rcases rests with rests | rests | rests <;> simp [rests] at call
  | lands writing lands =>
    cases call
    exact ⟨phase, .inr ⟨_, writing, lands, rfl⟩⟩
  | _ => cases call

/-- A claim on its way was so before, or is sent now. -/
theorem Moves.claims {write : Write}
    (phase : moved.session.phase = .acquiring) (call : moved.session.call = .writing write) :
    session.phase = .acquiring ∧ session.call = .writing write ∨
      coordinator.Owns write.spec (newMicroTime now) := by
  cases moves with
  | start _ resting => simp [resting] at call
  | keeps kept stays =>
    rcases stays with same | ⟨-, leaving⟩
    · exact .inl ⟨same ▸ phase, kept ▸ call⟩
    · simp [leaving] at phase
  | rests rests => rcases rests with rests | rests | rests <;> simp [rests] at call
  | sends sends =>
    cases call
    right
    cases sends with
    | create => exact coordinator.owns_createLease now
    | claim => exact coordinator.owns_claimLease now _ _
    | renew _ _ held => exact Coordinator.owns_renewed held
    | release releasing => cases releasing.symm.trans phase
  | _ => cases call

theorem Moves.active
    (active : moved.session.phase ≠ .idle) : session.phase ≠ .idle ∨ action = .start := by
  cases moves with
  | start => exact .inr rfl
  | keeps _ _ kept => exact .inl kept
  | rests _ kept => exact .inl (kept active)
  | enters phase => simp [phase]
  | _ => exact .inl active

end Session

end ArcaLB.Rollout
