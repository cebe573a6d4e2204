import ArcaLB.Octavia.Outcomes

/-!
# What closures stop with

The checks of a member stop with faults of their own.  Only the health check port can stop a
closure because of mixed ports, and only the guard of a closure skips it.
-/

namespace ArcaLB.Octavia

variable {α β : Type} {python : Python} {octavia : Database}

/-- A fault that is not about mixed ports. -/
def Stop.Plain : Stop → Prop
  | .fault user _ => user ≠ mixedPortsFault
  | .skipped => False
  | .api _ => False

/-- The check stops with faults that are not about mixed ports only. -/
def StopsPlainly (result : Checked α) : Prop := ∀ stop, result = .error stop → stop.Plain

namespace StopsPlainly

theorem pure {value : α} : StopsPlainly (Pure.pure value : Checked α) := by
  intro stop stopped
  cases stopped

/-- Every other fault is plain. -/
theorem fault {user operator : String} (other : user ≠ mixedPortsFault) :
    StopsPlainly (Octavia.fault user operator : Checked α) := by
  intro stop stopped
  cases stopped
  exact other

/-- **Sequence.** -/
theorem bind {first : Checked α} {rest : α → Checked β} (before : StopsPlainly first)
    (afterwards : ∀ value, StopsPlainly (rest value)) : StopsPlainly (first >>= rest) := by
  intro stop stopped
  cases first with
  | error _ =>
    cases stopped
    exact before stop rfl
  | ok value => exact afterwards value stop stopped

/-- A check of every item stops plainly if each does. -/
theorem forM {check : α → Checked Unit} (list : List α) (each : ∀ item, StopsPlainly (check item)) :
    StopsPlainly (list.forM check) := by
  induction list with
  | nil => exact pure
  | cons item rest ih => exact bind (each item) fun _ => ih

end StopsPlainly

/-! ## Checks of members -/

theorem stopsPlainly_validateMemberSupported (m : Member) :
    StopsPlainly (validateMemberSupported m) := by
  unfold validateMemberSupported
  split
  · exact .fault (by decide)
  · exact .pure

theorem stopsPlainly_validateMemberDataplanePort (spec : Spec) (m : Member) :
    StopsPlainly (validateMemberDataplanePort spec m) := by
  unfold validateMemberDataplanePort
  split
  · exact .pure
  · split
    · exact .fault (by decide)
    · split
      · exact .pure
      · exact .fault (by decide)

theorem stopsPlainly_validateMemberAddresses (m : Member) :
    StopsPlainly (validateMemberAddresses python m) := by
  have address (value : String) {field : String}
      (other : field ++ " must be a valid IP address." ≠ mixedPortsFault) :
      StopsPlainly (validateIPAddress python value field) := by
    unfold validateIPAddress
    split
    · exact .pure
    · exact .fault other
  unfold validateMemberAddresses
  split
  · exact .fault (by decide)
  · refine .bind (address _ (by decide)) fun _ => ?_
    split
    · exact address _ (by decide)
    · exact .pure

/-- A text that starts otherwise is another one. -/
theorem append_ne_mixedPortsFault {start rest : String}
    (other : start.toList.head? ≠ some 'A') (text : start ≠ "") :
    start ++ rest ≠ mixedPortsFault := by
  intro same
  have heads := congrArg (fun text : String => text.toList.head?) same
  cases letters : start.toList with
  | nil => exact text (String.toList_eq_nil_iff.mp letters)
  | cons letter letters' =>
    rw [letters] at other
    simp only [String.toList_append, letters, List.cons_append, List.head?_cons] at heads other
    exact other heads

theorem stopsPlainly_validateMemberAddressFamily (spec : Spec) (m : Member) :
    StopsPlainly (validateMemberAddressFamily python spec m) := by
  have other (text : String) : "encap_type " ++ text ≠ mixedPortsFault :=
    append_ne_mixedPortsFault (by decide) (by decide)
  unfold validateMemberAddressFamily
  dsimp only
  split
  · exact .fault (by rw [String.append_assoc]; exact other _)
  · split
    · exact .fault (by rw [String.append_assoc]; exact other _)
    · exact .pure

/-- The checks of a member never stop for mixed ports or skip. -/
theorem stopsPlainly_validateMemberOn (spec : Spec) (m : Member) :
    StopsPlainly (validateMemberOn python spec m) := by
  refine .bind (stopsPlainly_validateMemberDataplanePort spec m) fun _ => ?_
  split
  · exact .pure
  · exact stopsPlainly_validateMemberAddressFamily spec m

/-! ## Health check ports -/

namespace HealthCheck

/-- The check is one of those that connect to a port. -/
def Probes (check : HealthCheck) : Prop :=
  check.type ∈ [some "http", some "https"] ∨ check.type ∈ [some "tcp", some "tls-hello"]

instance (check : HealthCheck) : Decidable check.Probes := inferInstanceAs (Decidable (_ ∨ _))

/-- The port that a check connects to. -/
def probePort (check : HealthCheck) : Option Int :=
  if check.type = some "http" ∨ check.type = some "https" then check.http.bind HttpCheck.port
  else check.tcp.bind TcpCheck.port

/-- The check with another port to connect to. -/
def setProbePort (check : HealthCheck) (port : Int) : HealthCheck :=
  if check.type = some "http" ∨ check.type = some "https" then
    let http := check.http.getD ⟨none, none, none, none, none, none, none⟩
    { check with http := some { http with port := some port } }
  else
    let tcp := check.tcp.getD ⟨none, none, none⟩
    { check with tcp := some { tcp with port := some port } }

end HealthCheck

/-- A check that connects to a port is given the port of the members, and another one stays. -/
theorem refreshHealthCheckPort_eq (octavia : Database) (poolID : String) (vipSpec spec : Spec)
    (members : List Member) :
    refreshHealthCheckPort octavia poolID vipSpec members spec =
      match spec.healthCheck with
      | none => pure spec
      | some check =>
        if check.Probes then
          (fun port => { spec with healthCheck := some (check.setProbePort port) }) <$>
            resolveHealthCheckPort octavia poolID vipSpec members
        else pure spec := by
  unfold refreshHealthCheckPort
  cases spec.healthCheck with
  | none => rfl
  | some check =>
    dsimp only
    by_cases http : check.type ∈ [some "http", some "https"]
    · have probes : check.Probes := .inl http
      simp only [if_pos http, if_pos probes, HealthCheck.setProbePort,
        if_pos (List.mem_pair.mp http)]
      cases resolveHealthCheckPort octavia poolID vipSpec members <;> rfl
    · by_cases tcp : check.type ∈ [some "tcp", some "tls-hello"]
      · have probes : check.Probes := .inr tcp
        simp only [if_neg http, if_pos tcp, if_pos probes, HealthCheck.setProbePort,
          if_neg (List.mem_pair.not.mp http)]
        cases resolveHealthCheckPort octavia poolID vipSpec members <;> rfl
      · have idle : ¬ check.Probes := fun probes => probes.elim http tcp
        simp only [if_neg http, if_neg tcp, if_neg idle]

variable {poolID : String} {members : List Member}

/-- Resolving a port never skips. -/
theorem resolveHealthCheckPort_ne_skipped {vipSpec : Spec} :
    resolveHealthCheckPort octavia poolID vipSpec members ≠ .error .skipped := by
  unfold resolveHealthCheckPort
  split
  · exact fun stopped => by cases stopped
  · split
    · exact fun stopped => by cases stopped
    · exact fun stopped => by cases stopped
  · exact fun stopped => by cases stopped

theorem refreshHealthCheckPort_ne_skipped {vipSpec spec : Spec} :
    refreshHealthCheckPort octavia poolID vipSpec members spec ≠ .error .skipped := by
  rw [refreshHealthCheckPort_eq]
  split
  · exact fun stopped => by cases stopped
  · split
    · cases resolved : resolveHealthCheckPort octavia poolID vipSpec members with
      | ok port => exact fun stopped => by cases stopped
      | error stop =>
        intro stopped
        cases stopped
        exact resolveHealthCheckPort_ne_skipped resolved
    · exact fun stopped => by cases stopped

/-! ## Skipped closures -/

theorem StopsPlainly.ne_skipped {check : Checked α} (plainly : StopsPlainly check) :
    check ≠ .error .skipped :=
  fun skipped => plainly .skipped skipped

variable {draft : Draft}

/-- Closures for members are skipped for no reason of their own. -/
theorem mutateMember_ne_skipped {m : Member} :
    mutateMember python octavia poolID m draft ≠ .error .skipped :=
  Except.bind_ne_error (stopsPlainly_validateMemberOn draft.spec m).ne_skipped fun _ =>
    Except.bind_ne_error refreshHealthCheckPort_ne_skipped fun _ => nofun

theorem mutateMemberBatchUpdate_ne_skipped :
    mutateMemberBatchUpdate python octavia poolID members draft ≠ .error .skipped :=
  Except.bind_ne_error
    (StopsPlainly.forM members fun m => stopsPlainly_validateMemberOn draft.spec m).ne_skipped
    fun _ => Except.bind_ne_error refreshHealthCheckPort_ne_skipped fun _ => nofun

theorem parseExpectedCodesPart_ne_skipped {codes : String} {part : List Char} :
    parseExpectedCodesPart python codes part ≠ .error .skipped := by
  have valid (code : Int) : validateExpectedCode codes code ≠ .error .skipped := by
    unfold validateExpectedCode
    split <;> exact nofun
  unfold parseExpectedCodesPart
  dsimp only
  split
  · exact nofun
  · split
    · split
      · split
        · exact nofun
        · exact Except.bind_ne_error (valid _) fun _ =>
            Except.bind_ne_error (valid _) fun _ => nofun
      · exact nofun
    · split
      · exact Except.bind_ne_error (valid _) fun _ => nofun
      · exact nofun

theorem mapM_ne_skipped {f : α → Checked β} (each : ∀ item, f item ≠ .error .skipped)
    (list : List α) : list.mapM f ≠ .error .skipped := by
  induction list with
  | nil => exact nofun
  | cons item rest ih =>
    rw [List.mapM_cons]
    exact Except.bind_ne_error (each item) fun _ => Except.bind_ne_error ih fun _ => nofun

theorem parseExpectedCodes_ne_skipped {codes : String} :
    parseExpectedCodes python codes ≠ .error .skipped := by
  unfold parseExpectedCodes
  split
  · exact nofun
  · exact Except.bind_ne_error (mapM_ne_skipped (fun _ => parseExpectedCodesPart_ne_skipped) _)
      fun _ => nofun

theorem buildHealthCheck_ne_skipped {hm : HealthMonitor} {vipSpec : Spec} :
    buildHealthCheck python octavia poolID hm vipSpec ≠ .error .skipped := by
  unfold buildHealthCheck
  refine Except.bind_ne_error ?_ fun type => ?_
  · unfold mapHealthMonitorType
    split <;> exact nofun
  · dsimp only
    split
    · exact Except.bind_ne_error resolveHealthCheckPort_ne_skipped fun _ =>
        Except.bind_ne_error parseExpectedCodes_ne_skipped fun _ => nofun
    · split
      · exact Except.bind_ne_error resolveHealthCheckPort_ne_skipped fun _ => nofun
      · exact nofun

/-- Restoring a health check never skips. -/
theorem restoreHealthCheck_ne_skipped {pool : Option Pool} :
    restoreHealthCheck python octavia poolID pool members draft ≠ .error .skipped := by
  unfold restoreHealthCheck
  split
  · exact Except.bind_ne_error buildHealthCheck_ne_skipped fun _ => nofun
  · exact nofun
  · exact Except.bind_ne_error refreshHealthCheckPort_ne_skipped fun _ => nofun

/-- A restore is skipped only for an object with another pool. -/
theorem mutateRestore_ne_skipped {pool : Option Pool} {prepare : Preparation}
    (pooled : (prepare.apply draft).annotations.poolID = some poolID) :
    mutateRestore python octavia poolID pool prepare draft ≠ .error .skipped := by
  have restored (m : Member) :
      StopsPlainly (validateRestoredMember python (prepare.apply draft).spec m) :=
    .bind (stopsPlainly_validateMemberSupported m) fun _ =>
      .bind (stopsPlainly_validateMemberAddresses m) fun _ => stopsPlainly_validateMemberOn _ m
  have ensured : ensureVirtualIPPool (prepare.apply draft).annotations poolID = pure () :=
    if_pos pooled
  simp only [mutateRestore, ensured, pure_bind]
  exact Except.bind_ne_error (StopsPlainly.forM _ restored).ne_skipped fun _ =>
    restoreHealthCheck_ne_skipped

/-- A guarded closure is skipped for an object with another pool, and for no other reason. -/
theorem guarded_eq_skipped_iff {mutate : Draft → Checked Draft}
    (unskipped : mutate draft ≠ .error .skipped) :
    guarded poolID mutate draft = .error .skipped ↔ draft.annotations.poolID ≠ some poolID := by
  rw [guarded, ensureVirtualIPPool]
  by_cases same : draft.annotations.poolID = some poolID
  · rw [if_pos same]
    exact iff_of_false unskipped fun different => different same
  · rw [if_neg same]
    exact iff_of_true rfl same

end ArcaLB.Octavia
