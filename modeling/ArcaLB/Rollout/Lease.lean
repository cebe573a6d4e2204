import Mathlib.Algebra.Group.Nat.Defs
import ArcaLB.Api.VirtualIP

/-!
# The rollout lease

The lease object that a rollout coordinator creates, claims, renews and releases, as
`rollout/lease.go` computes it.  Times are in nanoseconds; a recorded time is a whole
number of microseconds.
-/

namespace ArcaLB.Rollout

/-- One second, in nanoseconds. -/
def second : Nat := 1000000000

/-- The time as the API server records it. -/
def newMicroTime (now : Time) : Time := now / 1000 * 1000

theorem newMicroTime_mono {earlier later : Time} (le : earlier ≤ later) :
    newMicroTime earlier ≤ newMicroTime later :=
  Nat.mul_le_mul_right 1000 (Nat.div_le_div_right le)

/-- The spec of a `coordinationv1.Lease`. -/
structure LeaseSpec where
  holderIdentity : Option String
  leaseDurationSeconds : Option Int
  acquireTime : Option Time
  renewTime : Option Time
  leaseTransitions : Option Int
  deriving DecidableEq, Repr

/-- A missing string is empty. -/
def valueOrEmpty (value : Option String) : String := value.getD ""

/-- The duration of a lease in whole seconds, between one second and the largest
32-bit integer. -/
def leaseDurationSeconds (duration : Nat) : Int :=
  let seconds : Int := ((duration + second - 1) / second : Nat)
  if seconds < 1 then 1 else if 2147483647 < seconds then 2147483647 else seconds

theorem leaseDurationSeconds_pos (duration : Nat) : 0 < leaseDurationSeconds duration := by
  simp only [leaseDurationSeconds]
  split
  · decide
  · split <;> omega

/-- The longest holder identity. -/
def maxHolderIdentityLength : Nat := 128

/-- The holder identity: the base name and the instance, cut from the left of the instance or the
right of the base so that it is not too long.  Host names and instances are ASCII, so the bytes
that the source counts are characters. -/
def leaseHolderIdentity (base instanceID : String) : String :=
  let suffix := "/" ++ instanceID
  if base.length + suffix.length ≤ maxHolderIdentityLength then
    base ++ suffix
  else if maxHolderIdentityLength ≤ suffix.length then
    String.ofList (suffix.toList.drop (suffix.length - maxHolderIdentityLength))
  else
    String.ofList (base.toList.take (maxHolderIdentityLength - suffix.length)) ++ suffix

theorem leaseHolderIdentity_ne_empty (base instanceID : String) :
    leaseHolderIdentity base instanceID ≠ "" := by
  intro empty
  have length := congrArg String.length empty
  simp only [leaseHolderIdentity] at length
  split at length
  · simp at length
  · split at length
    · rename_i long
      simp only [String.length_ofList, List.length_drop, String.length_toList, String.length_empty,
        maxHolderIdentityLength] at length long
      omega
    · simp at length

/-- A coordinator: who it is and for how long it takes a lease. -/
structure Coordinator where
  holderIdentity : String
  leaseDuration : Nat
  named : holderIdentity ≠ ""
  positive : 0 < leaseDuration

/-- Two minutes. -/
def defaultLeaseDuration : Nat := 120 * second

/-- `holder` is the configured identity, or the host name where that is empty. -/
def newWithClient (holder instanceID : String) (leaseDuration : Int) : Coordinator where
  holderIdentity := leaseHolderIdentity (if holder = "" then "unknown" else holder) instanceID
  leaseDuration := if leaseDuration ≤ 0 then defaultLeaseDuration else leaseDuration.toNat
  named := leaseHolderIdentity_ne_empty _ _
  positive := by
    split
    · decide
    · omega

namespace Coordinator

variable (coordinator : Coordinator) (now : Time)

/-- The lease that `createLease` sends. -/
def createLease : LeaseSpec where
  holderIdentity := some coordinator.holderIdentity
  leaseDurationSeconds := some (Rollout.leaseDurationSeconds coordinator.leaseDuration)
  acquireTime := some (newMicroTime now)
  renewTime := some (newMicroTime now)
  leaseTransitions := some 0

/-- The lease as its claimant writes it. -/
def claimLease (lease : LeaseSpec) (previousHolder : String) : LeaseSpec :=
  let transitions := lease.leaseTransitions.getD 0
  { holderIdentity := some coordinator.holderIdentity
    leaseDurationSeconds := some (Rollout.leaseDurationSeconds coordinator.leaseDuration)
    acquireTime :=
      if lease.acquireTime = none ∨ previousHolder ≠ coordinator.holderIdentity then
        some (newMicroTime now)
      else lease.acquireTime
    renewTime := some (newMicroTime now)
    leaseTransitions := some
      (if previousHolder ≠ "" ∧ previousHolder ≠ coordinator.holderIdentity then
        Int.bmod (transitions + 1) (2 ^ 32)
      else transitions) }

/-- How long a recorded lease is valid after its last renewal. -/
def durationOf (lease : LeaseSpec) : Nat :=
  match lease.leaseDurationSeconds with
  | some seconds => if 0 < seconds then seconds.toNat * second else coordinator.leaseDuration
  | none => coordinator.leaseDuration

/-- Free, our own, or run out. -/
def leaseAvailable (lease : LeaseSpec) : Bool :=
  let holder := valueOrEmpty lease.holderIdentity
  if holder = "" ∨ holder = coordinator.holderIdentity then true
  else
    match lease.renewTime.or lease.acquireTime with
    | none => true
    | some renewedAt => renewedAt + coordinator.durationOf lease ≤ now

/-- The lease that `renew` sends. -/
def renewed (lease : LeaseSpec) : LeaseSpec :=
  { lease with
    renewTime := some (newMicroTime now)
    leaseDurationSeconds := some (Rollout.leaseDurationSeconds coordinator.leaseDuration) }

/-- The lease that `release` sends. -/
def released (lease : LeaseSpec) : LeaseSpec :=
  { lease with holderIdentity := none, renewTime := some (newMicroTime now) }

end Coordinator

/-- `lease` is what the coordinator recorded at `time`. -/
structure Coordinator.Owns (coordinator : Coordinator) (lease : LeaseSpec) (time : Time) :
    Prop where
  holder : lease.holderIdentity = some coordinator.holderIdentity
  duration : lease.leaseDurationSeconds =
    some (Rollout.leaseDurationSeconds coordinator.leaseDuration)
  renewTime : lease.renewTime = some time

/-- When a lease that the coordinator recorded at `time` expires. -/
def Coordinator.expiry (coordinator : Coordinator) (time : Time) : Time :=
  time + (Rollout.leaseDurationSeconds coordinator.leaseDuration).toNat * second

namespace Coordinator

variable {coordinator other : Coordinator} {lease : LeaseSpec} {now later time : Time}

theorem owns_createLease (coordinator : Coordinator) (now : Time) :
    coordinator.Owns (coordinator.createLease now) (newMicroTime now) :=
  ⟨rfl, rfl, rfl⟩

theorem owns_claimLease (coordinator : Coordinator) (now : Time) (lease : LeaseSpec)
    (previousHolder : String) :
    coordinator.Owns (coordinator.claimLease now lease previousHolder) (newMicroTime now) :=
  ⟨rfl, rfl, rfl⟩

theorem owns_renewed (held : valueOrEmpty lease.holderIdentity = coordinator.holderIdentity) :
    coordinator.Owns (coordinator.renewed now lease) (newMicroTime now) := by
  refine ⟨?_, rfl, rfl⟩
  cases named : lease.holderIdentity with
  | none =>
    rw [named] at held
    exact absurd held.symm coordinator.named
  | some holder =>
    rw [named] at held
    exact named.trans (congrArg some held)

/-- A lease that is available stays so. -/
theorem leaseAvailable_mono (available : coordinator.leaseAvailable now lease = true)
    (le : now ≤ later) : coordinator.leaseAvailable later lease = true := by
  simp only [leaseAvailable] at available ⊢
  split at available
  · rename_i free
    rw [if_pos free]
  · rename_i taken
    rw [if_neg taken]
    split at available
    · rfl
    · exact decide_eq_true (Nat.le_trans (of_decide_eq_true available) le)

/-- A lease that another coordinator holds is available only after its recorded renew time
and its recorded duration. -/
theorem expired_of_leaseAvailable (available : coordinator.leaseAvailable now lease = true)
    {holder : String} (held : lease.holderIdentity = some holder) (named : holder ≠ "")
    (distinct : holder ≠ coordinator.holderIdentity) {seconds : Int}
    (renewed : lease.renewTime = some time) (recorded : lease.leaseDurationSeconds = some seconds) :
    (time : Int) + seconds * second ≤ now := by
  simp only [leaseAvailable, held, valueOrEmpty, Option.getD_some, named, distinct, or_self,
    ↓reduceIte, renewed, Option.some_or, durationOf, recorded, decide_eq_true_eq] at available
  split at available
  · rename_i positive
    have : seconds = (seconds.toNat : Int) := (Int.toNat_of_nonneg (Int.le_of_lt positive)).symm
    rw [this]
    exact_mod_cast available
  · rename_i nonpositive
    have : seconds * second ≤ 0 :=
      Int.mul_nonpos_of_nonpos_of_nonneg (Int.not_lt.mp nonpositive) (by decide)
    have past : (time : Int) ≤ now := Int.ofNat_le.mpr (Nat.le_of_add_right_le available)
    omega

/-- A lease that another coordinator recorded is available only after it expired. -/
theorem Owns.expiry_le (owns : other.Owns lease time)
    (distinct : other.holderIdentity ≠ coordinator.holderIdentity)
    (available : coordinator.leaseAvailable now lease = true) : other.expiry time ≤ now := by
  have expired := expired_of_leaseAvailable available owns.holder other.named distinct
    owns.renewTime owns.duration
  have positive := leaseDurationSeconds_pos other.leaseDuration
  have : Rollout.leaseDurationSeconds other.leaseDuration =
      ((Rollout.leaseDurationSeconds other.leaseDuration).toNat : Int) :=
    (Int.toNat_of_nonneg (Int.le_of_lt positive)).symm
  rw [this] at expired
  simp only [expiry]
  exact_mod_cast expired

end Coordinator

end ArcaLB.Rollout
