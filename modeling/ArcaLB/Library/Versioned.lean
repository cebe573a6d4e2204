import Mathlib.Logic.Basic

/-!
# Versioned objects

A store that accepts a write only if the version the writer read is still current.
A reader holds an object that may have been replaced since; `Precedes` is what stays
true of it: its version is not ahead of the stored one, and where the versions agree
the objects agree.  So a write that is accepted was computed from the stored object.
-/

/-- An object with the version its store gave it. -/
structure Versioned (Value : Type) where
  version : Nat
  value : Value
  deriving DecidableEq, Repr

namespace Versioned

variable {Value : Type} {read stored next : Versioned Value} {version : Nat} {value : Value}

/-- Replace the stored value, where `version` is still the current one. -/
def replace (stored : Versioned Value) (version : Nat) (value : Value) :
    Option (Versioned Value) :=
  if version = stored.version then some ⟨stored.version + 1, value⟩ else none

theorem replace_eq_some :
    stored.replace version value = some next ↔
      version = stored.version ∧ next = ⟨stored.version + 1, value⟩ := by
  unfold replace
  split <;> simp_all [eq_comm]

/-- `read` is an earlier or the present content of the store. -/
structure Precedes (read stored : Versioned Value) : Prop where
  le : read.version ≤ stored.version
  same : read.version = stored.version → read = stored

theorem Precedes.refl (stored : Versioned Value) : stored.Precedes stored :=
  ⟨Nat.le_refl _, fun _ => rfl⟩

theorem Precedes.trans (first : read.Precedes stored) (second : stored.Precedes next) :
    read.Precedes next := by
  constructor
  · exact Nat.le_trans first.le second.le
  · intro same
    have current : stored.version = next.version :=
      Nat.le_antisymm second.le (same ▸ first.le)
    rw [first.same (same.trans current.symm), second.same current]

/-- What was stored is an earlier content once it is replaced. -/
theorem precedes_of_replace (replaced : stored.replace version value = some next) :
    stored.Precedes next := by
  obtain ⟨-, rfl⟩ := replace_eq_some.mp replaced
  constructor
  · exact Nat.le_succ _
  · intro same
    exact absurd same (Nat.ne_of_lt (Nat.lt_succ_self _))

end Versioned
