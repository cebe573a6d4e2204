import Mathlib.Data.List.AList

/-!
# Maps built by insertion

The keys and the values of a map that a loop fills from a list of items, where a later
item replaces an earlier one with its key.
-/

namespace AList

variable {α : Type} [DecidableEq α] {β ι : Type} (key : ι → α) (value : ι → β)

/-- The keys are those at the start and those of the items. -/
theorem mem_foldl_insert (items : List ι) (start : AList fun _ : α => β) (name : α) :
    name ∈ items.foldl (fun map item => map.insert (key item) (value item)) start ↔
      name ∈ start ∨ ∃ item ∈ items, key item = name := by
  induction items generalizing start with
  | nil => simp
  | cons item rest ih =>
    rw [List.foldl_cons, ih, AList.mem_insert, List.exists_mem_cons_iff, or_assoc,
      eq_comm (a := name)]
    exact or_left_comm

/-- What holds of the values at the start and of those of the items holds of all values. -/
theorem forall_lookup_foldl_insert {holds : α → β → Prop}
    (inserted : ∀ item, holds (key item) (value item)) (items : List ι)
    {start : AList fun _ : α => β}
    (initially : ∀ name found, start.lookup name = some found → holds name found) :
    ∀ name found,
      (items.foldl (fun map item => map.insert (key item) (value item)) start).lookup name =
        some found → holds name found := by
  induction items generalizing start with
  | nil => exact initially
  | cons item rest ih =>
    rw [List.foldl_cons]
    apply ih
    intro name found looked
    by_cases same : name = key item
    · rw [same, AList.lookup_insert, Option.some.injEq] at looked
      rw [← looked, same]
      exact inserted item
    · rw [AList.lookup_insert_ne same] at looked
      exact initially name found looked

/-- The keys that are left once the listed ones are erased. -/
theorem mem_foldl_erase (names : List α) (start : AList fun _ : α => β) (name : α) :
    name ∈ names.foldl (fun map erased => map.erase erased) start ↔
      name ∈ start ∧ name ∉ names := by
  induction names generalizing start with
  | nil => simp
  | cons erased rest ih =>
    rw [List.foldl_cons, ih, AList.mem_erase, List.mem_cons, not_or]
    tauto

theorem length_keys_insert_le (map : AList fun _ : α => β) (name : α) (found : β) :
    (map.insert name found).keys.length ≤ map.keys.length + 1 := by
  rw [AList.keys_insert, List.length_cons]
  exact Nat.succ_le_succ (List.erase_sublist.length_le)

/-- There are at most as many keys as items. -/
theorem length_keys_foldl_insert_le (items : List ι) (start : AList fun _ : α => β) :
    (items.foldl (fun map item => map.insert (key item) (value item)) start).keys.length ≤
      start.keys.length + items.length := by
  induction items generalizing start with
  | nil => exact Nat.le_refl _
  | cons item rest ih =>
    have step := length_keys_insert_le start (key item) (value item)
    have tail := ih (start.insert (key item) (value item))
    simp only [List.foldl_cons, List.length_cons]
    omega

end AList
