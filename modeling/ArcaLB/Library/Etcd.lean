import Mathlib.Data.List.AList
import Mathlib.Logic.Relation

/-!
# A key-value store with transactions

What clients of etcd rely on: every key has at most one entry, an entry carries the revision
of the store that wrote it, and a transaction applies its operations in one step where all
its conditions hold.  The type of a value depends on its key.  A transaction that has too many
operations or conditions, puts a key twice, or puts a key that it also deletes, is rejected
whatever the store holds.
-/

/-- A value with the revision of the store that wrote it. -/
structure Etcd.Entry (α : Type) where
  value : α
  modRevision : Nat
  deriving DecidableEq, Repr

/-- A store. -/
structure Etcd {Key : Type} (Value : Key → Type) where
  entries : AList fun key => Etcd.Entry (Value key)
  revision : Nat

namespace Etcd

variable {Key : Type} {Value : Key → Type} {Range : Type}

/-- A condition of a transaction: `Version(key) = 0`, `Version(key) > 0`,
`Value(key) = expected` and `ModRevision(key) = expected`. -/
inductive Compare (Value : Key → Type) where
  | absent (key : Key)
  | present (key : Key)
  | value (key : Key) (expected : Value key)
  | modRevision (key : Key) (expected : Nat)

/-- An operation of a transaction. -/
inductive Op (Value : Key → Type) (Range : Type) where
  | get (key : Key)
  | put (key : Key) (value : Value key)
  | delete (key : Key)
  | deleteRange (range : Range)

/-- A transaction: operations that are applied if all conditions hold. -/
structure Txn (Value : Key → Type) (Range : Type) where
  conditions : List (Compare Value)
  ops : List (Op Value Range)

/-- Why a server does not take a transaction. -/
inductive Refusal where
  | tooManyOps
  | duplicateKey
  deriving DecidableEq, Repr

/-- How a transaction ends. -/
inductive Reply where
  | succeeded
  | failed
  | rejected (refusal : Refusal)
  deriving DecidableEq, Repr

section Access

variable [DecidableEq Key]

/-- The entry of a key. -/
def lookup (store : Etcd Value) (key : Key) : Option (Entry (Value key)) :=
  store.entries.lookup key

/-- The value under a key. -/
def value (store : Etcd Value) (key : Key) : Option (Value key) :=
  (store.lookup key).map Entry.value

/-- The values under some keys, with what is read off the key. -/
def list {α : Type} (store : Etcd Value) (select : (key : Key) → Value key → Option α) : List α :=
  store.entries.entries.filterMap fun entry => select entry.1 entry.2.value

theorem mem_list {α : Type} {store : Etcd Value} {select : (key : Key) → Value key → Option α}
    {item : α} :
    item ∈ store.list select ↔
      ∃ key value, store.value key = some value ∧ select key value = some item := by
  simp only [list, List.mem_filterMap, value, lookup, Option.map_eq_some_iff]
  constructor
  · rintro ⟨⟨key, entry⟩, member, selected⟩
    exact ⟨key, entry.value, ⟨entry, AList.mem_lookup_iff.mpr member, rfl⟩, selected⟩
  · rintro ⟨key, _, ⟨entry, looked, rfl⟩, selected⟩
    exact ⟨⟨key, entry⟩, AList.mem_lookup_iff.mp looked, selected⟩

/-- Items of different keys differ if they tell their keys apart. -/
theorem pairwise_list {α : Type} {store : Etcd Value} {select : (key : Key) → Value key → Option α}
    {differ : α → α → Prop} (distinct : ∀ key other value value' item item', key ≠ other →
      store.value key = some value → store.value other = some value' →
        select key value = some item → select other value' = some item' → differ item item') :
    (store.list select).Pairwise differ := by
  refine List.pairwise_filterMap.mpr ?_
  have keys : store.entries.entries.Pairwise fun entry other => entry.1 ≠ other.1 :=
    List.nodupKeys_iff_pairwise.mp store.entries.nodupKeys
  have found : ∀ entry ∈ store.entries.entries, store.value entry.1 = some entry.2.value := by
    intro entry member
    rw [value, lookup, AList.mem_lookup_iff.mpr member]
    rfl
  refine keys.imp_of_mem fun first second different item selected item' selected' => ?_
  exact distinct _ _ _ _ item item' different (found _ first) (found _ second) selected selected'

variable [∀ key, DecidableEq (Value key)]

/-- A condition on a key without entry compares its modification revision as `0`, and its
value with nothing. -/
def Compare.holds (store : Etcd Value) : Compare Value → Bool
  | absent key => (store.lookup key).isNone
  | present key => (store.lookup key).isSome
  | value key expected => decide (store.value key = some expected)
  | modRevision key expected =>
    decide (((store.lookup key).map Entry.modRevision).getD 0 = expected)

end Access

namespace Op

/-- The keys that a list of operations puts. -/
def puts (ops : List (Op Value Range)) : List Key :=
  ops.filterMap fun op =>
    match op with
    | put key _ => some key
    | _ => none

theorem mem_puts {ops : List (Op Value Range)} {key : Key} :
    key ∈ puts ops ↔ ∃ value, put key value ∈ ops := by
  simp only [puts, List.mem_filterMap]
  constructor
  · rintro ⟨op, member, selected⟩
    cases op with
    | put other value =>
      cases selected
      exact ⟨value, member⟩
    | get _ | delete _ | deleteRange _ => cases selected
  · rintro ⟨value, member⟩
    exact ⟨_, member, rfl⟩

/-- The operation is not a read. -/
def isWrite : Op Value Range → Bool
  | get _ => false
  | put .. | delete _ | deleteRange _ => true

variable [DecidableEq Key] (covers : Range → Key → Bool)

/-- The operation deletes the key. -/
def deletes (key : Key) : Op Value Range → Bool
  | delete other => decide (other = key)
  | deleteRange range => covers range key
  | get _ | put .. => false

/-- No key is put twice, and none is both put and deleted. -/
def putOnce (ops : List (Op Value Range)) : Bool :=
  decide (puts ops).Nodup && (puts ops).all fun key => !(ops.any fun op => op.deletes covers key)

/-- The entries without those of a range. -/
def removeRange (range : Range) (entries : AList fun key => Entry (Value key)) :
    AList fun key => Entry (Value key) :=
  ⟨entries.entries.filter fun entry => !covers range entry.1,
    entries.nodupKeys.sublist List.filter_sublist⟩

/-- Run one operation in a store that goes to `revision`. -/
def apply (revision : Nat) (entries : AList fun key => Entry (Value key)) :
    Op Value Range → AList fun key => Entry (Value key)
  | get _ => entries
  | put key value => entries.insert key ⟨value, revision⟩
  | delete key => entries.erase key
  | deleteRange range => removeRange covers range entries

end Op

/-- `--max-txn-ops` of a server that does not set it. -/
def maxTxnOps : Nat := 128

section Handling

variable [DecidableEq Key] (covers : Range → Key → Bool)

/-- Why a server with this limit does not take a transaction, if it does not. -/
def Txn.refusal (limit : Nat) (txn : Txn Value Range) : Option Refusal :=
  if limit < max txn.conditions.length txn.ops.length then some .tooManyOps
  else if Op.putOnce covers txn.ops then none
  else some .duplicateKey

variable {covers} in
theorem Txn.refusal_eq_none {limit : Nat} {txn : Txn Value Range} :
    txn.refusal covers limit = none ↔
      max txn.conditions.length txn.ops.length ≤ limit ∧ Op.putOnce covers txn.ops = true := by
  simp [refusal, ite_eq_iff]

/-- Apply operations in order; they are one revision of the store. -/
def write (store : Etcd Value) (ops : List (Op Value Range)) : Etcd Value :=
  if ops.any Op.isWrite then
    { entries := ops.foldl (Op.apply covers (store.revision + 1)) store.entries
      revision := store.revision + 1 }
  else store

variable [∀ key, DecidableEq (Value key)]

/-- Handle a transaction. -/
def handle (txn : Txn Value Range) (store : Etcd Value) : Reply × Etcd Value :=
  match txn.refusal covers maxTxnOps with
  | some refusal => (.rejected refusal, store)
  | none =>
    if txn.conditions.all (Compare.holds store) then (.succeeded, store.write covers txn.ops)
    else (.failed, store)

end Handling

section Handled

variable [DecidableEq Key] [∀ key, DecidableEq (Value key)]

/-- A transaction is rejected, fails, or all its conditions hold and it makes its writes. -/
theorem handle_cases (covers : Range → Key → Bool) (txn : Txn Value Range) (store : Etcd Value) :
    (∃ refusal, handle covers txn store = (.rejected refusal, store)) ∨
    handle covers txn store = (.failed, store) ∨
      (Op.putOnce covers txn.ops = true ∧ txn.conditions.all (Compare.holds store) = true ∧
        handle covers txn store = (.succeeded, store.write covers txn.ops)) := by
  unfold handle
  cases refused : txn.refusal covers maxTxnOps with
  | some refusal => exact .inl ⟨refusal, rfl⟩
  | none =>
    have fine := (Txn.refusal_eq_none.mp refused).2
    dsimp only
    split
    case isTrue holds => exact .inr (.inr ⟨fine, holds, rfl⟩)
    case isFalse => exact .inr (.inl rfl)

/-- A transaction leaves the store as it is, or all its conditions hold and it makes its
writes. -/
theorem handle_writes (covers : Range → Key → Bool) (txn : Txn Value Range) (store : Etcd Value) :
    (handle covers txn store).2 = store ∨
      (Op.putOnce covers txn.ops = true ∧ txn.conditions.all (Compare.holds store) = true ∧
        txn.ops.any Op.isWrite = true ∧
        (handle covers txn store).2 = store.write covers txn.ops) := by
  obtain ⟨_, same⟩ | same | ⟨fine, holds, done⟩ := handle_cases covers txn store
  · exact .inl (congrArg Prod.snd same)
  · exact .inl (congrArg Prod.snd same)
  · cases writes : txn.ops.any Op.isWrite with
    | true => exact .inr ⟨fine, holds, rfl, congrArg Prod.snd done⟩
    | false =>
      refine .inl ((congrArg Prod.snd done).trans ?_)
      rw [Etcd.write, writes]
      rfl

end Handled

/-! ## What a transaction leaves behind -/

section Effect

variable [DecidableEq Key] {covers : Range → Key → Bool} {revision : Nat}
  {entries : AList fun key => Entry (Value key)} {ops : List (Op Value Range)} {key : Key}

theorem lookup_removeRange (range : Range) (entries : AList fun key => Entry (Value key))
    (key : Key) :
    (Op.removeRange covers range entries).lookup key =
      if covers range key then none else entries.lookup key := by
  split
  case isTrue covered =>
    refine AList.lookup_eq_none.mpr fun member => ?_
    obtain ⟨entry, kept, rfl⟩ := List.mem_map.mp member
    exact absurd (List.mem_filter.mp kept).2 (by simp [covered])
  case isFalse uncovered =>
    refine Option.ext fun entry => ?_
    rw [← Option.mem_def, ← Option.mem_def, AList.mem_lookup_iff, AList.mem_lookup_iff]
    simp [Op.removeRange, uncovered]

variable {op : Op Value Range}

namespace Op

/-- The operation leaves the entry of the key alone. -/
def Spares (covers : Range → Key → Bool) (key : Key) : Op Value Range → Prop
  | get _ => True
  | put other _ => other ≠ key
  | delete other => other ≠ key
  | deleteRange range => ¬covers range key

theorem Spares.lookup_apply (spares : op.Spares covers key) :
    (op.apply covers revision entries).lookup key = entries.lookup key := by
  cases op with
  | get _ => rfl
  | put other value => exact AList.lookup_insert_ne (Ne.symm spares)
  | delete other => exact AList.lookup_erase_ne (Ne.symm spares)
  | deleteRange range => exact (lookup_removeRange range entries key).trans (if_neg spares)

theorem spares_of_not_deletes (notPut : ∀ value, op ≠ put key value)
    (kept : op.deletes covers key = false) : op.Spares covers key := by
  cases op with
  | get _ => trivial
  | put other value =>
    rintro rfl
    exact notPut value rfl
  | delete other | deleteRange range => simpa [deletes, Spares] using kept

theorem lookup_apply_of_deletes (deleted : op.deletes covers key = true) :
    (op.apply covers revision entries).lookup key = none := by
  cases op with
  | get _ | put _ _ => cases deleted
  | delete other =>
    obtain rfl : other = key := by simpa [deletes] using deleted
    exact AList.lookup_erase other entries
  | deleteRange range => exact (lookup_removeRange range entries key).trans (if_pos deleted)

theorem lookup_foldl_of_spares (spare : ∀ op ∈ ops, op.Spares covers key) :
    (ops.foldl (apply covers revision) entries).lookup key = entries.lookup key := by
  induction ops generalizing entries with
  | nil => rfl
  | cons op rest ih =>
    rw [List.foldl_cons, ih fun other member => spare other (List.mem_cons_of_mem _ member)]
    exact (spare op List.mem_cons_self).lookup_apply

variable {one two : AList fun key => Entry (Value key)}

/-- What an operation leaves under a key depends on nothing but what was there. -/
theorem lookup_apply_congr (same : one.lookup key = two.lookup key) (op : Op Value Range) :
    (op.apply covers revision one).lookup key = (op.apply covers revision two).lookup key := by
  cases op with
  | get _ => exact same
  | put other value =>
    by_cases hit : key = other
    · subst hit
      exact (AList.lookup_insert one).trans (AList.lookup_insert two).symm
    · exact (AList.lookup_insert_ne hit).trans (same.trans (AList.lookup_insert_ne hit).symm)
  | delete other =>
    by_cases hit : key = other
    · subst hit
      exact (AList.lookup_erase key one).trans (AList.lookup_erase key two).symm
    · exact (AList.lookup_erase_ne hit).trans (same.trans (AList.lookup_erase_ne hit).symm)
  | deleteRange range =>
    exact (lookup_removeRange range one key).trans
      (same ▸ (lookup_removeRange range two key).symm)

/-- What an operation writes under a key does not depend on what was there. -/
theorem lookup_apply_of_not_spares (touches : ¬op.Spares covers key)
    (one two : AList fun key => Entry (Value key)) :
    (op.apply covers revision one).lookup key = (op.apply covers revision two).lookup key := by
  cases op with
  | get _ => exact absurd trivial touches
  | put other value =>
    obtain rfl : other = key := not_not.mp touches
    exact (AList.lookup_insert one).trans (AList.lookup_insert two).symm
  | delete other =>
    obtain rfl : other = key := not_not.mp touches
    exact (AList.lookup_erase other one).trans (AList.lookup_erase other two).symm
  | deleteRange range =>
    have covered : covers range key = true := not_not.mp touches
    exact (lookup_removeRange range one key).trans
      ((if_pos covered).trans ((lookup_removeRange range two key).trans (if_pos covered)).symm)

theorem lookup_foldl_congr (same : one.lookup key = two.lookup key) (ops : List (Op Value Range)) :
    (ops.foldl (apply covers revision) one).lookup key =
      (ops.foldl (apply covers revision) two).lookup key := by
  induction ops generalizing one two with
  | nil => exact same
  | cons op rest ih => exact ih (lookup_apply_congr same op)

/-- **Last writer wins.** Once a key is written, nothing is left of what it held before. -/
theorem lookup_foldl_of_not_spares (member : op ∈ ops)
    (touches : ¬op.Spares covers key) (one two : AList fun key => Entry (Value key)) :
    (ops.foldl (apply covers revision) one).lookup key =
      (ops.foldl (apply covers revision) two).lookup key := by
  obtain ⟨before, after, rfl⟩ := List.append_of_mem member
  rw [List.foldl_append, List.foldl_append, List.foldl_cons, List.foldl_cons]
  exact lookup_foldl_congr (lookup_apply_of_not_spares touches _ _) after

/-- The operation writes the entry of the key. -/
def touches (covers : Range → Key → Bool) (key : Key) : Op Value Range → Bool
  | get _ => false
  | put other _ | delete other => decide (other = key)
  | deleteRange range => covers range key

theorem touches_eq_false : op.touches covers key = false ↔ op.Spares covers key := by
  cases op <;> simp [touches, Spares]

/-- The last operation that writes the key. -/
def lastWrite (covers : Range → Key → Bool) (key : Key) (ops : List (Op Value Range)) :
    Option (Op Value Range) :=
  ops.reverse.find? (touches covers key)

theorem lastWrite_append (first second : List (Op Value Range)) :
    lastWrite covers key (first ++ second) =
      (lastWrite covers key second).or (lastWrite covers key first) := by
  rw [lastWrite, List.reverse_append, List.find?_append]
  rfl

theorem lastWrite_cons (op : Op Value Range) (later : List (Op Value Range)) :
    lastWrite covers key (op :: later) =
      (lastWrite covers key later).or (if op.touches covers key then some op else none) := by
  rw [← List.singleton_append, lastWrite_append]
  congr 1
  cases touched : op.touches covers key <;> simp [lastWrite, touched]

theorem lastWrite_eq_none : lastWrite covers key ops = none ↔ ∀ op ∈ ops, op.Spares covers key := by
  simp [lastWrite, List.find?_eq_none, touches_eq_false]

/-- More operations that leave the key alone. -/
theorem lastWrite_append_of_spares {more : List (Op Value Range)}
    (spare : ∀ op ∈ more, op.Spares covers key) :
    lastWrite covers key (ops ++ more) = lastWrite covers key ops := by
  rw [lastWrite_append, lastWrite_eq_none.mpr spare, Option.none_or]

/-- No key is written by both operations. -/
def Apart (covers : Range → Key → Bool) (one two : Op Value Range) : Prop :=
  ∀ key, one.Spares covers key ∨ two.Spares covers key

instance : Std.Symm (@Apart Key Value Range covers) :=
  ⟨fun _ _ apart key => (apart key).symm⟩

/-- Where no key is written twice, none is put twice. -/
theorem putOnce_of_apart (apart : ops.Pairwise (Apart covers)) : putOnce covers ops = true := by
  rw [putOnce, Bool.and_eq_true, decide_eq_true_eq]
  constructor
  · refine List.pairwise_filterMap.mpr (apart.imp fun {one two} apart key first other second => ?_)
    cases one <;> cases first
    cases two <;> cases second
    rintro rfl
    exact (apart _).elim (fun spares => spares rfl) fun spares => spares rfl
  · refine List.all_eq_true.mpr fun key put => ?_
    obtain ⟨value, member⟩ := mem_puts.mp put
    rw [Bool.not_eq_true', List.any_eq_false]
    intro op listed deleted
    have different : Op.put key value ≠ op := by
      rintro rfl
      cases deleted
    obtain spares | spares := apart.forall member listed different key
    · exact spares rfl
    · cases op with
      | get _ | put _ _ => cases deleted
      | delete other => exact spares (of_decide_eq_true deleted)
      | deleteRange range => exact spares deleted

theorem lookup_foldl_of_absent (notPut : key ∉ puts ops) (absent : entries.lookup key = none) :
    (ops.foldl (apply covers revision) entries).lookup key = none := by
  induction ops generalizing entries with
  | nil => exact absent
  | cons op rest ih =>
    rw [mem_puts, not_exists] at notPut
    rw [List.foldl_cons]
    refine ih ?_ ?_
    · rw [mem_puts, not_exists]
      exact fun value member => notPut value (List.mem_cons_of_mem _ member)
    · cases deleted : op.deletes covers key with
      | true => exact lookup_apply_of_deletes deleted
      | false =>
        rw [Spares.lookup_apply (spares_of_not_deletes ?_ deleted), absent]
        rintro value rfl
        exact notPut value List.mem_cons_self

theorem lookup_foldl_of_deleted (notPut : key ∉ puts ops)
    (member : op ∈ ops) (deleted : op.deletes covers key = true) :
    (ops.foldl (apply covers revision) entries).lookup key = none := by
  obtain ⟨before, after, rfl⟩ := List.append_of_mem member
  rw [List.foldl_append, List.foldl_cons]
  refine lookup_foldl_of_absent ?_ (lookup_apply_of_deletes deleted)
  rw [mem_puts] at notPut ⊢
  rintro ⟨value, later⟩
  exact notPut ⟨value, by simp [later]⟩

theorem spares_of_putOnce {value : Value key} {before after : List (Op Value Range)}
    (fine : putOnce covers (before ++ put key value :: after) = true) :
    ∀ op ∈ after, op.Spares covers key := by
  simp only [putOnce, Bool.and_eq_true, decide_eq_true_eq, List.all_eq_true,
    Bool.not_eq_true', List.any_eq_false] at fine
  obtain ⟨once, kept⟩ := fine
  intro op member
  have listed : op ∈ before ++ put key value :: after := by simp [member]
  refine spares_of_not_deletes ?_ ?_
  · rintro other rfl
    have twice : key ∈ puts after := mem_puts.mpr ⟨other, member⟩
    simp only [puts, List.filterMap_append, List.filterMap_cons, List.nodup_append,
      List.nodup_cons] at once
    exact once.2.1.1 twice
  · have put : key ∈ puts (before ++ put key value :: after) :=
      mem_puts.mpr ⟨value, by simp⟩
    simpa using kept key put op listed

theorem lookup_foldl_of_put {value : Value key} (fine : putOnce covers ops = true)
    (member : put key value ∈ ops) :
    (ops.foldl (apply covers revision) entries).lookup key = some ⟨value, revision⟩ := by
  obtain ⟨before, after, rfl⟩ := List.append_of_mem member
  rw [List.foldl_append, List.foldl_cons,
    lookup_foldl_of_spares (spares_of_putOnce fine)]
  exact AList.lookup_insert _

end Op

variable {store : Etcd Value}

theorem lookup_write_of_put {value : Value key} (fine : Op.putOnce covers ops = true)
    (member : .put key value ∈ ops) :
    (store.write covers ops).lookup key = some ⟨value, store.revision + 1⟩ := by
  have writes : ops.any Op.isWrite = true := List.any_eq_true.mpr ⟨_, member, rfl⟩
  rw [write, if_pos writes]
  exact Op.lookup_foldl_of_put fine member

theorem lookup_write_of_deleted (notPut : key ∉ Op.puts ops)
    (member : op ∈ ops) (deleted : op.deletes covers key = true) :
    (store.write covers ops).lookup key = none := by
  have writes : ops.any Op.isWrite = true := by
    refine List.any_eq_true.mpr ⟨op, member, ?_⟩
    cases op <;> first | rfl | cases deleted
  rw [write, if_pos writes]
  exact Op.lookup_foldl_of_deleted notPut member deleted

theorem lookup_write_of_spares (spare : ∀ op ∈ ops, op.Spares covers key) :
    (store.write covers ops).lookup key = store.lookup key := by
  unfold write
  split
  · exact Op.lookup_foldl_of_spares spare
  · rfl

/-- After a transaction the entry of a key is the one before, gone, or one that was put. -/
theorem lookup_write_cases (store : Etcd Value) (fine : Op.putOnce covers ops = true) (key : Key) :
    (∃ value, .put key value ∈ ops ∧
      (store.write covers ops).lookup key = some ⟨value, store.revision + 1⟩) ∨
    (key ∉ Op.puts ops ∧ (store.write covers ops).lookup key = none ∧
      ∃ op ∈ ops, op.deletes covers key = true) ∨
    (key ∉ Op.puts ops ∧ (∀ op ∈ ops, op.deletes covers key = false) ∧
      (store.write covers ops).lookup key = store.lookup key) := by
  by_cases put : key ∈ Op.puts ops
  · obtain ⟨value, member⟩ := Op.mem_puts.mp put
    exact .inl ⟨value, member, lookup_write_of_put fine member⟩
  · refine .inr ?_
    by_cases deleted : ∃ op ∈ ops, op.deletes covers key = true
    · obtain ⟨op, member, deletes⟩ := deleted
      exact .inl ⟨put, lookup_write_of_deleted put member deletes, op, member, deletes⟩
    · have kept : ∀ op ∈ ops, op.deletes covers key = false := by
        intro op member
        exact Bool.eq_false_iff.mpr fun deletes => deleted ⟨op, member, deletes⟩
      refine .inr ⟨put, kept, lookup_write_of_spares fun op member => ?_⟩
      refine Op.spares_of_not_deletes ?_ (kept op member)
      rintro value rfl
      exact put (Op.mem_puts.mpr ⟨value, member⟩)

end Effect

/-! ## Contents -/

section Conditions

variable [DecidableEq Key] [∀ key, DecidableEq (Value key)] {store : Etcd Value} {key : Key}

@[simp] theorem holds_absent :
    (Compare.absent key).holds store = true ↔ store.lookup key = none := by
  simp [Compare.holds]

@[simp] theorem holds_present :
    (Compare.present key).holds store = true ↔ ∃ entry, store.lookup key = some entry := by
  simp [Compare.holds, Option.isSome_iff_exists]

@[simp] theorem holds_value {expected : Value key} :
    (Compare.value key expected).holds store = true ↔ store.value key = some expected := by
  simp [Compare.holds]

end Conditions

/-! ## Time -/

section Growth

variable [DecidableEq Key] {covers : Range → Key → Bool} {ops : List (Op Value Range)}
  {store earlier middle later : Etcd Value}

/-- No entry is newer than the store. -/
def Dated (store : Etcd Value) : Prop :=
  ∀ key entry, store.lookup key = some entry → entry.modRevision ≤ store.revision

/-- What holds between a store and the same store later on: an entry that is not newer than
the earlier store was already there. -/
structure Grows (earlier later : Etcd Value) : Prop where
  revision_le : earlier.revision ≤ later.revision
  kept : ∀ key entry, later.lookup key = some entry →
    entry.modRevision ≤ earlier.revision → earlier.lookup key = some entry

theorem Grows.refl (store : Etcd Value) : store.Grows store :=
  ⟨Nat.le_refl _, fun _ _ looked _ => looked⟩

theorem Grows.trans (first : earlier.Grows middle) (second : middle.Grows later) :
    earlier.Grows later := by
  constructor
  · exact Nat.le_trans first.revision_le second.revision_le
  · intro key entry looked old
    exact first.kept key entry
      (second.kept key entry looked (Nat.le_trans old first.revision_le)) old

theorem revision_le_write (store : Etcd Value) (ops : List (Op Value Range)) :
    store.revision ≤ (store.write covers ops).revision := by
  unfold write
  split
  · exact Nat.le_succ _
  · exact Nat.le_refl _

theorem grows_write (store : Etcd Value) (fine : Op.putOnce covers ops = true) :
    store.Grows (store.write covers ops) := by
  refine ⟨revision_le_write store ops, fun key entry looked old => ?_⟩
  obtain ⟨value, -, put⟩ | ⟨-, gone, -⟩ | ⟨-, -, same⟩ := lookup_write_cases store fine key
  · cases put.symm.trans looked
    exact absurd old (Nat.not_succ_le_self _)
  · cases gone.symm.trans looked
  · exact same.symm.trans looked

theorem Dated.write (dated : store.Dated) (fine : Op.putOnce covers ops = true) :
    (store.write covers ops).Dated := by
  intro key entry looked
  obtain ⟨value, member, put⟩ | ⟨-, gone, -⟩ | ⟨-, -, same⟩ := lookup_write_cases store fine key
  · cases put.symm.trans looked
    have writes : ops.any Op.isWrite = true := List.any_eq_true.mpr ⟨_, member, rfl⟩
    rw [Etcd.write, if_pos writes]
  · cases gone.symm.trans looked
  · exact Nat.le_trans (dated key entry (same.symm.trans looked)) (revision_le_write store ops)

/-- An entry with the modification revision of an earlier read is the one that was read. -/
theorem Grows.unchanged {key : Key} {read stored : Entry (Value key)}
    (grows : earlier.Grows later) (dated : earlier.Dated)
    (looked : earlier.lookup key = some read) (now : later.lookup key = some stored)
    (same : stored.modRevision = read.modRevision) : stored = read := by
  have before := grows.kept key stored now (same ▸ dated key read looked)
  exact Option.some.inj (before.symm.trans looked)

end Growth

end Etcd
