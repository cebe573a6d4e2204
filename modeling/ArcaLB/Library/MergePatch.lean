import Mathlib.Logic.Function.Basic

/-!
# JSON merge patch

JSON values and the merge patch of RFC 7396.  Objects are partial maps from names, so two
objects are equal when they have the same members.  Applied to a target, a patch leaves alone
whatever it does not name, in every object that both have; records with the same names merge
name by name.
-/

/-- A JSON value. -/
inductive Json where
  | null
  | bool (value : Bool)
  | number (value : Int)
  | text (value : String)
  | array (values : List Json)
  | object (members : String → Option Json)

namespace Json

/-- A member of an object; other values have none. -/
def member : Json → String → Option Json
  | object members => members
  | _ => fun _ => none

@[simp] theorem member_object (members : String → Option Json) :
    (object members).member = members := rfl

@[simp] theorem member_null : null.member = fun _ => none := rfl

/-- What stands at the end of a path of names. -/
def path : List String → Json → Option Json
  | [], value => some value
  | name :: rest, value => (value.member name).bind (path rest)

/-- The object with these members, as far as they have a value. -/
def record (entries : List (String × Option Json)) : Json :=
  object fun name => (entries.lookup name).join

@[simp] theorem member_record (entries : List (String × Option Json)) (name : String) :
    (record entries).member name = (entries.lookup name).join := rfl

/-- A value that stands in a patch for itself, whatever it finds. -/
def isLeaf : Json → Bool
  | bool _ | number _ | text _ | array _ => true
  | null | object _ => false

mutual

/-- `MergePatch(Target, Patch)`. -/
def mergePatch (target : Json) : Json → Json
  | object members => object fun name => mergeMember (target.member name) (members name)
  | null => null
  | bool value => bool value
  | number value => number value
  | text value => text value
  | array values => array values

/-- What becomes of a member: a patch that does not name it leaves it alone, and `null`
removes it. -/
def mergeMember (target : Option Json) : Option Json → Option Json
  | none => target
  | some null => none
  | some (bool value) => some (bool value)
  | some (number value) => some (number value)
  | some (text value) => some (text value)
  | some (array values) => some (array values)
  | some (object members) => some (mergePatch (target.getD null) (object members))

end

@[simp] theorem mergePatch_object (target : Json) (members : String → Option Json) :
    mergePatch target (object members) =
      object fun name => mergeMember (target.member name) (members name) := by
  rw [mergePatch]

@[simp] theorem mergeMember_none (target : Option Json) : mergeMember target none = target := by
  rw [mergeMember]

@[simp] theorem mergeMember_null (target : Option Json) :
    mergeMember target (some null) = none := by
  rw [mergeMember]

theorem mergeMember_leaf {value : Json} (leaf : value.isLeaf) (target : Option Json) :
    mergeMember target (some value) = some value := by
  cases value with
  | null | object _ => cases leaf
  | bool _ | number _ | text _ | array _ => rw [mergeMember]

theorem mergeMember_record (target : Option Json) (entries : List (String × Option Json)) :
    mergeMember target (some (record entries)) =
      some (mergePatch (target.getD null) (record entries)) := by
  rw [record, mergeMember]

/-- Member by member. -/
theorem mergePatch_record (target : Json) (entries : List (String × Option Json)) :
    mergePatch target (record entries) =
      object fun name => mergeMember (target.member name) (entries.lookup name).join := by
  rw [record, mergePatch_object]

/-- An object of plain members is what it yields on nothing. -/
theorem mergePatch_null_record {entries : List (String × Option Json)}
    (plain : ∀ entry ∈ entries, mergeMember none entry.2 = entry.2) :
    mergePatch null (record entries) = record entries := by
  rw [mergePatch_record, record]
  congr 1
  funext name
  cases found : entries.lookup name with
  | none => rw [Option.join_none, mergeMember_none, member_null]
  | some value =>
    obtain ⟨before, after, rfl, -⟩ := List.lookup_eq_some_iff.mp found
    exact plain (name, value) (by simp)

section Records

variable {olds news : List (String × Option Json)}

theorem lookup_eq_none_of_not_mem {β : Type} {entries : List (String × β)} {name : String}
    (missing : name ∉ entries.map Prod.fst) : entries.lookup name = none := by
  rw [List.lookup_eq_none_iff]
  exact fun entry member => bne_iff_ne.mpr fun equal =>
    missing (equal ▸ List.mem_map_of_mem member)

/-- A member without a value is no member. -/
theorem record_cons_none {name : String} (missing : name ∉ olds.map Prod.fst) :
    record ((name, none) :: olds) = record olds := by
  rw [record, record]
  congr 1
  funext key
  by_cases same : key = name
  · simp [same, lookup_eq_none_of_not_mem missing]
  · simp [List.lookup_cons, beq_false_of_ne same]

/-- Two records of the same names, merged name by name. -/
def merged (olds news : List (String × Option Json)) : List (String × Option Json) :=
  List.zipWith (fun old new => (new.1, mergeMember old.2 new.2)) olds news

theorem lookup_merged (names : olds.map Prod.fst = news.map Prod.fst) (name : String) :
    ((merged olds news).lookup name).join =
      mergeMember (olds.lookup name).join (news.lookup name).join := by
  induction olds generalizing news with
  | nil =>
    obtain rfl := List.map_eq_nil_iff.mp names.symm
    exact (mergeMember_none none).symm
  | cons old olds ih =>
    obtain ⟨key, value⟩ := old
    obtain _ | ⟨⟨_, new⟩, news⟩ := news
    · cases names
    obtain ⟨rfl, rest⟩ := List.cons.inj names
    change (((key, mergeMember value new) :: merged olds news).lookup name).join =
      mergeMember (((key, value) :: olds).lookup name).join _
    by_cases same : name = key
    · simp [same]
    · simpa [List.lookup_cons, beq_false_of_ne same] using ih rest

theorem mergePatch_records (names : olds.map Prod.fst = news.map Prod.fst) :
    mergePatch (record olds) (record news) = record (merged olds news) := by
  rw [mergePatch_record, record]
  congr 1
  funext name
  exact (lookup_merged names name).symm

/-- A record shows the value of every name that it has. -/
theorem record_inj (names : olds.map Prod.fst = news.map Prod.fst)
    (distinct : (olds.map Prod.fst).Nodup) : record olds = record news ↔ olds = news := by
  refine ⟨fun equal => ?_, congrArg record⟩
  have shown (name : String) : (olds.lookup name).join = (news.lookup name).join :=
    congrFun (object.inj equal) name
  clear equal
  induction olds generalizing news with
  | nil => exact (List.map_eq_nil_iff.mp names.symm).symm
  | cons old olds ih =>
    obtain _ | ⟨⟨key, new⟩, news⟩ := news
    · cases names
    obtain ⟨key, old⟩ := old
    obtain ⟨rfl, rest⟩ : key = _ ∧ _ := List.cons.inj names
    obtain ⟨fresh, distinct⟩ := List.nodup_cons.mp distinct
    have value : old = new := by simpa [List.lookup_cons] using shown key
    rw [value, ih rest distinct fun name => ?_]
    by_cases same : name = key
    · -- The name of the head is in neither tail.
      rw [same, lookup_eq_none_of_not_mem fresh, lookup_eq_none_of_not_mem (rest ▸ fresh)]
    · simpa [List.lookup_cons, beq_false_of_ne same] using shown name

end Records

end Json
