import ArcaLB.Status.Counts
import Mathlib.Data.List.GetD
import Mathlib.Data.List.TakeWhile

/-!
# Healthy backends in a bitmap

An agent marks the healthy backends of its report in a bitmap, trims the zero bytes at its end
and writes it in hexadecimal digits.  Whoever computes the aggregate reads the same backends
back, however many there are; where the bitmap is empty, no configured backend was healthy and
the rest of the report adds nothing either.
-/

namespace ArcaLB.Status

/-! ## Bits and digits -/

/-- The bit at a position, counted through the bytes. -/
def marks (bytes : List Nat) (position : Nat) : Bool :=
  (bytes.getD (position / 8) 0).testBit (position % 8)

/-- Set one bit. -/
def mark (bytes : List Nat) (position : Nat) : List Nat :=
  bytes.modify (position / 8) (· ||| 1 <<< (position % 8))

/-- Zero bytes at the end are left out. -/
def trim (bytes : List Nat) : List Nat := (bytes.reverse.dropWhile (· = 0)).reverse

section Bytes

variable {bytes : List Nat} {position other : Nat}

theorem length_mark : (mark bytes position).length = bytes.length :=
  List.length_modify ..

theorem marks_mark (inside : other / 8 < bytes.length) :
    marks (mark bytes other) position = (marks bytes position || decide (other = position)) := by
  unfold marks mark
  by_cases same : other / 8 = position / 8
  · have bit : decide (other = position) = decide (other % 8 = position % 8) := by
      rw [decide_eq_decide]
      omega
    rw [bit, ← same, List.getD_eq_getElem?_getD, List.getD_eq_getElem?_getD,
      List.getElem?_modify_eq, List.getElem?_eq_getElem inside]
    simp [Nat.testBit_or, Nat.shiftLeft_eq, Nat.testBit_two_pow]
  · have different : other ≠ position := fun equal => same (equal ▸ rfl)
    rw [List.getD_eq_getElem?_getD, List.getElem?_modify_ne _ _ same,
      ← List.getD_eq_getElem?_getD]
    simp [different]

theorem mark_lt (small : ∀ byte ∈ bytes, byte < 256) :
    ∀ byte ∈ mark bytes position, byte < 256 := by
  intro byte member
  obtain ⟨index, at_index⟩ := List.mem_iff_getElem?.mp member
  rw [mark, List.getElem?_modify] at at_index
  obtain ⟨old, found, rfl⟩ := Option.map_eq_some_iff.mp at_index
  have old_small := small old (List.mem_of_getElem? found)
  split
  · have bit : 1 <<< (position % 8) < 2 ^ 8 := by
      rw [Nat.shiftLeft_eq, Nat.one_mul]
      exact Nat.pow_lt_pow_right (by omega) (Nat.mod_lt _ (by omega))
    exact Nat.or_lt_two_pow old_small bit
  · exact old_small

theorem marks_trim : marks (trim bytes) position = marks bytes position := by
  have split : bytes = trim bytes ++ (bytes.reverse.takeWhile (· = 0)).reverse := by
    rw [trim, ← List.reverse_append, List.takeWhile_append_dropWhile, List.reverse_reverse]
  have rest_zero : ∀ byte ∈ (bytes.reverse.takeWhile (· = 0)).reverse, byte = 0 := by
    intro byte member
    simpa using List.mem_takeWhile_imp (List.mem_reverse.mp member)
  unfold marks
  conv_rhs => rw [split]
  by_cases inside : position / 8 < (trim bytes).length
  · rw [List.getD_append _ _ _ _ inside]
  · rw [List.getD_append_right _ _ _ _ (by omega), List.getD_eq_default _ _ (by omega)]
    congr 1
    cases found :
        (bytes.reverse.takeWhile (· = 0)).reverse[position / 8 - (trim bytes).length]? with
    | none => rw [List.getD_eq_getElem?_getD, found, Option.getD_none]
    | some byte =>
      rw [List.getD_eq_getElem?_getD, found, Option.getD_some,
        rest_zero byte (List.mem_of_getElem? found)]

theorem mem_of_mem_trim {byte : Nat} (member : byte ∈ trim bytes) : byte ∈ bytes :=
  List.mem_reverse.mp ((List.dropWhile_sublist _).subset (List.mem_reverse.mp member))

theorem hexValue_digitChar : ∀ digit < 16, hexValue (Nat.digitChar digit) = some digit := by
  decide

/-- **Round trip.** Hexadecimal digits read back as the bytes. -/
theorem decodeHex_encodeHex (small : ∀ byte ∈ bytes, byte < 256) :
    decodeHex (encodeHex bytes) = some bytes := by
  rw [decodeHex, encodeHex, String.toList_ofList]
  induction bytes with
  | nil => rfl
  | cons byte rest ih =>
    have byte_small := small byte List.mem_cons_self
    have upper := hexValue_digitChar (byte / 16) (by omega)
    have lower := hexValue_digitChar (byte % 16) (Nat.mod_lt _ (by omega))
    rw [List.flatMap_cons, hexByte, List.cons_append, List.cons_append, List.nil_append,
      decodeHexDigits, upper, lower, ih fun other member => small other (.tail _ member)]
    simp [Nat.div_add_mod]

theorem encodeHex_eq_empty_iff : encodeHex bytes = "" ↔ bytes = [] := by
  rw [encodeHex, String.ofList_eq_empty_iff, List.flatMap_eq_nil_iff]
  constructor
  · intro none
    cases bytes with
    | nil => rfl
    | cons byte rest => exact absurd (none byte List.mem_cons_self) (by simp [hexByte])
  · rintro rfl
    simp

end Bytes

/-! ## Bitmaps of reports -/

section Reports

variable {backends : List BackendSpec} {healthySet : Finset String}

/-- The configured backends that are healthy. -/
def configured (backends : List BackendSpec) (healthySet : Finset String) : Finset String :=
  (addresses backends).filter (· ∈ healthySet)

theorem mem_configured {address : String} :
    address ∈ configured backends healthySet ↔
      (∃ backend ∈ backends, backend.address = address) ∧ address ∈ healthySet := by
  simp [configured, addresses]

/-- Marking the healthy entries one after another. -/
theorem marks_foldl {entries : List (BackendSpec × Nat)} {bytes : List Nat} {position : Nat}
    (inside : ∀ entry ∈ entries, entry.2 / 8 < bytes.length) :
    marks (entries.foldl (fun bytes entry =>
        if entry.1.address ∈ healthySet then mark bytes entry.2 else bytes) bytes) position = true ↔
      marks bytes position = true ∨
        ∃ entry ∈ entries, entry.2 = position ∧ entry.1.address ∈ healthySet := by
  induction entries generalizing bytes with
  | nil => simp
  | cons first rest ih =>
    have here := inside first List.mem_cons_self
    have later := fun entry member => inside entry (List.mem_cons_of_mem first member)
    rw [List.foldl_cons]
    by_cases healthy : first.1.address ∈ healthySet
    · rw [if_pos healthy, ih fun entry member => length_mark.symm ▸ later entry member,
        marks_mark here]
      simp [healthy, or_assoc]
    · rw [if_neg healthy, ih later]
      simp [healthy]

theorem bitmapBytes_eq (backends : List BackendSpec) (healthySet : Finset String) :
    bitmapBytes backends healthySet = backends.zipIdx.foldl (fun bytes entry =>
        if entry.1.address ∈ healthySet then mark bytes entry.2 else bytes)
      (List.replicate ((backends.length + 7) / 8) 0) := rfl

theorem marks_bitmapBytes {position : Nat} :
    marks (bitmapBytes backends healthySet) position = true ↔
      ∃ backend, backends[position]? = some backend ∧ backend.address ∈ healthySet := by
  have unmarked : marks (List.replicate ((backends.length + 7) / 8) 0) position = false := by
    simp [marks]
  rw [bitmapBytes_eq, marks_foldl, unmarked]
  · simp [List.mem_zipIdx_iff_getElem?]
  · intro entry member
    have bound := List.snd_lt_of_mem_zipIdx member
    rw [List.length_replicate]
    omega

theorem bitmapBytes_lt : ∀ byte ∈ bitmapBytes backends healthySet, byte < 256 := by
  rw [bitmapBytes_eq]
  generalize backends.zipIdx = entries
  have zeros : ∀ byte ∈ List.replicate ((backends.length + 7) / 8) 0, byte < 256 := by
    intro byte member
    rw [List.eq_of_mem_replicate member]
    omega
  revert zeros
  generalize List.replicate ((backends.length + 7) / 8) 0 = bytes
  induction entries generalizing bytes with
  | nil => exact id
  | cons first rest ih =>
    intro small
    rw [List.foldl_cons]
    split
    · exact ih _ (mark_lt small)
    · exact ih _ small

/-- **The bitmap.** It is read back as the configured backends that are healthy; there is none
to read only if there are no such backends. -/
theorem healthyBackendsFromBitmap_build :
    healthyBackendsFromBitmap backends (buildHealthyBackendBitmap backends healthySet) =
        some (configured backends healthySet) ∨
      healthyBackendsFromBitmap backends (buildHealthyBackendBitmap backends healthySet) = none ∧
        configured backends healthySet = ∅ := by
  rw [buildHealthyBackendBitmap]
  split
  · rename_i trivially
    right
    refine ⟨rfl, ?_⟩
    rcases trivially with rfl | rfl <;> simp [configured, addresses]
  have marked (position : Nat) :
      marks (trim (bitmapBytes backends healthySet)) position = true ↔
        ∃ backend, backends[position]? = some backend ∧ backend.address ∈ healthySet := by
    rw [marks_trim, marks_bitmapBytes]
  change healthyBackendsFromBitmap backends (encodeHex (trim _)) = _ ∨
    healthyBackendsFromBitmap backends (encodeHex (trim _)) = none ∧ _
  rw [healthyBackendsFromBitmap]
  by_cases empty : trim (bitmapBytes backends healthySet) = []
  · right
    rw [empty] at marked
    refine ⟨if_pos (encodeHex_eq_empty_iff.mpr empty), Finset.eq_empty_of_forall_notMem ?_⟩
    intro address member
    obtain ⟨⟨backend, present, rfl⟩, healthy⟩ := mem_configured.mp member
    obtain ⟨position, found⟩ := List.mem_iff_getElem?.mp present
    exact absurd ((marked position).mpr ⟨backend, found, healthy⟩) (by simp [marks])
  · left
    rw [if_neg (mt encodeHex_eq_empty_iff.mp empty),
      decodeHex_encodeHex fun byte member => bitmapBytes_lt byte (mem_of_mem_trim member),
      Option.map_some]
    congr 1
    ext address
    rw [List.mem_toFinset, mem_configured]
    constructor
    · intro member
      obtain ⟨entry, kept, rfl⟩ := List.mem_map.mp member
      obtain ⟨present, bit⟩ := List.mem_filter.mp kept
      obtain ⟨backend, found, healthy⟩ := (marked entry.2).mp bit
      have same := List.mem_zipIdx_iff_getElem?.mp present
      rw [found, Option.some_inj] at same
      subst same
      exact ⟨⟨entry.1, List.mem_of_getElem? found, rfl⟩, healthy⟩
    · rintro ⟨⟨backend, present, rfl⟩, healthy⟩
      obtain ⟨position, found⟩ := List.mem_iff_getElem?.mp present
      refine List.mem_map.mpr ⟨(backend, position), List.mem_filter.mpr ⟨?_, ?_⟩, rfl⟩
      · exact List.mem_zipIdx_iff_getElem?.mpr found
      · exact (marked position).mpr ⟨backend, found, healthy⟩

end Reports

/-! ## Aggregates of reports -/

/-- What an agent reports on: which backends it saw healthy, with its conditions, and when. -/
structure Sighting where
  updater : Updater
  healthyBackends : List BackendSpec
  conditions : List Condition
  time : Time

/-- The report of a sighting. -/
def Sighting.report (vip : VirtualIP) (sighting : Sighting) : AgentStatus :=
  sighting.updater.report vip sighting.healthyBackends sighting.conditions sighting.time

/-- Some agent saw the address healthy. -/
def seenHealthy (sightings : List Sighting) (address : String) : Bool :=
  sightings.any fun sighting => address ∈ healthyAddresses sighting.healthyBackends

section Aggregates

variable {vip : VirtualIP} {sightings : List Sighting}

/-- One report adds what its agent saw, and nothing to the reported count. -/
theorem addReport_report (healthy : Finset String) (sighting : Sighting) :
    addReport vip.spec.backends (healthy, 0) (sighting.report vip) =
      (healthy ∪ configured vip.spec.backends (healthyAddresses sighting.healthyBackends), 0) := by
  rcases @healthyBackendsFromBitmap_build vip.spec.backends
    (healthyAddresses sighting.healthyBackends) with read | ⟨unread, unseen⟩
  · simp only [addReport, Sighting.report, Updater.report, read]
  · have unhealthy : ∀ backend ∈ vip.spec.backends,
        backend.address ∉ healthyAddresses sighting.healthyBackends := by
      intro backend present healthy
      have member := mem_configured.mpr ⟨⟨backend, present, rfl⟩, healthy⟩
      rw [unseen] at member
      exact absurd member (Finset.notMem_empty _)
    have entries : (buildBackendStatuses vip.spec.backends
        (healthyAddresses sighting.healthyBackends)).filter (·.healthy) = [] := by
      rw [List.filter_eq_nil_iff]
      intro entry member
      obtain ⟨backend, present, rfl⟩ := List.mem_map.mp member
      simpa using unhealthy backend (List.mem_of_mem_take present)
    have count : countConfiguredHealthyBackends vip.spec.backends
        (healthyAddresses sighting.healthyBackends) = 0 := by
      rw [countConfiguredHealthyBackends, Int.natCast_eq_zero, List.length_eq_zero_iff,
        List.filter_eq_nil_iff]
      intro address member
      obtain ⟨backend, present, rfl⟩ := List.mem_map.mp (List.mem_dedup.mp member)
      simpa using unhealthy backend present
    simp only [addReport, Sighting.report, Updater.report, unread, entries, count, unseen]
    have clamped : clampHealthyBackendCount 0 vip.spec.backends.length = 0 := by
      unfold clampHealthyBackendCount
      (repeat' split) <;> omega
    by_cases none : vip.spec.backends = []
    · simp [none, clampHealthyBackendCount]
    · simp [none, clamped]

theorem foldl_addReport (healthy : Finset String) :
    (sightings.map (·.report vip)).foldl (addReport vip.spec.backends) (healthy, 0) =
      (healthy ∪ (addresses vip.spec.backends).filter (seenHealthy sightings ·), 0) := by
  induction sightings generalizing healthy with
  | nil => simp [seenHealthy]
  | cons first rest ih =>
    rw [List.map_cons, List.foldl_cons, addReport_report, ih, Finset.union_assoc, configured,
      ← Finset.filter_or]
    simp [seenHealthy]

theorem aggregateHealthyBackends_reports (vip : VirtualIP) (sightings : List Sighting) :
    aggregateHealthyBackends vip.spec.backends (sightings.map (·.report vip)) =
      ((addresses vip.spec.backends).filter (seenHealthy sightings ·),
        (((addresses vip.spec.backends).filter (seenHealthy sightings ·)).card : Int)) := by
  rw [aggregateHealthyBackends, foldl_addReport, Finset.empty_union]
  simp

theorem card_filter_addresses {backends : List BackendSpec}
    (distinct : (backends.map (·.address)).Nodup) (keep : String → Bool) :
    ((addresses backends).filter (keep ·)).card = backends.countP (keep ·.address) := by
  rw [addresses, ← List.toFinset_filter, List.toFinset_card_of_nodup (distinct.filter _),
    ← List.countP_eq_length_filter, List.countP_map]
  rfl

end Aggregates

/-- **The aggregate is exact.** Where backends have different addresses and the fresh reports of
the current generation are what agents built from the backends they saw healthy, the healthy
count is the number of configured backends that some agent saw healthy, and the published
entries, as many as fit, mark just these. -/
theorem aggregate_marks_seen_backends (vip : VirtualIP) (status : VirtualIPStatus) (now : Time)
    (ttl : Int) (sightings : List Sighting) (distinct : (vip.spec.backends.map (·.address)).Nodup)
    (fresh : (splitAgentStatuses status.agentStatuses vip.generation now ttl).1 =
      sightings.map (·.report vip)) :
    let published :=
      sanitizeVirtualIPStatus (refreshAggregateStatus vip status vip.generation now ttl)
    published.healthyBackends =
        vip.spec.backends.countP (seenHealthy sightings ·.address) ∧
      published.backends.map (fun entry => (entry.address, entry.healthy)) =
        (vip.spec.backends.take maxVirtualIPStatusBackends).map fun backend =>
          (backend.address, seenHealthy sightings backend.address) := by
  have aggregate := aggregateHealthyBackends_reports vip sightings
  rw [← fresh] at aggregate
  refine ⟨?_, ?_⟩
  · change (aggregateHealthyBackends _ _).2 = _
    rw [aggregate, card_filter_addresses distinct]
  · change (List.take _ (buildBackendStatuses _ (aggregateHealthyBackends _ _).1)).map _ = _
    rw [aggregate, buildBackendStatuses, ← List.map_take, List.take_take, min_self, List.map_map]
    refine List.map_congr_left fun backend present => ?_
    have member : backend.address ∈ addresses vip.spec.backends :=
      List.mem_toFinset.mpr (List.mem_map.mpr ⟨backend, List.mem_of_mem_take present, rfl⟩)
    simp [member]

/-- A VIP with three backends. -/
def webThree : VirtualIP :=
  { VirtualIP.web .web "1" "192.0.2.1" with
    spec := webSpec (webBackends ++ [⟨"10.0.0.3", "", 1⟩]) }

/-- One agent saw the first backend healthy, another one the second. -/
def twoSightings : List Sighting :=
  [⟨⟨"node-a", 0⟩, [⟨"10.0.0.1", "", 1⟩], [], 0⟩, ⟨⟨"node-b", 0⟩, [⟨"10.0.0.2", "", 1⟩], [], 0⟩]

theorem aggregate_marks_seen_backends_of_web :
    let published := sanitizeVirtualIPStatus (refreshAggregateStatus webThree
      { agentStatuses := twoSightings.map (·.report webThree) } webThree.generation 0 0)
    published.healthyBackends = 2 ∧
      published.backends.map (fun entry => (entry.address, entry.healthy)) =
        [("10.0.0.1", true), ("10.0.0.2", true), ("10.0.0.3", false)] :=
  aggregate_marks_seen_backends webThree { agentStatuses := twoSightings.map (·.report webThree) }
    0 0 twoSightings (by decide) rfl

end ArcaLB.Status
