import Mathlib.Data.List.TakeWhile
import ArcaLB.Library.IP

/-!
# Reading an address back from its text

The canonical text of an address is accepted by `net.ParseIP`, which gives the address
again; an IPv6 address that embeds an IPv4 address comes back as the latter.
-/

/-- The part of a list before its first separator. -/
theorem List.eq_of_append_separator {α : Type} {separator : α} {first second rest other : List α}
    (plain : separator ∉ first) (also : separator ∉ second)
    (same : first ++ separator :: rest = second ++ separator :: other) :
    first = second ∧ rest = other := by
  obtain ⟨middle, rfl, ends⟩ | ⟨middle, rfl, ends⟩ := List.append_eq_append_iff.mp same <;>
    obtain ⟨rfl, ends⟩ | ⟨tail, rfl, -⟩ := List.cons_eq_append_iff.mp ends <;> simp_all

namespace IPAddr

variable {char : Char}

section Digits

theorem hexValue_digitChar {digit : Nat} (small : digit < 16) :
    hexValue digit.digitChar = some digit := by
  revert digit
  decide

/-- The digits of a number are hexadecimal digits. -/
theorem hexValue_of_mem_toDigits {number : Nat}
    (listed : char ∈ Nat.toDigits 16 number) : (hexValue char).isSome = true := by
  induction number using Nat.strongRecOn with
  | ind number ih =>
    rw [Nat.toDigits_eq_if (by decide)] at listed
    split at listed
    next small =>
      rw [List.mem_singleton] at listed
      rw [listed, hexValue_digitChar small]
      rfl
    next large =>
      rcases List.mem_append.mp listed with earlier | last
      · exact ih _ (Nat.div_lt_self (by omega) (by decide)) earlier
      · rw [List.mem_singleton] at last
        rw [last, hexValue_digitChar (Nat.mod_lt _ (by decide))]
        rfl

/-- The digits of a number give the number. -/
theorem foldl_toDigits {base : Nat} (several : 1 < base) (few : base ≤ 16) (number : Nat) :
    (Nat.toDigits base number).foldl (fun total char => total * base + (hexValue char).getD 0) 0 =
      number := by
  induction number using Nat.strongRecOn with
  | ind number ih =>
    rw [Nat.toDigits_eq_if several]
    split
    next small => simp [hexValue_digitChar (Nat.lt_of_lt_of_le small few)]
    next large =>
      have digit : number % base < 16 :=
        Nat.lt_of_lt_of_le (Nat.mod_lt _ (Nat.lt_of_succ_lt several)) few
      rw [List.foldl_append, ih _ (Nat.div_lt_self (by omega) several)]
      simp only [List.foldl_cons, List.foldl_nil, hexValue_digitChar digit, Option.getD_some]
      rw [Nat.mul_comm, Nat.div_add_mod]

theorem parseOctet_toDigits (octet : UInt8) :
    parseOctet (Nat.toDigits 10 octet.toNat) = some octet := by
  have all : ∀ value < 256, parseOctet (Nat.toDigits 10 value) = some value.toUInt8 := by
    decide +kernel
  rw [all octet.toNat octet.toNat_lt]
  simp

end Digits

section Groups

theorem hexValue_of_mem_groupText {group : UInt16}
    (listed : char ∈ groupText group) : (hexValue char).isSome = true :=
  hexValue_of_mem_toDigits listed

theorem length_groupText (group : UInt16) :
    0 < (groupText group).length ∧ (groupText group).length ≤ 4 :=
  ⟨List.length_pos_iff.mpr Nat.toDigits_ne_nil,
    (Nat.length_toDigits_le_iff (by decide) (by decide)).mpr group.toNat_lt⟩

/-- A group is read up to the text that follows it. -/
theorem parseGroup_groupText (group : UInt16) {rest : List Char}
    (stops : rest.takeWhile (fun char => (hexValue char).isSome) = []) :
    parseGroup (groupText group ++ rest) = some (group, rest) := by
  have digits : (groupText group ++ rest).takeWhile (fun char => (hexValue char).isSome) =
      groupText group := by
    rw [List.takeWhile_append_of_pos fun _ => hexValue_of_mem_groupText, stops, List.append_nil]
  obtain ⟨some_, short⟩ := length_groupText group
  have accepted : ¬((groupText group).isEmpty || decide (4 < (groupText group).length)) = true := by
    simp only [Bool.or_eq_true, List.isEmpty_iff, decide_eq_true_eq, not_or]
    exact ⟨List.ne_nil_of_length_pos some_, by omega⟩
  have value : (groupText group).foldl (fun total char => total * 16 + (hexValue char).getD 0) 0 =
      group.toNat := foldl_toDigits (by decide) (by decide) group.toNat
  unfold parseGroup
  simp only [digits, value, List.drop_left]
  rw [if_neg accepted]
  simp

@[simp] theorem joinGroups_singleton (group : UInt16) : joinGroups [group] = groupText group := by
  simp [joinGroups]

@[simp] theorem joinGroups_cons_cons (group next : UInt16) (rest : List UInt16) :
    joinGroups (group :: next :: rest) = groupText group ++ ':' :: joinGroups (next :: rest) := by
  simp [joinGroups, List.intercalate_cons_cons]

/-- A text of groups starts with a digit. -/
theorem joinGroups_cons (group : UInt16) (rest : List UInt16) :
    ∃ char more, joinGroups (group :: rest) = char :: more ∧ char ≠ ':' := by
  have digit : ∀ char ∈ groupText group, char ≠ ':' := by
    intro char listed same
    have hex := hexValue_of_mem_groupText listed
    rw [same] at hex
    revert hex
    decide
  cases parts : groupText group with
  | nil =>
    have some_ := (length_groupText group).1
    simp [parts] at some_
  | cons char more =>
    refine ⟨char, ?_⟩
    cases rest with
    | nil => exact ⟨more, by simp [parts], digit char (by simp [parts])⟩
    | cons next rest =>
      exact ⟨more ++ ':' :: joinGroups (next :: rest), by simp [parts],
        digit char (by simp [parts])⟩

/-- One group and a single colon are read, and parsing goes on behind the colon. -/
theorem parseGroups_colon (remaining : Nat) (group : UInt16) (more : List Char)
    (digit : char ≠ ':') (groups : List UInt16) (ellipsis : Option Nat) :
    parseGroups (remaining + 1) (groupText group ++ ':' :: char :: more) groups ellipsis =
      parseGroups remaining (char :: more) (groups ++ [group]) ellipsis := by
  have read : parseGroup (groupText group ++ ':' :: char :: more) =
      some (group, ':' :: char :: more) := parseGroup_groupText group rfl
  rw [parseGroups, read]
  simp only [bind, Option.bind]
  split <;> simp_all

/-- Groups up to the end of the text. -/
theorem parseGroups_joinGroups (group : UInt16) (rest : List UInt16) {remaining : Nat}
    (room : rest.length < remaining) (groups : List UInt16) (ellipsis : Option Nat) :
    parseGroups remaining (joinGroups (group :: rest)) groups ellipsis =
      some (groups ++ group :: rest, ellipsis) := by
  induction rest generalizing group remaining groups with
  | nil =>
    obtain ⟨remaining, rfl⟩ := Nat.exists_eq_add_one_of_ne_zero (Nat.ne_of_gt room)
    have read := parseGroup_groupText group (show [].takeWhile _ = [] from rfl)
    rw [List.append_nil] at read
    rw [joinGroups_singleton, parseGroups, read]
    rfl
  | cons next rest ih =>
    obtain ⟨remaining, rfl⟩ := Nat.exists_eq_add_one_of_ne_zero (Nat.ne_zero_of_lt room)
    obtain ⟨char, more, starts, digit⟩ := joinGroups_cons next rest
    rw [joinGroups_cons_cons, starts, parseGroups_colon _ _ _ digit, ← starts,
      ih next (Nat.lt_of_succ_lt_succ room), List.append_assoc]
    rfl

/-- Groups up to an ellipsis. -/
theorem parseGroups_ellipsis (group : UInt16) (rest : List UInt16) {remaining : Nat}
    (room : rest.length < remaining) (groups : List UInt16) (tail : List Char) :
    parseGroups remaining (joinGroups (group :: rest) ++ ':' :: ':' :: tail) groups none =
      if tail.isEmpty then
        some (groups ++ group :: rest, some (groups.length + rest.length + 1))
      else
        parseGroups (remaining - (rest.length + 1)) tail (groups ++ group :: rest)
          (some (groups.length + rest.length + 1)) := by
  induction rest generalizing group remaining groups with
  | nil =>
    obtain ⟨remaining, rfl⟩ := Nat.exists_eq_add_one_of_ne_zero (Nat.ne_of_gt room)
    have read : parseGroup (groupText group ++ ':' :: ':' :: tail) =
        some (group, ':' :: ':' :: tail) := parseGroup_groupText group rfl
    rw [joinGroups_singleton, parseGroups, read]
    simp [bind, Option.bind]
  | cons next rest ih =>
    obtain ⟨remaining, rfl⟩ := Nat.exists_eq_add_one_of_ne_zero (Nat.ne_zero_of_lt room)
    obtain ⟨char, more, starts, digit⟩ := joinGroups_cons next rest
    have later := ih next (Nat.lt_of_succ_lt_succ room) (groups ++ [group])
    rw [starts, List.cons_append] at later
    rw [joinGroups_cons_cons, starts, List.append_assoc, List.cons_append, List.cons_append,
      parseGroups_colon _ _ _ digit, later]
    simp only [List.append_assoc, List.length_append, List.length_cons, List.length_nil,
      List.cons_append, List.nil_append]
    have place : groups.length + (0 + 1) + rest.length + 1 =
        groups.length + (rest.length + 1) + 1 := by omega
    have left : remaining + 1 - (rest.length + 1 + 1) = remaining - (rest.length + 1) := by omega
    rw [place, left]

end Groups

variable {groups : List UInt16}

section ZeroRun

/-- A run of zero groups at a place of the list. -/
structure ZeroRun (groups : List UInt16) (start stop : Nat) : Prop where
  long : start + 2 ≤ stop
  within : stop ≤ groups.length
  zeros : (groups.drop start).take (stop - start) = List.replicate (stop - start) 0

theorem take_zerosFrom (groups : List UInt16) (start : Nat) :
    (groups.drop start).take (zerosFrom groups start) =
      List.replicate (zerosFrom groups start) 0 := by
  unfold zerosFrom
  rw [← List.prefix_iff_eq_take.mp (List.takeWhile_prefix _)]
  apply List.eq_replicate_iff.mpr
  refine ⟨rfl, ?_⟩
  intro group listed
  exact eq_of_beq (List.all_eq_true.mp List.all_takeWhile group listed)

theorem zerosFrom_le (groups : List UInt16) (start : Nat) :
    zerosFrom groups start ≤ groups.length - start := by
  have shorter := (List.takeWhile_prefix (l := groups.drop start) (· == 0)).length_le
  rwa [List.length_drop] at shorter

/-- The run that is left out of the text is one of zero groups. -/
theorem zeroRun_spec (groups : List UInt16) :
    zeroRun groups = (groups.length, groups.length) ∨
      ZeroRun groups (zeroRun groups).1 (zeroRun groups).2 := by
  unfold zeroRun
  -- The fold only replaces the best run by another run of zeros.
  refine List.foldlRecOn
    (motive := fun best => best = (groups.length, groups.length) ∨ ZeroRun groups best.1 best.2)
    (List.range groups.length) _ (.inl rfl) ?_
  intro best holds start inside
  dsimp only
  split
  next longer =>
    have fits := zerosFrom_le groups start
    have place := List.mem_range.mp inside
    refine .inr ⟨by dsimp only; omega, by dsimp only; omega, ?_⟩
    dsimp only
    rw [Nat.add_sub_cancel_left]
    exact take_zerosFrom groups start
  next shorter => exact holds

/-- The groups around a run of zeros and the run itself. -/
theorem ZeroRun.split {start stop : Nat} (run : ZeroRun groups start stop) :
    groups.take start ++ List.replicate (stop - start) 0 ++ groups.drop stop = groups := by
  have long := run.long
  have rest : groups.drop stop = (groups.drop start).drop (stop - start) := by
    rw [List.drop_drop]
    congr 1
    omega
  rw [← run.zeros, rest, List.append_assoc, List.take_append_drop, List.take_append_drop]

end ZeroRun

section RoundTrip

/-- Filling the gap that a run of zeros left. -/
theorem ZeroRun.expandEllipsis {start stop : Nat}
    (run : ZeroRun groups start stop) (complete : groups.length = 8) :
    expandEllipsis (groups.take start ++ groups.drop stop) (some start) = some groups := by
  have long := run.long
  have within := run.within
  have before : (groups.take start).length = start := by
    rw [List.length_take]
    omega
  have total : (groups.take start ++ groups.drop stop).length = 8 - (stop - start) := by
    rw [List.length_append, before, List.length_drop]
    omega
  have gap : 8 - (8 - (stop - start)) = stop - start := by omega
  unfold IPAddr.expandEllipsis
  dsimp only
  rw [total, if_pos (by omega), gap, List.take_left' before, List.drop_left' before, run.split]

theorem ofGroups_toList (groups : Vector UInt16 8) : ofGroups groups.toList = some (v6 groups) := by
  unfold ofGroups
  rw [dif_pos (by simp)]
  simp [Vector.toList]

/-- A text that starts with a digit is read from there. -/
theorem parseIPv6_of_digit (digit : char ≠ ':') (more : List Char) :
    parseIPv6 (char :: more) =
      (parseGroups 8 (char :: more) [] none).bind fun parsed =>
        (expandEllipsis parsed.1 parsed.2).bind ofGroups := by
  unfold parseIPv6
  split <;> simp_all [bind]

/-- A text that starts with the ellipsis. -/
theorem parseIPv6_leading {after : List UInt16} (room : after.length ≤ 8) :
    parseIPv6 (':' :: ':' :: joinGroups after) =
      (expandEllipsis after (some 0)).bind ofGroups := by
  cases after with
  | nil => rfl
  | cons group rest =>
    have parsed := parseGroups_joinGroups group rest (Nat.lt_of_succ_le room) [] (some 0)
    obtain ⟨char, more, starts, _⟩ := joinGroups_cons group rest
    rw [starts] at parsed ⊢
    unfold parseIPv6
    simp only [parsed, bind, Option.bind]
    rfl

/-- Groups before and behind an ellipsis. -/
theorem parseGroups_around (group : UInt16) (rest after : List UInt16)
    (room : (group :: rest).length + after.length ≤ 8) :
    parseGroups 8 (joinGroups (group :: rest) ++ ':' :: ':' :: joinGroups after) [] none =
      some (group :: rest ++ after, some (group :: rest).length) := by
  rw [List.length_cons] at room
  rw [parseGroups_ellipsis group rest (by omega)]
  cases after with
  | nil => simp [joinGroups]
  | cons next later =>
    obtain ⟨char, more, starts, _⟩ := joinGroups_cons next later
    rw [List.length_cons] at room
    have parsed := parseGroups_joinGroups next later
      (show later.length < 8 - (rest.length + 1) by omega) (group :: rest)
      (some (rest.length + 1))
    rw [if_neg (by simp [starts])]
    simpa using parsed

/-- **Reading an IPv6 text back.** -/
theorem parseIPv6_groupsText (groups : Vector UInt16 8) :
    parseIPv6 (groupsText groups.toList) = some (v6 groups) := by
  have complete : groups.toList.length = 8 := by simp
  unfold groupsText
  rcases zeroRun_spec groups.toList with whole | run
  · -- Nothing is left out.
    rw [whole]
    simp only [if_true]
    cases listed : groups.toList with
    | nil => simp [listed] at complete
    | cons group rest =>
      rw [listed, List.length_cons] at complete
      have parsed := parseGroups_joinGroups group rest (show rest.length < 8 by omega) [] none
      obtain ⟨char, more, starts, digit⟩ := joinGroups_cons group rest
      rw [starts] at parsed
      rw [starts, parseIPv6_of_digit digit, parsed]
      have expanded : expandEllipsis (group :: rest) none = some (group :: rest) :=
        if_pos (by simpa using complete)
      simp only [Option.bind, List.nil_append, expanded]
      rw [← listed, ofGroups_toList]
  · generalize zeroRun groups.toList = place at run
    obtain ⟨start, stop⟩ := place
    have long := run.long
    have within := run.within
    have expanded := run.expandEllipsis complete
    dsimp only at long within expanded ⊢
    rw [if_neg (by omega), List.append_assoc, List.cons_append, List.cons_append, List.nil_append]
    have before : (groups.toList.take start).length = start := by
      rw [List.length_take]
      omega
    have room : (groups.toList.take start).length + (groups.toList.drop stop).length ≤ 8 := by
      rw [before, List.length_drop]
      omega
    cases listed : groups.toList.take start with
    | nil =>
      rw [listed, List.length_nil] at before
      rw [listed, List.nil_append, ← before] at expanded
      rw [listed, List.length_nil, Nat.zero_add] at room
      change parseIPv6 (':' :: ':' :: joinGroups _) = _
      rw [parseIPv6_leading room, expanded]
      exact ofGroups_toList groups
    | cons group rest =>
      rw [listed] at before expanded room
      have parsed := parseGroups_around group rest _ room
      rw [before] at parsed
      obtain ⟨char, more, starts, digit⟩ := joinGroups_cons group rest
      rw [starts] at parsed ⊢
      rw [List.cons_append] at parsed ⊢
      rw [parseIPv6_of_digit digit, parsed]
      simp only [Option.bind, expanded]
      exact ofGroups_toList groups

/-- The characters of an IPv6 text. -/
theorem mem_groupsText (listed : char ∈ groupsText groups) :
    (hexValue char).isSome = true ∨ char = ':' := by
  have joined : ∀ (parts : List UInt16), char ∈ joinGroups parts →
      (hexValue char).isSome = true ∨ char = ':' := by
    intro parts
    induction parts with
    | nil =>
      intro member
      simp [joinGroups] at member
    | cons group rest ih =>
      intro member
      cases rest with
      | nil =>
        rw [joinGroups_singleton] at member
        exact .inl (hexValue_of_mem_groupText member)
      | cons next rest =>
        rw [joinGroups_cons_cons, List.mem_append, List.mem_cons] at member
        rcases member with own | colon | later
        · exact .inl (hexValue_of_mem_groupText own)
        · exact .inr colon
        · exact ih later
  unfold groupsText at listed
  dsimp only at listed
  split at listed
  · exact joined _ listed
  · simp only [List.mem_append, List.mem_cons, List.not_mem_nil, or_false] at listed
    rcases listed with (before | colon) | after
    · exact joined _ before
    · exact .inr (colon.elim id id)
    · exact joined _ after

/-- An IPv6 text has a colon. -/
theorem colon_mem_groupsText (several : 2 ≤ groups.length) : ':' ∈ groupsText groups := by
  unfold groupsText
  dsimp only
  split
  · match groups, several with
    | group :: next :: rest, _ => simp
  · simp

end RoundTrip

section Parse

theorem unmap_unmap (address : IPAddr) : address.unmap.unmap = address.unmap := by
  cases address with
  | v4 a b c d => rfl
  | v6 groups =>
    cases found : embedded groups.toList with
    | none => simp [unmap, found]
    | some inner =>
      simp only [unmap, found, Option.getD_some]
      unfold embedded at found
      split at found
      · cases found
        rfl
      · cases found

/-- The characters at which a text is told apart as IPv4 or IPv6. -/
theorem find_separator {before rest : List Char} {separator : Char}
    (plain : ∀ char ∈ before, ¬(char = '.' ∨ char = ':' ∨ char = '%'))
    (separates : separator = '.' ∨ separator = ':' ∨ separator = '%') :
    (before ++ separator :: rest).find? (fun char => char = '.' ∨ char = ':' ∨ char = '%') =
      some separator := by
  rw [List.find?_append, List.find?_eq_none.mpr (by simpa using plain)]
  simp [separates]

/-- Decimal digits are no separators. -/
theorem not_separator_of_mem_toDigits {number : Nat}
    (listed : char ∈ Nat.toDigits 10 number) : ¬(char = '.' ∨ char = ':' ∨ char = '%') := by
  have digit := Nat.isDigit_of_mem_toDigits (by decide) (by decide) listed
  rintro (same | same | same) <;> simp [same] at digit

theorem toList_octets (a b c d : Nat) :
    (s!"{a}.{b}.{c}.{d}").toList =
      ['.'].intercalate
        [Nat.toDigits 10 a, Nat.toDigits 10 b, Nat.toDigits 10 c, Nat.toDigits 10 d] := by
  have dot : (toString ".").toList = ['.'] := rfl
  simp [List.intercalate, List.intersperse, dot]

theorem parseIP_v4 (a b c d : UInt8) :
    parseIP s!"{a.toNat}.{b.toNat}.{c.toNat}.{d.toNat}" = some (v4 a b c d) := by
  have split_ : ∀ parts : List Char, parts ∈ [Nat.toDigits 10 a.toNat, Nat.toDigits 10 b.toNat,
      Nat.toDigits 10 c.toNat, Nat.toDigits 10 d.toNat] → '.' ∉ parts := by
    intro parts listed dot
    simp only [List.mem_cons, List.not_mem_nil, or_false] at listed
    rcases listed with rfl | rfl | rfl | rfl <;>
      exact not_separator_of_mem_toDigits dot (.inl rfl)
  have fields : parseIPv4Fields (s!"{a.toNat}.{b.toNat}.{c.toNat}.{d.toNat}").toList =
      some (a, b, c, d) := by
    unfold parseIPv4Fields
    rw [toList_octets, List.splitOn_intercalate '.' split_ (by simp)]
    simp [parseOctet_toDigits]
  have first : (s!"{a.toNat}.{b.toNat}.{c.toNat}.{d.toNat}").toList.find?
      (fun char => char = '.' ∨ char = ':' ∨ char = '%') = some '.' := by
    rw [toList_octets, List.intercalate_cons_cons, List.append_assoc]
    exact find_separator (fun _ => not_separator_of_mem_toDigits) (.inl rfl)
  unfold parseIP parseAddr
  simp only [first, fields, Option.map_some]
  rfl

theorem parseIP_v6 {groups : Vector UInt16 8} (plain : (v6 groups).unmap = v6 groups) :
    parseIP (String.ofList (groupsText groups.toList)) = some (v6 groups) := by
  have only : ∀ char ∈ groupsText groups.toList, char ≠ '.' ∧ char ≠ '%' := by
    intro char listed
    constructor <;> intro same <;>
      exact absurd (same ▸ mem_groupsText listed) (by decide)
  have first : (groupsText groups.toList).find?
      (fun char => char = '.' ∨ char = ':' ∨ char = '%') = some ':' := by
    cases found : (groupsText groups.toList).find?
        (fun char => char = '.' ∨ char = ':' ∨ char = '%') with
    | none =>
      have colon := colon_mem_groupsText (show 2 ≤ groups.toList.length by simp)
      have nothing := List.find?_eq_none.mp found ':' colon
      simp at nothing
    | some char =>
      have separates := List.find?_some found
      have listed := List.mem_of_find?_eq_some found
      have other := only char listed
      simp only [decide_eq_true_eq, other.1, other.2, false_or, or_false] at separates
      rw [separates]
  have whole : (groupsText groups.toList).dropWhile (· ≠ '%') = [] := by
    rw [List.dropWhile_eq_nil_iff]
    intro char listed
    simpa using (only char listed).2
  unfold parseIP parseAddr
  simp only [String.toList_ofList, first, whole, parseIPv6_groupsText, Option.map_some]
  rw [plain]

/-- **Reading a canonical text back.** -/
theorem parseIP_text (address : IPAddr) : parseIP address.text = some address.unmap := by
  have plain := unmap_unmap address
  unfold text
  cases kind : address.unmap with
  | v4 a b c d => exact parseIP_v4 a b c d
  | v6 groups =>
    rw [kind] at plain
    exact parseIP_v6 plain

/-- A parsed address embeds no IPv4 address. -/
theorem unmap_of_parseIP {text : String} {address : IPAddr} (parsed : parseIP text = some address) :
    address.unmap = address := by
  unfold parseIP at parsed
  split at parsed
  · cases parsed
    exact unmap_unmap _
  · cases parsed

end Parse

end IPAddr
