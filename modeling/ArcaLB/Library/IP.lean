import Mathlib.Logic.Basic

/-!
# IP addresses and their texts

Go's `netip.ParseAddr`, `net.ParseIP` and the textual form of `net.IP`.  An address
has many accepted texts (upper and lower case digits, leading zeros in a group,
`::` at different places, an embedded IPv4 part) and one canonical text.
-/

/-- An IP address.  An IPv6 address that embeds an IPv4 address keeps its own
constructor; `unmap` identifies the two. -/
inductive IPAddr where
  | v4 (a b c d : UInt8)
  | v6 (groups : Vector UInt16 8)
  deriving DecidableEq, Repr

namespace IPAddr

/-- Is it an IPv4 address? -/
def is4 : IPAddr → Bool
  | v4 .. => true
  | v6 _ => false

/-- The IPv4 address embedded in `::ffff:a.b.c.d`. -/
def embedded (groups : List UInt16) : Option IPAddr :=
  match groups with
  | [0, 0, 0, 0, 0, 0xffff, high, low] =>
    some (v4 (high >>> 8).toUInt8 high.toUInt8 (low >>> 8).toUInt8 low.toUInt8)
  | _ => none

/-- An embedded IPv4 address is that IPv4 address. -/
def unmap : IPAddr → IPAddr
  | v4 a b c d => v4 a b c d
  | v6 groups => (embedded groups.toList).getD (v6 groups)

section Text

/-- A group in hexadecimal digits, without leading zeros. -/
def groupText (group : UInt16) : List Char :=
  Nat.toDigits 16 group.toNat

/-- The number of zero groups from a position on. -/
def zerosFrom (groups : List UInt16) (start : Nat) : Nat :=
  ((groups.drop start).takeWhile (· == 0)).length

/-- The first longest run of at least two zero groups, as start and end; an empty run
behind the last group where there is none. -/
def zeroRun (groups : List UInt16) : Nat × Nat :=
  (List.range groups.length).foldl
    (fun best start =>
      let length := zerosFrom groups start
      if 2 ≤ length ∧ best.2 - best.1 < length then (start, start + length) else best)
    (groups.length, groups.length)

/-- The groups between colons. -/
def joinGroups (groups : List UInt16) : List Char :=
  [':'].intercalate (groups.map groupText)

/-- IPv6 text, with the zero run written `::`. -/
def groupsText (groups : List UInt16) : List Char :=
  let (start, stop) := zeroRun groups
  if start = stop then joinGroups groups
  else joinGroups (groups.take start) ++ [':', ':'] ++ joinGroups (groups.drop stop)

/-- The canonical text of an address. -/
def text (address : IPAddr) : String :=
  match address.unmap with
  | v4 a b c d => s!"{a.toNat}.{b.toNat}.{c.toNat}.{d.toNat}"
  | v6 groups => String.ofList (groupsText groups.toList)

end Text

section Parse

/-- The value of a decimal digit. -/
def digitValue (char : Char) : Option Nat :=
  if '0' ≤ char ∧ char ≤ '9' then some (char.toNat - '0'.toNat) else none

/-- The value of a hexadecimal digit. -/
def hexValue (char : Char) : Option Nat :=
  if '0' ≤ char ∧ char ≤ '9' then some (char.toNat - '0'.toNat)
  else if 'a' ≤ char ∧ char ≤ 'f' then some (char.toNat - 'a'.toNat + 10)
  else if 'A' ≤ char ∧ char ≤ 'F' then some (char.toNat - 'A'.toNat + 10)
  else none

/-- An octet in decimal digits: no leading zero, at most 255. -/
def parseOctet (digits : List Char) : Option UInt8 := do
  let values ← digits.mapM digitValue
  match values with
  | [] => none
  | 0 :: _ :: _ => none
  | _ =>
    let value := values.foldl (fun total digit => total * 10 + digit) 0
    if value ≤ 255 then some value.toUInt8 else none

/-- Four octets with dots between them. -/
def parseIPv4Fields (text : List Char) : Option (UInt8 × UInt8 × UInt8 × UInt8) :=
  match text.splitOn '.' with
  | [first, second, third, fourth] => do
      let a ← parseOctet first
      let b ← parseOctet second
      let c ← parseOctet third
      let d ← parseOctet fourth
      some (a, b, c, d)
  | _ => none

/-- A group of one to four hexadecimal digits, and the text after it. -/
def parseGroup (text : List Char) : Option (UInt16 × List Char) :=
  let digits := text.takeWhile fun char => (hexValue char).isSome
  if digits.isEmpty || 4 < digits.length then none
  else
    let value := digits.foldl (fun total char => total * 16 + (hexValue char).getD 0) 0
    some (value.toUInt16, text.drop digits.length)

/-- The groups of an IPv6 text and the position of its ellipsis, from `remaining`
groups before the end of the address on. -/
def parseGroups (remaining : Nat) (text : List Char) (groups : List UInt16)
    (ellipsis : Option Nat) : Option (List UInt16 × Option Nat) :=
  match remaining with
  | 0 => if text.isEmpty then some (groups, ellipsis) else none
  | remaining + 1 => do
      let (group, rest) ← parseGroup text
      match rest with
      | '.' :: _ =>
        -- An embedded IPv4 address takes the place of the last two groups.
        if (ellipsis.isNone ∧ groups.length ≠ 6) ∨ 6 < groups.length then none
        else
          let (a, b, c, d) ← parseIPv4Fields text
          some (groups ++ [a.toUInt16 * 256 + b.toUInt16, c.toUInt16 * 256 + d.toUInt16],
            ellipsis)
      | [] => some (groups ++ [group], ellipsis)
      | [':'] => none
      | ':' :: ':' :: more =>
        if ellipsis.isSome then none
        else if more.isEmpty then some (groups ++ [group], some (groups.length + 1))
        else parseGroups remaining more (groups ++ [group]) (some (groups.length + 1))
      | ':' :: more => parseGroups remaining more (groups ++ [group]) ellipsis
      | _ => none

/-- Fill the place of the ellipsis with zeros; it stands for at least one group. -/
def expandEllipsis (groups : List UInt16) (ellipsis : Option Nat) : Option (List UInt16) :=
  match ellipsis with
  | none => if groups.length = 8 then some groups else none
  | some position =>
    if groups.length < 8 then
      some (groups.take position ++ List.replicate (8 - groups.length) 0 ++
        groups.drop position)
    else none

/-- The address of eight groups. -/
def ofGroups (groups : List UInt16) : Option IPAddr :=
  if complete : groups.toArray.size = 8 then some (v6 ⟨groups.toArray, complete⟩) else none

/-- An IPv6 text without zone. -/
def parseIPv6 (text : List Char) : Option IPAddr := do
  let (groups, ellipsis) ←
    match text with
    | [':', ':'] => some ([], some 0)
    | ':' :: ':' :: rest => parseGroups 8 rest [] (some 0)
    | _ => parseGroups 8 text [] none
  ofGroups (← expandEllipsis groups ellipsis)

/-- `netip.ParseAddr`: the address and its zone, which is empty where there is none. -/
def parseAddr (text : String) : Option (IPAddr × String) :=
  let chars := text.toList
  match chars.find? fun char => char = '.' ∨ char = ':' ∨ char = '%' with
  | some '.' => (parseIPv4Fields chars).map fun (a, b, c, d) => (v4 a b c d, "")
  | some ':' =>
    match chars.dropWhile (· ≠ '%') with
    | [] => (parseIPv6 chars).map fun address => (address, "")
    | [_] => none
    | _ :: zone =>
      (parseIPv6 (chars.takeWhile (· ≠ '%'))).map fun address =>
        (address, String.ofList zone)
  | _ => none

/-- `net.ParseIP`: no zone, and an embedded IPv4 address is the IPv4 address. -/
def parseIP (text : String) : Option IPAddr :=
  match parseAddr text with
  | some (address, "") => some address.unmap
  | _ => none

end Parse

example : parseIP "192.0.2.1" = some (v4 192 0 2 1) := by decide +kernel

example : parseIP "2001:DB8:0::1" = parseIP "2001:db8::1" := by decide +kernel

example : ((parseIP "2001:DB8:0:0:1::1").map text) = some "2001:db8::1:0:0:1" := by
  decide +kernel

end IPAddr
