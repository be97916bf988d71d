import Greeter.Address.Ipv4

/-! # IPv6 addresses

Eight groups of sixteen bits. The text writes each group in lower-case
hexadecimal and puts `::` for the longest run of two or more zero groups, the
first of equally long ones; an address that holds an IPv4 address is written
with that address at its end. Reading takes any spelling: `::` may stand for any
number of zero groups, one at least, and the last two groups may be a dotted IPv4
address.
-/

namespace Greeter

/-- An IPv6 address. -/
structure Ipv6 where
  groups : List UInt16
  length_groups : groups.length = 8
  deriving DecidableEq, Repr

namespace Ipv6

/-- The address of the machine itself. -/
def localhost : Ipv6 := ⟨[0, 0, 0, 0, 0, 0, 0, 1], rfl⟩

/-- Only `::1` leads back to the machine. -/
def isLoopback (address : Ipv6) : Bool := address == localhost

/-- The IPv4 address held by an address of the block `::ffff:0:0/96`. -/
def mapped? (address : Ipv6) : Option Ipv4 :=
  match address.groups with
  | [0, 0, 0, 0, 0, 0xffff, high, low] => some (Ipv4.ofGroups high low)
  | _ => none

/-- How many groups in a row are zero from a position on. -/
def zerosFrom (groups : List UInt16) (position : Nat) : Nat :=
  ((groups.drop position).takeWhile (· == 0)).length

/-- Where the longest run of zero groups starts and how long it is; of equally
long runs the first. -/
def longestZeros (groups : List UInt16) : Nat × Nat :=
  (List.range groups.length).foldl (fun best position =>
    if best.2 < zerosFrom groups position then (position, zerosFrom groups position)
    else best) (0, 0)

/-- Groups in hexadecimal, with colons between them. -/
def joined (groups : List UInt16) : List Char :=
  [':'].intercalate (groups.map fun group => Nat.toDigits 16 group.toNat)

/-- The text of an address. -/
def chars (address : Ipv6) : List Char :=
  match address.mapped? with
  | some inner => [':', ':', 'f', 'f', 'f', 'f', ':'] ++ inner.chars
  | none =>
    let (start, length) := longestZeros address.groups
    if 2 ≤ length then
      joined (address.groups.take start) ++ [':', ':'] ++
        joined (address.groups.drop (start + length))
    else joined address.groups

/-- Reads one group: one to four hexadecimal digits. -/
def group? (text : List Char) : Option UInt16 :=
  if text.length ≤ 4 then
    (Numeral.read? 16 0x10000 (text.map Char.toNat)).map UInt16.ofNat
  else none

/-- Reads the groups that stand between single colons. Where a dotted tail is
allowed the last piece may be an IPv4 address, which counts as two groups. -/
def groups? (dottedTail : Bool) : List (List Char) → Option (List UInt16)
  | [] => some []
  | [last] =>
    match group? last with
    | some group => some [group]
    | none => if dottedTail then (Ipv4.ofChars? last).map Ipv4.groups else none
  | piece :: rest => do
    let group ← group? piece
    let groups ← groups? dottedTail rest
    return group :: groups

/-- Reads what stands on one side of a `::`, which may be nothing. -/
def side? (dottedTail : Bool) (text : List Char) : Option (List UInt16) :=
  if text = [] then some [] else groups? dottedTail (pieces ':' text)

/-- What stands before and after the first `::` of a text. -/
def cutAtGap : List Char → Option (List Char × List Char)
  | ':' :: ':' :: after => some ([], after)
  | character :: rest => (cutAtGap rest).map fun (before, after) => (character :: before, after)
  | [] => none

/-- Reads the text of an address. Without `::` it has exactly eight groups; with
it at most seven, and zero groups fill the gap. -/
def ofChars? (text : List Char) : Option Ipv6 :=
  match cutAtGap text with
  | none => do
    let groups ← groups? true (pieces ':' text)
    if complete : groups.length = 8 then some ⟨groups, complete⟩ else none
  | some (before, after) => do
    let left ← side? false before
    let right ← side? true after
    if room : left.length + right.length ≤ 7 then
      some ⟨left ++ List.replicate (8 - (left.length + right.length)) 0 ++ right, by
        simp only [List.length_append, List.length_replicate]; omega⟩
    else none

end Ipv6

end Greeter
