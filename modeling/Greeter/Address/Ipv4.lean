import Greeter.Bytes

/-! # IPv4 addresses

Four octets, written in decimal with points between them. Reading is strict:
no octet has more than three digits or a leading zero, so each address has
exactly one text.
-/

namespace Greeter

/-- An IPv4 address. -/
structure Ipv4 where
  first : UInt8
  second : UInt8
  third : UInt8
  fourth : UInt8
  deriving DecidableEq, Repr

namespace Ipv4

/-- The address of the machine itself. -/
def localhost : Ipv4 := ⟨127, 0, 0, 1⟩

/-- The address that stands for every local one. -/
def unspecified : Ipv4 := ⟨0, 0, 0, 0⟩

/-- The whole block 127.0.0.0/8 leads back to the machine. -/
def isLoopback (address : Ipv4) : Bool := address.first == 127

/-- The octets in the order in which they are written. -/
def octets (address : Ipv4) : List UInt8 :=
  [address.first, address.second, address.third, address.fourth]

/-- The dotted text of an address. -/
def chars (address : Ipv4) : List Char :=
  ['.'].intercalate (address.octets.map fun octet => Nat.toDigits 10 octet.toNat)

/-- Reads one octet: one to three decimal digits, up to 255, without a leading
zero. -/
def octet? (text : List Char) : Option UInt8 :=
  if text.length ≤ 3 && (text.length == 1 || text.head? != some '0') then
    (Numeral.read? 10 256 (text.map Char.toNat)).map UInt8.ofNat
  else none

/-- Reads a dotted text. -/
def ofChars? (text : List Char) : Option Ipv4 :=
  match (pieces '.' text).map octet? with
  | [some first, some second, some third, some fourth] => some ⟨first, second, third, fourth⟩
  | _ => none

/-- The address as the last two groups of an IPv6 address. -/
def groups (address : Ipv4) : List UInt16 :=
  [address.first.toUInt16 <<< 8 ||| address.second.toUInt16,
   address.third.toUInt16 <<< 8 ||| address.fourth.toUInt16]

/-- The address that two groups of an IPv6 address hold. -/
def ofGroups (high low : UInt16) : Ipv4 :=
  ⟨(high >>> 8).toUInt8, high.toUInt8, (low >>> 8).toUInt8, low.toUInt8⟩

end Ipv4

end Greeter
