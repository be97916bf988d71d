import Greeter.Address.Ipv6

/-! # Hosts and endpoints

A host is an IPv4 or an IPv6 address; an endpoint is a host and a port, and in
its text an IPv6 host stands in brackets.
-/

namespace Greeter

/-- The address of a network interface. -/
inductive Host where
  | v4 (address : Ipv4)
  | v6 (address : Ipv6)
  deriving DecidableEq, Repr

namespace Host

/-- The text of a host. -/
def chars : Host → List Char
  | v4 address => address.chars
  | v6 address => address.chars

/-- Reads the text of a host of either family. -/
def ofChars? (text : List Char) : Option Host :=
  match Ipv4.ofChars? text with
  | some address => some (v4 address)
  | none => (Ipv6.ofChars? text).map v6

/-- Reads the text of a host of either family. -/
def ofText? (text : String) : Option Host := ofChars? text.toList

/-- Whether the host leads back to the machine itself. -/
def isLoopback : Host → Bool
  | v4 address => address.isLoopback
  | v6 address => address.isLoopback

/-- Whether the host is an IPv6 address. -/
def isIpv6 : Host → Bool
  | v4 _ => false
  | v6 _ => true

instance : ToString Host := ⟨fun host => String.ofList host.chars⟩

end Host

/-- A host and a port: what a listener is bound to. -/
structure Endpoint where
  host : Host
  port : UInt16
  deriving DecidableEq, Repr

namespace Endpoint

/-- The text of an endpoint. -/
def chars (endpoint : Endpoint) : List Char :=
  let port := ':' :: Nat.toDigits 10 endpoint.port.toNat
  match endpoint.host with
  | .v4 address => address.chars ++ port
  | .v6 address => '[' :: address.chars ++ ']' :: port

instance : ToString Endpoint := ⟨fun endpoint => String.ofList endpoint.chars⟩

end Endpoint

end Greeter
