import Greeter.Address.Endpoint
import Greeter.Error.IoError

/-! # Machines

A machine owns the addresses of its interfaces, to which sockets can be bound,
and reaches the networks to which a way leads. The two are not the same: where
no interface is up a socket may still be bound, but nobody can be called.
-/

namespace Greeter

namespace Host

/-- Whether the host stands for every address of the machine. -/
def isUnspecified : Host → Bool
  | v4 address => address == Ipv4.unspecified
  | v6 address => address.groups.all (· == 0)

end Host

/-- How a machine is connected. -/
structure Machine where
  /-- A socket can be bound to the address. -/
  owns : Host → Bool
  /-- A way leads to the address. -/
  reaches : Host → Bool

namespace Machine

/-- A machine none of whose interfaces is up. A socket can be bound to any IPv4
address, and none is reached. -/
def isolated : Machine where
  owns host := !host.isIpv6
  reaches _ := false

/-- A machine with nothing but its loopback interface. -/
def loopback : Machine where
  owns host := host.isLoopback || host.isUnspecified
  reaches host := host.isLoopback || host.isUnspecified

/-- Finds a way to an address. -/
def reach (machine : Machine) (host : Host) : Except IoError Unit :=
  if machine.reaches host then .ok () else .error (.system SystemCode.networkUnreachable)

end Machine

end Greeter
