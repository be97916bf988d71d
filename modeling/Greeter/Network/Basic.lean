import Greeter.Network.Machine
import Greeter.Server
import Greeter.Wire.Connection

/-! # Sockets of a machine

The listening sockets that are open on a machine. Two of them never listen at
the same place: at one port, two sockets have different addresses and neither
listens at all addresses. A client is heard by the socket that listens at the
endpoint it calls; until the socket is served, the client waits.
-/

namespace Greeter

/-- A listening socket. -/
structure Socket where
  /-- What tells the socket from all others, those closed before included. -/
  key : Nat
  endpoint : Endpoint
  /-- The server accepts connections on it. -/
  isServed : Bool
  /-- What the clients have sent that wait to be accepted. -/
  backlog : List Bytes
  deriving DecidableEq, Repr

/-- The listening sockets of a machine. -/
structure Network where
  machine : Machine
  /-- The open sockets. -/
  sockets : List Socket
  /-- Every port that a socket has had. -/
  usedPorts : List UInt16
  /-- The key of the next socket. -/
  nextKey : Nat

namespace Endpoint

/-- Whether two sockets at these endpoints would be in each other's way. -/
def conflicts (first second : Endpoint) : Bool :=
  first.port == second.port &&
    (first.host == second.host || first.host.isUnspecified || second.host.isUnspecified)

/-- Whether a socket at the first endpoint hears a client that calls the
second. Calling no address in particular is calling the machine itself. -/
def hears (listening called : Endpoint) : Bool :=
  let host := if called.host.isUnspecified then Host.v4 Ipv4.localhost else called.host
  listening.port == called.port && (listening.host == host || listening.host.isUnspecified)

end Endpoint

namespace Network

/-- A machine on which nobody listens. -/
def silent (machine : Machine) : Network := ⟨machine, [], [], 0⟩

/-- The ports that are given to those who ask for any. -/
def ephemeralPorts : List UInt16 := (List.range 28232).map fun index => UInt16.ofNat (32768 + index)

/-- A port that no socket has had. -/
def freshPort? (network : Network) : Option UInt16 :=
  ephemeralPorts.find? fun port => !network.usedPorts.contains port

/-- The endpoint for a socket that is to be bound: the one asked for, with a
fresh port where it leaves the port open. None is left where the port is taken,
or all are. -/
def placement? (network : Network) (asked : Endpoint) : Option Endpoint :=
  if asked.port = 0 then network.freshPort?.map fun port => { asked with port := port }
  else if network.sockets.any (·.endpoint.conflicts asked) then none
  else some asked

/-- Opens a listening socket. -/
def listen (network : Network) (asked : Endpoint) : Except IoError (Socket × Network) :=
  if !network.machine.owns asked.host then .error (.system SystemCode.addressNotAvailable)
  else
    match network.placement? asked with
    | none => .error (.system SystemCode.addressInUse)
    | some endpoint =>
      let socket : Socket := ⟨network.nextKey, endpoint, false, []⟩
      .ok (socket, { network with
        sockets := network.sockets ++ [socket]
        usedPorts := endpoint.port :: network.usedPorts
        nextKey := network.nextKey + 1 })

/-- The open socket of a key. -/
def socket? (network : Network) (key : Nat) : Option Socket :=
  network.sockets.find? (·.key == key)

/-- Closes a socket. -/
def close (network : Network) (key : Nat) : Network :=
  { network with sockets := network.sockets.filter (·.key != key) }

/-- Changes a socket. -/
def modify (network : Network) (key : Nat) (change : Socket → Socket) : Network :=
  { network with
    sockets := network.sockets.map fun socket =>
      if socket.key = key then change socket else socket }

/-- The server begins to accept connections on a socket. -/
def serve (network : Network) (key : Nat) : Network :=
  network.modify key fun socket => { socket with isServed := true, backlog := [] }

/-- Calls an endpoint: the socket that hears the call. -/
def connect (network : Network) (called : Endpoint) : Except IoError Socket := do
  network.machine.reach called.host
  match network.sockets.find? (·.endpoint.hears called) with
  | some socket => .ok socket
  | none => .error (.system SystemCode.connectionRefused)

/-- What a client gets that calls a socket and sends some bytes: the connection
as it is then, and what is sent back and logged. On a socket that is not served
the client waits. -/
def request (network : Network) (socket : Socket) (bytes : Bytes) :
    Network × Wire.Connection × Wire.Transmission :=
  if socket.isServed then
    (network, Wire.Connection.fresh.send bytes)
  else
    let wait (socket : Socket) : Socket := { socket with backlog := socket.backlog ++ [bytes] }
    (network.modify socket.key wait, Wire.Connection.fresh, .silent)

/-- What is logged when the clients that wait at a socket are accepted. -/
def backlogEvents (socket : Socket) : List Log.Event :=
  socket.backlog.flatMap fun bytes => (Wire.Connection.fresh.send bytes).2.events

/-- What the operating system of the machine answers to a server. A bound socket
comes with the network it is part of; accepting connections does not fail. -/
def offers (network : Network) : Sockets (Socket × Network) where
  bind := network.listen
  localEndpoint bound := .ok bound.1.endpoint
  accept _ := .ok ()

end Network

end Greeter
