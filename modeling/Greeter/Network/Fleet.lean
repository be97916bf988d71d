import Greeter.Log.Line
import Greeter.Network.Basic

/-! # Fleets

An operator keeps listeners and servers on one machine under names, and calls
them as a client. Each name stands for a slot that holds one listener or server
and remembers the last port it got. Ports are chosen by the machine, so texts
for the operator write a port by the first slot that got it.
-/

namespace Greeter

/-- What the operator asks for. -/
inductive Order where
  /-- Bind a listener, on any port or on the one of the given slot. -/
  | bind (slot host : String) (portOf : Option String)
  /-- Serve on the listener in the slot. -/
  | run (slot : String)
  /-- Serve on a socket that has no internet address. -/
  | runLocal (slot : String)
  /-- Bind and serve. -/
  | serve (slot host : String) (portOf : Option String)
  /-- Close what the slot holds. -/
  | drop (slot : String)
  /-- Call the port that a slot got. -/
  | connect (host portOf : String)
  /-- Call the port that a slot got and send some bytes. -/
  | request (host portOf : String) (bytes : Bytes)
  deriving DecidableEq, Repr

/-- What the operator is told. -/
inductive Report where
  | bound (endpoint : Endpoint)
  | serving (slot : String)
  | dropped (slot : String)
  | connected (endpoint : Endpoint)
  /-- What the client got, and whether its connection is open still. -/
  | received (transmission : Wire.Transmission) (isOpen : Bool)
  /-- The slot holds no listener. -/
  | notListening (slot : String)
  /-- The slot never got a port. -/
  | noPort (slot : String)
  /-- The text is no host. -/
  | invalidHost
  /-- The server stopped. -/
  | stopped (error : ServerError)
  /-- The call failed. -/
  | unreached (error : IoError)
  deriving DecidableEq, Repr

/-- What an operator keeps. -/
structure Fleet where
  network : Network
  /-- The filter of the log. -/
  filter : Log.Filter
  /-- The socket that a slot holds, the latest entry of a slot first. -/
  held : List (String × Option Nat)
  /-- The port that a slot got, the latest entry of a slot first. -/
  ports : List (String × UInt16)
  /-- The slot that first got a port. -/
  names : List (UInt16 × String)

namespace Fleet

/-- Nothing is kept yet. -/
def empty (machine : Machine) (filter : Log.Filter) : Fleet :=
  ⟨Network.silent machine, filter, [], [], []⟩

/-- The open socket that a slot holds. -/
def socket? (fleet : Fleet) (slot : String) : Option Socket :=
  (fleet.held.lookup slot).join.bind fleet.network.socket?

/-- The listener that a slot holds: a socket that is not served. -/
def listener? (fleet : Fleet) (slot : String) : Option Socket :=
  (fleet.socket? slot).filter (!·.isServed)

/-- A slot got a port. -/
def learnPort (fleet : Fleet) (slot : String) (port : UInt16) : Fleet :=
  { fleet with
    ports := (slot, port) :: fleet.ports
    names := if (fleet.names.lookup port).isSome then fleet.names
      else (port, slot) :: fleet.names }

/-- A slot holds another socket. The listener it held is closed; a server goes on
without a name. -/
def hold (fleet : Fleet) (slot : String) (socket : Socket) (network : Network) : Fleet :=
  { fleet with
    network := match fleet.listener? slot with
      | some listener => network.close listener.key
      | none => network
    held := (slot, some socket.key) :: fleet.held }

/-- The configuration for a host and the port that a slot got; port 0 where no slot
is given. The port is looked up before the host is read. -/
def target (fleet : Fleet) (host : String) (portOf : Option String) : Except Report Config := do
  let port ← match portOf with
    | none => .ok 0
    | some slot =>
      match fleet.ports.lookup slot with
      | some port => .ok port
      | none => .error (.noPort slot)
  match Host.ofText? host with
  | some host => .ok ⟨host, port⟩
  | none => .error .invalidHost

/-- Binds a listener into a slot. -/
def bind (fleet : Fleet) (slot : String) (config : Config) : Fleet × Report × List Log.Event :=
  let attempt := Server.bind fleet.network.offers config
  match attempt.result with
  | .error error => (fleet, .stopped error, attempt.events)
  | .ok (socket, network) =>
    ((fleet.hold slot socket network).learnPort slot socket.endpoint.port,
      .bound socket.endpoint, attempt.events)

/-- Serves on the listener of a slot, and answers the clients that wait there. -/
def run (fleet : Fleet) (slot : String) (listener : Socket) :
    Fleet × Report × List Log.Event :=
  let attempt := Server.run fleet.network.offers (listener, fleet.network)
  match attempt.result with
  | .error error => (fleet, .stopped error, attempt.events)
  | .ok () =>
    ({ fleet with network := fleet.network.serve listener.key }, .serving slot,
      attempt.events ++ Network.backlogEvents listener)

/-- The answer to a server on a socket that has no internet address: there is no
endpoint to tell. -/
def localSockets : Sockets Unit where
  bind _ := .ok ()
  localEndpoint _ := .error (.fixed .invalidInput "invalid argument")
  accept _ := .ok ()

/-- Binds and serves in a slot. The operator learns the port from the log, and so
only if the filter shows it. -/
def serve (fleet : Fleet) (slot : String) (config : Config) :
    Fleet × Report × List Log.Event :=
  let bound := Server.bind fleet.network.offers config
  let attempt := Server.serve fleet.network.offers config
  match bound.result, attempt.result with
  | .ok (socket, network), .ok () =>
    let fleet := fleet.hold slot socket (network.serve socket.key)
    let fleet :=
      if fleet.filter.shows (.listening socket.endpoint) then
        fleet.learnPort slot socket.endpoint.port
      else fleet
    (fleet, .serving slot, attempt.events)
  | _, .error error => (fleet, .stopped error, attempt.events)
  | .error error, _ => (fleet, .stopped error, attempt.events)

/-- Closes what a slot holds. -/
def drop (fleet : Fleet) (slot : String) : Fleet :=
  match fleet.socket? slot with
  | none => fleet
  | some socket =>
    { fleet with
      network := fleet.network.close socket.key
      held := (slot, none) :: fleet.held }

/-- Carries out an order: what is kept then, what the operator is told and what is
logged. -/
def perform (fleet : Fleet) : Order → Fleet × Report × List Log.Event
  | .bind slot host portOf =>
    match fleet.target host portOf with
    | .error report => (fleet, report, [])
    | .ok config => fleet.bind slot config
  | .run slot =>
    match fleet.listener? slot with
    | none => (fleet, .notListening slot, [])
    | some listener => fleet.run slot listener
  | .runLocal slot =>
    let attempt := Server.run localSockets ()
    match attempt.result with
    | .error error => (fleet, .stopped error, attempt.events)
    | .ok () => (fleet, .serving slot, attempt.events)
  | .serve slot host portOf =>
    match fleet.target host portOf with
    | .error report => (fleet, report, [])
    | .ok config => fleet.serve slot config
  | .drop slot => (fleet.drop slot, .dropped slot, [])
  | .connect host portOf =>
    match fleet.target host (some portOf) with
    | .error report => (fleet, report, [])
    | .ok config =>
      match fleet.network.connect config.endpoint with
      | .error error => (fleet, .unreached error, [])
      | .ok _ => (fleet, .connected config.endpoint, [])
  | .request host portOf bytes =>
    match fleet.target host (some portOf) with
    | .error report => (fleet, report, [])
    | .ok config =>
      match fleet.network.connect config.endpoint with
      | .error error => (fleet, .unreached error, [])
      | .ok socket =>
        let (network, connection, transmission) := fleet.network.request socket bytes
        ({ fleet with network := network }, .received transmission connection.isOpen,
          transmission.events)

/-- A piece of text that stood behind a colon, with the slot that got the port it
starts with in the place of that port. -/
def relabelPiece (fleet : Fleet) (piece : List Char) : List Char :=
  let digits := piece.takeWhile Char.isDigit
  match fleet.names.find? fun entry => Nat.toDigits 10 entry.1.toNat == digits with
  | some (_, slot) => '<' :: slot.toList ++ '>' :: piece.dropWhile Char.isDigit
  | none => piece

/-- A text for the operator: every known port behind a colon is written by its
slot. -/
def relabel (fleet : Fleet) (text : String) : String :=
  match pieces ':' text.toList with
  | [] => text
  | first :: rest => String.ofList ([':'].intercalate (first :: rest.map fleet.relabelPiece))

end Fleet

end Greeter
