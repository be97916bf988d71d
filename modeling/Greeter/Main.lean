import Std.Async.TCP
import Greeter.Clock
import Greeter.Program
import Greeter.Wire.Connection

/-! # The command line

Runs the program on the sockets of the operating system. What is done here is
input and output alone: reading the environment and the clock, opening sockets,
and carrying bytes between a socket and its connection.
-/

namespace Greeter.CommandLine

open Std.Async

/-- The error of a code, which the library below reports with its sign turned. -/
def ofCode (code : UInt32) : IoError := .system code.toInt32.toInt.natAbs

/-- An error of the operating system, by its code where it has one. -/
def ioError : IO.Error → IoError
  | .alreadyExists _ code _ | .otherError code _ | .resourceBusy code _
  | .resourceVanished code _ | .unsupportedOperation code _ | .hardwareFault code _
  | .unsatisfiedConstraints code _ | .illegalOperation code _ | .protocolError code _
  | .timeExpired code _ | .interrupted _ code _ | .noFileOrDirectory _ code _
  | .invalidArgument _ code _ | .permissionDenied _ code _ | .resourceExhausted _ code _
  | .inappropriateType _ code _ | .noSuchThing _ code _ => ofCode code
  | .unexpectedEof => .bare .unexpectedEof
  | .userError text => .custom .other text

/-- What comes of an action, with its error as one of the server's. -/
def attempt {Value : Type} (action : IO Value) : IO (Except IoError Value) := do
  try
    return .ok (← action)
  catch error =>
    return .error (ioError error)

/-- The address of an endpoint, as the sockets of the system take it. -/
def address (endpoint : Endpoint) : Std.Net.SocketAddress :=
  match endpoint.host with
  | .v4 host => .v4 ⟨.ofParts host.first host.second host.third host.fourth, endpoint.port⟩
  | .v6 host =>
    let group (index : Nat) : UInt16 := host.groups.getD index 0
    .v6 ⟨.ofParts (group 0) (group 1) (group 2) (group 3) (group 4) (group 5) (group 6)
      (group 7), endpoint.port⟩

/-- The endpoint of an address of the system. -/
def endpoint : Std.Net.SocketAddress → Endpoint
  | .v4 address =>
    let octets := address.addr.octets
    ⟨.v4 ⟨octets[0], octets[1], octets[2], octets[3]⟩, address.port⟩
  | .v6 address =>
    ⟨.v6 ⟨address.addr.segments.toList, address.addr.segments.length_toList⟩, address.port⟩

/-- Opens a socket that listens at an endpoint. -/
def listen (endpoint : Endpoint) : IO TCP.Socket.Server := do
  let socket ← TCP.Socket.Server.mk
  socket.bind (address endpoint)
  socket.listen 1024
  return socket

/-- The moment that the clock shows. -/
def now : IO Moment := do
  let timestamp ← Std.Time.Timestamp.now
  return ⟨timestamp.toNanosecondsSinceUnixEpoch.toInt.toNat / 1000⟩

/-- How the log is kept. -/
structure Logger where
  filter : Log.Filter
  style : Log.Style

/-- Writes the lines of some events. -/
def Logger.write (logger : Logger) (events : List Log.Event) : IO Unit := do
  let output ← IO.getStdout
  for line in logger.filter.lines? events do
    let stamp : Log.Stamp := ⟨some (Bytes.ofText (← now).lineTime), Bytes.ofText "0"⟩
    output.write (ByteArray.mk (line.render logger.style stamp ++ [Bytes.lf]).toArray)
  output.flush

/-- Carries bytes between a client and its connection until one of them is
done. -/
partial def converse (logger : Logger) (client : TCP.Socket.Client)
    (connection : Wire.Connection) : Async Unit := do
  let received ← client.recv? 65536
  let (next, transmission) := match received with
    | some bytes => connection.send bytes.toList
    | none => connection.finish
  logger.write transmission.events
  let reply := transmission.render (Bytes.ofText (← now).replyDate)
  unless reply.isEmpty do
    client.send (ByteArray.mk reply.toArray)
  if next.isOpen then converse logger client next
  else client.shutdown

/-- Accepts clients for as long as that does not fail. -/
partial def acceptAll (logger : Logger) (socket : TCP.Socket.Server) : Async Unit := do
  let client ← socket.accept
  background do
    try converse logger client .fresh
    catch _ => return
  acceptAll logger socket

/-- The environment that the program is started in. -/
def environment (arguments : List String) : IO Environment := do
  let filter ← IO.getEnv "RUST_LOG"
  let noColour ← IO.getEnv "NO_COLOR"
  return ⟨filter.map Bytes.ofText, noColour, arguments⟩

/-- What the operating system answered to the server so far. -/
def answers (bound : Except IoError TCP.Socket.Server) (name : Except IoError Endpoint) :
    Sockets TCP.Socket.Server where
  bind _ := bound
  localEndpoint _ := name
  accept _ := .ok ()

/-- Binds and serves, and tells what happens on the way. -/
def run (logger : Logger) (config : Config) : IO (Except ServerError Unit) := do
  let bound ← attempt (listen config.endpoint)
  let opened := Server.bind (answers bound (.ok config.endpoint)) config
  logger.write opened.events
  match opened.result with
  | .error error => return .error error
  | .ok socket =>
    let name ← attempt socket.getSockName
    let started := Server.run (answers bound (name.map endpoint)) socket
    logger.write started.events
    match started.result with
    | .error error => return .error error
    | .ok () =>
      let ended ← attempt (acceptAll logger socket).block
      return ended.mapError .serve

end Greeter.CommandLine

/-- Serves the default configuration, and exits with status 1 when that fails. -/
def main (arguments : List String) : IO UInt32 := do
  let environment ← Greeter.CommandLine.environment arguments
  let logger : Greeter.CommandLine.Logger :=
    ⟨Greeter.Log.Filter.ofEnvironment environment.filter, environment.style⟩
  match ← Greeter.CommandLine.run logger Greeter.Config.default with
  | .ok () => return 0
  | .error error =>
    logger.write [.failed error]
    return 1
