import Greeter.Config
import Greeter.Log.Event

/-! # Starting the server

The server binds its endpoint and then serves on the socket it got. What the
operating system answers is given as `Sockets`; what the server makes of it, the
events it tells and the error it ends with, is an `Attempt`. An error is named
for where it arose: a failed bind keeps the endpoint, every other one is an
error of serving.
-/

namespace Greeter

/-- What the operating system answers to a server. `Listener` is what stands for
a bound socket. -/
structure Sockets (Listener : Type) where
  /-- Opens a socket that listens at an endpoint. -/
  bind : Endpoint → Except IoError Listener
  /-- The endpoint that a socket is bound to. -/
  localEndpoint : Listener → Except IoError Endpoint
  /-- Accepts connections until that fails. -/
  accept : Listener → Except IoError Unit

/-- What comes of something the server does: the events on the way, before any
filter, and the result. -/
structure Attempt (Result : Type) where
  events : List Log.Event
  result : Except ServerError Result

namespace Attempt

variable {First Second : Type}

/-- Goes on with the result, unless there is none. -/
def andThen (first : Attempt First) (next : First → Attempt Second) : Attempt Second :=
  match first.result with
  | .error error => ⟨first.events, .error error⟩
  | .ok value => ⟨first.events ++ (next value).events, (next value).result⟩

end Attempt

namespace Server

variable {Listener : Type}

/-- Opens the socket that the configuration asks for. -/
def bind (sockets : Sockets Listener) (config : Config) : Attempt Listener :=
  ⟨[.binding config.endpoint],
    (sockets.bind config.endpoint).mapError (.bind config.endpoint)⟩

/-- Serves on a bound socket. The endpoint that is told is the one the socket
has, even where the configuration left the port open. -/
def run (sockets : Sockets Listener) (listener : Listener) : Attempt Unit :=
  match sockets.localEndpoint listener with
  | .error source => ⟨[], .error (.serve source)⟩
  | .ok endpoint =>
    ⟨[.listening endpoint], (sockets.accept listener).mapError .serve⟩

/-- Binds and serves. -/
def serve (sockets : Sockets Listener) (config : Config) : Attempt Unit :=
  (bind sockets config).andThen (run sockets)

end Server

end Greeter
