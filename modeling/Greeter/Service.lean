import Greeter.Wire.Connection

/-! # The service

A running server has many connections, each with a number of its own. A step
happens on one of them: a client sends bytes, or sends no more. A connection
opens with its first step. The server keeps nothing that connections share.
-/

namespace Greeter

open Wire

/-- What a client does on a connection. -/
inductive Action where
  | send (bytes : Bytes)
  /-- Nothing more will be sent. -/
  | finish
  deriving DecidableEq, Repr

/-- Something that happens on the connection of the given number. -/
structure Step where
  connection : Nat
  action : Action
  deriving DecidableEq, Repr

/-- What a client sees of a step, and the log of it. -/
structure Answer where
  transmission : Transmission
  /-- The connection is open behind the step. -/
  isOpen : Bool
  deriving DecidableEq, Repr

namespace Wire.Connection

/-- A client acts on a connection. -/
def act (connection : Connection) : Action → Connection × Transmission
  | .send bytes => connection.send bytes
  | .finish => connection.finish

end Wire.Connection

/-- The connections of a running server that have had a step. -/
structure Service where
  connections : List (Nat × Connection)
  deriving DecidableEq, Repr

namespace Service

/-- A server that nobody has called yet. -/
def idle : Service := ⟨[]⟩

/-- The connection of a number. -/
def connection (service : Service) (number : Nat) : Connection :=
  (service.connections.lookup number).getD Connection.fresh

/-- Puts a connection in the place of the one with its number. -/
def update (service : Service) (number : Nat) (connection : Connection) : Service :=
  ⟨(number, connection) :: service.connections.filter fun entry => entry.1 != number⟩

/-- What one step comes to. -/
def step (service : Service) (step : Step) : Service × Answer :=
  let (connection, transmission) := (service.connection step.connection).act step.action
  (service.update step.connection connection, ⟨transmission, connection.isOpen⟩)

/-- The answers to a row of steps, one for each. -/
def run (service : Service) : List Step → List Answer
  | [] => []
  | first :: rest =>
    let (next, answer) := service.step first
    answer :: run next rest

end Service

end Greeter
