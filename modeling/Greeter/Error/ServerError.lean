import Greeter.Address.Endpoint
import Greeter.Error.IoError

/-! # Errors that stop the server

Binding the listening socket can fail, and so can serving on a bound one. Each
error keeps the input or output error it came from; a failed bind also names the
endpoint.
-/

namespace Greeter

/-- Why the server stopped. -/
inductive ServerError where
  /-- The endpoint could not be bound. -/
  | bind (endpoint : Endpoint) (source : IoError)
  /-- The bound socket could not be served. -/
  | serve (source : IoError)
  deriving DecidableEq, Repr

namespace ServerError

/-- The error this one came from. -/
def source : ServerError → IoError
  | bind _ source => source
  | serve source => source

/-- The endpoint that could not be bound. -/
def endpoint? : ServerError → Option Endpoint
  | bind endpoint _ => some endpoint
  | serve _ => none

/-- Which of the two errors it is. -/
def name : ServerError → String
  | bind _ _ => "Bind"
  | serve _ => "Serve"

/-- What the operator reads. -/
def messageChars : ServerError → List Char
  | bind endpoint source =>
    "failed to bind ".toList ++ endpoint.chars ++ ": ".toList ++ source.messageChars
  | serve source => "server error: ".toList ++ source.messageChars

/-- The error with its parts named. -/
def debugChars : ServerError → List Char
  | bind endpoint source =>
    "Bind \x7b addr: ".toList ++ endpoint.chars ++ ", source: ".toList ++ source.debugChars ++
      " \x7d".toList
  | serve source => "Serve(".toList ++ source.debugChars ++ [')']

/-- What the operator reads. -/
def message (error : ServerError) : String := String.ofList error.messageChars

/-- The error with its parts named. -/
def debugText (error : ServerError) : String := String.ofList error.debugChars

end ServerError

end Greeter
