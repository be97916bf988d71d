import Greeter.Log.Line
import Greeter.Server

/-! # The program

The program serves the default configuration until that fails, and then tells
why and exits with status 1. The environment chooses the filter of the log and
whether its lines are coloured; arguments change nothing.
-/

namespace Greeter

/-- What the program is started with. -/
structure Environment where
  /-- The filter of the log, as it is set. -/
  filter : Option Bytes
  /-- Set to anything but the empty text, it keeps colours away. -/
  noColour : Option String
  arguments : List String
  deriving DecidableEq, Repr

/-- What the program leaves behind. -/
structure Outcome where
  exitStatus : UInt8
  lines : List Log.Line
  deriving DecidableEq, Repr

namespace Environment

/-- How lines are written. -/
def style (environment : Environment) : Log.Style :=
  match environment.noColour with
  | none => .coloured
  | some value => if value = "" then .coloured else .plain

end Environment

namespace Program

variable {Listener : Type}

/-- All events of a run: those of the server, and its error if it ended with
one. -/
def events (attempt : Attempt Unit) : List Log.Event :=
  attempt.events ++
    match attempt.result with
    | .ok () => []
    | .error error => [.failed error]

/-- The status the program exits with. -/
def exitStatus (attempt : Attempt Unit) : UInt8 :=
  match attempt.result with
  | .ok () => 0
  | .error _ => 1

/-- Runs the program, given what the operating system answers. -/
def run (sockets : Sockets Listener) (environment : Environment) : Outcome :=
  let attempt := Server.serve sockets Config.default
  ⟨exitStatus attempt, (Log.Filter.ofEnvironment environment.filter).lines? (events attempt)⟩

end Program

end Greeter
