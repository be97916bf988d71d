import Greeter.Http.Response
import Greeter.Log.Event

/-! # Routes

Every request is greeted. The root has a route of its own, a second route takes
every longer path, and the fallback takes the targets that have no path on this
server: an authority alone, and the asterisk.
-/

namespace Greeter

/-- What every caller reads. -/
def greeting : String := "Hello, RS144!"

/-- The way a request takes to its handler. -/
inductive Route where
  /-- The path `/`. -/
  | root
  /-- A path that goes on behind the slash. -/
  | wildcard
  /-- No path on this server. -/
  | fallback
  deriving DecidableEq, Repr

namespace Route

/-- The route of a path. -/
def ofPath (path : Bytes) : Route :=
  match path with
  | [] => fallback
  | first :: rest =>
    if first ≠ Uri.slash then fallback
    else if rest = [] then root
    else wildcard

/-- The handler at the end of a route: the same greeting on all of them. -/
def handle : Route → Response
  | root => Response.ofText greeting
  | wildcard => Response.ofText greeting
  | fallback => Response.ofText greeting

end Route

namespace Router

/-- The answer to a request. -/
def respond (request : Request) : Response :=
  (Route.ofPath request.uri.path).handle

/-- What the log says about a request and its answer. -/
def events (request : Request) : List Log.Event :=
  [.started (.ofRequest request), .finished (.ofRequest request) (respond request).status]

end Router

end Greeter
