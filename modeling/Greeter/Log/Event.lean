import Greeter.Error.ServerError
import Greeter.Http.Request
import Greeter.Log.Level

/-! # Events of the log

What the program has to tell: a server being started, the reason it stopped, and
each request with its answer. An event belongs to a target, the part of the
program it comes from, and has a level; the two events of a request stand inside
the span of that request.
-/

namespace Greeter.Log

/-- What the log says about a request, on each line that belongs to it. -/
structure Span where
  method : Method
  uri : Uri
  version : Version
  deriving DecidableEq, Repr

/-- Something worth a line of the log. -/
inductive Event where
  /-- The endpoint is about to be bound. -/
  | binding (endpoint : Endpoint)
  /-- The server listens on the endpoint. -/
  | listening (endpoint : Endpoint)
  /-- The server stopped. -/
  | failed (error : ServerError)
  /-- A request has come in. -/
  | started (span : Span)
  /-- A request has been answered. -/
  | finished (span : Span) (status : Nat)
  deriving DecidableEq, Repr

/-- Where a line or a span comes from, as far as a filter asks about it. -/
structure Callsite where
  target : List Char
  level : Level
  /-- The names of the values it carries. -/
  fields : List (List Char)
  deriving DecidableEq, Repr

namespace Span

/-- The name under which a filter knows the span of a request. -/
def name : List Char := "request".toList

/-- Where the span of a request comes from. -/
def callsite : Callsite :=
  ⟨"tower_http::trace::make_span".toList, .debug,
    ["method".toList, "uri".toList, "version".toList]⟩

/-- The values a span carries, by name. -/
def values (span : Span) : List (List Char × Bytes) :=
  [("method".toList, span.method.token), ("uri".toList, span.uri.render),
   ("version".toList, Bytes.ofText span.version.text)]

/-- What the log says about a request. -/
def ofRequest (request : Request) : Span := ⟨request.method, request.uri, request.version⟩

end Span

namespace Event

/-- Where an event comes from. -/
def callsite : Event → Callsite
  | binding _ =>
    ⟨"hello_server::server".toList, .debug, ["message".toList, "addr".toList]⟩
  | listening _ => ⟨"hello_server::server".toList, .info, ["message".toList]⟩
  | failed _ => ⟨"hello_server".toList, .error, ["message".toList]⟩
  | started _ => ⟨"tower_http::trace::on_request".toList, .debug, ["message".toList]⟩
  | finished _ _ =>
    ⟨"tower_http::trace::on_response".toList, .debug,
      ["message".toList, "latency".toList, "status".toList, "response_headers".toList]⟩

/-- The span an event stands in. -/
def span? : Event → Option Span
  | started span => some span
  | finished span _ => some span
  | _ => none

/-- What an event says. -/
def message : Event → Bytes
  | binding _ => Bytes.ofText "binding listener"
  | listening endpoint =>
    Bytes.ofText "Hello server listening on http://" ++ Bytes.ofChars endpoint.chars
  | failed error => Bytes.ofChars error.messageChars
  | started _ => Bytes.ofText "started processing request"
  | finished _ _ => Bytes.ofText "finished processing request"

/-- The values an event carries besides its message. How long a request took is
read off a clock and so given from outside. -/
def values (latency : Bytes) : Event → List (List Char × Bytes)
  | binding endpoint => [("addr".toList, Bytes.ofChars endpoint.chars)]
  | finished _ status =>
    [("latency".toList, latency ++ Bytes.ofText " ms"),
     ("status".toList, Bytes.ofText (toString status))]
  | _ => []

end Event

end Greeter.Log
