import Greeter.Router
import Greeter.Wire.Framing

/-! # Exchanges

A head that makes sense is a request, and every request goes to the router. What
is sent back and what is logged depend on the request alone, not on the
connection it came on.
-/

namespace Greeter.Wire

namespace Head

/-- The most bytes a target may have. -/
def maxTarget : Nat := 65534

/-- Takes a head for a request. The length of the target is checked first, then
the names of the fields, then what the target says, then what the fields say
about the body, which stays unread. -/
def accept (head : Head) : Except Refusal (Request × Framing) :=
  if maxTarget < head.target.length then .error .uriTooLong
  else
    match head.fields.mapM fun field => Header.ofBytes field.name field.value with
    | .error _ => .error .headersTooLarge
    | .ok headers =>
      match Uri.ofBytes head.target with
      | .error _ => .error .badRequest
      | .ok uri =>
        match Framing.ofFields head.version head.fields with
        | .error reason => .error reason
        | .ok framing => .ok (⟨head.method, uri, head.version, headers, []⟩, framing)

end Head

/-- A request that was accepted. -/
structure Exchange where
  request : Request
  /-- The connection is to stay open behind the answer. -/
  keepAlive : Bool
  deriving DecidableEq, Repr

namespace Exchange

/-- What is sent back: the answer of the router, without its body to a client
that asked for the head. A client that asked for a tunnel gets nothing. -/
def reply? (exchange : Exchange) : Option Reply :=
  if exchange.request.method.isConnect then none
  else some (.answer exchange.request.version exchange.keepAlive
    (!exchange.request.method.isHead) (Router.respond exchange.request))

/-- What is logged. -/
def events (exchange : Exchange) : List Log.Event := Router.events exchange.request

end Exchange

/-- What comes of the bytes of one piece: the requests accepted, in order, and
the refusal of what follows them, if it is refused. -/
structure Transmission where
  exchanges : List Exchange
  refusal : Option Refusal
  deriving DecidableEq, Repr

namespace Transmission

/-- Nothing is sent and nothing logged. -/
def silent : Transmission := ⟨[], none⟩

/-- What is sent back. -/
def replies (transmission : Transmission) : List Reply :=
  transmission.exchanges.filterMap Exchange.reply? ++
    transmission.refusal.toList.map Reply.refusal

/-- What is logged. Refused bytes leave no line. -/
def events (transmission : Transmission) : List Log.Event :=
  transmission.exchanges.flatMap Exchange.events

/-- The bytes that are sent back, with the date in each reply. -/
def render (date : Bytes) (transmission : Transmission) : Bytes :=
  transmission.replies.flatMap (Reply.render date)

end Transmission

end Greeter.Wire
