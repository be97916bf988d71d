import Greeter.Wire.Served

/-! # Connections

A connection is fed the bytes that the client sends, a piece at a time, and
tells what is sent back and logged. Until its first bytes differ from the
greeting of HTTP/2 it waits; from then on its state is the bytes it has not used
yet, or that it is closed.
-/

namespace Greeter.Wire

/-- A connection. -/
inductive Connection where
  /-- All bytes so far are those that greet a server of HTTP/2, and not all of
  those. -/
  | sniffing (seen : Bytes)
  /-- These bytes have been judged and wait for more. -/
  | reading (unread : Bytes)
  | closed
  deriving DecidableEq, Repr

namespace Connection

/-- A connection on which nothing has come in yet. -/
def fresh : Connection := sniffing []

/-- Whether the connection is still open. -/
def isOpen : Connection → Bool
  | closed => false
  | _ => true

/-- The state in which served bytes leave a connection, and what is sent and
logged. -/
def settle (served : Served) : Connection × Transmission :=
  match served.ending with
  | .waiting unread => (reading unread, ⟨served.exchanges, none⟩)
  | .refused reason => (closed, ⟨served.exchanges, some reason⟩)
  | .closed => (closed, ⟨served.exchanges, none⟩)

/-- The client sends bytes. The first read of a connection brings no more than
the greeting of HTTP/2 is long; what is sent beyond it comes with a second
one. -/
def send : Connection → Bytes → Connection × Transmission
  | sniffing seen, bytes =>
    let room := preface.length - seen.length
    let start := seen ++ bytes.take room
    if start = preface then (closed, .silent)
    else if start.isPrefixOf preface then (sniffing start, .silent)
    else settle ((Served.ofRead [] start).receive (bytes.drop room))
  | reading unread, bytes => settle (Served.ofRead unread bytes)
  | closed, _ => (closed, .silent)

/-- The client sends no more. What has come in is lost, unless it is a whole head
that was held back because HTTP/2 is greeted alike. -/
def finish : Connection → Connection × Transmission
  | sniffing seen =>
    (closed, if endsHead seen then (settle (Served.ofBytes seen)).2 else .silent)
  | _ => (closed, .silent)

end Connection

end Greeter.Wire
