import Greeter.Wire.Body
import Greeter.Wire.Exchange

/-! # Serving a buffer

The bytes that have come in on a connection are served as far as they go: one
request after another, until they run out, are refused, or make the connection
close. `Served.ofBytes` serves a buffer that has not been judged yet;
`Served.receive` adds what a read brings to bytes that wait.
-/

namespace Greeter.Wire

/-- What becomes of the bytes behind the last request. -/
inductive Ending where
  /-- They wait for more. -/
  | waiting (unread : Bytes)
  /-- They are refused. -/
  | refused (reason : Refusal)
  /-- They are lost, and the connection closes. -/
  | closed
  deriving DecidableEq, Repr

/-- What comes of a buffer. -/
structure Served where
  exchanges : List Exchange
  ending : Ending
  deriving DecidableEq, Repr

/-- What a client of HTTP/2 sends first. -/
def preface : Bytes := Bytes.ofText "PRI * HTTP/2.0\r\n\r\nSM\r\n\r\n"

/-- Whether the bytes greet a server of HTTP/2, perhaps behind empty lines. -/
def greetsHttp2 (text : Bytes) : Bool :=
  preface.isPrefixOf (text.dropWhile fun byte => byte == Bytes.cr || byte == Bytes.lf)

/-- Whether an empty line ends a head somewhere in the bytes. Both ends of lines
are of the same kind. -/
def endsHead : Bytes → Bool
  | [] => false
  | first :: rest =>
    (first == Bytes.lf && rest.head? == some Bytes.lf) ||
      (first == Bytes.cr && rest.take 3 == [Bytes.lf, Bytes.cr, Bytes.lf]) ||
      endsHead rest

namespace Ending

/-- A head that has not ended within so many bytes is refused. -/
def maxHead : Nat := 417792

/-- What becomes of bytes that hold no whole head. -/
def ofIncomplete (unread : Bytes) : Ending :=
  if maxHead ≤ unread.length then refused .headersTooLarge else waiting unread

/-- What becomes of bytes that are no head. A greeting of HTTP/2 is not answered
in a version that its sender does not speak. -/
def ofInvalid (unread : Bytes) (reason : Refusal) : Ending :=
  if greetsHttp2 unread then closed else refused reason

end Ending

namespace Served

/-- Answers the requests that a buffer holds one after another, each as soon as
its head is whole. The next one is looked for behind the body, if the connection
stays open and all of the body is there. -/
def ofBytes (unread : Bytes) : Served :=
  match _found : Head.read unread with
  | .incomplete => ⟨[], .ofIncomplete unread⟩
  | .refused reason => ⟨[], .ofInvalid unread reason⟩
  | .complete head rest =>
    if Ending.maxHead < unread.length - rest.length then ⟨[], .refused .headersTooLarge⟩
    else
      match head.accept with
      | .error reason => ⟨[], .refused reason⟩
      | .ok (request, framing) =>
        let exchange : Exchange := ⟨request, framing.keepAlive⟩
        if request.method.isConnect || !framing.keepAlive then ⟨[exchange], .closed⟩
        else
          match _behind : framing.body.skip? rest with
          | none => ⟨[exchange], .closed⟩
          | some next =>
            let served := ofBytes next
            ⟨exchange :: served.exchanges, served.ending⟩
termination_by unread.length
decreasing_by
  have first := Head.read_rest_length_lt _found
  have second := (BodyLength.skip?_suffix _behind).length_le
  omega

/-- Serves bytes that wait, with those that a read brings. Bytes that wait have
been judged before: they are looked at again only when an empty line has come
in. -/
def ofRead (unread new : Bytes) : Served :=
  let whole := unread ++ new
  if unread = [] ∨ endsHead (whole.drop (unread.length - 3)) then ofBytes whole
  else ⟨[], .ofIncomplete whole⟩

/-- Adds what a read brings, if the connection waits for it. -/
def receive (served : Served) (new : Bytes) : Served :=
  match served.ending with
  | .waiting unread =>
    let next := ofRead unread new
    ⟨served.exchanges ++ next.exchanges, next.ending⟩
  | _ => served

end Served

end Greeter.Wire
