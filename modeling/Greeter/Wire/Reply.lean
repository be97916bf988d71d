import Greeter.Http.Response

/-! # Replies

What the server writes on a connection: the answer to a request, or a refusal of
bytes that are none. A refusal is always the last thing on its connection. An
answer tells whether the connection stays open only where that is not what its
version makes the client expect.
-/

namespace Greeter.Wire

/-- Why bytes are refused. -/
inductive Refusal where
  | badRequest
  | uriTooLong
  | headersTooLarge
  deriving DecidableEq, Repr

/-- The status line of a refusal, behind the version. -/
def Refusal.status : Refusal → String
  | badRequest => "400 Bad Request"
  | uriTooLong => "414 URI Too Long"
  | headersTooLarge => "431 Request Header Fields Too Large"

/-- What the server writes. -/
inductive Reply where
  /-- The answer to a request of the given version. The body is left out where only
  the head was asked for. -/
  | answer (version : Version) (keepAlive withBody : Bool) (response : Response)
  | refusal (reason : Refusal)
  deriving DecidableEq, Repr

namespace Reply

/-- A header line. -/
def line (name value : Bytes) : Bytes := name ++ Bytes.ofText ": " ++ value ++ Bytes.lineEnd

/-- What an answer tells about the connection: that it stays open, to a client
of version 1.0, or that it closes, to a later one. -/
def persistence : Version → Bool → Bytes
  | .http10, true => line (Bytes.ofText "connection") (Bytes.ofText "keep-alive")
  | .http10, false => []
  | _, true => []
  | _, false => line (Bytes.ofText "connection") (Bytes.ofText "close")

/-- The phrase behind a status. -/
def reason (status : Nat) : String := if status = 200 then "OK" else ""

/-- The bytes of a reply. The date is read off a clock and so given from
outside. -/
def render (date : Bytes) : Reply → Bytes
  | answer version keepAlive withBody response =>
    Bytes.ofText version.text ++ [Bytes.space] ++ Bytes.ofText (toString response.status) ++
      [Bytes.space] ++ Bytes.ofText (reason response.status) ++ Bytes.lineEnd ++
      response.headers.flatMap (fun header => line header.1 header.2) ++
      persistence version keepAlive ++
      line (Bytes.ofText "date") date ++ Bytes.lineEnd ++
      (if withBody then response.body else [])
  | refusal reason =>
    Bytes.ofText Version.http11.text ++ [Bytes.space] ++ Bytes.ofText reason.status ++
      Bytes.lineEnd ++
      line (Bytes.ofText "connection") (Bytes.ofText "close") ++
      line (Bytes.ofText "content-length") (Bytes.ofText "0") ++
      line (Bytes.ofText "date") date ++ Bytes.lineEnd

end Reply

end Greeter.Wire
