import Greeter.Wire.Head

/-! # Framing

The header fields tell where the body of a request ends and whether the
connection stays open behind it. The fields are taken in the order in which they
were sent, and the first one that makes no sense refuses the request.
-/

namespace Greeter.Wire

/-- Where a body ends. -/
inductive BodyLength where
  /-- After so many bytes. -/
  | sized (length : Nat)
  /-- With the last of its chunks. -/
  | chunked
  deriving DecidableEq, Repr

/-- What the fields of a head say about its message. -/
structure Framing where
  body : BodyLength
  /-- The connection stays open behind the message. -/
  keepAlive : Bool
  deriving DecidableEq, Repr

namespace Framing

/-- Lengths from here on do not fit into 64 bits. -/
def lengthLimit : Nat := UInt64.size

/-- The greatest length a body may have. -/
def maxLength : Nat := UInt64.size - 3

/-- The parts of a list of words with commas between them. A value that is not
ASCII has none. -/
def words (value : Bytes) : List Bytes :=
  if value.all ByteClass.ascii.has then (pieces 0x2c value).map Bytes.trim else []

/-- Whether the last coding of a transfer encoding splits the body into chunks. -/
def endsChunked (value : Bytes) : Bool :=
  (words value).getLast?.any (Bytes.sameLetters · (Bytes.ofText "chunked"))

/-- Whether a word is in the list. -/
def mentions (value word : Bytes) : Bool := (words value).any (Bytes.sameLetters · word)

/-- What has been seen of the fields. -/
structure Scan where
  /-- Whether the last transfer encoding seen, if any, splits the body. -/
  chunked : Option Bool
  /-- The content length seen before any transfer encoding. -/
  length : Option Nat
  /-- A content length has been seen, wherever it stood. -/
  hasLength : Bool
  /-- The client asks to close the connection. -/
  close : Bool
  /-- The client asks to keep the connection. -/
  keep : Bool
  deriving DecidableEq, Repr

namespace Scan

/-- Nothing has been seen. -/
def start : Scan := ⟨none, none, false, false, false⟩

/-- A content length. Behind a transfer encoding it says nothing; otherwise it is
a decimal number, and all of them are the same one. -/
def withLength (scan : Scan) (value : Bytes) : Except Refusal Scan :=
  if scan.chunked.isSome then .ok { scan with hasLength := true }
  else
    match Bytes.number? 10 lengthLimit value, scan.length with
    | none, _ => .error .badRequest
    | some length, some earlier =>
      if length = earlier then .ok scan else .error .badRequest
    | some length, none =>
      if maxLength < length then .error .headersTooLarge
      else .ok { scan with length := some length, hasLength := true }

/-- One more field. Version 1.0 knows no transfer encoding. -/
def next (version : Version) (scan : Scan) (field : Field) : Except Refusal Scan :=
  if Bytes.sameLetters field.name (Bytes.ofText "transfer-encoding") then
    if version = .http10 then .error .badRequest
    else .ok { scan with chunked := some (endsChunked field.value) }
  else if Bytes.sameLetters field.name (Bytes.ofText "content-length") then
    scan.withLength field.value
  else if Bytes.sameLetters field.name (Bytes.ofText "connection") then
    .ok { scan with
      close := scan.close || mentions field.value (Bytes.ofText "close")
      keep := scan.keep || mentions field.value (Bytes.ofText "keep-alive") }
  else .ok scan

/-- What all fields together say. A transfer encoding has to split the body; with
a content length beside it the connection does not stay open. -/
def finish (version : Version) (scan : Scan) : Except Refusal Framing :=
  let keeps := !scan.close && (version != .http10 || scan.keep)
  match scan.chunked with
  | none => .ok ⟨.sized (scan.length.getD 0), keeps⟩
  | some true => .ok ⟨.chunked, keeps && !scan.hasLength⟩
  | some false => .error .badRequest

end Scan

/-- What the fields of a head say about its message. -/
def ofFields (version : Version) (fields : List Field) : Except Refusal Framing := do
  let scan ← fields.foldlM (Scan.next version) Scan.start
  scan.finish version

end Framing

end Greeter.Wire
