import Greeter.Uri.Parser

/-! # Requests

A request as the router sees it. Its parts can only be built from bytes that
are valid for them, so no later stage has to check them again.
-/

namespace Greeter

/-- The versions of HTTP that a request may name. -/
inductive Version where
  | http09
  | http10
  | http11
  | http2
  | http3
  deriving DecidableEq, Repr

namespace Version

/-- How a version is written. -/
def text : Version → String
  | http09 => "HTTP/0.9"
  | http10 => "HTTP/1.0"
  | http11 => "HTTP/1.1"
  | http2 => "HTTP/2.0"
  | http3 => "HTTP/3.0"

/-- All versions. -/
def all : List Version := [http09, http10, http11, http2, http3]

/-- The version written so. -/
def ofText? (text : String) : Option Version :=
  all.find? fun version => version.text == text

end Version

/-- A method: any token. -/
structure Method where
  token : Bytes
  nonempty : token ≠ []
  isToken : token.all ByteClass.token.has = true
  deriving DecidableEq, Repr

namespace Method

/-- The method that these bytes name, if they are a token. -/
def ofBytes? (token : Bytes) : Option Method :=
  if valid : token ≠ [] ∧ token.all ByteClass.token.has = true then
    some ⟨token, valid.1, valid.2⟩
  else none

/-- The method that asks for the head of an answer alone. -/
def head : Bytes := Bytes.ofText "HEAD"

/-- The method that asks for a tunnel. -/
def connect : Bytes := Bytes.ofText "CONNECT"

/-- Whether only the head of the answer is sent. -/
def isHead (method : Method) : Bool := method.token == head

/-- Whether a tunnel is asked for. -/
def isConnect (method : Method) : Bool := method.token == connect

end Method

/-- Why a header is refused. -/
inductive HeaderError where
  | name
  | value
  deriving DecidableEq, Repr

/-- One header of a request. -/
structure Header where
  name : Bytes
  value : Bytes
  nonempty : name ≠ []
  isToken : name.all ByteClass.token.has = true
  isFieldText : value.all ByteClass.fieldText.has = true
  deriving DecidableEq, Repr

namespace Header

/-- The most bytes a name may have. -/
def maxNameLength : Nat := 65535

/-- Whether a header has the given name, in any case. -/
def isNamed (header : Header) (name : Bytes) : Bool := header.name.sameLetters name

/-- The header of a name and a value. The name is checked first: a token that is
not too long. The value holds no control characters but tabs. -/
def ofBytes (name value : Bytes) : Except HeaderError Header :=
  if named : name ≠ [] ∧ name.all ByteClass.token.has = true ∧ name.length ≤ maxNameLength then
    if valued : value.all ByteClass.fieldText.has = true then
      .ok ⟨name, value, named.1, named.2.1, valued⟩
    else .error .value
  else .error .name

end Header

/-- A request as the router sees it. -/
structure Request where
  method : Method
  uri : Uri
  version : Version
  headers : List Header
  body : Bytes
  deriving DecidableEq, Repr

/-- Why the parts of a request do not make one. -/
inductive RequestError where
  | method
  | uri (reason : UriError)
  | headerName
  | headerValue
  deriving DecidableEq, Repr

namespace RequestError

/-- Which check failed. -/
def name : RequestError → String
  | method => "InvalidMethod"
  | uri _ => "InvalidUri"
  | headerName => "InvalidHeaderName"
  | headerValue => "InvalidHeaderValue"

/-- What the client reads about it. -/
def message : RequestError → String
  | method => "invalid HTTP method"
  | uri reason => reason.message
  | headerName => "invalid HTTP header name"
  | headerValue => "failed to parse header value"

/-- A refused header refuses the request. -/
def ofHeader : HeaderError → RequestError
  | .name => headerName
  | .value => headerValue

end RequestError

/-- The unchecked parts of a request. -/
structure RequestParts where
  method : Bytes
  uri : Bytes
  version : Version
  headers : List (Bytes × Bytes)
  body : Bytes
  deriving DecidableEq, Repr

namespace RequestParts

/-- Checks the method. -/
def readMethod (parts : RequestParts) : Except RequestError Method :=
  match Method.ofBytes? parts.method with
  | some method => .ok method
  | none => .error .method

/-- Checks the target. -/
def readUri (parts : RequestParts) : Except RequestError Uri :=
  (Uri.ofBytes parts.uri).mapError .uri

/-- Checks the headers one after another. -/
def readHeaders (parts : RequestParts) : Except RequestError (List Header) :=
  parts.headers.mapM fun (name, value) => (Header.ofBytes name value).mapError .ofHeader

/-- Builds the request, or reports the first part that is refused: the method,
then the target, then the headers in order. -/
def toRequest (parts : RequestParts) : Except RequestError Request := do
  let method ← parts.readMethod
  let uri ← parts.readUri
  let headers ← parts.readHeaders
  return ⟨method, uri, parts.version, headers, parts.body⟩

end RequestParts

end Greeter
