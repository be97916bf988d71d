import Greeter.Http.Request

/-! # Responses

An answer to a request: its status, headers and body.
-/

namespace Greeter

/-- An answer to a request. -/
structure Response where
  status : Nat
  version : Version
  headers : List (Bytes × Bytes)
  body : Bytes
  deriving DecidableEq, Repr

namespace Response

/-- A plain text as the answer, with its length. -/
def ofText (text : String) : Response where
  status := 200
  version := .http11
  headers :=
    [(Bytes.ofText "content-type", Bytes.ofText "text/plain; charset=utf-8"),
     (Bytes.ofText "content-length", Bytes.ofText (toString (Bytes.ofText text).length))]
  body := Bytes.ofText text

end Response

end Greeter
