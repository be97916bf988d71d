import Greeter.Bytes

/-! # Request targets

A request names what it asks for in one of four forms: a path on the server
asked, the asterisk for the server as a whole, an authority alone, or a complete
URI with its scheme. `render` is the canonical text of a target: no fragment,
and a path wherever there is a scheme.
-/

namespace Greeter

/-- The target of a request. -/
inductive Uri where
  /-- A path on the server asked, with an optional query. -/
  | origin (path : Bytes) (query : Option Bytes)
  /-- The server as a whole. -/
  | asterisk
  /-- A host, perhaps with user and port, and nothing else. -/
  | authority (name : Bytes)
  /-- A complete URI. -/
  | absolute (scheme name path : Bytes) (query : Option Bytes)
  deriving DecidableEq, Repr

namespace Uri

/-- The slash that starts a path. -/
abbrev slash : UInt8 := 0x2f

/-- The mark before a query. -/
abbrev questionMark : UInt8 := 0x3f

/-- The mark before a fragment. -/
abbrev hash : UInt8 := 0x23

/-- The target that asks for the server as a whole. -/
abbrev star : UInt8 := 0x2a

/-- What stands between a scheme and an authority. -/
abbrev schemeEnd : Bytes := [0x3a, slash, slash]

/-- The path that a router matches: empty where there is only an authority. -/
def path : Uri → Bytes
  | origin path _ => path
  | asterisk => [star]
  | authority _ => []
  | absolute _ _ path _ => path

/-- A query behind its mark, or nothing. -/
def renderQuery : Option Bytes → Bytes
  | none => []
  | some query => questionMark :: query

/-- The canonical text of a target. -/
def render : Uri → Bytes
  | origin path query => path ++ renderQuery query
  | asterisk => [star]
  | authority name => name
  | absolute scheme name path query =>
    scheme ++ schemeEnd ++ name ++ path ++ renderQuery query

end Uri

end Greeter
