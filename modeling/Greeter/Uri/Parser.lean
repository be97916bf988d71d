import Greeter.Uri.Basic

/-! # Reading request targets

`Uri.ofBytes` reads any of the four forms and says why it refuses the rest. The
form is chosen by the first bytes: a slash starts a path, a single slash or
asterisk is complete, and everything else is read as an authority behind an
optional scheme. A fragment is dropped, whatever it holds.
-/

namespace Greeter

/-- Why a target is refused. -/
inductive UriError where
  | empty
  | tooLong
  | schemeTooLong
  | invalidCharacter
  | invalidAuthority
  | invalidFormat
  deriving DecidableEq, Repr

/-- What the client reads about a refused target. -/
def UriError.message : UriError → String
  | empty => "empty string"
  | tooLong => "uri too long"
  | schemeTooLong => "scheme too long"
  | invalidCharacter => "invalid uri character"
  | invalidAuthority => "invalid authority"
  | invalidFormat => "invalid format"

namespace ByteClass

/-- What may stand in a path. -/
def path : ByteClass :=
  [(0x21, 0x22), (0x24, 0x3b), (0x3d, 0x3d), (0x40, 0x5f), (0x61, 0x7e), (0x80, 0xff)]

/-- What may stand in a query. -/
def query : ByteClass :=
  [(0x21, 0x21), (0x24, 0x3b), (0x3d, 0x3d), (0x3f, 0x7e), (0x80, 0xff)]

/-- What may stand in a scheme. -/
def scheme : ByteClass :=
  [(0x2b, 0x2b), (0x2d, 0x2e), (0x30, 0x39), (0x41, 0x5a), (0x61, 0x7a), (0x7e, 0x7e)]

/-- What may stand in an authority, besides the percent sign. -/
def authority : ByteClass :=
  [(0x21, 0x21), (0x24, 0x24), (0x26, 0x2e), (0x30, 0x3b), (0x3d, 0x3d), (0x40, 0x5b),
   (0x5d, 0x5d), (0x5f, 0x5f), (0x61, 0x7a), (0x7e, 0x7e)]

/-- What ends an authority: a slash, a question mark or a hash. -/
def authorityEnd : ByteClass := [(0x23, 0x23), (0x2f, 0x2f), (0x3f, 0x3f)]

end ByteClass

namespace Uri

/-- The most bytes a target may have. -/
def maxLength : Nat := 65534

/-- The most bytes a scheme may have. -/
def maxSchemeLength : Nat := 64

/-- Reads a path and a query. What follows the first hash is dropped; what
follows the first question mark before it is the query. All that is kept is the
UTF-8 form of a text. -/
def readPath (text : Bytes) : Except UriError (Bytes × Option Bytes) :=
  let kept := text.takeWhile (· != hash)
  let path := kept.takeWhile (· != questionMark)
  let query := (kept.dropWhile (· != questionMark)).tail?
  if path.all ByteClass.path.has && query.all (·.all ByteClass.query.has) && Bytes.isText kept then
    .ok (path, query)
  else .error .invalidCharacter

/-- What has been seen of an authority. -/
structure AuthorityScan where
  /-- Colons since the start, the last at sign or the closing bracket. -/
  colons : Nat
  /-- An opening bracket has been seen. -/
  opened : Bool
  /-- A closing bracket has been seen. -/
  closed : Bool
  /-- A percent sign since the start, the last at sign or the closing bracket. -/
  percent : Bool
  deriving DecidableEq, Repr

namespace AuthorityScan

/-- Nothing has been seen. -/
def start : AuthorityScan := ⟨0, false, false, false⟩

/-- One more byte. An at sign ends the user, a closing bracket the address: the
colons and percent signs before them do not count any more. -/
def next (scan : AuthorityScan) (byte : UInt8) : Except UriError AuthorityScan :=
  if byte = 0x3a then
    if 8 ≤ scan.colons then .error .invalidAuthority
    else .ok { scan with colons := scan.colons + 1 }
  else if byte = 0x5b then
    if scan.percent || scan.opened then .error .invalidAuthority
    else .ok { scan with opened := true }
  else if byte = 0x5d then
    if !scan.opened || scan.closed then .error .invalidAuthority
    else .ok { scan with closed := true, colons := 0, percent := false }
  else if byte = 0x40 then .ok { scan with colons := 0, percent := false }
  else if byte = 0x25 then .ok { scan with percent := true }
  else if ByteClass.authority.has byte then .ok scan
  else .error .invalidCharacter

/-- Whether what has been seen is a whole authority, but for its last byte:
brackets are closed, one colon at most is left and no percent sign. -/
def isWhole (scan : AuthorityScan) : Bool :=
  scan.opened == scan.closed && scan.colons ≤ 1 && !scan.percent

end AuthorityScan

/-- Reads an authority up to the first byte that ends it, and what follows. Some
host has to follow the user, if there is one. -/
def readAuthority (text : Bytes) : Except UriError (Bytes × Bytes) :=
  if text = [] then .error .empty
  else
    let name := text.takeWhile fun byte => !ByteClass.authorityEnd.has byte
    match name.foldlM AuthorityScan.next AuthorityScan.start with
    | .error reason => .error reason
    | .ok scan =>
      if scan.isWhole && name.getLast? != some 0x40 then
        .ok (name, text.dropWhile fun byte => !ByteClass.authorityEnd.has byte)
      else .error .invalidAuthority

/-- Splits a scheme from what follows it. The two schemes of HTTP are known in
any case and written in lower case; any other counts as a scheme when it is
followed by a colon and two slashes, and stays as it is, empty or not. -/
def cutScheme (text : Bytes) : Except UriError (Option (Bytes × Bytes)) :=
  let http := Bytes.ofText "http"
  let https := Bytes.ofText "https"
  if Bytes.sameLetters (text.take 7) (http ++ schemeEnd) then .ok (some (http, text.drop 7))
  else if Bytes.sameLetters (text.take 8) (https ++ schemeEnd) then
    .ok (some (https, text.drop 8))
  else if text.length ≤ 3 then .ok none
  else
    let scheme := text.takeWhile ByteClass.scheme.has
    let rest := text.dropWhile ByteClass.scheme.has
    if rest.take 3 = schemeEnd then
      if maxSchemeLength < scheme.length then .error .schemeTooLong
      else .ok (some (scheme, rest.drop 3))
    else .ok none

/-- Reads a target that starts with neither a path nor an asterisk. Without a
scheme it is an authority and nothing else. -/
def readFull (text : Bytes) : Except UriError Uri := do
  match ← cutScheme text with
  | none =>
    let (name, rest) ← readAuthority text
    if rest = [] then .ok (.authority name) else .error .invalidFormat
  | some (scheme, behind) =>
    let (name, rest) ← readAuthority behind
    if name = [] then .error .invalidFormat
    else
      let (path, query) ← readPath rest
      .ok (.absolute scheme name (if path = [] then [slash] else path) query)

/-- Reads a single byte: a path, the asterisk, or an authority of one letter. -/
def readSingle (byte : UInt8) : Except UriError Uri :=
  if byte = slash then .ok (.origin [slash] none)
  else if byte = star then .ok .asterisk
  else
    match readAuthority [byte] with
    | .error reason => .error reason
    | .ok (name, rest) => if rest = [] then .ok (.authority name) else .error .invalidCharacter

/-- Reads a target of any form. -/
def ofBytes (text : Bytes) : Except UriError Uri :=
  if maxLength < text.length then .error .tooLong
  else match text with
    | [] => .error .empty
    | [byte] => readSingle byte
    | first :: _ =>
      if first = slash then do
        let (path, query) ← readPath text
        .ok (.origin path query)
      else readFull text

end Uri

end Greeter
