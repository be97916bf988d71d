import Greeter.Numeral

/-! # Bytes

What travels on a connection and what is written to the log are rows of bytes.
A set of bytes is given by its closed intervals (`ByteClass`), so that the sets
of the HTTP grammar stand here as the tables that define them.
-/

namespace Greeter

/-- A row of bytes. -/
abbrev Bytes := List UInt8

/-- A set of bytes: the union of closed intervals. -/
abbrev ByteClass := List (UInt8 × UInt8)

namespace ByteClass

/-- Whether a byte lies in one of the intervals. -/
def has (intervals : ByteClass) (byte : UInt8) : Bool :=
  intervals.any fun interval => interval.1 ≤ byte && byte ≤ interval.2

/-- The characters of a token: letters, digits and fifteen marks. Method and
field names are made of them. -/
def token : ByteClass :=
  [(0x21, 0x21), (0x23, 0x27), (0x2a, 0x2b), (0x2d, 0x2e), (0x30, 0x39), (0x41, 0x5a),
   (0x5e, 0x7a), (0x7c, 0x7c), (0x7e, 0x7e)]

/-- Space and tab. -/
def blank : ByteClass := [(0x09, 0x09), (0x20, 0x20)]

/-- What a field value holds: everything but the control characters, of which
tab alone is allowed. -/
def fieldText : ByteClass := [(0x09, 0x09), (0x20, 0x7e), (0x80, 0xff)]

/-- What may stand in the target of a request line before it is read as a URI:
everything but blanks and control characters. -/
def target : ByteClass := [(0x21, 0x7e), (0x80, 0xff)]

/-- The bytes of the ASCII range. -/
def ascii : ByteClass := [(0x00, 0x7f)]

/-- The hexadecimal digits. -/
def hexDigit : ByteClass := [(0x30, 0x39), (0x41, 0x46), (0x61, 0x66)]

end ByteClass

namespace Bytes

/-- Carriage return. -/
abbrev cr : UInt8 := 0x0d

/-- Line feed. -/
abbrev lf : UInt8 := 0x0a

/-- A single space. -/
abbrev space : UInt8 := 0x20

/-- The end of a line as it is written. -/
abbrev lineEnd : Bytes := [cr, lf]

/-- The UTF-8 bytes of a row of characters. -/
def ofChars (characters : List Char) : Bytes :=
  characters.flatMap String.utf8EncodeChar

/-- The UTF-8 bytes of a text. -/
def ofText (text : String) : Bytes := ofChars text.toList

/-- The text whose UTF-8 bytes these are. -/
def toText? (bytes : Bytes) : Option String :=
  String.fromUTF8? (ByteArray.mk bytes.toArray)

/-- Whether the bytes are the UTF-8 form of some text. -/
def isText (bytes : Bytes) : Bool :=
  bytes.toText?.isSome

/-- An ASCII letter in lower case; any other byte as it is. -/
def lower (byte : UInt8) : UInt8 :=
  if 0x41 ≤ byte && byte ≤ 0x5a then byte + 0x20 else byte

/-- Equality up to the case of ASCII letters. -/
def sameLetters (left right : Bytes) : Bool :=
  left.map lower == right.map lower

/-- The bytes without the blanks at either end. -/
def trim (bytes : Bytes) : Bytes :=
  ((bytes.dropWhile ByteClass.blank.has).reverse.dropWhile ByteClass.blank.has).reverse

/-- The number that a row of digits writes in the given base, below the limit. -/
def number? (base limit : Nat) (bytes : Bytes) : Option Nat :=
  Numeral.read? base limit (bytes.map UInt8.toNat)

end Bytes

/-- The pieces of a row between its separators: one more than there are
separators, and empty where two separators meet. -/
def pieces {α : Type} [DecidableEq α] (separator : α) (row : List α) : List (List α) :=
  row.foldr (fun item found =>
    if item = separator then [] :: found
    else match found with
      | [] => [[item]]
      | piece :: rest => (item :: piece) :: rest) [[]]

end Greeter
