import Greeter.Log.Level
import Greeter.Pattern.Program

/-! # Values that directives ask for

A directive may ask for the value of a field. A truth value or a number asks for
a field of that type; anything else is a pattern that the text of the field has
to match.
-/

namespace Greeter.Log

/-- Whether characters are decimal digits and nothing else. -/
def areDigits (text : List Char) : Bool := text.all Char.isDigit

/-- Whether a text is an exponent, from its letter on, or nothing. -/
def isExponent : List Char → Bool
  | [] => true
  | mark :: digits =>
    let digits := match digits with
      | '+' :: digits => digits
      | '-' :: digits => digits
      | digits => digits
    (mark == 'e' || mark == 'E') && digits != [] && areDigits digits

/-- Whether a text is a decimal number without a sign: digits, perhaps with a
point among them or at either end, and perhaps an exponent. -/
def isDecimal (text : List Char) : Bool :=
  let whole := text.takeWhile Char.isDigit
  match text.dropWhile Char.isDigit with
  | '.' :: behind =>
    let fraction := behind.takeWhile Char.isDigit
    (whole != [] || fraction != []) && isExponent (behind.dropWhile Char.isDigit)
  | rest => whole != [] && isExponent rest

/-- Whether a text is a number, perhaps with a sign. The infinite number and the
number that is none are written in letters of either case. -/
def isNumber (text : List Char) : Bool :=
  let size := match text with
    | '+' :: size => size
    | '-' :: size => size
    | size => size
  isDecimal size ||
    ["inf", "infinity", "nan"].any fun name => name.toList == size.map Threshold.lower

/-- What a directive asks of the value of a field. -/
inductive ValueTest where
  /-- The truth value or number that is written so. -/
  | typed (text : List Char)
  /-- A text that matches the pattern. -/
  | matching (pattern : Pattern)
  deriving DecidableEq, Repr

namespace ValueTest

/-- Reads what is asked of a value. -/
def ofChars? (text : List Char) : Option ValueTest :=
  if text = "true".toList ∨ text = "false".toList ∨ isNumber text = true then some (typed text)
  else (Pattern.ofChars? text).map matching

/-- Whether a text is a value that is asked for. No text is a truth value or a
number. -/
def admits (test : ValueTest) (value : List Char) : Bool :=
  match test with
  | typed _ => false
  | matching pattern => pattern.matchesEnd value

end ValueTest

end Greeter.Log
