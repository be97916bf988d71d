import Greeter.Text.GraphemeExtend
import Greeter.Text.Ignorable
import Greeter.Text.Unprintable

/-! # Quoted text

A message inside a rendered value stands between double quotes. Six characters
have an escape of their own; a character that would not show, or would attach to
the one before it, is written by its code point; all others stand for
themselves.
-/

namespace Greeter.Text.Quoted

/-- Whether a character attaches to the one before it. The two sound marks of
half width count as such in Unicode, but stand in a cell of their own. -/
def attaches (character : Char) : Bool :=
  graphemeExtend.has character && character != '\uff9e' && character != '\uff9f'

/-- Whether a character shows as itself: it has a glyph, leaves a trace and does
not attach to the character before it. -/
def isPlain (character : Char) : Bool :=
  !(attaches character || ignorable.has character || unprintable.has character)

/-- The written form of one character between the quotes. -/
def escape (character : Char) : List Char :=
  if character = '"' then ['\\', '"']
  else if character = '\\' then ['\\', '\\']
  else if character = '\n' then ['\\', 'n']
  else if character = '\r' then ['\\', 'r']
  else if character = '\t' then ['\\', 't']
  else if character = '\x00' then ['\\', '0']
  else if isPlain character then [character]
  else ['\\', 'u', '{'] ++ Nat.toDigits 16 character.toNat ++ ['}']

/-- A text between double quotes. -/
def encode (text : List Char) : List Char :=
  '"' :: text.flatMap escape ++ ['"']

end Greeter.Text.Quoted
