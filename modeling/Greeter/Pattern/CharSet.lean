import Greeter.Text.Ranges

/-! # Sets of characters

A pattern says of each character which set it is taken from. A set is kept as it
was written, as intervals and the operations on them; `CharSet.has` reads it off.
-/

namespace Greeter.Pattern

/-- A set of characters. -/
inductive CharSet where
  /-- The characters in one of the intervals of code points. -/
  | ranges (intervals : Text.Ranges)
  /-- All other characters. -/
  | complement (set : CharSet)
  | union (first second : CharSet)
  | intersection (first second : CharSet)
  | difference (first second : CharSet)
  | symmetricDifference (first second : CharSet)
  /-- The characters and their other cases. -/
  | anyCase (set : CharSet)
  deriving DecidableEq, Repr

namespace CharSet

/-- No character. -/
def none : CharSet := ranges []

/-- One character alone. -/
def single (character : Char) : CharSet := ranges [(character.toNat, character.toNat)]

/-- An ASCII letter in the other case; any other character as it is. -/
def otherCase (character : Char) : Char :=
  if 'a' ≤ character && character ≤ 'z' then Char.ofNat (character.toNat - 32)
  else if 'A' ≤ character && character ≤ 'Z' then Char.ofNat (character.toNat + 32)
  else character

/-- Whether a character is in the set. -/
def has : CharSet → Char → Bool
  | ranges intervals, character => Text.Ranges.has intervals character
  | complement set, character => !set.has character
  | union first second, character => first.has character || second.has character
  | intersection first second, character => first.has character && second.has character
  | difference first second, character => first.has character && !second.has character
  | symmetricDifference first second, character => first.has character != second.has character
  | anyCase set, character => set.has character || set.has (otherCase character)

/-- The decimal digits. -/
def digit : CharSet := ranges [(0x30, 0x39)]

/-- The blanks and the ends of lines and pages. -/
def space : CharSet := ranges [(0x09, 0x0d), (0x20, 0x20)]

/-- Letters, digits and the underscore. -/
def word : CharSet := ranges [(0x30, 0x39), (0x41, 0x5a), (0x5f, 0x5f), (0x61, 0x7a)]

/-- The sets of ASCII characters that have a name. -/
def named : List (String × CharSet) :=
  [("alnum", ranges [(0x30, 0x39), (0x41, 0x5a), (0x61, 0x7a)]),
   ("alpha", ranges [(0x41, 0x5a), (0x61, 0x7a)]),
   ("ascii", ranges [(0x00, 0x7f)]),
   ("blank", ranges [(0x09, 0x09), (0x20, 0x20)]),
   ("cntrl", ranges [(0x00, 0x1f), (0x7f, 0x7f)]),
   ("digit", digit),
   ("graph", ranges [(0x21, 0x7e)]),
   ("lower", ranges [(0x61, 0x7a)]),
   ("print", ranges [(0x20, 0x7e)]),
   ("punct", ranges [(0x21, 0x2f), (0x3a, 0x40), (0x5b, 0x60), (0x7b, 0x7e)]),
   ("space", space),
   ("upper", ranges [(0x41, 0x5a)]),
   ("word", word),
   ("xdigit", ranges [(0x30, 0x39), (0x41, 0x46), (0x61, 0x66)])]

/-- The set of a name. -/
def ofName? (name : List Char) : Option CharSet :=
  (named.find? fun entry => entry.1.toList == name).map Prod.snd

end CharSet

end Greeter.Pattern
