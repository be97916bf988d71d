/-! # Character ranges

A Unicode property is held as the closed intervals of code points that have it.
-/

namespace Greeter.Text

/-- A set of characters: closed intervals of code points, in ascending order. -/
abbrev Ranges := List (Nat × Nat)

/-- Whether a character lies in one of the intervals. -/
def Ranges.has (ranges : Ranges) (character : Char) : Bool :=
  ranges.any fun range => range.1 ≤ character.toNat && character.toNat ≤ range.2

end Greeter.Text
