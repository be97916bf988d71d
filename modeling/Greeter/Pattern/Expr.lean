import Greeter.Pattern.CharSet

/-! # Expressions

What a pattern is made of. An expression describes a stretch of a text; where it
leaves a choice, one way is preferred to the other.
-/

namespace Greeter.Pattern

/-- What is asked of the place between two characters. -/
inductive Look where
  | textStart
  | textEnd
  /-- A line starts. If `returns` is set, a carriage return ends a line too. -/
  | lineStart (returns : Bool)
  /-- A line ends. -/
  | lineEnd (returns : Bool)
  /-- A word starts or ends. -/
  | wordEdge
  | noWordEdge
  | wordStart
  | wordEnd
  deriving DecidableEq, Repr

/-- A description of a stretch of a text. -/
inductive Expr where
  /-- Nothing at all. -/
  | empty
  /-- One character of a set. -/
  | one (set : CharSet)
  /-- Nothing, at a place of the given kind. -/
  | look (kind : Look)
  | sequence (first second : Expr)
  /-- The first is preferred. -/
  | choice (first second : Expr)
  /-- The body or nothing. A greedy expression prefers the body. -/
  | optional (greedy : Bool) (body : Expr)
  /-- The body, once or more often. A greedy expression prefers to go on. -/
  | repeated (greedy : Bool) (body : Expr)
  deriving DecidableEq, Repr

namespace Look

/-- Whether a character is there and belongs to a word. -/
def isWord (character : Option Char) : Bool := character.any CharSet.word.has

/-- Whether a place is of the kind, from the characters before and after it. -/
def holds (before after : Option Char) : Look → Bool
  | textStart => before.isNone
  | textEnd => after.isNone
  | lineStart false => before.isNone || before == some '\n'
  | lineStart true =>
    before.isNone || before == some '\n' || (before == some '\r' && after != some '\n')
  | lineEnd false => after.isNone || after == some '\n'
  | lineEnd true =>
    after.isNone || after == some '\r' || (after == some '\n' && before != some '\r')
  | wordEdge => isWord before != isWord after
  | noWordEdge => isWord before == isWord after
  | wordStart => !isWord before && isWord after
  | wordEnd => isWord before && !isWord after

end Look

end Greeter.Pattern
