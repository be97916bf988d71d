import Greeter.Pattern.Parser

/-! # Searching with a pattern

A pattern is turned into a program: a row of states, of which each tells what is
read next and where to go on. A text is searched from its start by following all
ways at once, the preferred ones first. As soon as one way has come to an end
the less preferred ones are given up, so what is found is the match that starts
first and, among those, the preferred one. `Pattern.matchesEnd` asks whether that
match goes up to the end of the text.
-/

namespace Greeter

namespace Pattern

/-- A state of a program. States are known by their places in the row. -/
inductive State where
  /-- Reads one character of the set. -/
  | read (set : CharSet) (next : Nat)
  /-- Goes on at a place of the given kind. -/
  | look (kind : Look) (next : Nat)
  /-- Goes on at each of these, the preferred one first. -/
  | split (targets : List Nat)
  /-- A match has been found. -/
  | accept
  deriving DecidableEq, Repr

/-- The states of a program. -/
abbrev Program := Array State

namespace Program

/-- The preferred of two states first. -/
def prefer (greedy : Bool) (body next : Nat) : State :=
  .split (if greedy then [body, next] else [next, body])

/-- Adds the states of an expression behind which the program goes on at `next`,
and tells where the expression starts. A body that is repeated leads back to a
state from which it is left as well. -/
def add (next : Nat) (program : Program) : Expr → Nat × Program
  | .empty => (next, program)
  | .one set => (program.size, program.push (.read set next))
  | .look kind => (program.size, program.push (.look kind next))
  | .sequence first second =>
    let (behind, program) := add next program second
    add behind program first
  | .choice first second =>
    let (left, program) := add next program first
    let (right, program) := add next program second
    (program.size, program.push (.split [left, right]))
  | .optional greedy body =>
    let (entry, program) := add next program body
    (program.size, program.push (prefer greedy entry next))
  | .repeated greedy body =>
    let again := program.size
    let (entry, program) := add again (program.push (.split [])) body
    (entry, program.setIfInBounds again (prefer greedy entry next))

/-- The states that are reached from one without reading, in the order of
preference, behind those that have been seen before. No state is entered twice,
so going as deep as there are states is enough. -/
def visit (program : Program) (before after : Option Char) :
    (room : Nat) → List Nat → Nat → List Nat
  | 0, seen, _ => seen
  | room + 1, seen, place =>
    if seen.contains place then seen
    else
      let seen := seen ++ [place]
      match program[place]? with
      | some (.split targets) => targets.foldl (visit program before after room) seen
      | some (.look kind next) =>
        if kind.holds before after then visit program before after room seen next else seen
      | _ => seen

/-- The states that are reached from some others without reading, up to the
first at which a match is found. -/
def reach (program : Program) (before after : Option Char) (places : List Nat) : List State :=
  let seen := places.foldl (visit program before after (program.size + 1)) []
  let states := seen.filterMap (program[·]?)
  states.takeWhile (· != .accept) ++ (states.find? (· == .accept)).toList

/-- Where the program goes on behind a character. -/
def advance (character : Char) (states : List State) : List Nat :=
  states.filterMap fun state =>
    match state with
    | .read set next => if set.has character then some next else none
    | _ => none

/-- Searches the rest of a text. As long as no match has been found one may also
start here, which is preferred least. -/
def search (program : Program) (start : Nat) (before : Option Char) (seeking : Bool)
    (places : List Nat) : List Char → Bool
  | [] =>
    (program.reach before none (places ++ if seeking then [start] else [])).contains .accept
  | character :: rest =>
    let states := program.reach before (some character) (places ++ if seeking then [start] else [])
    search program start (some character) (seeking && !states.contains .accept)
      (advance character states) rest

end Program

end Pattern

/-- A pattern that a text may match. -/
structure Pattern where
  /-- How the pattern is written. -/
  source : List Char
  expr : Pattern.Expr
  deriving DecidableEq, Repr

namespace Pattern

/-- Reads a pattern. -/
def ofChars? (source : List Char) : Option Pattern :=
  (Expr.ofChars? source).map fun expr => ⟨source, expr⟩

/-- Whether the first match that is found in a text goes up to its end. -/
def matchesEnd (pattern : Pattern) (text : List Char) : Bool :=
  let (start, program) := Program.add 0 #[.accept] pattern.expr
  program.search start none true [] text

end Pattern

end Greeter
