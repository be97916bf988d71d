import Greeter.Numeral

/-! # Levels and thresholds

Every line of the log has a level, from `error` down to `trace`. A threshold
lets through the lines of its own level and of all graver ones; `off` lets
nothing through.
-/

namespace Greeter.Log

/-- How grave a line is. -/
inductive Level where
  | error
  | warn
  | info
  | debug
  | trace
  deriving DecidableEq, Repr

/-- Which lines are let through. -/
inductive Threshold where
  | off
  | error
  | warn
  | info
  | debug
  | trace
  deriving DecidableEq, Repr

namespace Level

/-- The place of a level, counted from the gravest. -/
def rank : Level → Nat
  | error => 1
  | warn => 2
  | info => 3
  | debug => 4
  | trace => 5

/-- The name of a level, five characters wide. -/
def name : Level → String
  | error => "ERROR"
  | warn => " WARN"
  | info => " INFO"
  | debug => "DEBUG"
  | trace => "TRACE"

end Level

namespace Threshold

/-- How many levels a threshold lets through. -/
def rank : Threshold → Nat
  | off => 0
  | error => 1
  | warn => 2
  | info => 3
  | debug => 4
  | trace => 5

/-- Whether a threshold lets a line of the level through. -/
def admits (threshold : Threshold) (level : Level) : Bool := level.rank ≤ threshold.rank

/-- The thresholds in ascending order. -/
def all : List Threshold := [off, error, warn, info, debug, trace]

/-- The name of a threshold. -/
def name : Threshold → String
  | off => "off"
  | error => "error"
  | warn => "warn"
  | info => "info"
  | debug => "debug"
  | trace => "trace"

/-- An ASCII letter in lower case; any other character as it is. -/
def lower (character : Char) : Char :=
  if 'A' ≤ character && character ≤ 'Z' then Char.ofNat (character.toNat + 32) else character

/-- Reads a number of levels, perhaps behind a plus sign. -/
def ofNumber? (text : List Char) : Option Threshold := do
  let digits := match text with
    | '+' :: digits => digits
    | digits => digits
  let rank ← Numeral.read? 10 6 (digits.map Char.toNat)
  all[rank]?

/-- Reads the name of a threshold in any case, or its number. -/
def ofChars? (text : List Char) : Option Threshold :=
  match ofNumber? text with
  | some threshold => some threshold
  | none => all.find? fun threshold => threshold.name.toList == text.map lower

end Threshold

end Greeter.Log
