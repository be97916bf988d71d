import Greeter.Bytes
import Greeter.Log.Level
import Greeter.Log.Value
import Greeter.Text.Alphanumeric
import Greeter.Text.WhiteSpace

/-! # Directives

A filter is written as directives with commas between them. A directive sets the
threshold of the targets that start with its own; it may be narrowed to spans of
a name, and to spans or lines that carry a field:
`target[span{field=value}]=level`, where every part may be missing and the value
may be a pattern. Without a level everything is let through, and a word that names
no level is a target.
-/

namespace Greeter.Log

/-- A field that a directive asks for, with the value it shall have, if any. -/
structure FieldMatch where
  name : List Char
  value : Option ValueTest
  deriving DecidableEq, Repr

/-- One directive of a filter. -/
structure Directive where
  /-- How the target has to start; empty where any target will do. -/
  target : List Char
  /-- The name of the span it is narrowed to. -/
  span : Option (List Char)
  /-- The field it is narrowed to. -/
  field : Option FieldMatch
  threshold : Threshold
  deriving DecidableEq, Repr

namespace Directive

/-- A character together with the one that stands at its place before white
space was taken off. The first decides where a directive divides, the second is
what its parts consist of. -/
abbrev Cell := Char × Char

/-- A text without white space at either end. -/
def trimmed (text : List Char) : List Char :=
  ((text.dropWhile Text.whiteSpace.has).reverse.dropWhile Text.whiteSpace.has).reverse

/-- The characters that a part consists of. -/
def part (cells : List Cell) : List Char := cells.map Prod.snd

/-- Whether a directive may start with the character, if not with a bracket. -/
def mayStart (character : Char) : Bool :=
  character = '-' || character = ':' || character = '_' || Text.alphanumeric.has character

/-- Reads a level behind an equals sign; none at all lets everything through. -/
def readLevel? (text : List Char) : Option Threshold :=
  if text = [] then some .trace else Threshold.ofChars? text

/-- Reads a word: a level for all targets, or a target all of whose lines are
let through. -/
def ofWord (word : List Char) : Directive :=
  match Threshold.ofChars? word with
  | some threshold => ⟨[], none, none, threshold⟩
  | none => ⟨word, none, none, .trace⟩

/-- Reads a field and perhaps its value, which another equals sign ends. -/
def readField? (text : List Char) : Option FieldMatch :=
  match pieces '=' text with
  | name :: value :: _ => (ValueTest.ofChars? value).map fun test => ⟨name, some test⟩
  | _ => some ⟨text, none⟩

/-- Reads what follows the closing bracket: nothing, or a level. `tail` is what
stands behind the last cell. -/
def closeSpan? (target : List Char) (span : Option (List Char)) (field : Option FieldMatch)
    (tail : List Char) : List Cell → Option Directive
  | [] => some ⟨target, span, field, .trace⟩
  | cell :: rest =>
    if cell.1 = '=' then
      (readLevel? (part rest ++ tail)).map fun threshold => ⟨target, span, field, threshold⟩
    else none

/-- Reads a field up to the closing brace, and the closing bracket behind it. -/
def readFieldPart? (target : List Char) (span : Option (List Char)) (tail : List Char)
    (cells : List Cell) : Option Directive :=
  let field := cells.takeWhile fun cell => cell.1 != '}'
  match cells.dropWhile fun cell => cell.1 != '}' with
  | _ :: bracket :: rest =>
    if field ≠ [] ∧ bracket.1 = ']' then do
      let asked ← readField? (part field)
      closeSpan? target span (some asked) tail rest
    else none
  | _ => none

/-- Reads what follows the opening bracket: the name of a span up to the closing
bracket, or up to the brace before a field. -/
def readSpanPart? (target : List Char) (tail : List Char) (cells : List Cell) :
    Option Directive :=
  let ends (cell : Cell) : Bool := cell.1 == ']' || cell.1 == '{'
  let name := part (cells.takeWhile fun cell => !ends cell)
  match cells.dropWhile fun cell => !ends cell with
  | [] => none
  | cell :: rest =>
    if cell.1 = ']' then closeSpan? target (some name) none tail rest
    else readFieldPart? target (if name = [] then none else some name) tail rest

/-- Reads one directive. Where it divides is decided on the text without the
white space around it; the parts are cut from the whole text at those places, so
that a directive behind a space matches no target of the program. -/
def ofChars? (text : List Char) : Option Directive :=
  let core := trimmed text
  let cells := core.zip text
  let tail := text.drop core.length
  match cells with
  | [] => none
  | first :: rest =>
    if first.1 = '[' then readSpanPart? [] tail rest
    else if mayStart first.1 then
      let ends (cell : Cell) : Bool := cell.1 == '=' || cell.1 == '['
      let word := part (cells.takeWhile fun cell => !ends cell)
      match cells.dropWhile fun cell => !ends cell with
      | [] => some (ofWord text)
      | cell :: rest =>
        if cell.1 = '=' then
          (readLevel? (part rest ++ tail)).map fun threshold => ⟨word, none, none, threshold⟩
        else readSpanPart? word tail rest
    else none

/-- Reads the directives of a filter. Empty ones are skipped; one that cannot be
read spoils all. -/
def listOfText? (text : String) : Option (List Directive) :=
  ((pieces ',' text.toList).filter (· ≠ [])).mapM ofChars?

end Directive

end Greeter.Log
