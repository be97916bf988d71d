import Greeter.Log.Filter

/-! # Lines of the log

A line tells the level of an event, the span it stands in if the filter shows
it, the target, the message and the values. What a clock says stands before all
of it and inside the line that ends a request; it is given from outside. On a
terminal the parts are told apart by colour and weight.
-/

namespace Greeter.Log

/-- A line as the filter lets it through: an event, with or without its span. -/
structure Line where
  event : Event
  showsSpan : Bool
  deriving DecidableEq, Repr

/-- How the parts of a line are told apart. -/
inductive Style where
  | plain
  | coloured
  deriving DecidableEq, Repr

/-- What the clock says when a line is written. -/
structure Stamp where
  /-- The time of the line, if lines show it. -/
  time : Option Bytes
  /-- How many milliseconds a request took. -/
  latency : Bytes
  deriving DecidableEq, Repr

namespace Filter

/-- The lines of a row of events that the filter lets through, in order. -/
def lines? (filter : Filter) (events : List Event) : List Line :=
  (events.filter filter.shows).map fun event => ⟨event, filter.showsSpan⟩

end Filter

namespace Style

/-- A text in the given rendition, and back to the usual one. -/
def paint (style : Style) (rendition : String) (text : Bytes) : Bytes :=
  match style with
  | plain => text
  | coloured =>
    Bytes.ofText "\x1b[" ++ Bytes.ofText rendition ++ Bytes.ofText "m" ++ text ++
      Bytes.ofText "\x1b[0m"

/-- Weak print: everything but the message. -/
def dim (style : Style) : Bytes → Bytes := style.paint "2"

/-- Strong print: what holds a span together. -/
def bold (style : Style) : Bytes → Bytes := style.paint "1"

/-- Slanted print: the names of values. -/
def italic (style : Style) : Bytes → Bytes := style.paint "3"

/-- The colour of a level. -/
def colour : Level → String
  | .error => "31"
  | .warn => "33"
  | .info => "32"
  | .debug => "34"
  | .trace => "35"

/-- A value behind its name. -/
def value (style : Style) (field : List Char × Bytes) : Bytes :=
  style.italic (Bytes.ofChars field.1) ++ style.dim (Bytes.ofText "=") ++ field.2

/-- Values with spaces between them. -/
def values (style : Style) (fields : List (List Char × Bytes)) : Bytes :=
  [Bytes.space].intercalate (fields.map style.value)

/-- A span, before the line that stands in it. -/
def span (style : Style) (span : Span) : Bytes :=
  style.bold (Bytes.ofChars Span.name) ++ style.bold (Bytes.ofText "\x7b") ++
    style.values span.values ++ style.bold (Bytes.ofText "\x7d") ++ style.dim (Bytes.ofText ":") ++
    [Bytes.space]

end Style

namespace Line

/-- The span that a line shows. -/
def span? (line : Line) : Option Span :=
  if line.showsSpan then line.event.span? else none

/-- The bytes of a line, without the end of the line. -/
def render (style : Style) (stamp : Stamp) (line : Line) : Bytes :=
  let callsite := line.event.callsite
  let time := match stamp.time with
    | some time => style.dim time ++ [Bytes.space]
    | none => []
  let level := style.paint (Style.colour callsite.level) (Bytes.ofText callsite.level.name)
  let span := match line.span? with
    | some span => style.span span
    | none => []
  let target := style.dim (Bytes.ofChars callsite.target) ++ style.dim (Bytes.ofText ":")
  let values := (line.event.values stamp.latency).flatMap fun field =>
    Bytes.space :: style.value field
  time ++ level ++ [Bytes.space] ++ span ++ target ++ [Bytes.space] ++ line.event.message ++ values

end Line

end Greeter.Log
