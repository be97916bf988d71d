import Greeter.Log.Directive
import Greeter.Log.Event

/-! # Filters

A filter decides which lines of the log are written and which of them show the
request they belong to. The directives without a span are kept in a table, the
most specific first, so that the first one that fits decides; a later directive
with the same target takes the place of an earlier one. A directive for spans
lets through what happens inside a span it fits; it too gives way to a later one
that speaks of the same spans.
-/

namespace Greeter.Log

namespace Directive

/-- Whether the directive speaks of spans: it names one, or asks for a field. -/
def isForSpans (directive : Directive) : Bool :=
  directive.span.isSome || directive.field.isSome

/-- The field a directive asks for, unless a value of it is asked for as well. -/
def fieldNames (directive : Directive) : List (List Char) :=
  match directive.field with
  | some field => [field.name]
  | none => []

/-- Whether a value of a field is asked for. -/
def asksForValue (directive : Directive) : Bool :=
  match directive.field with
  | some field => field.value.isSome
  | none => false

/-- Whether the directive speaks of lines outside of any span: it names none,
and asks for no value. -/
def isForLines (directive : Directive) : Bool :=
  directive.span.isNone && !directive.asksForValue

/-- Whether a target starts as the directive demands. -/
def fitsTarget (directive : Directive) (callsite : Callsite) : Bool :=
  directive.target.isPrefixOf callsite.target

/-- Whether the directive fits a line. -/
def fitsLine (directive : Directive) (callsite : Callsite) : Bool :=
  directive.fitsTarget callsite && directive.fieldNames.all (callsite.fields.contains ·)

/-- Whether the directive fits the span of a request, whatever its values. -/
def fitsSpan (directive : Directive) : Bool :=
  directive.fitsTarget Span.callsite &&
    directive.span.all (· == Span.name) &&
    directive.fieldNames.all (Span.callsite.fields.contains ·)

/-- Whether the span of a request has the value that the directive asks for, if
it asks for one. -/
def fitsValues (directive : Directive) (span : Span) : Bool :=
  match directive.field with
  | some ⟨name, some test⟩ =>
    ((span.values.lookup name).bind Bytes.toText?).any fun value => test.admits value.toList
  | _ => true

/-- Whether the first directive is tried before the second: its target is
longer, or just as long with more fields; otherwise the order of the texts
decides. -/
def isBefore (first second : Directive) : Bool :=
  if first.target.length ≠ second.target.length then
    second.target.length < first.target.length
  else if first.fieldNames.length ≠ second.fieldNames.length then
    second.fieldNames.length < first.fieldNames.length
  else if first.target ≠ second.target then second.target < first.target
  else second.fieldNames < first.fieldNames

/-- Whether the two directives speak of the same lines. -/
def replaces (first second : Directive) : Bool :=
  first.target == second.target && first.fieldNames == second.fieldNames

/-- Whether the two directives speak of the same spans, with the same values. -/
def replacesForSpans (first second : Directive) : Bool :=
  first.target == second.target && first.span == second.span && first.field == second.field

/-- Puts a directive for spans behind the others. One that speaks of the same
spans gives way to it. -/
def insertForSpans (directives : List Directive) (directive : Directive) : List Directive :=
  directives.filter (!directive.replacesForSpans ·) ++ [directive]

end Directive

/-- The directives for lines, the most specific first. -/
abbrev Table := List Directive

namespace Table

/-- Puts a directive at its place. One that speaks of the same lines gives way
to it. -/
def insert (directive : Directive) : Table → Table
  | [] => [directive]
  | entry :: rest =>
    if directive.replaces entry then directive :: rest
    else if directive.isBefore entry then directive :: entry :: rest
    else entry :: insert directive rest

/-- The table of a row of directives. -/
def ofDirectives (directives : List Directive) : Table :=
  directives.foldl (fun table directive => insert directive table) []

/-- Whether a line is let through: the first directive that fits decides. -/
def admits (table : Table) (fits : Directive → Bool) (level : Level) : Bool :=
  match table.find? fits with
  | some directive => directive.threshold.admits level
  | none => false

end Table

/-- Which lines of the log are written. -/
structure Filter where
  /-- The directives for lines. -/
  lines : Table
  /-- The directives for spans, of which no two speak of the same ones. -/
  spans : List Directive
  /-- No level above this one is ever let through. Directives that have given way
  count as well. -/
  most : Nat
  deriving DecidableEq, Repr

namespace Filter

/-- The filter that a row of directives makes. -/
def ofDirectives (directives : List Directive) : Filter where
  lines := Table.ofDirectives (directives.filter (·.isForLines))
  spans := (directives.filter (·.isForSpans)).foldl Directive.insertForSpans []
  most :=
    if directives.any (·.asksForValue) then Threshold.trace.rank
    else directives.foldl (fun most directive => max most directive.threshold.rank) 0

/-- The filter used unless told otherwise: the program itself from `info` on,
and every request. -/
protected def default : Filter :=
  ofDirectives [⟨"hello_server".toList, none, none, .info⟩,
    ⟨"tower_http".toList, none, none, .debug⟩]

instance : Inhabited Filter := ⟨Filter.default⟩

/-- Reads a filter. -/
def ofText? (text : String) : Option Filter :=
  (Directive.listOfText? text).map ofDirectives

/-- The filter that the environment asks for. What is not set, not a text or not
a filter leaves the filter used unless told otherwise. -/
def ofEnvironment (value : Option Bytes) : Filter :=
  ((value.bind Bytes.toText?).bind ofText?).getD Filter.default

/-- Whether a directive for lines lets the line through. -/
def admitsLine (filter : Filter) (callsite : Callsite) : Bool :=
  filter.lines.admits (·.fitsLine callsite) callsite.level

/-- Whether the span of a request is shown. A directive for spans that fits it is
enough, as long as its level is let through at all. -/
def showsSpan (filter : Filter) : Bool :=
  filter.lines.admits (·.fitsTarget Span.callsite) Span.callsite.level ||
    (filter.spans.any (·.fitsSpan) && Span.callsite.level.rank ≤ filter.most)

/-- Whether a directive for spans lets through the lines of a level inside the
span. -/
def admitsInside (filter : Filter) (span : Span) (level : Level) : Bool :=
  filter.showsSpan && filter.spans.any fun directive =>
    directive.fitsSpan && directive.fitsValues span && directive.threshold.admits level

/-- Whether the line of an event is written. -/
def shows (filter : Filter) (event : Event) : Bool :=
  filter.admitsLine event.callsite ||
    event.span?.any (filter.admitsInside · event.callsite.level)

end Filter

end Greeter.Log
