import Greeter.Proofs.Specificity

/-! # What directives enable

The directives of a filter say by themselves which lines they enable (`Log.Enables`), and
a filter writes the lines outside of spans that its directives enable
(`Log.Filter.admitsLine_iff`). Where they name targets and levels alone, the longest target
that the target of a line starts with is all that counts (`Log.enables_iff_longest`), inside
of spans as well.
-/

namespace Greeter.Log

namespace Directive

/-- The directive speaks of a line: it names no span and asks for no value, and the line
comes from a target that starts with its own and carries the field it names, if any. -/
def Concerns (directive : Directive) (callsite : Callsite) : Prop :=
  directive.span = none ∧ directive.target <+: callsite.target ∧
    ∀ field, directive.field = some field → field.value = none ∧ field.name ∈ callsite.fields

/-- A directive speaks of a line if and only if the filter keeps it for lines and it fits. -/
theorem concerns_iff (directive : Directive) (callsite : Callsite) :
    directive.Concerns callsite ↔
      directive.isForLines = true ∧ directive.fitsLine callsite = true := by
  obtain ⟨target, span, field, threshold⟩ := directive
  simp only [Concerns, isForLines, fitsLine, fitsTarget, fieldNames, asksForValue,
    Bool.and_eq_true, Option.isNone_iff_eq_none, List.isPrefixOf_iff_prefix, and_assoc]
  refine and_congr_right fun _ => ?_
  cases field with
  | none => simp
  | some field =>
      obtain ⟨name, value⟩ := field
      cases value <;> simp [and_comm]

/-- A target and a level, and nothing about spans and fields. -/
def IsPlain (directive : Directive) : Prop := directive.span = none ∧ directive.field = none

end Directive

/-- The directives enable the line: the one that decides about it lets its level through. -/
def Enables (directives : List Directive) (callsite : Callsite) : Prop :=
  ∃ chosen, Directive.Decides (·.Concerns callsite) directives chosen ∧
    callsite.level.rank ≤ chosen.threshold.rank

/-- The directive with the longest target that the given one starts with, and the last one
of these, lets the level through. -/
def EnablesTarget (directives : List Directive) (target : List Char) (level : Level) : Prop :=
  ∃ chosen earlier later, directives = earlier ++ chosen :: later ∧ chosen.target <+: target ∧
    (∀ other ∈ earlier, other.target <+: target → other.target.length ≤ chosen.target.length) ∧
    (∀ other ∈ later, other.target <+: target → other.target.length < chosen.target.length) ∧
    level.rank ≤ chosen.threshold.rank

variable {directives : List Directive}

/-- Of two directives without fields whose targets start the same target, the longer one is
the more specific. -/
theorem Directive.specificity_lt_iff_of_isPlain {first second : Directive} {target : List Char}
    (firstPlain : first.IsPlain) (secondPlain : second.IsPlain)
    (firstFits : first.target <+: target) (secondFits : second.target <+: target) :
    first.specificity < second.specificity ↔ first.target.length < second.target.length := by
  rw [specificity, specificity, Prod.Lex.toLex_lt_toLex]
  refine or_iff_left ?_
  rintro ⟨sameLength, less⟩
  -- Two targets of one length that start the same target are the same.
  have sameTarget : first.target = second.target :=
    (List.prefix_of_prefix_length_le firstFits secondFits sameLength.le).eq_of_length sameLength
  have sameFields : first.fieldNames = second.fieldNames := by
    simp only [fieldNames, firstPlain.2, secondPlain.2]
  rw [sameTarget, sameFields] at less
  exact lt_irrefl _ less

/-- A directive for a target alone speaks of all lines from targets that start with its own. -/
theorem Directive.concerns_iff_of_isPlain {directive : Directive} (plain : directive.IsPlain)
    (callsite : Callsite) : directive.Concerns callsite ↔ directive.target <+: callsite.target := by
  simp only [Concerns, plain.1, plain.2, true_and, reduceCtorEq, false_implies, implies_true,
    and_true]

/-- **The longest target decides** among directives that name targets and levels alone. -/
theorem enables_iff_longest (plain : ∀ directive ∈ directives, directive.IsPlain)
    (callsite : Callsite) :
    Enables directives callsite ↔ EnablesTarget directives callsite.target callsite.level := by
  simp only [Enables, EnablesTarget, Directive.Decides]
  refine exists_congr fun chosen => ?_
  simp only [← exists_and_right, and_assoc]
  refine exists_congr fun earlier => exists_congr fun later => and_congr_right ?_
  rintro rfl
  simp only [List.forall_mem_append, List.forall_mem_cons] at plain
  obtain ⟨earlierPlain, chosenPlain, laterPlain⟩ := plain
  rw [Directive.concerns_iff_of_isPlain chosenPlain]
  refine and_congr_right fun chosenFits => and_congr ?_ (and_congr_left fun _ => ?_)
  · refine forall₂_congr fun other member => ?_
    rw [Directive.concerns_iff_of_isPlain (earlierPlain other member)]
    refine imp_congr_right fun otherFits => ?_
    rw [← not_lt, Directive.specificity_lt_iff_of_isPlain chosenPlain
      (earlierPlain other member) chosenFits otherFits, not_lt]
  · refine forall₂_congr fun other member => ?_
    rw [Directive.concerns_iff_of_isPlain (laterPlain other member)]
    exact imp_congr_right fun otherFits => Directive.specificity_lt_iff_of_isPlain
      (laterPlain other member) chosenPlain otherFits chosenFits

namespace Filter

/-- **A filter writes the lines outside of spans that its directives enable.** -/
theorem admitsLine_iff (directives : List Directive) (callsite : Callsite) :
    (ofDirectives directives).admitsLine callsite = true ↔ Enables directives callsite := by
  have alike (first second : Directive) (same : first.specificity = second.specificity) :
      first.fitsLine callsite = second.fitsLine callsite := by
    obtain ⟨target, fields⟩ := Directive.specificity_eq_iff.mp same
    simp only [Directive.fitsLine, Directive.fitsTarget, target, fields]
  rw [admitsLine, ofDirectives, Table.admits_filter_iff _ _ _ alike]
  simp only [Enables, Directive.concerns_iff]

section Plain

variable (plain : ∀ directive ∈ directives, directive.IsPlain)
include plain

/-- Directives for targets alone leave no directive for spans. -/
theorem spans_of_isPlain : (ofDirectives directives).spans = [] := by
  have none : directives.filter (·.isForSpans) = [] := by
    rw [List.filter_eq_nil_iff]
    intro directive member
    simp [Directive.isForSpans, (plain directive member).1, (plain directive member).2]
  rw [ofDirectives, none, List.foldl_nil]

/-- Where no directive speaks of spans, each line is written or not for its target alone. -/
theorem shows_iff_of_isPlain (event : Event) : (ofDirectives directives).shows event = true ↔
    EnablesTarget directives event.callsite.target event.callsite.level := by
  have nothingInside (span : Span) (level : Level) :
      (ofDirectives directives).admitsInside span level = false := by
    rw [admitsInside, spans_of_isPlain plain, List.any_nil, Bool.and_false]
  have outside : (ofDirectives directives).shows event =
      (ofDirectives directives).admitsLine event.callsite := by
    rw [shows]
    cases event.span? <;> simp [nothingInside]
  rw [outside, admitsLine_iff, enables_iff_longest plain]

/-- So is the span of a request. -/
theorem showsSpan_iff_of_isPlain : (ofDirectives directives).showsSpan = true ↔
    EnablesTarget directives Span.callsite.target Span.callsite.level := by
  have alike (first second : Directive) (same : first.specificity = second.specificity) :
      first.fitsTarget Span.callsite = second.fitsTarget Span.callsite := by
    rw [Directive.fitsTarget, (Directive.specificity_eq_iff.mp same).1, Directive.fitsTarget]
  have concerns (directive : Directive) (member : directive ∈ directives) :
      directive.isForLines = true ∧ directive.fitsTarget Span.callsite = true ↔
        directive.Concerns Span.callsite := by
    rw [Directive.concerns_iff, Directive.fitsLine, Directive.fieldNames,
      (plain directive member).2]
    simp only [List.all_nil, Bool.and_true]
  have lines : (ofDirectives directives).showsSpan =
      (ofDirectives directives).lines.admits (·.fitsTarget Span.callsite) Span.callsite.level := by
    rw [showsSpan, spans_of_isPlain plain, List.any_nil, Bool.false_and, Bool.or_false]
  rw [← enables_iff_longest plain, lines, ofDirectives, Table.admits_filter_iff _ _ _ alike]
  simp only [Directive.decides_congr concerns, Enables]

end Plain

end Filter

end Greeter.Log
