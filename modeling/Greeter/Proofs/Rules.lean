import Greeter.Proofs.Launch
import Mathlib.Data.List.Nodup

/-! # Rules of targets and levels

A filter that is written as levels and as targets with their levels (`Log.Rule`) is read as
these rules (`Log.Rule.filter_eq`). A line is written if the rule that decides about its target
lets its level through, and this is the last one of those with the longest target
(`Log.Rule.deciding?`). So the order of the rules counts only where two of them have the same
target, and then the later one replaces the earlier (`Log.longest_target_decides`).
-/

namespace Greeter

namespace Text.Ranges

/-- No character lies in an interval of the first set and in one of the second. -/
def apart (first second : Ranges) : Bool :=
  first.all fun range => second.all fun other => range.2 < other.1 || other.2 < range.1

/-- What is in one of two sets that lie apart is not in the other. -/
theorem has_of_apart {first second : Ranges} (disjoint : first.apart second = true)
    {character : Char} (member : first.has character = true) : second.has character = false := by
  simp only [apart, has, List.all_eq_true, List.any_eq_true, List.any_eq_false, Bool.or_eq_true,
    Bool.and_eq_true, decide_eq_true_eq] at disjoint member ⊢
  obtain ⟨range, listed, least, most⟩ := member
  intro other alsoListed inside
  have := disjoint range listed other alsoListed
  omega

end Text.Ranges

namespace Log

/-- What the name of a target consists of: letters, digits, underscores and colons. -/
def isNameChar (character : Char) : Bool :=
  character = '_' || character = ':' || Text.alphanumeric.has character

/-- The name of a target. -/
structure TargetName where
  chars : List Char
  nonempty : chars ≠ []
  named : chars.all isNameChar = true

/-- A directive in its usual spelling: a level for all targets, or a target with its level. -/
inductive Rule where
  | everywhere (threshold : Threshold)
  | within (name : TargetName) (threshold : Threshold)

namespace Rule

/-- How a target has to start for the rule. -/
def target : Rule → List Char
  | everywhere _ => []
  | within name _ => name.chars

/-- The level that is written in the rule. -/
def threshold : Rule → Threshold
  | everywhere threshold => threshold
  | within _ threshold => threshold

/-- The rule with another level. -/
def withThreshold (threshold : Threshold) : Rule → Rule
  | everywhere _ => everywhere threshold
  | within name _ => within name threshold

/-- The directive that the rule is read as, without a span and without fields. -/
def directive (rule : Rule) : Directive := ⟨rule.target, none, none, rule.threshold⟩

/-- How a rule is written. -/
def chars : Rule → List Char
  | everywhere threshold => threshold.name.toList
  | within name threshold => name.chars ++ '=' :: threshold.name.toList

/-- Rules with commas between them. -/
def text (rules : List Rule) : String := String.ofList ([','].intercalate (rules.map chars))

/-- The filter that the rules are read as. -/
def filter (rules : List Rule) : Filter := .ofDirectives (rules.map directive)

/-- Whether a text is one that the target starts with, and none of the others is longer. -/
def isLongest (texts : List (List Char)) (target text : List Char) : Bool :=
  text.isPrefixOf target && (texts.filter (·.isPrefixOf target)).all (·.length ≤ text.length)

/-- Of the rules whose targets the given one starts with, those with the longest target. -/
def longest (rules : List Rule) (target : List Char) : List Rule :=
  rules.filter fun rule => isLongest (rules.map Rule.target) target rule.target

/-- The rule that decides about a target: the last one of those with the longest target. -/
def deciding? (rules : List Rule) (target : List Char) : Option Rule :=
  (longest rules target).getLast?

/-- Whether the rule that decides, if there is one, lets the level through. -/
def admits (rules : List Rule) (target : List Char) (level : Level) : Bool :=
  (deciding? rules target).any (·.threshold.admits level)

end Rule

section Reading

namespace Directive

/-- The cells of a text that has no white space around it. -/
def solid (text : List Char) : List Cell := text.map fun character => (character, character)

theorem solid_cons (first : Char) (rest : List Char) :
    solid (first :: rest) = (first, first) :: solid rest := rfl

theorem solid_append (first second : List Char) :
    solid (first ++ second) = solid first ++ solid second := List.map_append

theorem zip_self (text : List Char) : text.zip text = solid text := by
  rw [List.zip_eq_zipWith, List.zipWith_self, solid]

theorem part_solid (text : List Char) : part (solid text) = text := by
  rw [part, solid, List.map_map]
  exact List.map_id text

/-- A directive is cut at an equals sign if nothing before it ends the target. -/
theorem ofChars?_of_equals {first : Char} {rest level : List Char}
    (starts : mayStart first = true)
    (unended : ∀ character ∈ first :: rest, character ≠ '=' ∧ character ≠ '[')
    (whole : trimmed (first :: rest ++ '=' :: level) = first :: rest ++ '=' :: level) :
    ofChars? (first :: rest ++ '=' :: level) =
      (readLevel? level).map fun threshold => ⟨first :: rest, none, none, threshold⟩ := by
  have cells : solid (first :: rest ++ '=' :: level) =
      solid (first :: rest) ++ ('=', '=') :: solid level := by
    rw [solid_append, solid_cons '=']
  have kept : (solid (first :: rest)).all
      (fun cell => !(cell.1 == '=' || cell.1 == '[')) = true := by
    rw [solid, List.all_map, List.all_eq_true]
    intro character member
    obtain ⟨notEquals, notBracket⟩ := unended character member
    simp [notEquals, notBracket]
  have ends : ∀ cell ∈ List.head? (('=', '=') :: solid level),
      (!(cell.1 == '=' || cell.1 == '[')) = false := by
    rintro _ ⟨⟩
    rfl
  obtain ⟨taken, dropped⟩ := span_eq_iff.mpr ⟨cells, kept, ends⟩
  have notBracket : first ≠ '[' := (unended first List.mem_cons_self).2
  rw [ofChars?, whole, zip_self]
  dsimp only
  rw [taken, dropped, cells, solid_cons first, List.cons_append]
  simp only [notBracket, starts, List.drop_length, List.append_nil, ↓reduceIte]
  rw [part_solid, ← solid_cons first, part_solid]

end Directive

/-- A character that may stand in a name is none that may not. -/
theorem ne_of_isNameChar {character other : Char} (named : isNameChar character = true)
    (notNamed : isNameChar other = false) : character ≠ other := by
  rintro rfl
  rw [named] at notNamed
  cases notNamed

/-- A name has no white space in it. -/
theorem whiteSpace_of_isNameChar {character : Char} (named : isNameChar character = true) :
    Text.whiteSpace.has character = false := by
  simp only [isNameChar, Bool.or_eq_true, decide_eq_true_eq] at named
  rcases named with (rfl | rfl) | listed
  · decide
  · decide
  · exact Text.Ranges.has_of_apart (by decide +kernel) listed

/-- A directive may start with any character of a name. -/
theorem mayStart_of_isNameChar {character : Char} (named : isNameChar character = true) :
    Directive.mayStart character = true := by
  simp only [isNameChar, Bool.or_eq_true, decide_eq_true_eq] at named
  simp only [Directive.mayStart, Bool.or_eq_true, decide_eq_true_eq]
  tauto

/-- There is nothing to take off a text without white space. -/
theorem trimmed_eq_self {text : List Char}
    (solid : ∀ character ∈ text, Text.whiteSpace.has character = false) :
    Directive.trimmed text = text := by
  have kept {row : List Char} (subset : row ⊆ text) :
      row.dropWhile Text.whiteSpace.has = row := by
    cases row with
    | nil => rfl
    | cons first rest =>
        exact List.dropWhile_cons_of_neg
          (Bool.eq_false_iff.mp (solid first (subset List.mem_cons_self)))
  rw [Directive.trimmed, kept (List.Subset.refl text), kept (List.reverse_subset.mpr
    (List.Subset.refl text)), List.reverse_reverse]

/-- The names of the levels consist of characters of names. -/
theorem isNameChar_of_mem_name {threshold : Threshold} {character : Char}
    (member : character ∈ threshold.name.toList) : isNameChar character = true := by
  have letters : threshold.name.toList.all isNameChar = true := by
    cases threshold <;> decide +kernel
  exact List.all_eq_true.mp letters character member

/-- A level alone is a directive for all targets. -/
theorem ofChars?_name (threshold : Threshold) :
    Directive.ofChars? threshold.name.toList = some ⟨[], none, none, threshold⟩ := by
  cases threshold <;> decide +kernel

theorem readLevel?_name (threshold : Threshold) :
    Directive.readLevel? threshold.name.toList = some threshold := by
  cases threshold <;> decide +kernel

namespace Rule

/-- A rule holds the characters of names, and the equals sign. -/
theorem mem_chars {rule : Rule} {character : Char} (member : character ∈ rule.chars) :
    isNameChar character = true ∨ character = '=' := by
  cases rule with
  | everywhere threshold => exact .inl (isNameChar_of_mem_name member)
  | within name threshold =>
      rw [chars, List.mem_append, List.mem_cons] at member
      rcases member with inside | isEquals | behind
      · exact .inl (List.all_eq_true.mp name.named character inside)
      · exact .inr isEquals
      · exact .inl (isNameChar_of_mem_name behind)

theorem comma_notMem_chars (rule : Rule) : ',' ∉ rule.chars := by
  intro member
  rcases mem_chars member with named | isEquals
  · exact ne_of_isNameChar named (by decide +kernel) rfl
  · exact absurd isEquals (by decide)

theorem chars_ne_nil (rule : Rule) : rule.chars ≠ [] := by
  cases rule with
  | everywhere threshold => cases threshold <;> decide
  | within name threshold => exact List.append_ne_nil_of_left_ne_nil name.nonempty _

/-- A rule has no white space around it. -/
theorem trimmed_chars (rule : Rule) : Directive.trimmed rule.chars = rule.chars := by
  apply trimmed_eq_self
  intro character member
  rcases mem_chars member with named | rfl
  · exact whiteSpace_of_isNameChar named
  · decide

/-- A rule is read as what it says. -/
theorem ofChars?_chars (rule : Rule) : Directive.ofChars? rule.chars = some rule.directive := by
  have whole := rule.trimmed_chars
  cases rule with
  | everywhere threshold => exact ofChars?_name threshold
  | within name threshold =>
      obtain ⟨characters, nonempty, named⟩ := name
      obtain ⟨first, rest, rfl⟩ := List.exists_cons_of_ne_nil nonempty
      rw [List.all_eq_true] at named
      have unended (character : Char) (member : character ∈ first :: rest) :
          character ≠ '=' ∧ character ≠ '[' :=
        ⟨ne_of_isNameChar (named character member) (by decide +kernel),
          ne_of_isNameChar (named character member) (by decide +kernel)⟩
      have starts := mayStart_of_isNameChar (named first List.mem_cons_self)
      have read := Directive.ofChars?_of_equals starts unended whole
      rw [readLevel?_name, Option.map_some] at read
      exact read

/-- Rules with commas between them are a list of their directives. -/
theorem lists_text (rules : List Rule) :
    Directive.Lists (text rules) (rules.map directive) := by
  have pieces : (pieces ',' (text rules).toList).filter (· ≠ []) = rules.map chars := by
    cases rules with
    | nil => rfl
    | cons rule rest =>
        have whole : ∀ piece ∈ (rule :: rest).map chars, ',' ∉ piece :=
          List.forall_mem_map.mpr fun rule _ => rule.comma_notMem_chars
        have nonempty : ∀ piece ∈ (rule :: rest).map chars, decide (piece ≠ []) = true :=
          List.forall_mem_map.mpr fun rule _ => decide_eq_true rule.chars_ne_nil
        rw [text, String.toList_ofList, pieces_intercalate whole (List.cons_ne_nil _ _),
          List.filter_eq_self.mpr nonempty]
  rw [Directive.Lists, pieces, List.forall₂_map_left_iff, List.forall₂_map_right_iff,
    List.forall₂_same]
  exact fun rule _ => rule.ofChars?_chars

/-- **Rules are read as what they say**, from the environment and as a filter of their own. -/
theorem filter_eq (rules : List Rule) :
    Filter.ofText? (text rules) = some (filter rules) ∧
      Filter.ofEnvironment (some (Bytes.ofText (text rules))) = filter rules := by
  have found : Directive.listOfText? (text rules) = some (rules.map directive) :=
    mapM_eq_some_iff.mpr (lists_text rules)
  exact ⟨by rw [Filter.ofText?, found, Option.map_some, filter],
    Filter.ofEnvironment_of_lists (lists_text rules)⟩

end Rule

end Reading

namespace Rule

section Deciding

variable {rules others : List Rule} {chosen : Rule} {target : List Char}

/-- What it is to be the longest text that the target starts with. -/
theorem isLongest_iff {texts : List (List Char)} {text : List Char} :
    isLongest texts target text = true ↔
      text <+: target ∧ ∀ other ∈ texts, other <+: target → other.length ≤ text.length := by
  simp only [isLongest, Bool.and_eq_true, List.isPrefixOf_iff_prefix, List.all_eq_true,
    List.mem_filter, decide_eq_true_eq, and_imp]

/-- Which text is the longest depends on what the texts are, not on their order or number. -/
theorem isLongest_congr {texts same : List (List Char)} (alike : ∀ text, text ∈ texts ↔ text ∈ same)
    (target text : List Char) : isLongest texts target text = isLongest same target text := by
  rw [Bool.eq_iff_iff, isLongest_iff, isLongest_iff]
  simp only [alike]

/-- The rule that decides has the longest target, and no later rule has one as long. -/
theorem deciding?_eq_some_iff : deciding? rules target = some chosen ↔
    ∃ earlier later, rules = earlier ++ chosen :: later ∧ chosen.target <+: target ∧
      (∀ other ∈ earlier, other.target <+: target →
        other.target.length ≤ chosen.target.length) ∧
      ∀ other ∈ later, other.target <+: target → other.target.length < chosen.target.length := by
  rw [deciding?, longest, List.getLast?_filter, List.find?_eq_some_iff_append]
  simp only [isLongest_iff, List.forall_mem_map, Bool.not_eq_true', Bool.eq_false_iff, ne_eq]
  constructor
  · rintro ⟨⟨fits, most⟩, later, earlier, listed, behind⟩
    rw [List.reverse_eq_append_iff, List.reverse_cons, List.append_assoc,
      List.singleton_append] at listed
    subst listed
    refine ⟨_, _, rfl, fits, fun other member => most other (by simp [member]), ?_⟩
    intro other member otherFits
    refine lt_of_le_of_ne (most other (by simp [member]) otherFits) fun sameLength => ?_
    -- A later rule with a target as long would decide in its place.
    exact behind other (List.mem_reverse.mp member)
      ⟨otherFits, fun another listed anotherFits => sameLength ▸ most another listed anotherFits⟩
  · rintro ⟨earlier, later, rfl, fits, before, behind⟩
    refine ⟨⟨fits, ?_⟩, later.reverse, earlier.reverse, by simp, ?_⟩
    · intro other member otherFits
      obtain member | rfl | member := by simpa using member
      · exact before other member otherFits
      · exact le_rfl
      · exact (behind other member otherFits).le
    · rintro other member ⟨otherFits, most⟩
      exact absurd (most chosen (by simp) fits)
        (not_le.mpr (behind other (List.mem_reverse.mp member) otherFits))

/-- The filter lets a level of a target through if the rule that decides does. -/
theorem enablesTarget_iff {level : Level} :
    EnablesTarget (rules.map directive) target level ↔ admits rules target level = true := by
  simp only [admits, Option.any_eq_true, deciding?_eq_some_iff, EnablesTarget]
  constructor
  · rintro ⟨_, _, _, listed, fits, before, behind, admitted⟩
    obtain ⟨earlier, rest, rfl, rfl, split⟩ := List.map_eq_append_iff.mp listed
    obtain ⟨chosen, later, rfl, rfl, rfl⟩ := List.map_eq_cons_iff.mp split
    exact ⟨chosen, ⟨earlier, later, rfl, fits, List.forall_mem_map.mp before,
      List.forall_mem_map.mp behind⟩, decide_eq_true admitted⟩
  · rintro ⟨chosen, ⟨earlier, later, rfl, fits, before, behind⟩, admitted⟩
    exact ⟨chosen.directive, earlier.map directive, later.map directive, by simp, fits,
      List.forall_mem_map.mpr before, List.forall_mem_map.mpr behind, of_decide_eq_true admitted⟩

/-- The longest targets that start the same target are one. -/
theorem target_eq_of_mem_longest {another : Rule} (member : chosen ∈ longest rules target)
    (alsoMember : another ∈ longest rules target) : chosen.target = another.target := by
  obtain ⟨listed, isLongest⟩ := List.mem_filter.mp member
  obtain ⟨alsoListed, alsoLongest⟩ := List.mem_filter.mp alsoMember
  obtain ⟨fits, most⟩ := isLongest_iff.mp isLongest
  obtain ⟨alsoFits, alsoMost⟩ := isLongest_iff.mp alsoLongest
  have shorter := alsoMost _ (List.mem_map_of_mem listed) fits
  have longer := most _ (List.mem_map_of_mem alsoListed) alsoFits
  exact (List.prefix_of_prefix_length_le fits alsoFits shorter).eq_of_length
    (le_antisymm shorter longer)

/-- Where no two rules have the same target, it does not matter where the rules stand. -/
theorem deciding?_eq_some_iff_of_nodup (distinct : (rules.map Rule.target).Nodup) :
    deciding? rules target = some chosen ↔ chosen ∈ longest rules target := by
  refine ⟨List.mem_of_getLast?, fun member => ?_⟩
  have found := List.getLast?_eq_some_getLast (List.ne_nil_of_mem member)
  have last := List.getLast_mem (List.ne_nil_of_mem member)
  have same := List.inj_on_of_nodup_map distinct (List.mem_of_mem_filter last)
    (List.mem_of_mem_filter member) (target_eq_of_mem_longest last member)
  rw [deciding?, found, same]

/-- Where no target has two rules, their order decides nothing. -/
theorem deciding?_of_perm (permuted : rules.Perm others)
    (distinct : (rules.map Rule.target).Nodup) (target : List Char) :
    deciding? others target = deciding? rules target := by
  have targets : (rules.map Rule.target).Perm (others.map Rule.target) := permuted.map _
  ext chosen
  rw [deciding?_eq_some_iff_of_nodup distinct,
    deciding?_eq_some_iff_of_nodup (targets.nodup_iff.mp distinct), longest, longest,
    List.mem_filter, List.mem_filter, permuted.mem_iff,
    isLongest_congr fun text => targets.mem_iff]

/-- A rule has no say where a later one has the same target. -/
theorem deciding?_of_replaced (before between behind : List Rule) {first second : Rule}
    (same : first.target = second.target) (target : List Char) :
    deciding? (before ++ first :: between ++ second :: behind) target =
      deciding? (before ++ between ++ second :: behind) target := by
  have alike (text : List Char) :
      text ∈ (before ++ first :: between ++ second :: behind).map Rule.target ↔
        text ∈ (before ++ between ++ second :: behind).map Rule.target := by
    simp only [List.map_append, List.map_cons, List.mem_append, List.mem_cons, same]
    tauto
  simp only [deciding?, longest, isLongest_congr alike, List.filter_append, List.filter_cons, same]
  split
  · rw [List.getLast?_append_cons, List.getLast?_append_cons]
  · rfl

/-- Rules with the same targets are decided at the same place. -/
theorem deciding?_rel {related : Rule → Rule → Prop}
    (same : ∀ rule other, related rule other → rule.target = other.target)
    (row : List.Forall₂ related rules others) (target : List Char) :
    Option.Rel related (deciding? rules target) (deciding? others target) := by
  have targets : rules.map Rule.target = others.map Rule.target := by
    rw [← List.forall₂_eq_eq_eq, List.forall₂_map_left_iff, List.forall₂_map_right_iff]
    exact row.imp fun {rule other} => same rule other
  have kept : List.Forall₂ related (longest rules target) (longest others target) :=
    List.rel_filter (fun {rule other} alike => by
      dsimp only
      rw [targets, same rule other alike]) row
  have reversed := List.forall₂_reverse_iff.mpr kept
  rw [deciding?, deciding?, List.getLast?_eq_head?_reverse, List.getLast?_eq_head?_reverse]
  generalize (longest rules target).reverse = last at reversed ⊢
  generalize (longest others target).reverse = otherLast at reversed ⊢
  cases reversed with
  | nil => exact .none
  | cons first rest => exact .some first

/-- More verbose rules admit more. -/
theorem admits_mono (row : List.Forall₂ (fun rule other : Rule =>
      rule.target = other.target ∧ rule.threshold.rank ≤ other.threshold.rank) rules others)
    {level : Level} (admitted : admits rules target level = true) :
    admits others target level = true := by
  have decided := deciding?_rel (fun _ _ => And.left) row target
  rw [admits] at admitted ⊢
  generalize deciding? rules target = found at admitted decided
  generalize deciding? others target = otherFound at decided ⊢
  cases decided with
  | none => exact admitted
  | some alike => exact decide_eq_true ((of_decide_eq_true admitted).trans alike.2)

theorem isPlain_of_mem {given : Directive} (member : given ∈ rules.map directive) :
    given.IsPlain := by
  obtain ⟨rule, -, rfl⟩ := List.mem_map.mp member
  exact ⟨rfl, rfl⟩

theorem shows_filter (event : Event) : (filter rules).shows event =
    admits rules event.callsite.target event.callsite.level :=
  Bool.eq_iff_iff.mpr ((Filter.shows_iff_of_isPlain (fun _ => isPlain_of_mem) event).trans
    enablesTarget_iff)

theorem showsSpan_filter : (filter rules).showsSpan =
    admits rules Span.callsite.target Span.callsite.level :=
  Bool.eq_iff_iff.mpr ((Filter.showsSpan_iff_of_isPlain fun _ => isPlain_of_mem).trans
    enablesTarget_iff)

/-- Two rows of rules under which the same rules decide leave the same of every log. -/
theorem lines?_congr (same : ∀ target, deciding? others target = deciding? rules target)
    (events : List Event) : (filter others).lines? events = (filter rules).lines? events := by
  have alike (target : List Char) (level : Level) :
      admits others target level = admits rules target level := by
    rw [admits, same, admits]
  have shown : (filter others).shows = (filter rules).shows := by
    funext event
    rw [shows_filter, shows_filter, alike]
  rw [Filter.lines?, Filter.lines?, shown, showsSpan_filter, showsSpan_filter, alike]

theorem admits_iff {level : Level} : admits rules target level = true ↔
    ∃ chosen, deciding? rules target = some chosen ∧ chosen.threshold.admits level = true :=
  Option.any_eq_true _ _

/-- A rule that is made more verbose lets through what it let through before. -/
theorem admits_withThreshold (before behind : List Rule) {rule : Rule} {threshold : Threshold}
    (verbose : rule.threshold.rank ≤ threshold.rank) {level : Level}
    (admitted : admits (before ++ rule :: behind) target level = true) :
    admits (before ++ rule.withThreshold threshold :: behind) target level = true := by
  have unchanged (row : List Rule) : List.Forall₂ (fun rule other : Rule =>
      rule.target = other.target ∧ rule.threshold.rank ≤ other.threshold.rank) row row :=
    List.forall₂_same.mpr fun _ _ => ⟨rfl, le_rfl⟩
  have raised : rule.target = (rule.withThreshold threshold).target ∧
      rule.threshold.rank ≤ (rule.withThreshold threshold).threshold.rank := by
    cases rule <;> exact ⟨rfl, verbose⟩
  exact admits_mono (List.rel_append (unchanged before) (.cons raised (unchanged behind))) admitted

end Deciding

end Rule

/-- **The longest target decides**, and of rules with the same target the last. The rules are
read as they are written, from the environment and as a filter of their own. A line is
written if the rule that decides about its target lets its level through, and so with the
span of a request. Hence the order of rules with different targets changes no log, a later
rule takes the place of an earlier one with the same target, and a rule that is made more
verbose hides no line. -/
theorem longest_target_decides (rules : List Rule) :
    (Filter.ofText? (Rule.text rules) = some (Rule.filter rules) ∧
      Filter.ofEnvironment (some (Bytes.ofText (Rule.text rules))) = Rule.filter rules) ∧
    (∀ event : Event, (Rule.filter rules).shows event = true ↔
      ∃ chosen, Rule.deciding? rules event.callsite.target = some chosen ∧
        chosen.threshold.admits event.callsite.level = true) ∧
    ((Rule.filter rules).showsSpan = true ↔
      ∃ chosen, Rule.deciding? rules Span.callsite.target = some chosen ∧
        chosen.threshold.admits Span.callsite.level = true) ∧
    (∀ permuted, rules.Perm permuted → (rules.map Rule.target).Nodup → ∀ events,
      (Rule.filter permuted).lines? events = (Rule.filter rules).lines? events) ∧
    (∀ before first between second behind,
      rules = before ++ first :: between ++ second :: behind → first.target = second.target →
        ∀ events, (Rule.filter (before ++ between ++ second :: behind)).lines? events =
          (Rule.filter rules).lines? events) ∧
    ∀ before rule behind threshold,
      rules = before ++ rule :: behind → rule.threshold.rank ≤ threshold.rank →
        (∀ event, (Rule.filter rules).shows event = true →
          (Rule.filter (before ++ rule.withThreshold threshold :: behind)).shows event = true) ∧
        ((Rule.filter rules).showsSpan = true →
          (Rule.filter (before ++ rule.withThreshold threshold :: behind)).showsSpan = true) := by
  refine ⟨Rule.filter_eq rules, ?shown, ?span, ?permuted, ?replaced, ?verbose⟩
  case shown =>
    intro event
    rw [Rule.shows_filter, Rule.admits_iff]
  case span => rw [Rule.showsSpan_filter, Rule.admits_iff]
  case permuted =>
    intro permuted perm distinct
    exact Rule.lines?_congr (Rule.deciding?_of_perm perm distinct)
  case replaced =>
    rintro before first between second behind rfl same
    exact Rule.lines?_congr fun target =>
      (Rule.deciding?_of_replaced before between behind same target).symm
  case verbose =>
    rintro before rule behind threshold rfl verbose
    simp only [Rule.shows_filter, Rule.showsSpan_filter]
    exact ⟨fun _ => Rule.admits_withThreshold before behind verbose,
      Rule.admits_withThreshold before behind verbose⟩

/-- Two rules have no say, for later ones have their targets. What is left may stand in any
order, and with a more verbose level it hides nothing. -/
theorem longest_target_decides_again :
    let server : TargetName := ⟨"hello_server".toList, by decide, by decide +kernel⟩
    let rules : List Rule :=
      [.everywhere .error, .within server .off, .everywhere .info, .within server .debug]
    let endpoint : Endpoint := Config.default.endpoint
    let events : List Event := [.binding endpoint, .listening endpoint]
    Filter.ofText? "error,hello_server=off,info,hello_server=debug" = some (Rule.filter rules) ∧
      (Rule.filter rules).lines? events = events.map (⟨·, false⟩) ∧
      (Rule.filter [.within server .trace, .everywhere .info]).shows (.binding endpoint) =
        true := by
  intro server rules endpoint events
  have text : Rule.text rules = "error,hello_server=off,info,hello_server=debug" := by
    decide +kernel
  let left : List Rule := [.everywhere .info, .within server .debug]
  let turned : List Rule := [.within server .debug, .everywhere .info]
  obtain ⟨⟨read, -⟩, -, -, -, replaced, -⟩ := longest_target_decides rules
  obtain ⟨-, -, -, -, alsoReplaced, -⟩ := longest_target_decides (.within server .off :: left)
  obtain ⟨-, -, -, permuted, -, -⟩ := longest_target_decides left
  obtain ⟨-, -, -, -, -, verbose⟩ := longest_target_decides turned
  have first := replaced [] _ [_] _ [_] rfl rfl events
  have second := alsoReplaced [] _ [_] _ [] rfl rfl events
  have third := permuted turned (.swap _ _ _) (by decide) events
  obtain ⟨kept, -⟩ := verbose [] _ _ .trace rfl (by decide)
  rw [text] at read
  refine ⟨read, ?_, kept _ (by decide +kernel)⟩
  calc (Rule.filter rules).lines? events
      = (Rule.filter (.within server .off :: left)).lines? events := first.symm
    _ = (Rule.filter left).lines? events := second.symm
    _ = (Rule.filter turned).lines? events := third.symm
    _ = events.map (⟨·, false⟩) := by decide +kernel

end Log

end Greeter
