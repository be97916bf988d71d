import Greeter.Log.Filter
import Mathlib.Data.Char
import Mathlib.Data.List.Basic
import Mathlib.Data.List.Induction
import Mathlib.Data.List.Lex
import Mathlib.Data.Prod.Lex
import Mathlib.Tactic.Common

/-! # Which directive decides

Of the directives that fit a line the most specific decides, and of several that are
equally specific the last (`Log.Directive.Decides`). A table keeps the directives in
order and its first one that fits is this one (`Log.Table.answers_find?`).
-/

namespace Greeter.Log

namespace Directive

/-- How specific a directive is: the longer target first, then the one with more
fields, then the greater text. -/
def specificity (directive : Directive) : ℕ ×ₗ ℕ ×ₗ List Char ×ₗ List (List Char) :=
  toLex (directive.target.length, toLex (directive.fieldNames.length,
    toLex (directive.target, directive.fieldNames)))

variable {first second : Directive}

/-- Directives are equally specific if they have the same target and the same fields. -/
theorem specificity_eq_iff : first.specificity = second.specificity ↔
    first.target = second.target ∧ first.fieldNames = second.fieldNames := by
  simp only [specificity, EmbeddingLike.apply_eq_iff_eq, Prod.mk.injEq]
  constructor
  · rintro ⟨-, -, same⟩
    exact same
  · rintro ⟨target, fields⟩
    exact ⟨congrArg _ target, congrArg _ fields, target, fields⟩

theorem replaces_iff :
    first.replaces second = true ↔ first.specificity = second.specificity := by
  rw [replaces, Bool.and_eq_true, beq_iff_eq, beq_iff_eq, specificity_eq_iff]

/-- A directive is put in front of those that are less specific. -/
theorem isBefore_iff :
    first.isBefore second = true ↔ second.specificity < first.specificity := by
  simp only [isBefore, specificity, Prod.Lex.toLex_lt_toLex]
  split
  · next longer => simp only [decide_eq_true_eq, longer.symm, false_and, or_false]
  · next sameLength =>
    rw [ne_eq, not_not] at sameLength
    split
    · next more =>
      simp only [decide_eq_true_eq, sameLength, more.symm, lt_irrefl, false_and, true_and,
        false_or, or_false]
    · next sameCount =>
      rw [ne_eq, not_not] at sameCount
      split
      · next differs =>
        simp only [decide_eq_true_eq, sameLength, sameCount, differs.symm, lt_irrefl, false_and,
          true_and, false_or, or_false]
      · next sameTarget =>
        rw [ne_eq, not_not] at sameTarget
        simp only [decide_eq_true_eq, sameCount, sameTarget, lt_irrefl, true_and, false_or]

/-- The directive fits, no other that fits is more specific, and of those that are just as
specific it is the last. -/
def Decides (fits : Directive → Prop) (directives : List Directive) (chosen : Directive) :
    Prop :=
  ∃ earlier later, directives = earlier ++ chosen :: later ∧ fits chosen ∧
    (∀ other ∈ earlier, fits other → other.specificity ≤ chosen.specificity) ∧
    ∀ other ∈ later, fits other → other.specificity < chosen.specificity

section Decides

variable {fits : Directive → Prop} {directives : List Directive} {chosen added : Directive}

/-- At most one directive decides. -/
theorem Decides.unique {another : Directive} (decides : Decides fits directives chosen)
    (alsoDecides : Decides fits directives another) : chosen = another := by
  obtain ⟨earlier, later, listed, chosenFits, before, behind⟩ := decides
  obtain ⟨otherEarlier, otherLater, otherListed, anotherFits, otherBefore, otherBehind⟩ :=
    alsoDecides
  rw [listed] at otherListed
  -- If they stood at different places, the first would be the more specific one, and not.
  obtain ⟨between, same, split⟩ | ⟨between, same, split⟩ :=
    List.append_eq_append_iff.mp otherListed
  · obtain ⟨-, head⟩ | ⟨tail, rfl, behindFirst⟩ := List.cons_eq_append_iff.mp split
    · exact (List.cons.inj head).1.symm
    · have less := behind another (by rw [behindFirst]; simp) anotherFits
      exact absurd (otherBefore chosen (by rw [same]; simp) chosenFits) (not_le.mpr less)
  · obtain ⟨-, head⟩ | ⟨tail, rfl, behindFirst⟩ := List.cons_eq_append_iff.mp split
    · exact (List.cons.inj head).1
    · have less := otherBehind chosen (by rw [behindFirst]; simp) chosenFits
      exact absurd (before another (by rw [same]; simp) anotherFits) (not_le.mpr less)

/-- A directive that is less specific leaves the decision to the others. -/
theorem Decides.concat (decides : Decides fits directives chosen)
    (less : fits added → added.specificity < chosen.specificity) :
    Decides fits (directives ++ [added]) chosen := by
  obtain ⟨earlier, later, rfl, chosenFits, before, behind⟩ := decides
  refine ⟨earlier, later ++ [added], by simp, chosenFits, before, ?_⟩
  intro other member otherFits
  obtain member | member := List.mem_append.mp member
  · exact behind other member otherFits
  · obtain rfl := List.mem_singleton.mp member
    exact less otherFits

/-- Directives that are not kept have no say. -/
theorem decides_filter_iff {kept : Directive → Bool} :
    Decides fits (directives.filter kept) chosen ↔
      Decides (fun directive => kept directive = true ∧ fits directive) directives chosen := by
  constructor
  · rintro ⟨earlier, later, listed, chosenFits, before, behind⟩
    obtain ⟨front, back, rfl, rfl, split⟩ := List.filter_eq_append_iff.mp listed
    obtain ⟨skipped, rest, rfl, none, isKept, rfl⟩ := List.filter_eq_cons_iff.mp split
    refine ⟨front ++ skipped, rest, by simp, ⟨isKept, chosenFits⟩, ?_, ?_⟩
    · rintro other member ⟨otherKept, otherFits⟩
      obtain member | member := List.mem_append.mp member
      · exact before other (List.mem_filter.mpr ⟨member, otherKept⟩) otherFits
      · exact absurd otherKept (none other member)
    · rintro other member ⟨otherKept, otherFits⟩
      exact behind other (List.mem_filter.mpr ⟨member, otherKept⟩) otherFits
  · rintro ⟨earlier, later, rfl, ⟨isKept, chosenFits⟩, before, behind⟩
    refine ⟨earlier.filter kept, later.filter kept, ?_, chosenFits, ?_, ?_⟩
    · rw [List.filter_append, List.filter_cons_of_pos isKept]
    · intro other member otherFits
      obtain ⟨member, otherKept⟩ := List.mem_filter.mp member
      exact before other member ⟨otherKept, otherFits⟩
    · intro other member otherFits
      obtain ⟨member, otherKept⟩ := List.mem_filter.mp member
      exact behind other member ⟨otherKept, otherFits⟩

/-- What decides depends only on which directives of the row fit. -/
theorem decides_congr {alike : Directive → Prop}
    (same : ∀ directive ∈ directives, fits directive ↔ alike directive) :
    Decides fits directives chosen ↔ Decides alike directives chosen := by
  refine exists_congr fun earlier => exists_congr fun later => and_congr_right ?_
  rintro rfl
  simp only [List.forall_mem_append, List.forall_mem_cons] at same
  obtain ⟨sameEarlier, sameChosen, sameLater⟩ := same
  refine and_congr sameChosen (and_congr ?_ ?_)
  · exact forall₂_congr fun other member => imp_congr_left (sameEarlier other member)
  · exact forall₂_congr fun other member => imp_congr_left (sameLater other member)

end Decides

section Answers

variable {fits : Directive → Bool} {directives : List Directive} {chosen added : Directive}
  {found : Option Directive}

/-- What a row of directives says: nothing where none fits. -/
def Answers (fits : Directive → Bool) (directives : List Directive) : Option Directive → Prop
  | none => ∀ directive ∈ directives, fits directive = false
  | some chosen => Decides (fits · = true) directives chosen

theorem Answers.decides (answers : Answers fits directives (some chosen)) :
    Decides (fits · = true) directives chosen := answers

/-- There is one answer, so a directive that decides is found. -/
theorem Answers.eq_some (answers : Answers fits directives found)
    (decides : Decides (fits · = true) directives chosen) : found = some chosen := by
  cases found with
  | some other => exact congrArg some (answers.decides.unique decides)
  | none =>
      obtain ⟨earlier, later, rfl, chosenFits, -⟩ := decides
      rw [answers chosen (by simp)] at chosenFits
      cases chosenFits

/-- A directive that does not fit leaves the answer as it is. -/
theorem Answers.concat_of_not_fits (answers : Answers fits directives found)
    (notFits : fits added = false) : Answers fits (directives ++ [added]) found := by
  cases found with
  | none => exact List.forall_mem_append.mpr ⟨answers, List.forall_mem_singleton.mpr notFits⟩
  | some chosen =>
      refine answers.decides.concat fun addedFits => ?_
      rw [notFits] at addedFits
      cases addedFits

/-- Which directive counts when one that fits is added to what was found. -/
def overrule (found : Option Directive) (added : Directive) : Directive :=
  match found with
  | some chosen => if added.specificity < chosen.specificity then chosen else added
  | none => added

/-- A directive that fits changes the answer unless a more specific one was found. -/
theorem Answers.concat (answers : Answers fits directives found) (addedFits : fits added = true) :
    Answers fits (directives ++ [added]) (some (overrule found added)) := by
  cases found with
  | none =>
      refine ⟨directives, [], rfl, addedFits, fun other member otherFits => ?_, nofun⟩
      exact absurd otherFits (Bool.eq_false_iff.mp (answers other member))
  | some chosen =>
      rw [overrule]
      split
      · next less => exact answers.decides.concat fun _ => less
      · next notLess =>
        obtain ⟨earlier, later, rfl, chosenFits, before, behind⟩ := answers
        have least := not_lt.mp notLess
        refine ⟨earlier ++ chosen :: later, [], rfl, addedFits, ?_, nofun⟩
        intro other member otherFits
        obtain member | member := List.mem_append.mp member
        · exact (before other member otherFits).trans least
        · obtain rfl | member := List.mem_cons.mp member
          · exact least
          · exact (behind other member otherFits).le.trans least

end Answers

end Directive

namespace Table

open Directive

variable {fits : Directive → Bool} {table : Table} {added : Directive}

/-- The most specific directive stands first, and no two are equally specific. -/
def Sorted (table : Table) : Prop :=
  table.Pairwise fun first second => second.specificity < first.specificity

/-- What is in the table is what was put in or was there before. -/
theorem eq_or_mem_of_mem_insert {directive : Directive} :
    directive ∈ insert added table → directive = added ∨ directive ∈ table := by
  induction table with
  | nil => exact fun member => .inl (List.mem_singleton.mp member)
  | cons entry rest ih =>
      rw [insert]
      split
      · intro member
        obtain same | member := List.mem_cons.mp member
        · exact .inl same
        · exact .inr (List.mem_cons_of_mem entry member)
      · split
        · exact fun member => List.mem_cons.mp member
        · intro member
          obtain rfl | member := List.mem_cons.mp member
          · exact .inr List.mem_cons_self
          · exact (ih member).imp_right (List.mem_cons_of_mem entry)

/-- Where a directive is put, by what is more specific. -/
theorem insert_cons (added entry : Directive) (rest : Table) :
    insert added (entry :: rest) =
      if added.specificity = entry.specificity then added :: rest
      else if entry.specificity < added.specificity then added :: entry :: rest
      else entry :: insert added rest := by
  simp only [insert, replaces_iff, isBefore_iff]

/-- A table stays sorted when a directive is put in. -/
theorem Sorted.insert (sorted : Sorted table) : Sorted (table.insert added) := by
  induction table with
  | nil => exact List.pairwise_singleton _ _
  | cons entry rest ih =>
      obtain ⟨first, others⟩ := List.pairwise_cons.mp sorted
      rw [insert_cons]
      split
      · next same =>
        refine List.pairwise_cons.mpr ⟨fun other member => ?_, others⟩
        rw [same]
        exact first other member
      · next differs =>
        split
        · next before =>
          refine List.pairwise_cons.mpr ⟨fun other member => ?_, sorted⟩
          obtain rfl | member := List.mem_cons.mp member
          · exact before
          · exact (first other member).trans before
        · next notBefore =>
          refine List.pairwise_cons.mpr ⟨fun other member => ?_, ih others⟩
          obtain rfl | member := eq_or_mem_of_mem_insert member
          · exact lt_of_le_of_ne (not_lt.mp notBefore) differs
          · exact first other member

/-- A directive that does not fit changes nothing about what fits. -/
theorem find?_insert_of_not_fits
    (alike : ∀ first second : Directive, first.specificity = second.specificity →
      fits first = fits second)
    (notFits : fits added = false) : (table.insert added).find? fits = table.find? fits := by
  induction table with
  | nil => rw [insert, List.find?_cons, notFits]
  | cons entry rest ih =>
      rw [insert_cons]
      split
      · next same =>
        rw [List.find?_cons, List.find?_cons, ← alike added entry same, notFits]
      · split
        · rw [List.find?_cons, notFits]
        · rw [List.find?_cons, List.find?_cons, ih]

/-- A directive that fits is found unless a more specific one is. -/
theorem find?_insert_of_fits
    (alike : ∀ first second : Directive, first.specificity = second.specificity →
      fits first = fits second)
    (sorted : Sorted table) (addedFits : fits added = true) :
    (table.insert added).find? fits = some (overrule (table.find? fits) added) := by
  induction table with
  | nil => exact List.find?_cons_of_pos addedFits
  | cons entry rest ih =>
      obtain ⟨first, others⟩ := List.pairwise_cons.mp sorted
      rw [insert_cons]
      split
      · next same =>
        rw [List.find?_cons, List.find?_cons, ← alike added entry same, addedFits]
        simp only [overrule, same, lt_irrefl, ↓reduceIte]
      · next differs =>
        split
        · next before =>
          -- Whatever is found behind the new entry is less specific than it.
          rw [List.find?_cons, addedFits]
          cases found : (entry :: rest).find? fits with
          | none => rfl
          | some chosen =>
              have most : chosen.specificity ≤ entry.specificity := by
                obtain rfl | member := List.mem_cons.mp (List.mem_of_find?_eq_some found)
                · exact le_rfl
                · exact (first chosen member).le
              simp only [overrule, not_lt.mpr (most.trans before.le), ↓reduceIte]
        · next notBefore =>
          have less := lt_of_le_of_ne (not_lt.mp notBefore) differs
          rw [List.find?_cons, List.find?_cons]
          cases fits entry with
          | true => simp only [overrule, less, ↓reduceIte]
          | false => exact ih others

theorem ofDirectives_concat (directives : List Directive) (added : Directive) :
    ofDirectives (directives ++ [added]) = (ofDirectives directives).insert added := by
  rw [ofDirectives, List.foldl_concat, ofDirectives]

/-- The table of directives is sorted. -/
theorem sorted_ofDirectives (directives : List Directive) : Sorted (ofDirectives directives) := by
  induction directives using List.reverseRecOn with
  | nil => exact .nil
  | append_singleton directives added ih =>
      rw [ofDirectives_concat]
      exact ih.insert

/-- **The table decides as its directives do.** -/
theorem answers_find? (directives : List Directive)
    (alike : ∀ first second : Directive, first.specificity = second.specificity →
      fits first = fits second) :
    Answers fits directives ((ofDirectives directives).find? fits) := by
  induction directives using List.reverseRecOn with
  | nil => exact nofun
  | append_singleton directives added ih =>
      rw [ofDirectives_concat]
      cases addedFits : fits added with
      | true =>
          rw [find?_insert_of_fits alike (sorted_ofDirectives directives) addedFits]
          exact ih.concat addedFits
      | false =>
          rw [find?_insert_of_not_fits alike addedFits]
          exact ih.concat_of_not_fits addedFits

/-- The table of the directives that are kept lets a line through if the one of them that
decides about it does. -/
theorem admits_filter_iff (directives : List Directive) (kept : Directive → Bool) (level : Level)
    (alike : ∀ first second : Directive, first.specificity = second.specificity →
      fits first = fits second) :
    (ofDirectives (directives.filter kept)).admits fits level = true ↔
      ∃ chosen, Decides (fun directive => kept directive = true ∧ fits directive = true)
        directives chosen ∧ level.rank ≤ chosen.threshold.rank := by
  have answers := answers_find? (directives.filter kept) alike
  simp only [← decides_filter_iff]
  rw [admits]
  constructor
  · intro admitted
    split at admitted
    · next chosen found =>
      rw [found] at answers
      exact ⟨chosen, answers, of_decide_eq_true admitted⟩
    · cases admitted
  · rintro ⟨chosen, decides, admitted⟩
    rw [answers.eq_some decides]
    exact decide_eq_true admitted

end Table

end Greeter.Log
