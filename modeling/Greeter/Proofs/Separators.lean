import Greeter.Bytes
import Mathlib.Tactic.Common

/-! # Separators

A row with separators is known by the pieces between them (`pieces_intercalate`), and what
stands before the first separator is known by the whole row (`append_cons_inj`). A row is
cut once, where a property first fails (`span_eq_iff`).
-/

namespace Greeter

/-- An item that is no separator belongs to the piece behind it. -/
theorem pieces_cons_of_ne {α : Type} [DecidableEq α] {separator item : α} {row piece : List α}
    {rest : List (List α)} (goesOn : item ≠ separator)
    (found : pieces separator row = piece :: rest) :
    pieces separator (item :: row) = (item :: piece) :: rest := by
  unfold pieces at found ⊢
  rw [List.foldr_cons, found, if_neg goesOn]

/-- A row falls into the pieces between its separators. -/
theorem pieces_eq_splitOn {α : Type} [DecidableEq α] (separator : α) (row : List α) :
    pieces separator row = row.splitOn separator := by
  induction row with
  | nil => rfl
  | cons item row ih =>
      rw [List.splitOn_cons_eq_if_modifyHead, ← ih]
      by_cases ends : item = separator
      · rw [if_pos (beq_iff_eq.mpr ends)]
        exact if_pos ends
      · obtain ⟨piece, rest, found⟩ :=
          List.exists_cons_of_ne_nil (ih ▸ List.splitOn_ne_nil separator row)
        rw [if_neg (mt beq_iff_eq.mp ends), pieces_cons_of_ne ends found, found]
        rfl

/-- Pieces without the separator are found again when it is put between them. -/
theorem pieces_intercalate {α : Type} [DecidableEq α] {separator : α} {row : List (List α)}
    (whole : ∀ piece ∈ row, separator ∉ piece) (nonempty : row ≠ []) :
    pieces separator ([separator].intercalate row) = row := by
  rw [pieces_eq_splitOn]
  exact List.splitOn_intercalate separator whole nonempty

/-- What stands in a row with separators is a separator, or stands in one of the pieces. -/
theorem eq_or_mem_of_mem_intercalate {α : Type} {separator item : α} {row : List (List α)}
    (member : item ∈ [separator].intercalate row) :
    item = separator ∨ ∃ piece ∈ row, item ∈ piece := by
  induction row with
  | nil => cases member
  | cons piece row ih =>
      cases row with
      | nil =>
          rw [List.intercalate_singleton] at member
          exact .inr ⟨piece, List.mem_cons_self, member⟩
      | cons second row =>
          rw [List.intercalate_cons_cons, List.mem_append, List.mem_append] at member
          rcases member with (first | between) | behind
          · exact .inr ⟨piece, List.mem_cons_self, first⟩
          · exact .inl (List.mem_singleton.mp between)
          · rcases ih behind with between | ⟨other, listed, inside⟩
            · exact .inl between
            · exact .inr ⟨other, List.mem_cons_of_mem piece listed, inside⟩

/-- Two rows are the same if they are the same on both sides of their first separator. -/
theorem append_cons_inj {α : Type} [DecidableEq α] {separator : α} {first second : List α}
    (none : separator ∉ first) (otherNone : separator ∉ second) {rest otherRest : List α} :
    first ++ separator :: rest = second ++ separator :: otherRest ↔
      first = second ∧ rest = otherRest := by
  constructor
  · intro same
    have split := congrArg (List.splitOn separator) same
    rw [List.splitOn_append_cons_self_of_not_mem none,
      List.splitOn_append_cons_self_of_not_mem otherNone] at split
    obtain rfl := (List.cons.inj split).1
    exact ⟨rfl, (List.cons.inj (List.append_cancel_left same)).2⟩
  · rintro ⟨rfl, rfl⟩
    rfl

/-- Two rows are the same if they are the same on both sides of a mark that starts with a
separator. -/
theorem append_mark_inj {α : Type} [DecidableEq α] {separator : α}
    {mark first second rest otherRest : List α} (starts : mark.head? = some separator)
    (none : separator ∉ first) (otherNone : separator ∉ second) :
    first ++ (mark ++ rest) = second ++ (mark ++ otherRest) ↔
      first = second ∧ rest = otherRest := by
  obtain ⟨more, rfl⟩ := List.head?_eq_some_iff.mp starts
  rw [List.cons_append, List.cons_append, append_cons_inj none otherNone,
    List.append_cancel_left_eq]

/-- A row is cut in front of the first item without the property. -/
theorem span_eq_iff {α : Type} {keep : α → Bool} {row first rest : List α} :
    row.takeWhile keep = first ∧ row.dropWhile keep = rest ↔
      row = first ++ rest ∧ first.all keep = true ∧ ∀ item ∈ rest.head?, keep item = false := by
  constructor
  · rintro ⟨rfl, rfl⟩
    refine ⟨List.takeWhile_append_dropWhile.symm, List.all_takeWhile, ?_⟩
    intro item starts
    have fails := List.head?_dropWhile_not keep row
    rwa [starts] at fails
  · rintro ⟨rfl, all, fails⟩
    rw [List.all_eq_true] at all
    rw [List.takeWhile_append_of_pos all, List.dropWhile_append_of_pos all]
    cases rest with
    | nil => exact ⟨List.append_nil first, rfl⟩
    | cons item rest =>
        have fails : ¬keep item = true := Bool.eq_false_iff.mp (fails item rfl)
        rw [List.takeWhile_cons_of_neg fails, List.dropWhile_cons_of_neg fails]
        exact ⟨List.append_nil first, rfl⟩

end Greeter
