import Greeter.Numeral
import Mathlib.Data.List.Forall2
import Mathlib.Data.List.Induction
import Mathlib.Tactic.Common

/-! # Written numbers

The digits that a number is written in are read as that number, below any limit that it
keeps (`Numeral.read?_toDigits`). So no two numbers share a text, and a text that holds
anything but digits is the text of none. Nor has a number two texts: only its digits are
worth as much and start with no zero that could be left out (`Numeral.Writes.eq_toDigits`).
-/

namespace Greeter.Numeral

variable {base limit number : Nat}

/-- A digit is worth the value that it is written for. -/
theorem digit?_digitChar (small : base ≤ 16) {value : Nat} (below : value < base) :
    digit? base (Nat.digitChar value).toNat = some value := by
  have known : ∀ value < 16, digit? 16 (Nat.digitChar value).toNat = some value := by decide
  have found := known value (Nat.lt_of_lt_of_le below small)
  unfold digit? at found ⊢
  rw [Option.filter_eq_some_iff] at found ⊢
  exact ⟨found.1, decide_eq_true below⟩

/-- A digit extends a number as long as the result stays below the limit. -/
theorem extend?_digitChar (small : base ≤ 16) {value : Nat} (below : value < base)
    (room : base * number + value < limit) :
    extend? base limit number (Nat.digitChar value).toNat = some (base * number + value) := by
  rw [extend?, digit?_digitChar small below]
  exact if_pos room

/-- The digits of a number lead back to it. -/
theorem foldlM_toDigits (several : 1 < base) (small : base ≤ 16) (room : number < limit) :
    ((Nat.toDigits base number).map Char.toNat).foldlM (extend? base limit) 0 = some number := by
  induction number using Nat.strongRecOn with
  | ind number ih =>
      by_cases single : number < base
      · rw [Nat.toDigits_of_lt_base single, List.map_singleton, List.foldlM_cons,
          extend?_digitChar small single (by omega), Nat.mul_zero, Nat.zero_add]
        rfl
      · have long : base ≤ number := Nat.not_lt.mp single
        have shorter : number / base < number := Nat.div_lt_self (by omega) several
        have last : number % base < base := Nat.mod_lt number (by omega)
        have whole : base * (number / base) + number % base = number := Nat.div_add_mod number base
        rw [Nat.toDigits_of_base_le several long, List.map_append, List.foldlM_append,
          ih _ shorter (Nat.lt_trans shorter room), List.map_singleton]
        change List.foldlM _ (number / base) _ = _
        rw [List.foldlM_cons, extend?_digitChar small last (by omega), whole]
        rfl

/-- A number is read back from its digits. -/
theorem read?_toDigits (several : 1 < base) (small : base ≤ 16) (room : number < limit) :
    read? base limit ((Nat.toDigits base number).map Char.toNat) = some number := by
  rw [read?, if_neg (by simp)]
  exact foldlM_toDigits several small room

/-- Different numbers have different digits. -/
theorem toDigits_inj (several : 1 < base) (small : base ≤ 16) {other : Nat}
    (same : Nat.toDigits base number = Nat.toDigits base other) : number = other := by
  have first := read?_toDigits several small (Nat.lt_succ_of_le (Nat.le_max_left number other))
  have second := read?_toDigits several small (Nat.lt_succ_of_le (Nat.le_max_right number other))
  rw [same, second] at first
  exact (Option.some.inj first).symm

/-- A row with anything but digits in it is no number. -/
theorem read?_eq_none_of_mem {codes : List Nat} {code : Nat} (member : code ∈ codes)
    (noDigit : digit? base code = none) : read? base limit codes = none := by
  suffices stops : ∀ number, codes.foldlM (extend? base limit) number = none by
    rw [read?, if_neg (List.ne_nil_of_mem member)]
    exact stops 0
  induction codes with
  | nil => cases member
  | cons first others ih =>
      intro number
      rw [List.foldlM_cons]
      rcases List.mem_cons.mp member with rfl | behind
      · rw [extend?, noDigit]
        rfl
      · cases extend? base limit number first with
        | none => rfl
        | some next => exact ih behind next

/-- The digits of a base. -/
def digits (base : Nat) : List Char := (List.range base).map Nat.digitChar

example : digits 16 = "0123456789abcdef".toList := by decide

theorem toDigits_subset (several : 1 < base) (number : Nat) :
    Nat.toDigits base number ⊆ digits base := by
  have digit {value : Nat} (below : value < base) : Nat.digitChar value ∈ digits base :=
    List.mem_map_of_mem (List.mem_range.mpr below)
  induction number using Nat.strongRecOn with
  | ind number ih =>
      by_cases single : number < base
      · rw [Nat.toDigits_of_lt_base single]
        exact List.cons_subset.mpr ⟨digit single, List.nil_subset _⟩
      · rw [Nat.toDigits_of_base_le several (Nat.not_lt.mp single)]
        apply List.append_subset.mpr
        refine ⟨ih _ (Nat.div_lt_self (by omega) several), ?_⟩
        exact List.cons_subset.mpr ⟨digit (Nat.mod_lt number (by omega)), List.nil_subset _⟩

/-- The text writes the number in the base: its digits, the first of them no zero unless it
is the only one, have the value of the number. -/
structure Writes (base number : Nat) (text : List Char) : Prop where
  nonempty : text ≠ []
  digits : text ⊆ digits base
  noLeadingZero : text.head? = some '0' → text = ['0']
  value : text.foldl (fun value digit => base * value + (Numeral.digits base).idxOf digit) 0 =
    number

/-- Only the number zero starts with a zero. -/
theorem head?_toDigits (several : 1 < base) (small : base ≤ 16) (number : Nat)
    (zero : (Nat.toDigits base number).head? = some '0') : Nat.toDigits base number = ['0'] := by
  induction number using Nat.strongRecOn with
  | ind number ih =>
      by_cases single : number < base
      · rw [Nat.toDigits_of_lt_base single] at zero ⊢
        exact congrArg (fun digit => [digit]) (Option.some.inj zero)
      · have long : base ≤ number := Nat.not_lt.mp single
        have shorter : number / base < number := Nat.div_lt_self (by omega) several
        rw [Nat.toDigits_of_base_le several long, List.head?_append_of_ne_nil _
          Nat.toDigits_ne_nil] at zero
        -- The digits before the last one would be those of zero.
        have none : number / base = 0 :=
          toDigits_inj several small ((ih _ shorter zero).trans (Nat.toDigits_zero base).symm)
        exact absurd none (Nat.ne_of_gt (Nat.div_pos long (by omega)))

/-- The place of a digit among the digits of the base is its value. -/
theorem idxOf_digitChar (small : base ≤ 16) {value : Nat} (below : value < base) :
    (digits base).idxOf (Nat.digitChar value) = value := by
  have known : ∀ base < 17, ∀ value < base,
      (digits base).idxOf (Nat.digitChar value) = value := by decide +kernel
  exact known base (Nat.lt_succ_of_le small) value below

/-- Numbers are written without leading zeros. -/
theorem writes_toDigits (several : 1 < base) (small : base ≤ 16) (number : Nat) :
    Writes base number (Nat.toDigits base number) := by
  refine ⟨Nat.toDigits_ne_nil, toDigits_subset several number,
    head?_toDigits several small number, ?_⟩
  induction number using Nat.strongRecOn with
  | ind number ih =>
      by_cases single : number < base
      · rw [Nat.toDigits_of_lt_base single, List.foldl_cons, List.foldl_nil,
          idxOf_digitChar small single, Nat.mul_zero, Nat.zero_add]
      · have shorter : number / base < number := Nat.div_lt_self (by omega) several
        have last : number % base < base := Nat.mod_lt number (by omega)
        rw [Nat.toDigits_of_base_le several (Nat.not_lt.mp single), List.foldl_concat,
          ih _ shorter, idxOf_digitChar small last, Nat.div_add_mod]

theorem exists_digitChar {digit : Char} (member : digit ∈ digits base) :
    ∃ value < base, digit = Nat.digitChar value := by
  obtain ⟨value, below, rfl⟩ := List.mem_map.mp member
  exact ⟨value, List.mem_range.mp below, rfl⟩

/-- There is one way to write a number. -/
theorem Writes.eq_toDigits (several : 1 < base) (small : base ≤ 16) {text : List Char}
    (writes : Writes base number text) : text = Nat.toDigits base number := by
  induction text using List.reverseRecOn generalizing number with
  | nil => exact absurd rfl writes.nonempty
  | append_singleton front last ih =>
      obtain ⟨nonempty, listed, noLeadingZero, value⟩ := writes
      obtain ⟨frontListed, lastListed⟩ := List.append_subset.mp listed
      obtain ⟨lowest, below, rfl⟩ := exists_digitChar (lastListed List.mem_cons_self)
      rw [List.foldl_concat, idxOf_digitChar small below] at value
      cases front with
      | nil =>
          rw [List.foldl_nil, Nat.mul_zero, Nat.zero_add] at value
          rw [← value, Nat.toDigits_of_lt_base below, List.nil_append]
      | cons first rest =>
          have notZero : first ≠ '0' := by
            rintro rfl
            have alone := noLeadingZero rfl
            simp at alone
          have higher : Writes base (number / base) (first :: rest) := by
            refine ⟨List.cons_ne_nil first rest, frontListed, ?_, ?_⟩
            · exact fun zero => absurd (Option.some.inj zero) notZero
            · rw [← value, Nat.mul_add_div (by omega), Nat.div_eq_of_lt below, Nat.add_zero]
          have written := ih higher
          have long : base ≤ number := by
            by_contra short
            rw [Nat.div_eq_of_lt (Nat.not_le.mp short), Nat.toDigits_zero] at written
            exact notZero (List.cons.inj written).1
          have remainder : number % base = lowest := by
            rw [← value, Nat.mul_add_mod, Nat.mod_eq_of_lt below]
          rw [Nat.toDigits_of_base_le several long, ← written, remainder]

/-- The text writes the numbers in the base, in order and with the separator between them. -/
def WritesRow (base : Nat) (separator : Char) (numbers : List Nat) (text : List Char) : Prop :=
  ∃ pieces, List.Forall₂ (Writes base) numbers pieces ∧ text = [separator].intercalate pieces

/-- A row of numbers is written in their digits, with separators between them. -/
theorem writesRow_toDigits (several : 1 < base) (small : base ≤ 16) (separator : Char)
    (numbers : List Nat) :
    WritesRow base separator numbers
      ([separator].intercalate (numbers.map (Nat.toDigits base))) := by
  refine ⟨_, ?_, rfl⟩
  rw [List.forall₂_map_right_iff, List.forall₂_same]
  exact fun number _ => writes_toDigits several small number

/-- There is one way to write a row of numbers. -/
theorem WritesRow.eq_intercalate (several : 1 < base) (small : base ≤ 16) {separator : Char}
    {numbers : List Nat} {text : List Char} (writes : WritesRow base separator numbers text) :
    text = [separator].intercalate (numbers.map (Nat.toDigits base)) := by
  obtain ⟨pieces, row, rfl⟩ := writes
  have written : numbers.map (Nat.toDigits base) = pieces := by
    rw [← List.forall₂_eq_eq_eq, List.forall₂_map_left_iff]
    exact row.imp fun {number piece} writes => (writes.eq_toDigits several small).symm
  rw [written]

end Greeter.Numeral
