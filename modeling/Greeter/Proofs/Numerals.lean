import Greeter.Bytes
import Mathlib.Data.Nat.Digits.Defs
import Mathlib.Tactic.Common

/-! # Numbers in digits

A row of digits writes a number in its base, whatever zeros stand before it. It is
read as that number if the number is below the limit, and as nothing if it is not
(`Bytes.number?_eq`).
-/

namespace Greeter.Bytes

variable {base limit number : Nat} {digit : UInt8 → Nat} {text : Bytes}

/-- The number that digits come to, read from the left behind another number.
`digit` tells what a byte is worth. -/
def valueFrom (base : Nat) (digit : UInt8 → Nat) (number : Nat) (text : Bytes) : Nat :=
  text.foldl (fun number byte => base * number + digit byte) number

/-- Further digits never make a number smaller. -/
theorem le_valueFrom (positive : 0 < base) (number : Nat) (text : Bytes) :
    number ≤ valueFrom base digit number text := by
  induction text generalizing number with
  | nil => exact Nat.le_refl number
  | cons byte text ih =>
      have grows : number ≤ base * number := Nat.le_mul_of_pos_left number positive
      exact Nat.le_trans (Nat.le_add_right_of_le grows) (ih (base * number + digit byte))

/-- Read from the left, digits come to the number that they are the digits of. -/
theorem ofDigits_eq_valueFrom (base : Nat) (digit : UInt8 → Nat) (text : Bytes) :
    Nat.ofDigits base (text.reverse.map digit) = valueFrom base digit 0 text := by
  rw [Nat.ofDigits_eq_foldr, List.foldr_map, List.foldr_reverse, valueFrom]
  congr 1
  funext number byte
  exact Nat.add_comm _ _

/-- Digits extend a number as long as the whole stays below the limit. -/
theorem foldlM_extend?_eq (positive : 0 < base)
    (digits : ∀ byte ∈ text, Numeral.digit? base byte.toNat = some (digit byte))
    (below : number < limit) :
    (text.map UInt8.toNat).foldlM (Numeral.extend? base limit) number =
      if valueFrom base digit number text < limit then some (valueFrom base digit number text)
      else none := by
  induction text generalizing number with
  | nil => exact (if_pos below).symm
  | cons byte text ih =>
      have rest := fun other member => digits other (List.mem_cons_of_mem byte member)
      have behind : valueFrom base digit number (byte :: text) =
          valueFrom base digit (base * number + digit byte) text := rfl
      rw [List.map_cons, List.foldlM_cons, Numeral.extend?, digits byte List.mem_cons_self, behind]
      simp only [Option.bind_eq_bind, Option.bind_some]
      by_cases next : base * number + digit byte < limit
      · rw [if_pos next, Option.bind_some, ih rest next]
      · -- Once the limit is reached, further digits do not lead back below it.
        have reached : ¬ valueFrom base digit (base * number + digit byte) text < limit :=
          fun less => next (Nat.lt_of_le_of_lt (le_valueFrom positive _ text) less)
        rw [if_neg next, if_neg reached, Option.bind_none]

/-- **Digits are read as the number they write**, if it is below the limit. -/
theorem number?_eq (positive : 0 < base) (room : 0 < limit) (nonempty : text ≠ [])
    (digits : ∀ byte ∈ text, Numeral.digit? base byte.toNat = some (digit byte)) :
    number? base limit text =
      if Nat.ofDigits base (text.reverse.map digit) < limit then
        some (Nat.ofDigits base (text.reverse.map digit))
      else none := by
  rw [number?, Numeral.read?, if_neg (by simpa using nonempty), ofDigits_eq_valueFrom]
  exact foldlM_extend?_eq positive digits room

end Greeter.Bytes
