/-! # Numerals

Reading a number from its digits, in any base up to sixteen and below a given
limit. Digits are given by their code points, so that one reader serves the
characters of an address and the bytes of a message; numbers are written by
`Nat.toDigits`.
-/

namespace Greeter.Numeral

/-- The value of a digit in the given base. Letters stand for ten to fifteen in
either case. -/
def digit? (base code : Nat) : Option Nat :=
  let value? :=
    if 0x30 ≤ code ∧ code ≤ 0x39 then some (code - 0x30)
    else if 0x41 ≤ code ∧ code ≤ 0x46 then some (code - 0x37)
    else if 0x61 ≤ code ∧ code ≤ 0x66 then some (code - 0x57)
    else none
  value?.filter (· < base)

/-- One more digit behind a number, as long as the result stays below the
limit. -/
def extend? (base limit number code : Nat) : Option Nat := do
  let digit ← digit? base code
  let next := base * number + digit
  if next < limit then some next else none

/-- The number that a row of digits writes. There is none when the row is empty,
when it holds something other than a digit, and when the number reaches the
limit. Leading zeros count for nothing. -/
def read? (base limit : Nat) (codes : List Nat) : Option Nat :=
  if codes = [] then none else codes.foldlM (extend? base limit) 0

end Greeter.Numeral
