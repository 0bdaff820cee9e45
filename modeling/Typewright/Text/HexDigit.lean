/-
  Hexadecimal digits: sixteen values, of which the upper six are letters of either case.
-/

namespace Typewright.Text

/-- The value of a hexadecimal digit. -/
def hexValue? (c : Char) : Option Nat :=
  if '0' ≤ c ∧ c ≤ '9' then some (c.toNat - '0'.toNat)
  else if 'a' ≤ c ∧ c ≤ 'f' then some (c.toNat - 'a'.toNat + 10)
  else if 'A' ≤ c ∧ c ≤ 'F' then some (c.toNat - 'A'.toNat + 10)
  else none

/-- The number that hexadecimal digits write, if there is nothing else. -/
def hexNumber? (s : List Char) : Option Nat :=
  s.foldlM (fun n c => (hexValue? c).map fun d => 16 * n + d) 0

end Typewright.Text
