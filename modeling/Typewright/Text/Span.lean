/-
  Sets of characters given by the ranges of code points they cover.  The character classes of this
  library are tables of such ranges, in ascending order.
-/

namespace Typewright.Text

/-- A closed range of code points, from its first to its last. -/
abbrev Span := Nat × Nat

/-- The code point of `c` lies in one of the ranges. -/
def covers (spans : List Span) (c : Char) : Bool :=
  spans.any fun s => s.1 ≤ c.toNat && c.toNat ≤ s.2

theorem covers_iff {spans : List Span} {c : Char} :
    covers spans c = true ↔ ∃ s ∈ spans, s.1 ≤ c.toNat ∧ c.toNat ≤ s.2 := by
  simp [covers]

end Typewright.Text
