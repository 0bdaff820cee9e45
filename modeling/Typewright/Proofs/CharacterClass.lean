/-
  Classes of characters that have none in common.

  A class is a table of ranges, and two tables whose ranges lie apart share no character.  The word
  characters lie apart from the blanks, and from all signs of ASCII but the underscore.
-/
import Typewright.Text.Alphanumeric
import Typewright.Text.Blank

namespace Typewright.Text

/-! ## Tables that lie apart -/

/-- No range of the one table meets a range of the other. -/
def apart (spans others : List Span) : Bool :=
  spans.all fun s => others.all fun o => Nat.blt s.2 o.1 || Nat.blt o.2 s.1

theorem covers_eq_false_of_apart {spans others : List Span} {c : Char}
    (h : apart spans others = true) (hc : covers others c = true) : covers spans c = false := by
  refine Bool.eq_false_iff.mpr fun hspans => ?_
  obtain ⟨s, hs, hlow, hhigh⟩ := covers_iff.mp hspans
  obtain ⟨o, ho, hlow', hhigh'⟩ := covers_iff.mp hc
  have hapart := List.all_eq_true.mp (List.all_eq_true.mp h s hs) o ho
  simp only [Bool.or_eq_true, Nat.blt_eq] at hapart
  omega

/-! ## Word characters -/

/-- Ranges without a word character, which hold all blanks and all signs of ASCII but the
    underscore. -/
def wordlessSpans : List Span :=
  [(0x00, 0x2F), (0x3A, 0x40), (0x5B, 0x5E), (0x60, 0x60), (0x7B, 0xA9), (0x1680, 0x1680),
   (0x2000, 0x206F), (0x3000, 0x3000)]

theorem isWordChar_of_wordless {c : Char} (h : covers wordlessSpans c = true) :
    isWordChar c = false := by
  have hunderscore : c ≠ '_' := by
    rintro rfl
    exact absurd h (by decide)
  rw [isWordChar, covers_eq_false_of_apart (by decide +kernel) h, Bool.or_false]
  exact beq_eq_false_iff_ne.mpr hunderscore

theorem wordless_of_isBlankChar {c : Char} (h : isBlankChar c = true) :
    covers wordlessSpans c = true := by
  simp only [isBlankChar, Bool.or_eq_true, Bool.and_eq_true, decide_eq_true_eq, beq_iff_eq] at h
  simp only [covers, wordlessSpans, List.any_cons, List.any_nil, Bool.or_eq_true,
    Bool.and_eq_true, decide_eq_true_eq, Bool.false_eq_true, or_false]
  omega

/-- A word character is no blank. -/
theorem isBlank_of_wordChar {c : CodePoint} (h : c.is isWordChar = true) :
    c.is isBlankChar = false := by
  cases c with
  | half n => cases h
  | char c =>
    refine Bool.eq_false_iff.mpr fun hblank => ?_
    exact Bool.false_ne_true ((isWordChar_of_wordless (wordless_of_isBlankChar hblank)).symm.trans h)

end Typewright.Text
