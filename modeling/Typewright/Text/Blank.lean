/-
  Blank characters, and what is trimmed away at the ends of a text.

  The class is wider than the ASCII blanks: it also holds the four information separators, the next
  line character, and every space and line separator of the general punctuation blocks.
-/
import Typewright.Text.CodePoint

namespace Typewright.Text

/-- A space, a line break, or one of the separators that count as one. -/
def isBlankChar (c : Char) : Bool :=
  let n := c.toNat
  (0x09 ≤ n && n ≤ 0x0D) || (0x1C ≤ n && n ≤ 0x20) || n == 0x85 || n == 0xA0 || n == 0x1680 ||
  (0x2000 ≤ n && n ≤ 0x200A) || n == 0x2028 || n == 0x2029 || n == 0x202F || n == 0x205F ||
  n == 0x3000

/-- White space around a number: a blank that is not an information separator. -/
def isWhiteSpace (c : Char) : Bool :=
  isBlankChar c && !(0x1C ≤ c.toNat && c.toNat ≤ 0x1F)

/-- Drops the members of a class at both ends. -/
def stripped {α : Type} (p : α → Bool) (s : List α) : List α :=
  ((s.dropWhile p).reverse.dropWhile p).reverse

/-- Drops the blanks at the start. -/
def trimStart (s : Text) : Text := s.dropWhile (CodePoint.is isBlankChar)

/-- A text without the blanks at its ends. -/
def trimmed (s : Text) : Text := stripped (CodePoint.is isBlankChar) s

/-- Holds nothing but blanks; the empty text is blank. -/
def isBlank (s : Text) : Bool := s.all (CodePoint.is isBlankChar)

end Typewright.Text
