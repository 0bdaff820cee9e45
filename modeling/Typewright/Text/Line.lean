/-
  The lines of a text.

  A line ends with a line feed, a carriage return or both, with one of the other controls that move
  on to a new line or page, or with a separator for lines, paragraphs or records.  What stands
  behind the last end is a line too, unless it is empty.
-/
import Typewright.Text.CodePoint

namespace Typewright.Text

/-- Ends a line. -/
def endsLine (c : Char) : Bool :=
  let n := c.toNat
  (0x0A ≤ n && n ≤ 0x0D) || (0x1C ≤ n && n ≤ 0x1E) || n == 0x85 || n == 0x2028 || n == 0x2029

/-- The lines of a text of which `line` was read, the last code point first. -/
def linesFrom (line : Text) : Text → List Text
  | [] => if line.isEmpty then [] else [line.reverse]
  | .char '\r' :: .char '\n' :: rest => line.reverse :: linesFrom [] rest
  | c :: rest =>
    if c.is endsLine then line.reverse :: linesFrom [] rest else linesFrom (c :: line) rest

/-- The lines of a text, without their ends. -/
def lines (s : Text) : List Text := linesFrom [] s

end Typewright.Text
