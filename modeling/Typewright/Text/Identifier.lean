/-
  Shapes of names: identifiers, and the two capitalisations that entities and attributes are
  expected to have.  Only ASCII letters, digits and the underscore take part.

  A name of any of these shapes may be followed by one line feed; the shape ends before it.
-/
import Typewright.Text.Words

namespace Typewright.Text

/-- One of the digits `0` to `9`. -/
def isAsciiDigit (c : Char) : Bool := '0' ≤ c && c ≤ '9'

/-- One of the letters `a` to `z` and `A` to `Z`. -/
def isAsciiLetter (c : Char) : Bool := isSmallLetter c || isCapitalLetter c

/-- A letter or a digit. -/
def isAsciiAlphanumeric (c : Char) : Bool := isAsciiLetter c || isAsciiDigit c

/-- A first character of one class, then characters of another class up to the end, or up to a
    final line feed. -/
def hasShape (first rest : Char → Bool) : Text → Bool
  | [] => false
  | c :: cs =>
    let behind := cs.dropWhile (CodePoint.is rest)
    c.is first && (behind == [] || behind == [.char '\n'])

/-- Letters, digits and underscores, not starting with a digit. -/
def isIdentifier : Text → Bool :=
  hasShape (fun c => isAsciiLetter c || c == '_') (fun c => isAsciiAlphanumeric c || c == '_')

/-- Letters and digits, starting with a capital. -/
def isPascalCase : Text → Bool := hasShape isCapitalLetter isAsciiAlphanumeric

/-- Letters and digits, starting with a small letter. -/
def isCamelCase : Text → Bool := hasShape isSmallLetter isAsciiAlphanumeric

end Typewright.Text
