/-
  Words of an identifier or a label, and the upper-snake-case name made of them.

  Blanks and underscores separate words and belong to none.  Inside a run of other characters a new
  word starts at an ASCII capital that directly follows an ASCII small letter; a run of capitals
  stays together, so an acronym is one word.

  Words are found in two rounds.  The text is split at its separators.  In each piece a space is put
  in front of every capital that starts a word, and the piece is split again, now at blanks.
-/
import Typewright.Text.Blank
import Typewright.Text.Case

namespace Typewright.Text

/-! ## Classes -/

/-- Stands between words. -/
def isSeparator (c : Char) : Bool := isBlankChar c || c == '_'

/-- One of the letters `a` to `z`. -/
def isSmallLetter (c : Char) : Bool := 'a' ≤ c && c ≤ 'z'

/-- One of the letters `A` to `Z`. -/
def isCapitalLetter (c : Char) : Bool := 'A' ≤ c && c ≤ 'Z'

/-! ## Pieces -/

/-- The pieces of a text between the members of a class, where members in a row count as one.  A
    member at an end of the text has an empty piece beside it. -/
def pieces (p : Char → Bool) : Text → List Text
  | [] => [[]]
  | c :: rest =>
    if !c.is p then (pieces p rest).modifyHead (c :: ·)
    else if rest.head?.any (CodePoint.is p) then pieces p rest
    else [] :: pieces p rest

/-- The pieces of a text that are not empty. -/
def fields (p : Char → Bool) (s : Text) : List Text := (pieces p s).filter (!·.isEmpty)

/-! ## Words -/

/-- Of two neighbours in one piece the second starts a new word. -/
def startsWord (c d : CodePoint) : Bool := c.is isSmallLetter && d.is isCapitalLetter

/-- A space between every two neighbours of which the second starts a word.  The next two are looked
    for behind both of them. -/
def spaced : Text → Text
  | c :: d :: rest =>
    if startsWord c d then c :: .char ' ' :: d :: spaced rest else c :: spaced (d :: rest)
  | s => s

/-- The words of a text, in order. -/
def words (s : Text) : List Text :=
  (fields isSeparator s).flatMap fun piece => fields isBlankChar (spaced piece)

/-- The upper-snake-case form of a label or identifier: its words in upper case, joined by single
    underscores. -/
def toUpperSnakeCase (s : Text) : Text := join "_" ((words s).map toUpperCase)

end Typewright.Text
