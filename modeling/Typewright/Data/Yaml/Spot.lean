/-
  The characters of a YAML document with their places.

  Indentation carries meaning, so every character knows its line and its column.  One mark behind
  the last character stands for the end; no document holds it, so that looking at the next
  character needs no case for the end.
-/

namespace Typewright.Yaml

/-- A character and its place. -/
structure Spot where
  char : Char
  /-- How many characters stand in front of it. -/
  index : Nat
  line : Nat
  column : Nat

/-- Stands behind the last character. -/
def endMark : Char := '\x00'

/-- May be written at the start of a document, and takes no column. -/
def byteOrderMark : Char := '\ufeff'

/-- May stand in a document. -/
def isAllowed (c : Char) : Bool :=
  let n := c.toNat
  n == 0x09 || n == 0x0A || n == 0x0D || (0x20 ≤ n && n ≤ 0x7E) || n == 0x85 ||
    (0xA0 ≤ n && n != 0xFFFE && n != 0xFFFF)

/-- Ends a line. -/
def isBreak (c : Char) : Bool := c == '\n' || c == '\x85' || c == '\u2028' || c == '\u2029'

/-- A space or a tab. -/
def isSpaceOrTab (c : Char) : Bool := c == ' ' || c == '\t'

/-- Separates tokens: a space, a tab, the end of a line, or the end of the document. -/
def isSeparator (c : Char) : Bool := isSpaceOrTab c || isBreak c || c == endMark

/-- Every line ends with one character. -/
def unifyBreaks : List Char → List Char
  | '\r' :: '\n' :: rest => '\n' :: unifyBreaks rest
  | '\r' :: rest => '\n' :: unifyBreaks rest
  | c :: rest => c :: unifyBreaks rest
  | [] => []

/-- Drops a byte order mark in front. -/
def dropByteOrderMark : List Char → List Char
  | c :: rest => if c == byteOrderMark then rest else c :: rest
  | [] => []

namespace Spot

/-- Characters with their places, counted from the given one on. -/
def sequenceFrom (index line column : Nat) : List Char → List Spot
  | [] => [⟨endMark, index, line, column⟩]
  | c :: rest =>
    ⟨c, index, line, column⟩ ::
      if isBreak c then sequenceFrom (index + 1) (line + 1) 0 rest
      else if c == byteOrderMark then sequenceFrom (index + 1) line column rest
      else sequenceFrom (index + 1) line (column + 1) rest

/-- The characters of a document with their places. -/
def sequence (document : List Char) : List Spot :=
  sequenceFrom 0 0 0 (dropByteOrderMark (unifyBreaks document))

/-- The first character, or the end. -/
def charAt : List Spot → Char
  | s :: _ => s.char
  | [] => endMark

/-- The column of the first character. -/
def columnAt : List Spot → Nat
  | s :: _ => s.column
  | [] => 0

/-- The first character separates tokens. -/
def atSeparator (s : List Spot) : Bool := isSeparator (charAt s)

/-- Three characters at the start of a line that stand for themselves: a mark between documents. -/
def atMarker (mark : Char) (s : List Spot) : Bool :=
  columnAt s == 0 && (s.take 3).map (·.char) == [mark, mark, mark] && atSeparator (s.drop 3)

/-- A document starts or ends here. -/
def atAnyMarker (s : List Spot) : Bool := atMarker '-' s || atMarker '.' s

end Spot

end Typewright.Yaml
