/-
  Reading decimals.

  Blanks around the text and underscores anywhere in it are dropped, and digits of every script
  count.  What remains is an optional sign, digits with at most one point among them, and an
  optional power of ten.  The names of infinity and of the undefined number are read too, as what
  they are: no number, but no slip of the pen either.
-/
import Typewright.Text.Blank
import Typewright.Text.DecimalDigit
import Typewright.Number.Decimal

namespace Typewright.Decimal

open Typewright.Text

/-- What a text says about a decimal. -/
inductive Reading where
  /-- A number. -/
  | number (d : Decimal)
  /-- An infinity or an undefined number. -/
  | notFinite
  /-- Nothing that is a decimal. -/
  | malformed
  deriving DecidableEq, Repr

/-- The number that digits write. -/
def ofDigits (ds : List Char) : Nat := Nat.ofDigitChars 10 ds 0

/-- Takes an optional sign off the front; `true` for a minus sign. -/
def readSign : List Char → Bool × List Char
  | '-' :: rest => (true, rest)
  | '+' :: rest => (false, rest)
  | s => (false, s)

/-- The power of ten at the end of a decimal; nothing at all is the power zero. -/
def readExponent : List Char → Option Int
  | [] => some 0
  | c :: rest =>
    if c = 'e' ∨ c = 'E' then
      let (negative, ds) := readSign rest
      if !ds.isEmpty && ds.all Char.isDigit then
        some (if negative then -(ofDigits ds : Int) else ofDigits ds)
      else none
    else none

/-- Takes a point and the digits behind it off the front, if there is a point. -/
def readFraction : List Char → List Char × List Char
  | '.' :: rest => (rest.takeWhile Char.isDigit, rest.dropWhile Char.isDigit)
  | s => ([], s)

/-- Digits, with at least one of them, and a power of ten. -/
def readUnsigned (negative : Bool) (s : List Char) : Option Decimal :=
  let whole := s.takeWhile Char.isDigit
  let (fraction, rest) := readFraction (s.dropWhile Char.isDigit)
  if whole.isEmpty && fraction.isEmpty then none
  else (readExponent rest).map fun e =>
    ⟨negative, ofDigits (whole ++ fraction), e - fraction.length⟩

/-- Names infinity or an undefined number, which may carry digits as its payload. -/
def namesNotFinite (s : List Char) : Bool :=
  let s := s.map Char.toLower
  let unmarked := if s.head? = some 's' then s.tail else s
  s == "inf".toList || s == "infinity".toList ||
    ("nan".toList.isPrefixOf unmarked && (unmarked.drop 3).all Char.isDigit)

/-- The text without blanks around it and without underscores, in plain digits. -/
def normalize (s : List Char) : List Char :=
  ((stripped isBlankChar s).filter (· != '_')).map plainDigit

/-- Reads a decimal. -/
def read (s : List Char) : Reading :=
  let (negative, body) := readSign (normalize s)
  if namesNotFinite body then .notFinite
  else
    match readUnsigned negative body with
    | some d => if d.inRange then .number d else .malformed
    | none => .malformed

end Typewright.Decimal
