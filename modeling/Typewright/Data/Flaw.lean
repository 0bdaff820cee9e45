/-
  What can be wrong with the text of a document as a text.

  A document is well-formed or it is not.  In one that is, a part can still be without a meaning: a
  whole number that is written with too many decimal digits, an escape for a code point that there
  is none of, or a scalar that is marked as something else than it is.  A document can also be too
  deep to be read.
-/
import Typewright.Data.Moment
import Typewright.Number.DecimalText
import Typewright.Number.Limit
import Typewright.Text.Quoted

namespace Typewright

/-- Why a part of a text has no meaning. -/
inductive Misreading where
  /-- A whole number has too many digits. -/
  | oversized (digits : Nat)
  /-- A text is no whole number in a base. -/
  | notWhole (base : Nat) (text : Text)
  /-- A text is no number. -/
  | notReal (text : Text)
  /-- The parts of a number count more than the largest number. -/
  | tooLarge
  /-- A text is no word for a truth value. -/
  | notBool
  /-- A text is neither a day nor a moment. -/
  | notMoment
  /-- A day or a moment is asked of a mapping, although that gives a text. -/
  | momentOfMapping
  /-- A mapping that is to give a text refers to itself for it. -/
  | endless
  /-- Too many collections stand inside one another. -/
  | tooDeep
  /-- A number has no digits. -/
  | noDigits
  /-- A part of a day or a moment is out of its range. -/
  | outOfRange (part : CalendarFlaw)
  /-- A code point lies behind the last one. -/
  | noCharacter (code : Nat)
  deriving DecidableEq, Repr

/-- Why a text holds no data. -/
inductive Flaw where
  /-- The text is not well-formed. -/
  | malformed
  /-- A part of it has no meaning. -/
  | misread (reason : Misreading)
  deriving DecidableEq, Repr

/-- The outcome of reading a part of a document. -/
abbrev Parsed (α : Type) := Except Flaw α

/-- What was read, if it is well-formed. -/
def Parsed.ofOption {α : Type} : Option α → Parsed α
  | some a => .ok a
  | none => .error .malformed

/-- Nothing was read for a reason. -/
def Parsed.misread {α : Type} (reason : Misreading) : Parsed α := .error (.misread reason)

/-- The whole number that digits write, unless there are too many. -/
def boundedNat (ds : List Char) : Parsed Nat :=
  if ds.length ≤ maxDigits then .ok (Decimal.ofDigits ds)
  else Parsed.misread (.oversized ds.length)

namespace Misreading

/-- How much of a literal is shown where a text is no whole number. -/
def shownLength : Nat := 200

/-- The words for a reason, if there are any. -/
def message : Misreading → String
  | oversized digits =>
    "Exceeds the limit (" ++ toString maxDigits ++ " digits) for integer string conversion: " ++
      "value has " ++ toString digits ++ " digits; use sys.set_int_max_str_digits() to increase " ++
      "the limit"
  | notWhole base text =>
    "invalid literal for int() with base " ++ toString base ++ ": " ++
      String.ofList ((Text.quoted text).toList.take shownLength)
  | notReal text => "could not convert string to float: " ++ Text.quoted text
  | outOfRange part => part.message
  | noCharacter _ => "chr() arg not in range(0x110000)"
  | tooLarge | notBool | notMoment | momentOfMapping | endless | tooDeep | noDigits => ""

end Misreading

end Typewright
