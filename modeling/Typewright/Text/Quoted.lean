/-
  Quoted literals: how a text is shown inside a message.

  The quote is a single one, unless the text holds a single quote and no double one.  The quote and
  the backslash are preceded by a backslash, line feed, carriage return and tab have short escapes,
  and every other unprintable character is written by its number, in as few of the widths 2, 4 and 8
  as it fits.  So is half a pair of surrogates, and a literal holds none.
-/
import Typewright.Text.CodePoint
import Typewright.Text.Printable

namespace Typewright.Text

/-- The quote that a literal of this text is put in. -/
def quoteFor (s : Text) : Char :=
  if s.contains (.char '\x27') && !s.contains (.char '\x22') then '\x22' else '\x27'

/-- A number in lower-case hexadecimal, with zeros in front up to the width. -/
def hexDigits (width n : Nat) : List Char :=
  let digits := Nat.toDigits 16 n
  List.replicate (width - digits.length) '0' ++ digits

/-- An unprintable code point by its number. -/
def escapeNumber (n : Nat) : List Char :=
  if n ≤ 0xFF then '\\' :: 'x' :: hexDigits 2 n
  else if n ≤ 0xFFFF then '\\' :: 'u' :: hexDigits 4 n
  else '\\' :: 'U' :: hexDigits 8 n

/-- One character of a literal in the given quotes. -/
def escapeChar (quote c : Char) : List Char :=
  if c = quote ∨ c = '\\' then ['\\', c]
  else if c = '\n' then ['\\', 'n']
  else if c = '\r' then ['\\', 'r']
  else if c = '\t' then ['\\', 't']
  else if isPrintable c then [c]
  else escapeNumber c.toNat

/-- One code point of a literal in the given quotes. -/
def escapeIn (quote : Char) : CodePoint → List Char
  | .char c => escapeChar quote c
  | .half n => escapeNumber (CodePoint.half n).toNat

/-- The characters of the literal of a text, quotes included. -/
def quotedChars (s : Text) : List Char :=
  let quote := quoteFor s
  quote :: (s.flatMap (escapeIn quote) ++ [quote])

/-- The literal of a text, quotes included. -/
def quoted (s : Text) : String := String.ofList (quotedChars s)

/-- A list of literals in brackets. -/
def quotedList (ss : List Text) : String :=
  "[" ++ String.intercalate ", " (ss.map quoted) ++ "]"

end Typewright.Text
