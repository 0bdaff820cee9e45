/-
  Reading whole numbers from texts.

  The plain form is an optional minus sign and digits without a zero in front.  A text that is not
  of this form is cleaned first: white space around it and a plus sign are dropped, and so are zeros
  and underscores in front of the number, a fraction of zeros behind it, and single underscores
  between its digits.  What then is of the plain form is read; a minus sign may stand in front of
  the zeros or behind them.

  A number may have so many digits and no more.  A text that starts with a longer number in plain
  form is told apart from one that writes no number at all.
-/
import Typewright.Number.DecimalText
import Typewright.Number.Limit

namespace Typewright.IntegerText

open Typewright.Text

/-- What a text says about a whole number. -/
inductive Reading where
  /-- A number. -/
  | number (n : Int)
  /-- A number with more digits than are read. -/
  | oversized
  /-- Nothing that is a whole number. -/
  | malformed
  deriving DecidableEq, Repr

/-- A digit that can be the first of several. -/
def isLeading (c : Char) : Bool := '1' ≤ c && c ≤ '9'

/-- Takes a minus sign off the front; `true` if there was one. -/
def takeMinus : List Char → Bool × List Char
  | '-' :: rest => (true, rest)
  | s => (false, s)

/-! ## The plain form -/

/-- A single zero, or digits without a zero in front. -/
def isPlainDigits (ds : List Char) : Bool :=
  ds == ['0'] || ((ds.head?.map isLeading).getD false && ds.all Char.isDigit)

/-- The number that a text in plain form writes, unless it is too long. -/
def plain? (s : List Char) : Option Int :=
  let (negative, ds) := takeMinus s
  if isPlainDigits ds && ds.length ≤ maxDigits then
    some (if negative then -(Decimal.ofDigits ds : Int) else Decimal.ofDigits ds)
  else none

/-- A text starts with a number in plain form that is too long. -/
def startsOversized (s : List Char) : Bool :=
  let ds := (takeMinus s).2
  (ds.head?.map isLeading).getD false && maxDigits < (ds.takeWhile Char.isDigit).length

/-! ## Cleaning -/

/-- What follows zeros and underscores, of which `last` was the last.  A number that ends here or at
    a point keeps the last of them as its digit. -/
def afterZeros? (last : Char) : List Char → Option (List Char)
  | [] => some [last]
  | c :: rest =>
    if c == '0' || c == '_' then afterZeros? c rest
    else if isLeading c || c == '-' then some (c :: rest)
    else if c == '.' then some (last :: c :: rest)
    else none

/-- A number without the zeros in front of it. -/
def dropZeros? : List Char → Option (List Char)
  | [] => none
  | c :: rest =>
    if c == '0' then afterZeros? c rest
    else if isLeading c || c == '-' then some (c :: rest)
    else none

/-- Drops a point at the end that has zeros, and at least one of them, behind it. -/
def dropZeroFraction (s : List Char) : List Char :=
  match s.dropWhile (· != '.') with
  | '.' :: zeros => if !zeros.isEmpty && zeros.all (· == '0') then s.takeWhile (· != '.') else s
  | _ => s

/-- Two underscores stand side by side. -/
def hasDoubleUnderscore : List Char → Bool
  | '_' :: '_' :: _ => true
  | _ :: rest => hasDoubleUnderscore rest
  | [] => false

/-- Drops underscores, if each stands alone and between other characters. -/
def dropUnderscores (s : List Char) : List Char :=
  if s.head? == some '_' || s.getLast? == some '_' || hasDoubleUnderscore s then s
  else s.filter (· != '_')

/-- Takes a plus sign off the front, which no minus sign may follow. -/
def dropPlus? : List Char → Option (List Char)
  | '+' :: '-' :: _ => none
  | '+' :: rest => some rest
  | s => some s

/-- A text without what the plain form does not have. -/
def clean? (s : List Char) : Option (List Char) := do
  let (negative, body) := takeMinus (← dropPlus? (stripped isWhiteSpace s))
  let body ← dropZeros? body
  pure (dropUnderscores (dropZeroFraction (if negative then '-' :: body else body)))

/-- Reads a whole number. -/
def read (s : List Char) : Reading :=
  if startsOversized s then .oversized
  else
    match (plain? s).or ((clean? s).bind plain?) with
    | some n => .number n
    | none => .malformed

end Typewright.IntegerText
