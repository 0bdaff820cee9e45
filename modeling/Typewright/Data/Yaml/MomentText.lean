/-
  Days and moments as YAML documents write them.

  A day is a year, a month and a day with dashes between them.  A moment goes on, behind the letter
  `T` or blanks, with an hour, a minute and a second, a fraction of a second, and a difference
  between the local and the universal time.  Only as much is read here as the form says; whether
  there is such a day is another question.
-/
import Typewright.Data.Flaw

namespace Typewright.Yaml

/-- A number of so many digits at least and at most, and what follows it. -/
def digitsBetween? (least most : Nat) (s : List Char) : Option (Nat × List Char) :=
  let ds := (s.take most).takeWhile Char.isDigit
  if ds.length < least then none else some (Decimal.ofDigits ds, s.drop ds.length)

/-- What follows a character, if it stands in front. -/
def after? (c : Char) : List Char → Option (List Char)
  | d :: rest => if c == d then some rest else none
  | [] => none

/-- A day, and what follows it. -/
def dayText? (s : List Char) : Option (Day × List Char) := do
  let (year, s) ← digitsBetween? 4 4 s
  let (month, s) ← digitsBetween? 1 2 (← after? '-' s)
  let (day, s) ← digitsBetween? 1 2 (← after? '-' s)
  pure (⟨year, month, day⟩, s)

/-- A space or a tab. -/
def isBlank (c : Char) : Bool := c == ' ' || c == '\t'

/-- What separates a day from the time behind it: the letter, or blanks. -/
def timeMark? : List Char → Option (List Char)
  | c :: rest =>
    if c == 'T' || c == 't' then some rest
    else if isBlank c then some (rest.dropWhile isBlank)
    else none
  | [] => none

/-- A fraction of a second in microseconds, and what follows it; further digits are dropped. -/
def fractionText : List Char → Nat × List Char
  | '.' :: rest =>
    let ds := rest.takeWhile Char.isDigit
    let shown := ds.take 6
    (Decimal.ofDigits (shown ++ List.replicate (6 - shown.length) '0'), rest.drop ds.length)
  | s => (0, s)

/-- The difference between the times at the end of a moment. -/
def aheadText? (s : List Char) : Option (Option Int) :=
  match s, s.dropWhile isBlank with
  | [], _ => some none
  | _, ['Z'] => some (some 0)
  | _, sign :: rest => do
    let (hours, rest) ← digitsBetween? 1 2 rest
    let (minutes, rest) ←
      if rest.isEmpty then pure (0, rest) else digitsBetween? 2 2 (← after? ':' rest)
    let n : Int := 60 * hours + minutes
    if !rest.isEmpty then none
    else if sign == '+' then pure (some n)
    else if sign == '-' then pure (some (-n))
    else none
  | _, [] => none

/-- A moment with a given day, from behind the day. -/
def momentText? (day : Day) (s : List Char) : Option Moment := do
  let (hour, s) ← digitsBetween? 1 2 (← timeMark? s)
  let (minute, s) ← digitsBetween? 2 2 (← after? ':' s)
  let (second, s) ← digitsBetween? 2 2 (← after? ':' s)
  let (microsecond, s) := fractionText s
  pure ⟨day, hour, minute, second, microsecond, ← aheadText? s⟩

/-- What a text of the form of a day or a moment writes. -/
inductive Dated where
  | day (d : Day)
  | moment (m : Moment)
  deriving DecidableEq, Repr

/-- The day or the moment that a text writes. -/
def dated? (s : List Char) : Option Dated := do
  let (day, rest) ← dayText? s
  if rest.isEmpty then pure (.day day) else (momentText? day rest).map .moment

/-- How long a day without a time has to be in order to be taken for one. -/
def dayLength : Nat := 10

/-- A text is taken for a day or a moment. -/
def isDated (s : List Char) : Bool :=
  match dated? s with
  | some (.day _) => s.length == dayLength
  | some (.moment _) => true
  | none => false

/-- Drops a line feed at the end. -/
def dropFinalBreak (s : List Char) : List Char := if s.getLast? = some '\n' then s.dropLast else s

end Typewright.Yaml
