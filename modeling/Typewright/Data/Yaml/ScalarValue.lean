/-
  What YAML scalars of a given kind mean.

  The kind may have been named, so a text can be anything; it is read more freely than its spelling
  would have to be in order to be of that kind by itself.  A scalar can always name an entry, and is
  given as a name.
-/
import Typewright.Data.Base64
import Typewright.Data.Value
import Typewright.Data.Yaml.Tag
import Typewright.Text.Case

namespace Typewright.Yaml

open Text

/-- Without the underscores. -/
def withoutUnderscores (s : Text) : Text := s.filter (· != '_')

/-- Takes a sign off the front; `true` for a minus sign. -/
def signed : Text → Bool × Text
  | .char '-' :: rest => (true, rest)
  | .char '+' :: rest => (false, rest)
  | s => (false, s)

/-- The characters of a number without the white space around them, digits of every script as those
    from `0` to `9`. -/
def numeral? (s : Text) : Option (List Char) :=
  (chars? s).map fun cs => (stripped isWhiteSpace cs).map plainDigit

/-! ## Whole numbers -/

/-- The letters that may stand, behind a zero, in front of the digits in a base. -/
def baseLetters : Nat → List Char
  | 2 => ['b', 'B']
  | 8 => ['o', 'O']
  | 16 => ['x', 'X']
  | _ => []

/-- The digits in a base without the letter in front of them. -/
def dropBaseLetter (base : Nat) : List Char → List Char
  | '0' :: c :: rest => if (baseLetters base).contains c then rest else '0' :: c :: rest
  | s => s

/-- A digit in a base. -/
def isDigitIn (base : Nat) (c : Char) : Bool :=
  match hexValue? c with
  | some d => d < base
  | none => false

/-- The number of digits in a base, of which there is at least one. -/
def inBase? (base : Nat) (ds : List Char) : Option Nat :=
  if ds.isEmpty || !ds.all (isDigitIn base) then none
  else some (ds.foldl (fun n c => base * n + (hexValue? c).getD 0) 0)

/-- A whole number in a base: white space around it does not count, and digits of every script do.
    The number of decimal digits is limited. -/
def wholeInBase (base : Nat) (s : Text) : Parsed Int :=
  let (negative, body) := Decimal.readSign ((numeral? s).getD [])
  let run := (body.takeWhile Char.isDigit).length
  if base = 10 ∧ maxDigits < run then Parsed.misread (.oversized run)
  else
    match inBase? base (dropBaseLetter base body) with
    | some n => .ok (if negative then -(n : Int) else n)
    | none => Parsed.misread (.notWhole base s)

/-- The number of parts that count sixties, the last part counting ones. -/
def sixties (parts : List Text) : Parsed Int :=
  parts.foldlM (fun n part => (wholeInBase 10 part).map fun m => 60 * n + m) 0

/-- A whole number without its sign. -/
def unsignedWhole (s : Text) : Parsed Int :=
  match s with
  | [] => Parsed.misread .noDigits
  | .char '0' :: .char 'b' :: rest => wholeInBase 2 rest
  | .char '0' :: .char 'x' :: rest => wholeInBase 16 rest
  | .char '0' :: _ => wholeInBase 8 s
  | _ => if s.contains (.char ':') then sixties (s.splitOn (.char ':')) else wholeInBase 10 s

/-- A whole number. -/
def wholeOf (s : Text) : Parsed Int :=
  let (negative, body) := signed (withoutUnderscores s)
  (unsignedWhole body).map fun n => if negative then -n else n

/-! ## Numbers with a point -/

/-- A number that may have a point, or the name of one that is not finite. -/
def realText? (s : List Char) : Option Binary64 :=
  let (negative, body) := Decimal.readSign s
  let word := (String.ofList body).toLower
  if ["inf", "infinity"].contains word then some (.infinite negative)
  else if word = "nan" then some .undefined
  else (Decimal.readUnsigned negative body).map Binary64.ofDecimal

/-- A number that may have a point; white space around it does not count, and digits of every script
    do. -/
def realOfText (s : Text) : Parsed Binary64 :=
  match (numeral? s).bind realText? with
  | some x => .ok x
  | none => Parsed.misread (.notReal s)

/-- Adds a part to the sum of the parts behind it, of which each counts sixty times what the next
    one counts. -/
def addPart (sumAndWeight : Binary64 × Int) (part : Binary64) : Parsed (Binary64 × Int) :=
  let (sum, weight) := sumAndWeight
  match Binary64.ofInt? weight with
  | some factor => .ok (sum.add (part.mul factor), 60 * weight)
  | none => Parsed.misread .tooLarge

/-- The sum of parts, the last one counting ones; it is added up from there on, and rounded at every
    step. -/
def weigh (parts : List Binary64) : Parsed Binary64 :=
  (parts.reverse.foldlM addPart (Binary64.zero, 1)).map (·.1)

/-- The name of the undefined number. -/
def undefinedName : Text := ".nan"

/-- A number with a point, without its sign. -/
def unsignedReal (s : Text) : Parsed Binary64 :=
  if s = ".inf" then .ok (.infinite false)
  else if s = undefinedName then .ok .undefined
  else if s.contains (.char ':') then ((s.splitOn (.char ':')).mapM realOfText).bind weigh
  else realOfText s

/-- A number with a point, as its sign and the rest. -/
def realParts (s : Text) : Bool × Text := signed (toLowerCase (withoutUnderscores s))

/-- A number with a point. -/
def realOf (s : Text) : Parsed Binary64 :=
  let (negative, body) := realParts s
  if (withoutUnderscores s).isEmpty then Parsed.misread .noDigits
  else (unsignedReal body).map fun x => if negative then x.negate else x

/-- A number as a name.  The undefined number is one only if it is named; otherwise the place that
    it comes from tells it apart. -/
def realName (origin : Nat) (s : Text) (x : Binary64) : Key :=
  if x = .undefined ∧ (realParts s).2 ≠ undefinedName then .strayNumber origin else .real x

/-! ## Other scalars -/

/-- A truth value, by its word in any case. -/
def boolOf (s : Text) : Parsed Bool :=
  let word := (string? (toLowerCase s)).getD ""
  if ["yes", "true", "on"].contains word then .ok true
  else if ["no", "false", "off"].contains word then .ok false
  else Parsed.misread .notBool

/-- A day or a moment, which there has to be in the calendar; a line feed behind it does not
    count. -/
def datedOf (s : Text) : Parsed Key :=
  match (chars? s).bind fun cs => dated? (dropFinalBreak cs) with
  | none => Parsed.misread .notMoment
  | some (.day d) =>
    match d.flaw? with
    | some part => Parsed.misread (.outOfRange part)
    | none => .ok (.day d)
  | some (.moment m) =>
    match m.flaw? with
    | some part => Parsed.misread (.outOfRange part)
    | none => .ok (.moment m)

/-- Octets, written with sixty-four characters. -/
def octetsOf (s : Text) : Parsed Key :=
  match (chars? s).filter fun cs => cs.all (·.toNat < 0x80) with
  | some cs => Parsed.ofOption ((Base64.octets? cs).map .octets)
  | none => .error .malformed

/-- The scalar of a kind that a text at a place writes.  A scalar is no collection, and some kinds
    have no scalars. -/
def scalarOf (origin : Nat) (tag : Tag) (s : Text) : Parsed Key :=
  match tag with
  | .null => .ok .null
  | .bool => (boolOf s).map .bool
  | .whole => (wholeOf s).map .int
  | .real => (realOf s).map (realName origin s)
  | .text => .ok (.text s)
  | .dated => datedOf s
  | .octets => octetsOf s
  | .reserved | .merge | .default | .list | .object | .set | .pairs => .error .malformed

end Typewright.Yaml
