/-
  The tags of YAML nodes: what kind of data a node is.

  A tag is named, or follows from the spelling of a plain scalar: nothing, a truth value, a whole
  number in one of five notations, a number with a point, a day or a moment, or else a text.
  Underscores may stand among the digits of numbers.  A leading zero makes a whole number octal, and
  parts with colons between them count sixties.
-/
import Typewright.Data.Yaml.MomentText
import Typewright.Text.HexDigit

namespace Typewright.Yaml

/-- A kind of data. -/
inductive Tag where
  | null
  | bool
  | whole
  | real
  | text
  /-- A day or a moment. -/
  | dated
  | octets
  /-- A mark of the format, which is no data. -/
  | reserved
  /-- A key that merges a mapping into another. -/
  | merge
  /-- A default key: it is a text, and names the scalar that its mapping stands for. -/
  | default
  | list
  | object
  | set
  /-- A list of pairs. -/
  | pairs
  deriving DecidableEq, Repr

namespace Tag

/-! ## Names -/

/-- In front of the names of all kinds. -/
def stem : String := "tag:yaml.org,2002:"

/-- The tag that leaves the kind to the spelling. -/
def openName : String := "!"

/-- The names of the kinds. -/
def names : List (String × Tag) :=
  [("null", null), ("bool", bool), ("int", whole), ("float", real), ("str", text),
    ("timestamp", dated), ("binary", octets), ("merge", merge), ("value", default), ("seq", list),
    ("map", object), ("set", set), ("omap", pairs), ("pairs", pairs), ("yaml", reserved)]

/-- The kind with a name. -/
def ofName? (name : String) : Option Tag :=
  (names.map fun (word, tag) => (stem ++ word, tag)).lookup name

/-! ## Shapes of numbers -/

/-- A digit, or an underscore among digits. -/
def isDigitPart (c : Char) : Bool := c.isDigit || c == '_'

/-- Digits and underscores, starting with a digit. -/
def isNumeral : List Char → Bool
  | [] => false
  | c :: cs => c.isDigit && cs.all isDigitPart

/-- A part that counts up to sixty: one digit, or two of which the first is below six. -/
def isSixtieth : List Char → Bool
  | [c] => c.isDigit
  | [c, d] => '0' ≤ c && c ≤ '5' && d.isDigit
  | _ => false

/-- A numeral and at least one part that counts up to sixty, with colons between them. -/
def isSexagesimal (s : List Char) : Bool :=
  match s.splitOn ':' with
  | first :: second :: rest => isNumeral first && (second :: rest).all isSixtieth
  | _ => false

/-- A binary digit, or an underscore. -/
def isBinaryPart (c : Char) : Bool := c == '0' || c == '1' || c == '_'

/-- An octal digit, or an underscore. -/
def isOctalPart (c : Char) : Bool := ('0' ≤ c && c ≤ '7') || c == '_'

/-- A hexadecimal digit, or an underscore. -/
def isHexPart (c : Char) : Bool := (Text.hexValue? c).isSome || c == '_'

/-- The shape of a whole number without its sign. -/
def isWhole : List Char → Bool
  | '0' :: 'b' :: rest => !rest.isEmpty && rest.all isBinaryPart
  | '0' :: 'x' :: rest => !rest.isEmpty && rest.all isHexPart
  | '0' :: rest => rest.all isOctalPart
  | s => isNumeral s || isSexagesimal s

/-- The power of ten of a number with a point: it has a sign, or is not there. -/
def isPointExponent : List Char → Bool
  | [] => true
  | c :: sign :: ds =>
    (c == 'e' || c == 'E') && (sign == '+' || sign == '-') && !ds.isEmpty && ds.all Char.isDigit
  | _ => false

/-- Digits, a point, digits and a power of ten.  Behind a sign the point is not the first. -/
def isPointNumber (signed : Bool) (s : List Char) : Bool :=
  let whole := s.takeWhile isDigitPart
  match s.dropWhile isDigitPart with
  | '.' :: rest =>
    let fraction := rest.takeWhile isDigitPart
    (if whole.isEmpty then !signed && isNumeral fraction else isNumeral whole) &&
      isPointExponent (rest.dropWhile isDigitPart)
  | _ => false

/-- Parts that count sixties, with a point behind the last one. -/
def isPointSexagesimal (s : List Char) : Bool :=
  match s.dropWhile (· != '.') with
  | '.' :: fraction => isSexagesimal (s.takeWhile (· != '.')) && fraction.all isDigitPart
  | _ => false

/-- The words for infinity. -/
def infinityWords : List String := [".inf", ".Inf", ".INF"]

/-- The words for an undefined number, which has no sign. -/
def undefinedWords : List String := [".nan", ".NaN", ".NAN"]

/-- The shape of a number with a point, without its sign. -/
def isReal (signed : Bool) (s : List Char) : Bool :=
  isPointNumber signed s || isPointSexagesimal s || infinityWords.contains (String.ofList s) ||
    (!signed && undefinedWords.contains (String.ofList s))

/-! ## Plain scalars -/

/-- The words for nothing. -/
def nullWords : List String := ["", "~", "null", "Null", "NULL"]

/-- The words for a truth value. -/
def boolWords : List String :=
  ["true", "True", "TRUE", "yes", "Yes", "YES", "on", "On", "ON", "false", "False", "FALSE", "no",
    "No", "NO", "off", "Off", "OFF"]

/-- The marks of the format, which a plain scalar cannot start with. -/
def reservedWords : List String := ["!", "&", "*"]

/-- The kind that the characters of a plain scalar say. -/
def ofChars (s : List Char) : Tag :=
  let word := String.ofList s
  let body := (Decimal.readSign s).2
  if nullWords.contains word then null
  else if boolWords.contains word then bool
  else if reservedWords.contains word then reserved
  else if word = "=" then default
  else if word = "<<" then merge
  else if isReal (body.length != s.length) body then real
  else if isWhole body then whole
  else if isDated s then dated
  else text

/-- The kind that the spelling of a scalar says.  A line feed behind it does not count, but one
    alone is a text. -/
def ofSpelling (s : Text) : Tag :=
  match Text.chars? s with
  | none | some ['\n'] => text
  | some cs => ofChars (dropFinalBreak cs)

end Tag

end Typewright.Yaml
