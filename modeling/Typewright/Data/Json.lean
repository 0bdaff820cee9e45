/-
  Reading JSON documents.

  The reader walks the characters once and gives back what it has not used.  A bracket costs two
  steps and any other token at most one, so twice the length of the document bounds the depth of
  the recursion; it is handed down as fuel.  A number with a fraction or an exponent is rounded to
  the binary format, any other is a whole number, whose digits are limited.  So is the depth of
  lists and objects inside one another.  Beside the standard's values the names of the non-finite
  numbers are read.  Of a repeated name the last value counts.
-/
import Typewright.Data.Flaw
import Typewright.Data.Value
import Typewright.Text.HexDigit

namespace Typewright.Json

open Typewright.Text

/-- One of the four characters that may stand between tokens. -/
def isSpace (c : Char) : Bool := c == ' ' || c == '\t' || c == '\n' || c == '\r'

/-- Drops the space in front. -/
def skipSpace (s : List Char) : List Char := s.dropWhile isSpace

/-- Takes a fixed word off the front. -/
def word? (word : String) (s : List Char) : Option (List Char) :=
  if word.toList.isPrefixOf s then some (s.drop word.toList.length) else none

/-! ## Numbers -/

/-- The digits in front, with no zero before another digit. -/
def wholePart? (s : List Char) : Option (List Char × List Char) :=
  match s with
  | '0' :: rest => some (['0'], rest)
  | _ =>
    let ds := s.takeWhile Char.isDigit
    if ds.isEmpty then none else some (ds, s.dropWhile Char.isDigit)

/-- A point and digits, if both are there. -/
def fractionPart? : List Char → Option (List Char × List Char)
  | '.' :: rest =>
    let ds := rest.takeWhile Char.isDigit
    if ds.isEmpty then none else some (ds, rest.dropWhile Char.isDigit)
  | _ => none

/-- The letter `e`, a sign and digits, if the letter and the digits are there. -/
def exponentPart? : List Char → Option (Int × List Char)
  | c :: rest =>
    if c = 'e' ∨ c = 'E' then
      let (negative, rest) := Decimal.readSign rest
      let ds := rest.takeWhile Char.isDigit
      if ds.isEmpty then none
      else
        let n : Int := Decimal.ofDigits ds
        some (if negative then -n else n, rest.dropWhile Char.isDigit)
    else none
  | [] => none

/-- A number without its sign. -/
def unsigned (negative : Bool) (s : List Char) : Parsed (Value × List Char) := do
  let (whole, s) ← Parsed.ofOption (wholePart? s)
  let fraction := fractionPart? s
  let s := (fraction.map (·.2)).getD s
  let exponent := exponentPart? s
  let s := (exponent.map (·.2)).getD s
  match fraction, exponent with
  | none, none =>
    let n ← boundedNat whole
    pure (.int (if negative then -(n : Int) else n), s)
  | _, _ =>
    let ds := (fraction.map (·.1)).getD []
    let e := (exponent.map (·.1)).getD 0
    let d : Decimal := ⟨negative, Decimal.ofDigits (whole ++ ds), e - ds.length⟩
    pure (.real (Binary64.ofDecimal d), s)

/-! ## Texts -/

/-- Four hexadecimal digits. -/
def fourHex? : List Char → Option (Nat × List Char)
  | a :: b :: c :: d :: rest => (hexNumber? [a, b, c, d]).map fun n => (n, rest)
  | _ => none

/-- The number of a code point from that of its first unit, which may make a pair with the unit that
    follows it. -/
def pairedNumber (n : Nat) (rest : List Char) : Nat × List Char :=
  match rest with
  | '\\' :: 'u' :: more =>
    match fourHex? more with
    | some (m, after) =>
      if CodePoint.isHigh n && CodePoint.isLow m then (CodePoint.pairNumber n m, after)
      else (n, rest)
    | none => (n, rest)
  | _ => (n, rest)

/-- The code point of an escape that gives its number, from behind the letter. -/
def numbered? (s : List Char) : Option (CodePoint × List Char) := do
  let (n, rest) ← fourHex? s
  let (n, rest) := pairedNumber n rest
  pure (← CodePoint.ofNat? n, rest)

/-- The code point of an escape, from behind its backslash. -/
def escape? : List Char → Option (CodePoint × List Char)
  | '\x22' :: rest => some ('\x22', rest)
  | '\\' :: rest => some ('\\', rest)
  | '/' :: rest => some ('/', rest)
  | 'b' :: rest => some ('\x08', rest)
  | 'f' :: rest => some ('\x0c', rest)
  | 'n' :: rest => some ('\n', rest)
  | 'r' :: rest => some ('\r', rest)
  | 't' :: rest => some ('\t', rest)
  | 'u' :: rest => numbered? rest
  | _ => none

/-- A text from behind its opening quote; `done` holds what was read of it, last code point
    first. -/
def textBody : Nat → Text → List Char → Parsed (Text × List Char)
  | 0, _, _ => .error .malformed
  | _ + 1, _, [] => .error .malformed
  | fuel + 1, done, c :: rest =>
    if c = '\x22' then .ok (done.reverse, rest)
    else if c = '\\' then
      match escape? rest with
      | some (d, rest) => textBody fuel (d :: done) rest
      | none => .error .malformed
    else if c.toNat < 0x20 then .error .malformed
    else textBody fuel (c :: done) rest

/-! ## Values -/

/-- The names that stand for a value. -/
def namedValues : List (String × Value) :=
  [("null", .null), ("true", .bool true), ("false", .bool false), ("NaN", .real .undefined),
    ("Infinity", .real (.infinite false)), ("-Infinity", .real (.infinite true))]

/-- A value that is a name or a number. -/
def scalar (s : List Char) : Parsed (Value × List Char) :=
  match namedValues.findSome? fun (name, v) => (word? name s).map fun rest => (v, rest) with
  | some found => .ok found
  | none =>
    match s with
    | '-' :: rest => unsigned true rest
    | _ => unsigned false s

/-- How many lists and objects may stand inside one another. -/
def maxDepth : Nat := 991

mutual

/-- A value and what follows it; so many lists and objects may be open in it at once. -/
def value : Nat → Nat → List Char → Parsed (Value × List Char)
  | 0, _, _ => .error .malformed
  | fuel + 1, depth, s =>
    match s, depth with
    | '\x22' :: rest, _ => do
      let (t, rest) ← textBody fuel [] rest
      pure (.text t, rest)
    | '[' :: _, 0 | '\x7b' :: _, 0 => Parsed.misread .tooDeep
    | '[' :: rest, depth + 1 =>
      match skipSpace rest with
      | ']' :: rest => .ok (.list [], rest)
      | rest => do
        let (items, rest) ← items fuel depth rest
        pure (.list items, rest)
    | '\x7b' :: rest, depth + 1 =>
      match skipSpace rest with
      | '\x7d' :: rest => .ok (.object [], rest)
      | rest => do
        let (entries, rest) ← entries fuel depth rest
        pure (.object (Key.storeAll entries), rest)
    | _, _ => scalar s

/-- The members of a list that is not empty, up to its closing bracket. -/
def items : Nat → Nat → List Char → Parsed (List Value × List Char)
  | 0, _, _ => .error .malformed
  | fuel + 1, depth, s => do
    let (v, s) ← value fuel depth (skipSpace s)
    match skipSpace s with
    | ',' :: rest =>
      let (more, rest) ← items fuel depth rest
      pure (v :: more, rest)
    | ']' :: rest => pure ([v], rest)
    | _ => .error .malformed

/-- The entries of an object that is not empty, up to its closing brace. -/
def entries : Nat → Nat → List Char → Parsed (List (Key × Value) × List Char)
  | 0, _, _ => .error .malformed
  | fuel + 1, depth, s =>
    match skipSpace s with
    | '\x22' :: rest => do
      let (name, s) ← textBody fuel [] rest
      match skipSpace s with
      | ':' :: rest =>
        let (v, s) ← value fuel depth (skipSpace rest)
        match skipSpace s with
        | ',' :: rest =>
          let (more, rest) ← entries fuel depth rest
          pure ((.text name, v) :: more, rest)
        | '\x7d' :: rest => pure ([(.text name, v)], rest)
        | _ => .error .malformed
      | _ => .error .malformed
    | _ => .error .malformed

end

/-- The value that a document holds, with nothing but space around it. -/
def parse (document : String) : Parsed Value := do
  let s := document.toList
  let (v, rest) ← value (2 * s.length + 2) maxDepth (skipSpace s)
  if (skipSpace rest).isEmpty then pure v else .error .malformed

end Typewright.Json
