/-
  The texts of YAML tags and directives.

  A tag is written in full between angle brackets, or as a handle and what follows it; a handle is
  an exclamation mark, or two of them with a name or nothing in between.  A directive in front of a
  document says which version of the format it is written in, or declares what a handle stands for.
  Directives with other names say nothing.
-/
import Typewright.Data.Yaml.BlockScalar

namespace Typewright.Yaml

open Spot

/-- A tag as it is written. -/
structure TagText where
  /-- What stands in front, if that is a handle. -/
  handle : Option String
  rest : String
  deriving DecidableEq, Repr

/-- A directive. -/
inductive Directive where
  /-- The first number of the version. -/
  | version (major : Nat)
  /-- What a handle stands for. -/
  | handle (name stem : String)
  /-- Anything else. -/
  | other
  deriving DecidableEq, Repr

/-! ## Parts -/

/-- A character of a name. -/
def isNameChar (c : Char) : Bool := c.isAlphanum || c == '-' || c == '_'

/-- A name in front, and what follows it. -/
def nameText (s : List Spot) : List Char × List Spot :=
  let name := (s.takeWhile fun spot => isNameChar spot.char).map (·.char)
  (name, s.drop name.length)

/-- A space, the end of a line, or the end of the document stands here. -/
def atGap (s : List Spot) : Bool := atSeparator s && charAt s != '\t'

/-- Drops spaces. -/
def dropSpaces (s : List Spot) : List Spot := s.dropWhile (·.char == ' ')

/-- A character that stands for itself in a tag. -/
def isTagChar (c : Char) : Bool := c.isAlphanum || "-;/?:@&=+$,_.!~*'()[]".toList.contains c

/-- Octets in front, each written as a percent sign and two hexadecimal digits. -/
def escapedOctets? : List Spot → Option (List UInt8 × List Spot)
  | p :: rest =>
    if p.char != '%' then some ([], p :: rest)
    else
      match rest with
      | a :: b :: rest => do
        let n ← Text.hexNumber? [a.char, b.char]
        let (more, rest) ← escapedOctets? rest
        pure (UInt8.ofNat n :: more, rest)
      | _ => none
  | [] => some ([], [])

/-- The characters of a tag in front, and what follows them. -/
def tagChars? : Nat → List Spot → Option (List Char × List Spot)
  | 0, _ => none
  | _ + 1, [] => some ([], [])
  | fuel + 1, s :: rest =>
    if isTagChar s.char then do
      let (more, rest) ← tagChars? fuel rest
      pure (s.char :: more, rest)
    else if s.char == '%' then do
      let (octets, rest) ← escapedOctets? (s :: rest)
      let text ← String.fromUTF8? ⟨octets.toArray⟩
      let (more, rest) ← tagChars? fuel rest
      pure (text.toList ++ more, rest)
    else some ([], s :: rest)

/-- Characters of a tag, of which there is at least one. -/
def tagPart? (s : List Spot) : Option (String × List Spot) := do
  let (part, rest) ← tagChars? (s.length + 1) s
  if part.isEmpty then none else pure (String.ofList part, rest)

/-- A handle of which only the first character may stand alone, from behind that character. -/
def handle? (s : List Spot) : Option (String × List Spot) :=
  if charAt s == ' ' then some ("!", s)
  else
    let (name, rest) := nameText s
    if charAt rest == '!' then some ("!" ++ String.ofList name ++ "!", rest.drop 1) else none

/-! ## Tags -/

/-- A tag from behind its first character, and what follows it. -/
def tagText? (s : List Spot) : Option (TagText × List Spot) := do
  let line := s.takeWhile fun spot => !(spot.char == ' ' || isBreak spot.char)
  let (tag, rest) ←
    if charAt s == '<' then do
      let (text, rest) ← tagPart? (s.drop 1)
      if charAt rest == '>' then pure (TagText.mk none text, rest.drop 1) else none
    else if atSeparator s then pure (TagText.mk none "!", s)
    else if line.any (·.char == '!') then do
      let (handle, rest) ← handle? s
      let (text, rest) ← tagPart? rest
      pure (TagText.mk (some handle) text, rest)
    else do
      let (text, rest) ← tagPart? s
      pure (TagText.mk (some "!") text, rest)
  if atGap rest then pure (tag, rest) else none

/-! ## Directives -/

/-- A number in front, and what follows it. -/
def numberText (s : List Spot) : Parsed (Nat × List Spot) :=
  let digits := (s.takeWhile (·.char.isDigit)).map (·.char)
  if digits.isEmpty then .error .malformed
  else (boundedNat digits).map fun n => (n, s.drop digits.length)

/-- The version that a directive gives. -/
def versionText (s : List Spot) : Parsed (Directive × List Spot) := do
  let (major, rest) ← numberText (dropSpaces s)
  if charAt rest != '.' then .error .malformed
  else
    let (_, rest) ← numberText (rest.drop 1)
    if atGap rest then pure (.version major, rest) else .error .malformed

/-- The handle that a directive declares. -/
def handleText? (s : List Spot) : Option (Directive × List Spot) := do
  let s := dropSpaces s
  if charAt s != '!' then none
  else
    let (handle, rest) ← handle? (s.drop 1)
    if charAt rest != ' ' then none
    else
      let (stem, rest) ← tagPart? (dropSpaces rest)
      if atGap rest then pure (.handle handle stem, rest) else none

/-- A directive from behind its first character, and what follows its line. -/
def directive (s : List Spot) : Parsed (Directive × List Spot) := do
  let (name, rest) := nameText s
  if name.isEmpty || !atGap rest then .error .malformed
  else
    let (d, rest) ←
      if name == "YAML".toList then versionText rest
      else if name == "TAG".toList then Parsed.ofOption (handleText? rest)
      else pure (.other, rest.dropWhile fun spot => !(isBreak spot.char || spot.char == endMark))
    pure (d, ← Parsed.ofOption (headerEnd? rest))

end Typewright.Yaml
