/-
  The texts of YAML scalars, plain ones and those in quotes.

  A scalar may go on over several lines.  The end of a line, with the blanks on either side of it,
  then counts as a space; if empty lines follow, it is the empty lines that count, each as a line
  break.  A mark between documents ends a plain scalar and must not stand in a quoted one.
-/
import Typewright.Data.Flaw
import Typewright.Data.Yaml.Spot
import Typewright.Text.HexDigit

namespace Typewright.Yaml

open Spot

/-- A line break in the text of a scalar. -/
def breakText (c : Char) : Char := if c == '\u2028' || c == '\u2029' then c else '\n'

/-- What the end of a line, and the ends of the empty lines behind it, stand for. -/
def foldedBreaks (first : Char) (more : List Char) : List Char :=
  if breakText first ≠ '\n' then breakText first :: more
  else if more.isEmpty then [' ']
  else more

/-! ## Plain scalars -/

/-- The text of a plain scalar, and what follows it. -/
structure PlainText where
  text : List Char
  /-- A line ended between the text and what follows. -/
  lineEnded : Bool
  rest : List Spot

/-- A bracket, a brace or a comma. -/
def isFlowMark (c : Char) : Bool := [',', '[', ']', '\x7b', '\x7d'].contains c

/-- A character, with the others behind it, ends a run of a plain scalar.  A colon does so in front
    of a separator.  In a flow collection the marks of such collections do so too. -/
def endsRun (inFlow : Bool) (c : Char) (rest : List Spot) : Bool :=
  isSeparator c || (c == ':' && (atSeparator rest || (inFlow && isFlowMark (charAt rest)))) ||
    (inFlow && (isFlowMark c || c == '?'))

/-- The characters of a plain scalar up to the next blank. -/
def plainRun (inFlow : Bool) : List Spot → List Char × List Spot
  | [] => ([], [])
  | s :: rest =>
    if endsRun inFlow s.char rest then ([], s :: rest)
    else
      let (more, after) := plainRun inFlow rest
      (s.char :: more, after)

/-- Drops spaces and empty lines, and gives the ends of the empty lines.  It stops at a mark between
    documents. -/
def emptyLines : List Spot → List Char × List Spot
  | [] => ([], [])
  | s :: rest =>
    if atAnyMarker (s :: rest) then ([], s :: rest)
    else if s.char == ' ' then emptyLines rest
    else if isBreak s.char then
      let (more, after) := emptyLines rest
      (breakText s.char :: more, after)
    else ([], s :: rest)

/-- What stands between two runs of a plain scalar: spaces, or the ends of lines. -/
def plainGap (s : List Spot) : PlainText :=
  let spaces := s.takeWhile (·.char == ' ')
  match s.dropWhile (·.char == ' ') with
  | b :: rest =>
    if isBreak b.char then
      let (breaks, after) := emptyLines rest
      ⟨foldedBreaks b.char breaks, true, after⟩
    else ⟨spaces.map (·.char), false, b :: rest⟩
  | [] => ⟨[], false, []⟩

/-- A plain scalar does not go on here: nothing was left between it and the next character, a
    comment or a mark between documents stands here, or the line is not deeper than the block that
    the scalar belongs to. -/
def plainStops (inFlow : Bool) (indent : Option Nat) (gap : PlainText) : Bool :=
  gap.text.isEmpty || atAnyMarker gap.rest || charAt gap.rest == '#' ||
    (!inFlow && (indent.map fun i => columnAt gap.rest ≤ i : Option Bool).getD false)

/-- The runs of a plain scalar, with the gaps between them. -/
def plainText (inFlow : Bool) (indent : Option Nat) : Nat → List Spot → PlainText
  | 0, s => ⟨[], false, s⟩
  | fuel + 1, s =>
    let (run, after) := plainRun inFlow s
    let gap := plainGap after
    if run.isEmpty then ⟨[], false, s⟩
    else if plainStops inFlow indent gap then ⟨run, gap.lineEnded, gap.rest⟩
    else
      let more := plainText inFlow indent fuel gap.rest
      if more.text.isEmpty then ⟨run, gap.lineEnded, gap.rest⟩
      else ⟨run ++ gap.text ++ more.text, more.lineEnded, more.rest⟩

/-! ## Scalars in quotes -/

/-- Drops blanks and empty lines, and gives the ends of the empty lines. -/
def quotedEmptyLines? : List Spot → Option (List Char × List Spot)
  | [] => none
  | s :: rest =>
    if atAnyMarker (s :: rest) then none
    else if isSpaceOrTab s.char then quotedEmptyLines? rest
    else if isBreak s.char then
      (quotedEmptyLines? rest).map fun (more, after) => (breakText s.char :: more, after)
    else some ([], s :: rest)

/-- Blanks inside quotes, or the ends of lines. -/
def quotedGap? (s : List Spot) : Option (List Char × List Spot) :=
  let blanks := s.takeWhile fun spot => isSpaceOrTab spot.char
  match s.dropWhile fun spot => isSpaceOrTab spot.char with
  | b :: rest =>
    if isBreak b.char then
      (quotedEmptyLines? rest).map fun (breaks, after) => (foldedBreaks b.char breaks, after)
    else some (blanks.map (·.char), b :: rest)
  | [] => none

/-- The character that an escape stands for, by its letter. -/
def escapedChar? (c : Char) : Option Char :=
  [('0', '\x00'), ('a', '\x07'), ('b', '\x08'), ('t', '\t'), ('\t', '\t'), ('n', '\n'),
    ('v', '\x0b'), ('f', '\x0c'), ('r', '\r'), ('e', '\x1b'), (' ', ' '), ('\x22', '\x22'),
    ('/', '/'), ('\\', '\\'), ('N', '\x85'), ('_', '\u00a0'), ('L', '\u2028'),
    ('P', '\u2029')].lookup c

/-- The number of hexadecimal digits behind the letter of an escape that gives a code point. -/
def escapeWidth? (c : Char) : Option Nat := [('x', 2), ('u', 4), ('U', 8)].lookup c

/-- The code point of an escape that gives its number with so many digits. -/
def codeEscape (width : Nat) (s : List Spot) : Parsed CodePoint := do
  let n ← Parsed.ofOption (Text.hexNumber? ((s.take width).map (·.char)))
  if s.length < width then .error .malformed
  else
    match CodePoint.ofNat? n with
    | some c => pure c
    | none => Parsed.misread (.noCharacter n)

/-- What an escape stands for, from behind its backslash.  At the end of a line it takes that end
    away. -/
def escape : List Spot → Parsed (Text × List Spot)
  | [] => .error .malformed
  | s :: rest =>
    match escapedChar? s.char, escapeWidth? s.char with
    | some c, _ => pure ([.char c], rest)
    | none, some width => (codeEscape width rest).map fun c => ([c], rest.drop width)
    | none, none =>
      if isBreak s.char then
        Parsed.ofOption ((quotedEmptyLines? rest).map fun (breaks, after) =>
          (Text.ofChars breaks, after))
      else .error .malformed

/-- The text of a scalar in quotes, from behind the first one; `quote` is the quote in use.  In
    single quotes a quote is doubled, in double ones a backslash starts an escape. -/
def quotedText (quote : Char) : Nat → List Spot → Parsed (Text × List Spot)
  | 0, _ => .error .malformed
  | _ + 1, [] => .error .malformed
  | fuel + 1, s :: rest =>
    let goOn (part : Text) (after : List Spot) : Parsed (Text × List Spot) :=
      (quotedText quote fuel after).map fun (more, after) => (part ++ more, after)
    if s.char == endMark then .error .malformed
    else if isSpaceOrTab s.char || isBreak s.char then
      (Parsed.ofOption (quotedGap? (s :: rest))).bind fun (gap, after) =>
        goOn (Text.ofChars gap) after
    else if s.char == quote then
      if quote == '\x27' && charAt rest == quote then goOn [quote] (rest.drop 1)
      else pure ([], rest)
    else if s.char == '\\' && quote == '\x22' then
      (escape rest).bind fun (part, after) => goOn part after
    else goOn [s.char] rest

end Typewright.Yaml
