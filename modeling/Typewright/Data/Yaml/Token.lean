/-
  The tokens of YAML documents.

  Indentation and the places of colons decide where block collections start and end, so the tokens
  are found along with a layout: the columns of the open block collections, the open flow
  collections, and on every level of these the place where a key may have started.  Whether a scalar
  or a flow collection is a key shows at the colon behind it; the tokens in front of it are then put
  in at the place that was kept.  Such a key lies on one line, within a limited number of
  characters.  At the indentation of its block nothing but a key may start, so there a colon has to
  follow.

  Where the text is broken the tokens end with a flaw.  In front of it stand only those that could
  be told without looking so far: what may still turn out to be a key is not one of them.
-/
import Typewright.Data.Yaml.TagText

namespace Typewright.Yaml

open Spot

/-- A token. -/
inductive Token where
  /-- A line in front of a document. -/
  | directive (d : Directive)
  /-- The mark in front of a document. -/
  | documentStart
  /-- The mark behind a document. -/
  | documentEnd
  /-- A block sequence starts. -/
  | sequenceStart
  /-- A block mapping starts. -/
  | mappingStart
  /-- A block collection ends. -/
  | blockEnd
  | openBracket
  | closeBracket
  | openBrace
  | closeBrace
  | comma
  /-- The dash in front of a member of a block sequence. -/
  | dash
  /-- In front of a key. -/
  | key
  /-- The colon in front of a value. -/
  | value
  /-- Gives a name to the node behind it. -/
  | anchor (name : String)
  /-- Says what kind of data the node behind it is. -/
  | tag (text : TagText)
  /-- Stands for the node with a name. -/
  | alias (name : String)
  /-- A scalar; a plain one means what its spelling says. -/
  | scalar (plain : Bool) (text : Text)
  /-- The text is broken here. -/
  | flaw (reason : Flaw)
  deriving DecidableEq, Repr

/-- A place where a key may have started. -/
structure Candidate where
  /-- How many tokens stand in front of it. -/
  position : Nat
  /-- Nothing else may start here. -/
  required : Bool
  start : Spot

/-- The tokens so far, and what the next one depends on. -/
structure Layout where
  /-- The columns of the open block collections, innermost first. -/
  indents : List Nat
  /-- The candidate for a key outside of flow collections, or in the innermost one. -/
  candidate : Option Candidate
  /-- The candidates on the levels further out. -/
  enclosing : List (Option Candidate)
  /-- A key may start here. -/
  mayStartKey : Bool
  /-- The tokens, the last one first. -/
  tokens : List Token
  /-- The number of tokens. -/
  count : Nat

namespace Layout

/-- In front of a document. -/
def start : Layout := ⟨[], none, [], true, [], 0⟩

/-- A flow collection is open. -/
def inFlow (l : Layout) : Bool := !l.enclosing.isEmpty

/-- Adds a token. -/
def push (l : Layout) (t : Token) : Layout :=
  { l with tokens := t :: l.tokens, count := l.count + 1 }

/-- Sets whether a key may start. -/
def allowKey (l : Layout) (allowed : Bool) : Layout := { l with mayStartKey := allowed }

/-! ## Block collections -/

/-- A block collection that starts in this column is a new one. -/
def isDeeper (l : Layout) (column : Nat) : Bool :=
  match l.indents with
  | [] => true
  | indent :: _ => indent < column

/-- Ends the block collections that stand deeper than a column; all of them if there is none. -/
def unwind (l : Layout) (column : Option Nat) : Layout :=
  if l.inFlow then l
  else
    let ended := l.indents.takeWhile fun indent => column.all (· < indent)
    { l with
      indents := l.indents.drop ended.length
      tokens := ended.map (fun _ => .blockEnd) ++ l.tokens
      count := l.count + ended.length }

/-- Starts a block collection in a column if there is none yet. -/
def openBlock (l : Layout) (t : Token) (column : Nat) : Layout :=
  if !l.inFlow && l.isDeeper column then { l.push t with indents := column :: l.indents } else l

/-! ## Keys -/

/-- A key may be at most this long. -/
def maxKeyLength : Nat := 1024

/-- A key cannot have started here any more. -/
def isStale (here : Spot) (c : Candidate) : Bool :=
  c.start.line != here.line || maxKeyLength < here.index - c.start.index

/-- Forgets a candidate if it is stale; a required one must not be. -/
def refresh (here : Spot) : Option Candidate → Option (Option Candidate)
  | none => some none
  | some c =>
    if !isStale here c then some (some c)
    else if c.required then none
    else some none

/-- Forgets all stale candidates. -/
def refreshAll (l : Layout) (here : Spot) : Option Layout := do
  pure
    { l with
      candidate := ← refresh here l.candidate
      enclosing := ← l.enclosing.mapM (refresh here) }

/-- Forgets the candidate; a required one must not be forgotten. -/
def dropCandidate (l : Layout) : Option Layout :=
  if (l.candidate.map (·.required)).getD false then none else some { l with candidate := none }

/-- Keeps a place where a key may start. -/
def keepCandidate (l : Layout) (here : Spot) : Option Layout :=
  if l.mayStartKey then do
    let required := !l.inFlow && l.indents.head? == some here.column
    let l ← l.dropCandidate
    pure { l with candidate := some ⟨l.count, required, here⟩ }
  else some l

/-- Puts tokens in behind the first `position` ones. -/
def insert (l : Layout) (position : Nat) (ts : List Token) : Layout :=
  let behind := l.count - position
  { l with
    tokens := l.tokens.take behind ++ ts.reverse ++ l.tokens.drop behind
    count := l.count + ts.length }

/-- What started at a candidate is a key; it may be the first one of its mapping. -/
def confirm (l : Layout) (c : Candidate) : Layout :=
  let l := { l with candidate := none }
  if !l.inFlow && l.isDeeper c.start.column then
    { l.insert c.position [.mappingStart, .key] with indents := c.start.column :: l.indents }
  else l.insert c.position [.key]

/-! ## Tokens -/

/-- A mark between documents. -/
def marker (l : Layout) (t : Token) : Option Layout := do
  pure (((← (l.unwind none).dropCandidate).allowKey false).push t)

/-- A bracket or a brace opens a flow collection. -/
def openFlow (l : Layout) (here : Spot) (t : Token) : Option Layout := do
  let l ← l.keepCandidate here
  let inner := { l with candidate := none, enclosing := l.candidate :: l.enclosing }
  pure ((inner.allowKey true).push t)

/-- A bracket or a brace closes a flow collection. -/
def closeFlow (l : Layout) (t : Token) : Option Layout := do
  let l ← l.dropCandidate
  match l.enclosing with
  | [] => none
  | candidate :: enclosing =>
    pure (({ l with candidate, enclosing }.allowKey false).push t)

/-- A comma between the members of a flow collection. -/
def comma (l : Layout) : Option Layout := do
  pure ((← (l.allowKey true).dropCandidate).push .comma)

/-- A dash in front of a member of a block sequence; in a flow collection it is out of place, but a
    token all the same. -/
def dash (l : Layout) (here : Spot) : Option Layout := do
  if !l.inFlow && !l.mayStartKey then none
  else pure ((← ((l.openBlock .sequenceStart here.column).allowKey true).dropCandidate).push .dash)

/-- A question mark in front of a key. -/
def explicitKey (l : Layout) (here : Spot) : Option Layout := do
  if !l.inFlow && !l.mayStartKey then none
  else
    let l := (l.openBlock .mappingStart here.column).allowKey !l.inFlow
    pure ((← l.dropCandidate).push .key)

/-- A colon in front of a value. -/
def colon (l : Layout) (here : Spot) : Option Layout := do
  match l.candidate with
  | some c => pure (((l.confirm c).allowKey false).push .value)
  | none =>
    if !l.inFlow && !l.mayStartKey then none
    else pure (((l.openBlock .mappingStart here.column).allowKey !l.inFlow).push .value)

/-- A scalar in quotes. -/
def quoted (l : Layout) (here : Spot) (rest : List Spot) : Parsed (Layout × List Spot) := do
  let l ← Parsed.ofOption (l.keepCandidate here)
  let (text, after) ← quotedText here.char (rest.length + 1) rest
  pure ((l.allowKey false).push (.scalar false text), after)

/-- A plain scalar. -/
def plain (l : Layout) (here : Spot) (rest : List Spot) : Option (Layout × List Spot) := do
  let l ← l.keepCandidate here
  let found := plainText l.inFlow l.indents.head? (rest.length + 1) (here :: rest)
  pure ((l.allowKey found.lineEnded).push (.scalar true (Text.ofChars found.text)),
    found.rest)

/-- A block scalar. -/
def blockScalar (l : Layout) (folded : Bool) (rest : List Spot) :
    Option (Layout × List Spot) := do
  let l ← (l.allowKey true).dropCandidate
  let (text, after) ← blockText? folded l.indents.head? rest
  pure (l.push (.scalar false (Text.ofChars text)), after)

/-- The name of an anchor may end in front of this. -/
def endsName (s : List Spot) : Bool :=
  atSeparator s || "?:,]\x7d%@\x60".toList.contains (charAt s)

/-- An anchor or an alias. -/
def named (l : Layout) (here : Spot) (token : String → Token) (rest : List Spot) :
    Option (Layout × List Spot) := do
  let l ← l.keepCandidate here
  let (name, after) := nameText rest
  if name.isEmpty || !endsName after then none
  else pure ((l.allowKey false).push (token (String.ofList name)), after)

/-- A tag. -/
def tag (l : Layout) (here : Spot) (rest : List Spot) : Option (Layout × List Spot) := do
  let l ← l.keepCandidate here
  let (text, after) ← tagText? rest
  pure ((l.allowKey false).push (.tag text), after)

/-- A directive. -/
def directive (l : Layout) (rest : List Spot) : Parsed (Layout × List Spot) := do
  let l ← Parsed.ofOption (l.unwind none).dropCandidate
  let (d, after) ← Yaml.directive rest
  pure ((l.allowKey false).push (.directive d), after)

/-- The characters that a plain scalar starts with only in front of others, or not at all. -/
def isIndicator (c : Char) : Bool :=
  "-?:,[]\x7b\x7d#&*!|>'\"%@\x60".toList.contains c

/-- A plain scalar starts here. -/
def startsPlain (l : Layout) (c : Char) (rest : List Spot) : Bool :=
  !(isIndicator c || isSeparator c) ||
    (!atSeparator rest && (c == '-' || (!l.inFlow && (c == '?' || c == ':'))))

/-- The token that starts with a character, and what follows it, unless it is a directive or a
    scalar in quotes. -/
def unquoted (l : Layout) (here : Spot) (rest : List Spot) : Option (Layout × List Spot) :=
  let c := here.char
  let single (next : Option Layout) : Option (Layout × List Spot) := next.map fun l => (l, rest)
  if atMarker '-' (here :: rest) then (l.marker .documentStart).map fun l => (l, rest.drop 2)
  else if atMarker '.' (here :: rest) then (l.marker .documentEnd).map fun l => (l, rest.drop 2)
  else if c == '[' then single (l.openFlow here .openBracket)
  else if c == '\x7b' then single (l.openFlow here .openBrace)
  else if c == ']' then single (l.closeFlow .closeBracket)
  else if c == '\x7d' then single (l.closeFlow .closeBrace)
  else if c == ',' then single l.comma
  else if c == '-' && atSeparator rest then single (l.dash here)
  else if c == '?' && (l.inFlow || atSeparator rest) then single (l.explicitKey here)
  else if c == ':' && (l.inFlow || atSeparator rest) then single (l.colon here)
  else if c == '*' then l.named here .alias rest
  else if c == '&' then l.named here .anchor rest
  else if c == '!' then l.tag here rest
  else if (c == '|' || c == '>') && !l.inFlow then l.blockScalar (c == '>') rest
  else if l.startsPlain c rest then l.plain here rest
  else none

/-- The token that starts with a character, and what follows it. -/
def token (l : Layout) (here : Spot) (rest : List Spot) : Parsed (Layout × List Spot) :=
  if here.char == '\x27' || here.char == '\x22' then l.quoted here rest
  else if here.char == '%' && here.column == 0 then l.directive rest
  else Parsed.ofOption (l.unquoted here rest)

/-- Drops blanks, comments and line ends in front of a token, and says whether a line ended. -/
def skipFiller (inComment lineEnded : Bool) : List Spot → Bool × List Spot
  | [] => (lineEnded, [])
  | s :: rest =>
    if isBreak s.char then skipFiller false true rest
    else if s.char == ' ' || (inComment && s.char != endMark) then
      skipFiller inComment lineEnded rest
    else if s.char == '#' then skipFiller true lineEnded rest
    else (lineEnded, s :: rest)

/-- The next token and what follows it; behind the last one nothing does. -/
def next (l : Layout) (s : List Spot) : Parsed (Layout × Option (List Spot)) :=
  let (lineEnded, s) := skipFiller false false s
  let l := l.allowKey (l.mayStartKey || (lineEnded && !l.inFlow))
  match s with
  | [] => .error .malformed
  | here :: rest => do
    let l ← Parsed.ofOption (l.refreshAll here)
    if here.char == endMark then
      pure (← Parsed.ofOption (l.unwind none).dropCandidate, none)
    else
      let (l, rest) ← (l.unwind (some here.column)).token here rest
      pure (l, some rest)

/-- How many tokens stand in front of every place where a key may have started. -/
def settledCount (l : Layout) : Nat :=
  (l.candidate :: l.enclosing).foldl
    (fun count c => (c.map fun c => min c.position count).getD count) l.count

/-- The tokens if the text is broken somewhere behind a place. -/
def broken (l : Layout) (flaw : Flaw) (s : List Spot) : List Token :=
  match s.head?.map l.refreshAll with
  | some (some l) => l.tokens.reverse.take l.settledCount ++ [.flaw flaw]
  | _ => [.flaw .malformed]

/-- The tokens of a document, those from a place on included. -/
def scan : Nat → Layout → List Spot → List Token
  | 0, _, _ => [.flaw .malformed]
  | fuel + 1, l, s =>
    match l.next s with
    | .ok (l, some rest) => scan fuel l rest
    | .ok (l, none) => l.tokens.reverse
    | .error flaw => l.broken flaw s

end Layout

/-- The tokens of a document. -/
def tokens (document : List Char) : List Token :=
  let s := Spot.sequence document
  if document.all isAllowed then Layout.start.scan s.length s else [.flaw .malformed]

end Typewright.Yaml
