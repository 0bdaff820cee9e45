/-
  Reading the graph of a YAML document off its tokens.

  The tokens are looked at one by one, and a flaw of the text counts as soon as it comes first.  A
  node is put into the graph when its first token is met; a collection is filled in the end.  A node
  may have a name, under which it can be referred to further on, and a tag, which says what kind of
  data it is.  Where a node could stand and none does, there is an empty plain scalar.  Collections
  stand inside one another up to a limit.  A text is one document at most; a text without any holds
  nothing.

  The recursion goes down by fuel: every token costs four steps at most.
-/
import Typewright.Data.Yaml.Graph
import Typewright.Data.Yaml.Token

namespace Typewright.Yaml

/-- Where a node stands. -/
inductive Site where
  /-- In a flow collection, where no block collection may start. -/
  | flow
  /-- In a block sequence, or as the whole document. -/
  | block
  /-- In a block mapping, where the dashes of a sequence need not stand deeper. -/
  | entry
  deriving DecidableEq, Repr

/-- The tokens that are left, and what was read of a document so far. -/
structure Draft where
  tokens : List Token
  /-- What the handles of tags stand for. -/
  stems : List (String × String)
  graph : Graph
  /-- The places of the nodes with names. -/
  anchors : List (String × Place)
  /-- How many collections are open. -/
  depth : Nat

/-- A part of a document is read. -/
abbrev Parser := StateT Draft (Except Flaw)

namespace Parser

/-- The document is not well-formed. -/
def malformed {α : Type} : Parser α := fun _ => .error .malformed

/-- The next token, if there is one. -/
def peek? : Parser (Option Token) := fun d =>
  match d.tokens with
  | .flaw reason :: _ => .error reason
  | tokens => .ok (tokens.head?, d)

/-- Passes the next token. -/
def advance : Parser Unit := modify fun d => { d with tokens := d.tokens.tail }

/-! ## Nodes in the graph -/

/-- Puts a node, which may have a name, in the next place.  No name is given twice. -/
def put (name : Option String) (cell : Cell) : Parser Place := fun d =>
  let place := d.graph.size
  let graph := d.graph.push cell
  match name with
  | none => .ok (place, { d with graph })
  | some name =>
    if (d.anchors.lookup name).isSome then .error .malformed
    else .ok (place, { d with graph, anchors := (name, place) :: d.anchors })

/-- Puts a scalar; a plain one means what its spelling says. -/
def putScalar (name : Option String) (marking : Marking) (plain : Bool) (text : Text) :
    Parser Place :=
  let bySpelling := Tag.ofSpelling text
  put name ⟨marking.tag? (if plain then bySpelling else .text) bySpelling, .scalar text⟩

/-- Puts the scalar that stands where a node is left out. -/
def putEmpty : Parser Place := putScalar none .absent true []

/-- Fills a collection that was put without its members. -/
def fill (place : Place) (content : Content) : Parser Place := fun d =>
  .ok (place, { d with graph := d.graph.modify place fun cell => { cell with content } })

/-- How many collections may stand inside one another. -/
def maxDepth : Nat := 490

/-- Reads the members of a collection. -/
def inside {α : Type} (members : Parser α) : Parser α := fun d =>
  if maxDepth ≤ d.depth then Parsed.misread .tooDeep
  else
    (members { d with depth := d.depth + 1 }).map fun (a, behind) =>
      (a, { behind with depth := d.depth })

/-- Puts a sequence with the members that are read. -/
def putSequence (name : Option String) (marking : Marking) (items : Parser (List Place)) :
    Parser Place := do
  let place ← put name ⟨marking.tag? .list .list, .sequence []⟩
  fill place (.sequence (← inside items))

/-- Puts a mapping with the entries that are read. -/
def putMapping (name : Option String) (marking : Marking)
    (entries : Parser (List (Place × Place))) : Parser Place := do
  let place ← put name ⟨marking.tag? .object .object, .mapping []⟩
  fill place (.mapping (← inside entries))

/-- The place of the node with a name. -/
def placeOf (name : String) : Parser Place := fun d =>
  match d.anchors.lookup name with
  | some place => .ok (place, d)
  | none => .error .malformed

/-! ## Properties -/

/-- What a tag says, of which the handle stands for its stem. -/
def markingOf (tag : TagText) : Parser Marking := fun d =>
  match tag.handle with
  | none => .ok (.ofName tag.rest, d)
  | some handle =>
    match d.stems.lookup handle with
    | some stem => .ok (.ofName (stem ++ tag.rest), d)
    | none => .error .malformed

/-- A name and a tag in front of a node, in either order. -/
def properties : Parser (Option String × Marking) := do
  match ← peek? with
  | some (.anchor name) =>
    advance
    match ← peek? with
    | some (.tag tag) =>
      advance
      pure (some name, ← markingOf tag)
    | _ => pure (some name, .absent)
  | some (.tag tag) =>
    advance
    match ← peek? with
    | some (.anchor name) =>
      advance
      pure (some name, ← markingOf tag)
    | _ => pure (none, ← markingOf tag)
  | _ => pure (none, .absent)

/-! ## Nodes -/

mutual

/-- A node. -/
def node : Nat → Site → Parser Place
  | 0, _ => malformed
  | fuel + 1, site => do
    match ← peek? with
    | some (.alias name) =>
      advance
      placeOf name
    | _ =>
      let (name, marking) ← properties
      content fuel site name marking

/-- A node behind its properties. -/
def content : Nat → Site → Option String → Marking → Parser Place
  | 0, _, _, _ => malformed
  | fuel + 1, site, name, marking => do
    match ← peek?, site with
    | some (.scalar plain text), _ =>
      advance
      putScalar name marking plain text
    | some .openBracket, _ =>
      advance
      putSequence name marking (flowItems fuel)
    | some .openBrace, _ =>
      advance
      putMapping name marking (flowEntries fuel)
    | some .sequenceStart, .block | some .sequenceStart, .entry =>
      advance
      putSequence name marking (blockItems fuel)
    | some .mappingStart, .block | some .mappingStart, .entry =>
      advance
      putMapping name marking (blockEntries fuel)
    | some .dash, .entry => putSequence name marking (looseItems fuel)
    | _, _ =>
      if name.isSome || marking != .absent then putScalar name marking true [] else malformed

/-- A node, or an empty one in front of tokens that can only follow one. -/
def nodeUnless : Nat → Site → List Token → Parser Place
  | 0, _, _ => malformed
  | fuel + 1, site, following => do
    match ← peek? with
    | some next => if following.contains next then putEmpty else node fuel site
    | none => malformed

/-- The members of a block sequence, up to its end. -/
def blockItems : Nat → Parser (List Place)
  | 0 => malformed
  | fuel + 1 => do
    match ← peek? with
    | some .dash =>
      advance
      let item ← nodeUnless fuel .block [.dash, .blockEnd]
      pure (item :: (← blockItems fuel))
    | some .blockEnd =>
      advance
      pure []
    | _ => malformed

/-- The members of a sequence whose dashes stand no deeper than the keys of its mapping. -/
def looseItems : Nat → Parser (List Place)
  | 0 => malformed
  | fuel + 1 => do
    match ← peek? with
    | some .dash =>
      advance
      let item ← nodeUnless fuel .block [.dash, .key, .value, .blockEnd]
      pure (item :: (← looseItems fuel))
    | _ => pure []

/-- The entries of a block mapping, up to its end. -/
def blockEntries : Nat → Parser (List (Place × Place))
  | 0 => malformed
  | fuel + 1 => do
    match ← peek? with
    | some .key =>
      advance
      let key ← nodeUnless fuel .entry [.key, .value, .blockEnd]
      let v ← value fuel .entry [.key, .value, .blockEnd]
      pure ((key, v) :: (← blockEntries fuel))
    | some .blockEnd =>
      advance
      pure []
    | _ => malformed

/-- A colon and the value behind it, or an empty value. -/
def value : Nat → Site → List Token → Parser Place
  | 0, _, _ => malformed
  | fuel + 1, site, following => do
    match ← peek? with
    | some .value =>
      advance
      nodeUnless fuel site following
    | _ => putEmpty

/-- The members of a flow sequence, up to its bracket.  A pair among them is a mapping of one
    entry. -/
def flowItems : Nat → Parser (List Place)
  | 0 => malformed
  | fuel + 1 => do
    match ← peek? with
    | some .closeBracket =>
      advance
      pure []
    | some .key =>
      advance
      let item ← putMapping none .absent (do
        let key ← nodeUnless fuel .flow [.value, .comma, .closeBracket]
        let v ← value fuel .flow [.comma, .closeBracket]
        pure [(key, v)])
      pure (item :: (← moreItems fuel))
    | _ =>
      let item ← node fuel .flow
      pure (item :: (← moreItems fuel))

/-- What follows a member of a flow sequence. -/
def moreItems : Nat → Parser (List Place)
  | 0 => malformed
  | fuel + 1 => do
    match ← peek? with
    | some .comma =>
      advance
      flowItems fuel
    | some .closeBracket =>
      advance
      pure []
    | _ => malformed

/-- The entries of a flow mapping, up to its brace.  One without a colon has an empty value. -/
def flowEntries : Nat → Parser (List (Place × Place))
  | 0 => malformed
  | fuel + 1 => do
    match ← peek? with
    | some .closeBrace =>
      advance
      pure []
    | some .key =>
      advance
      let key ← nodeUnless fuel .flow [.value, .comma, .closeBrace]
      let v ← value fuel .flow [.comma, .closeBrace]
      pure ((key, v) :: (← moreEntries fuel))
    | _ =>
      let key ← node fuel .flow
      let v ← putEmpty
      pure ((key, v) :: (← moreEntries fuel))

/-- What follows an entry of a flow mapping. -/
def moreEntries : Nat → Parser (List (Place × Place))
  | 0 => malformed
  | fuel + 1 => do
    match ← peek? with
    | some .comma =>
      advance
      flowEntries fuel
    | some .closeBrace =>
      advance
      pure []
    | _ => malformed

end

/-! ## Documents -/

/-- The directives in front, and the tokens behind them. -/
def splitDirectives : List Token → List Directive × List Token
  | .directive d :: rest =>
    let (more, rest) := splitDirectives rest
    (d :: more, rest)
  | rest => ([], rest)

/-- The versions that directives give. -/
def versions (ds : List Directive) : List Nat :=
  ds.filterMap fun d => match d with
    | .version major => some major
    | _ => none

/-- The handles that directives declare. -/
def declaredStems (ds : List Directive) : List (String × String) :=
  ds.filterMap fun d => match d with
    | .handle name stem => some (name, stem)
    | _ => none

/-- The handles that a document uses without declaring them. -/
def defaultStems : List (String × String) := [("!", "!"), ("!!", "tag:yaml.org,2002:")]

/-- The directives suit each other: the version is the first one, and is given once, and so is what
    a handle stands for. -/
def areConsistent (ds : List Directive) : Bool :=
  (versions ds == [] || versions ds == [1]) &&
    decide ((declaredStems ds).map (·.1)).Nodup

/-- The directives in front of a document; behind them its mark has to stand. -/
def header : Parser Unit := do
  let (ds, rest) := splitDirectives (← get).tokens
  if !areConsistent ds then malformed
  modify fun d => { d with tokens := rest, stems := declaredStems ds ++ defaultStems }
  let next ← peek?
  if !ds.isEmpty && next != some .documentStart then malformed

/-- The node of a document; without a document there is none. -/
def root (fuel : Nat) : Parser (Option Place) := do
  match ← peek? with
  | none => pure none
  | some .documentStart =>
    advance
    match ← peek? with
    | none | some .documentStart | some .documentEnd | some (.directive _) => some <$> putEmpty
    | _ => some <$> node fuel .block
  | _ => some <$> node fuel .block

/-- The end of a document, behind which no other one may start. -/
def ending : Parser Unit := do
  modify fun d => { d with tokens := d.tokens.dropWhile (· == .documentEnd) }
  if (← peek?).isSome then
    header
    malformed

/-- The node of the only document. -/
def document (fuel : Nat) : Parser (Option Place) := do
  header
  let place ← root fuel
  ending
  pure place

end Parser

/-- The graph that the tokens of a document form, and the place of its node, if it has one. -/
def Graph.ofTokens (tokens : List Token) : Parsed (Option (Place × Graph)) := do
  let fuel := 4 * tokens.length + 4
  let (place, draft) ← (Parser.document fuel).run ⟨tokens, [], #[], [], 0⟩
  pure (place.map fun place => (place, draft.graph))

end Typewright.Yaml
