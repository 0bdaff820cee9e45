/-
  Reading YAML documents: one document of collections and scalars.

  The data of a node is that of its parts; its tag says of what kind the data is.  An entry is named
  by a scalar of any kind; a collection names none.  Of a repeated name the first spelling and the
  last value count.

  A document that is well-formed as a graph of nodes can still have flaws: a collection as a name, a
  tag that does not suit its node, or a scalar without a meaning.  The first one that is met counts.
  A scalar is read where it is met; a collection is only announced there, and looked into after all
  that were announced before.

  In the end the places in collections are replaced by what stands there.  A collection that is met
  inside itself becomes a loop.
-/
import Typewright.Data.Yaml.Merge
import Typewright.Data.Yaml.Parser
import Typewright.Data.Yaml.ScalarValue

namespace Typewright.Yaml

/-- What the node at a place is, with the places of its members. -/
inductive Piece where
  | scalar (key : Key)
  | list (items : List Place)
  | object (entries : List (Key × Place))
  | set (members : List Key)
  | pairs (entries : List (Place × Place))

/-- How far a document has been read. -/
structure Reading where
  graph : Graph
  /-- What is known of the nodes, by their places. -/
  pieces : Array (Option Piece)
  /-- The places of the collections that were announced and not looked into, the last one first. -/
  announced : List Place

namespace Reading

/-- Nothing has been read. -/
def start (g : Graph) : Reading := ⟨g, g.map fun _ => none, []⟩

/-- What is known of the node at a place. -/
def known? (r : Reading) (p : Place) : Option Piece := r.pieces[p]?.join

/-- Keeps what the node at a place is. -/
def keep (r : Reading) (p : Place) (piece : Piece) : Reading :=
  { r with pieces := r.pieces.setIfInBounds p (some piece) }

/-- Announces the collection at a place. -/
def announce (r : Reading) (p : Place) (empty : Piece) : Reading :=
  { r.keep p empty with announced := p :: r.announced }

/-- The scalar of a kind at a place.  A day or a moment is sought in the node itself. -/
def scalarAt (r : Reading) (p : Place) (tag : Tag) : Parsed Key := do
  let text ← r.graph.textAt (r.graph.size + 1) p
  match tag, r.graph.contentAt? p with
  | .dated, some (.mapping _) => Parsed.misread .momentOfMapping
  | _, _ => scalarOf p tag text

/-- Meets the node at a place. -/
def meet (r : Reading) (p : Place) : Parsed Reading :=
  if (r.known? p).isSome then .ok r
  else
    match r.graph.tagAt p with
    | some .list => .ok (r.announce p (.list []))
    | some .object => .ok (r.announce p (.object []))
    | some .set => .ok (r.announce p (.set []))
    | some .pairs => .ok (r.announce p (.pairs []))
    | some .reserved | some .merge | some .default | none => .error .malformed
    | some tag => (r.scalarAt p tag).map fun key => r.keep p (.scalar key)

/-- The name that the node at a place gives to an entry. -/
def nameAt (r : Reading) (p : Place) : Parsed Key :=
  match r.known? p with
  | some (.scalar key) => .ok key
  | _ => .error .malformed

/-- Meets entries one after another, each name before its value, and gives the names. -/
def meetEntries (r : Reading) : List (Place × Place) → Parsed (List (Key × Place) × Reading)
  | [] => .ok ([], r)
  | (first, second) :: rest => do
    let r ← r.meet first
    let key ← r.nameAt first
    let (more, r) ← (← r.meet second).meetEntries rest
    pure ((key, second) :: more, r)

/-- Meets the nodes of pairs one after another, each of them a mapping of one entry. -/
def meetPairs (r : Reading) : List Place → Parsed (List (Place × Place) × Reading)
  | [] => .ok ([], r)
  | item :: rest =>
    match r.graph.contentAt? item with
    | some (.mapping [(first, second)]) => do
      let (more, r) ← (← (← r.meet first).meet second).meetPairs rest
      pure ((first, second) :: more, r)
    | _ => .error .malformed

/-- Meets the entries of the mapping at a place, with those that its merge keys stand for. -/
def meetMapping (r : Reading) (p : Place) : Parsed (List (Key × Place) × Reading) := do
  let graph ← Parsed.ofOption (r.graph.merged? p)
  let (entries, r) ← { r with graph }.meetEntries (graph.entriesAt p)
  pure (Key.storeAll entries, r)

/-- Looks into the collection at a place. -/
def lookInto (r : Reading) (p : Place) : Parsed Reading :=
  match r.graph.tagAt p, r.graph.contentAt? p with
  | some .list, some (.sequence items) => do
    pure ((← items.foldlM meet r).keep p (.list items))
  | some .pairs, some (.sequence items) => do
    let (pairs, r) ← r.meetPairs items
    pure (r.keep p (.pairs pairs))
  | some .object, some (.mapping _) => do
    let (entries, r) ← r.meetMapping p
    pure (r.keep p (.object entries))
  | some .set, some (.mapping _) => do
    let (entries, r) ← r.meetMapping p
    pure (r.keep p (.set (entries.map (·.1))))
  | _, _ => .error .malformed

/-- Looks into all collections, round by round; every round but the last looks into one at least. -/
def finish : Nat → Reading → Parsed Reading
  | 0, r => .ok r
  | rounds + 1, r =>
    if r.announced.isEmpty then .ok r
    else do
      let next ← r.announced.reverse.foldlM lookInto { r with announced := [] }
      finish rounds next

end Reading

/-! ## Data -/

/-- Data that stands at places and refers to no place around it. -/
abbrev Settled := Array (Option Value)

/-- The data at a place, inside the collections at the places `around`, and which of these places it
    refers to.  What refers to none is settled and made only once. -/
def valueAt (pieces : Array (Option Piece)) :
    Nat → List Place → Place → StateM Settled (Value × List Place)
  | 0, _, _ => pure (.null, [])
  | depth + 1, around, p => do
    if let some v := (← get)[p]?.join then return (v, [])
    let inside := valueAt pieces depth (p :: around)
    let (v, places) ← match pieces[p]?.join with
      | none => pure (.null, [])
      | some (.scalar key) => pure (key.toValue, [])
      | some (.set members) => pure (.set members, [])
      | some (.object entries) =>
        if around.contains p then pure (.again p true, [p])
        else do
          let found ← entries.mapM fun entry => do
            let (v, places) ← inside entry.2
            pure ((entry.1, v), places)
          pure (.object (found.map (·.1)), found.flatMap (·.2))
      | some (.list items) =>
        if around.contains p then pure (.again p false, [p])
        else do
          let found ← items.mapM inside
          pure (.list (found.map (·.1)), found.flatMap (·.2))
      | some (.pairs entries) =>
        if around.contains p then pure (.again p false, [p])
        else do
          let found ← entries.mapM fun entry => do
            let (first, places) ← inside entry.1
            let (second, more) ← inside entry.2
            pure (Value.pair first second, places ++ more)
          pure (.list (found.map (·.1)), found.flatMap (·.2))
    if places.isEmpty then
      modify fun settled => settled.setIfInBounds p (some v)
      pure (v, [])
    else if around.contains p then pure (v, places)
    else pure (.loop p v, (places.filter (· != p)).eraseDups)

/-- The data at a place of a document that has been read. -/
def Reading.value (r : Reading) (p : Place) : Value :=
  ((valueAt r.pieces (r.graph.size + 1) [] p).run (r.pieces.map fun _ => none)).1.1

/-- The value that the graph of a document holds at a place. -/
def Graph.value (g : Graph) (p : Place) : Parsed Value := do
  let r ← (← (Reading.start g).meet p).finish (g.size + 1)
  pure (r.value p)

/-- The value that a document holds; a text without a document holds nothing. -/
def parse (document : String) : Parsed Value := do
  match ← Graph.ofTokens (tokens document.toList) with
  | none => pure .null
  | some (place, graph) => graph.value place

end Typewright.Yaml
