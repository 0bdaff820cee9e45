/-
  The nodes of a YAML document as a graph.

  Every node has a place.  A collection lists the places of its members, so that a node can be
  reached in several ways: an alias stands for the place of the node that was given its name further
  in front, and a collection may even contain itself.  No name is given twice.

  At its place a node has a tag, be it written or follow from the spelling.
-/
import Typewright.Data.Flaw
import Typewright.Data.Yaml.Tag

namespace Typewright.Yaml

/-- The place of a node. -/
abbrev Place := Nat

/-- What a node consists of. -/
inductive Content where
  | scalar (text : Text)
  | sequence (items : List Place)
  | mapping (entries : List (Place × Place))
  deriving DecidableEq, Repr

/-- A node at its place. -/
structure Cell where
  /-- Its kind; a tag that names none says that it is of an unknown one. -/
  tag : Option Tag
  content : Content
  deriving DecidableEq, Repr

/-- The nodes of a document by their places. -/
abbrev Graph := Array Cell

/-! ## Tags -/

/-- What the tag of a node says about its kind. -/
inductive Marking where
  /-- There is no tag. -/
  | absent
  /-- The spelling decides, in quotes too. -/
  | spelled
  /-- It is of this kind. -/
  | kind (tag : Tag)
  /-- It is of a kind that there is none of. -/
  | unknown
  deriving DecidableEq, Repr

namespace Marking

/-- What a tag says. -/
def ofName (name : String) : Marking :=
  if name == Tag.openName then spelled else ((Tag.ofName? name).map kind).getD unknown

/-- The kind of a node that without a tag is of one kind, and by its spelling of another. -/
def tag? (own bySpelling : Tag) : Marking → Option Tag
  | absent => some own
  | spelled => some bySpelling
  | kind tag => some tag
  | unknown => none

end Marking

/-! ## Looking at a graph -/

namespace Graph

/-- The kind of the node at a place. -/
def tagAt (g : Graph) (p : Place) : Option Tag := g[p]?.bind (·.tag)

/-- The content of the node at a place. -/
def contentAt? (g : Graph) (p : Place) : Option Content := g[p]?.map (·.content)

/-- The entries of the mapping at a place; another node has none. -/
def entriesAt (g : Graph) (p : Place) : List (Place × Place) :=
  match g.contentAt? p with
  | some (.mapping entries) => entries
  | _ => []

/-- The text that the node at a place gives where a scalar is asked for: that of a scalar, or what
    the default key of a mapping names.  The search goes on for so many steps. -/
def textAt (g : Graph) : Nat → Place → Parsed Text
  | 0, _ => Parsed.misread .endless
  | steps + 1, p =>
    match g.contentAt? p with
    | some (.scalar text) => .ok text
    | some (.mapping entries) =>
      match entries.find? fun entry => g.tagAt entry.1 == some .default with
      | some entry => textAt g steps entry.2
      | none => .error .malformed
    | _ => .error .malformed

end Graph

end Typewright.Yaml
