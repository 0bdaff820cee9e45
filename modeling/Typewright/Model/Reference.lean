/-
  Foreign keys: which part an attribute plays in them, and which entity it refers to.

  The referenced entity is recorded on the attribute by its class name, and named once more by each
  part of a foreign key.  Only the recorded name is followed.  The parts serve to check it: where
  both are given and no part names the recorded entity, the two disagree, and nothing is mended.
-/
import Typewright.Log.Record
import Typewright.Model.Entity
import Typewright.Text.Blank

namespace Typewright

/-! ## Kinds -/

/-- The part an attribute plays in foreign keys. -/
inductive ForeignKeyKind where
  | none | simple | composite | simpleAndComposite
  deriving DecidableEq, Repr

/-- The word for a part. -/
def ForeignKeyKind.word : ForeignKeyKind → String
  | none => "none"
  | simple => "simple"
  | composite => "composite"
  | simpleAndComposite => "simple_and_composite"

namespace Attribute

/-- The part an attribute plays in foreign keys. -/
def foreignKeyKind (a : Attribute) : ForeignKeyKind :=
  match a.keys.simple, a.keys.composite with
  | true, true => .simpleAndComposite
  | true, false => .simple
  | false, true => .composite
  | false, false => .none

/-! ## Names -/

/-- The names in order, each at its first place only. -/
def firstOccurrences (seen : List Text) : List Text → List Text
  | [] => []
  | n :: rest => if n ∈ seen then firstOccurrences seen rest
    else n :: firstOccurrences (n :: seen) rest

/-- The entities that the parts name, each once, in order. -/
def partEntities (a : Attribute) : List Text :=
  firstOccurrences [] (a.keys.parts.map (·.entity))

/-- The recorded name of the referenced entity, without blanks around it; empty if there is
    none. -/
def reference (a : Attribute) : Text := Text.trimmed (a.keys.references.getD [])

/-- The parts name entities, and the recorded one is not among them. -/
def disagrees (a : Attribute) : Bool :=
  a.reference ≠ [] && a.partEntities ≠ [] && !a.partEntities.contains a.reference

/-- The words for a disagreement. -/
def disagreementText (a : Attribute) : Text :=
  "Attribute '" ++ a.name ++ "' records referenced entity '" ++ a.reference ++
    "' but its FK parts reference " ++ Text.quotedList a.partEntities ++ "."

/-- The words for a disagreement, if there is one. -/
def disagreement? (a : Attribute) : Option Text :=
  if a.disagrees then some a.disagreementText else none

end Attribute

/-! ## Following a reference -/

namespace Model

open Log

/-- Reports that the recorded name of an attribute and its parts disagree. -/
def noteDisagreement (owner : Text) (a : Attribute) : Traced Unit :=
  match a.disagreement? with
  | some text =>
    let shownOwner : Text := if owner = [] then "?" else owner
    .note .warning .references (text ++ " (owner: " ++ shownOwner ++ ")")
  | none => .done ()

/-- The entity that an attribute refers to.  The name of its owner is for messages only and may be
    empty. -/
def follow (m : Model) (owner : Text) (a : Attribute) : Traced Entity :=
  if a.reference = [] then .fail (.noReference owner a.name)
  else do
    noteDisagreement owner a
    match m.entity? a.reference with
    | some e => do
      .note .debug .references
        ("Resolved '" ++ Failure.whereText owner a.name ++ "' → entity '" ++ e.className ++ "'.")
      pure e
    | none => .fail (.danglingReference owner a.name a.reference m.name)

end Model

/-- What reading a model reports: an attribute may ask for two forms of a type at once. -/
def Model.readingRecords (m : Model) : List Log.Record :=
  m.entities.flatMap fun e =>
    (e.attributes.filter (·.hintsConflict)).map fun a =>
      ⟨.warning, .models, "Attribute '" ++ a.name ++
        "' asks for both a primitive and an object type; the object type wins."⟩

end Typewright
