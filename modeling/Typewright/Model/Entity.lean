/-
  Entities and models.

  An entity has an index of its attributes by name, and a model one of its entities by class name;
  the names are distinct, and the types say so.  A further rule holds inside an entity: an attribute
  that is part of a composite foreign key shares one of its keys with another attribute, if it lists
  key parts at all.  `Entity.build` and `Model.build` check these rules and report the first that
  fails.
-/
import Typewright.Data.Index
import Typewright.Model.CompositeKey
import Typewright.Schema.Fault

namespace Typewright

/-! ## Repeated names -/

/-- The names that occur more than once, each once, in ascending order. -/
def duplicates (names : List Text) : List Text :=
  (names.filter fun n => 1 < names.count n).eraseDups.mergeSort Text.le

/-! ## Entities -/

/-- An entity: a class with attributes. -/
structure Entity where
  /-- The name of the class, by which other entities refer to it. -/
  className : Text
  /-- The table that stores it. -/
  table : Option Text
  attributes : List Attribute
  className_ne : className ≠ []
  /-- No two attributes share a name. -/
  distinct : (attributes.map (·.name)).Nodup
  /-- Parts of composite foreign keys are not alone. -/
  composite : ∀ a ∈ attributes, CompositeOk attributes a

namespace Entity

/-- Builds an entity, or says which rule its attributes break. -/
def build (className : Name) (table : Option Text)
    (attributes : List Attribute) : Except Objection Entity :=
  if distinct : (attributes.map (·.name)).Nodup then
    match h : attributes.find? (KeyGroups.ofAttributes attributes).isLone with
    | some a => .error (.loneCompositePart className a.name)
    | none =>
      .ok
        { className := className.val, table, attributes, className_ne := className.ne,
          distinct,
          composite := KeyGroups.find?_isLone_eq_none_iff.1 h }
  else .error (.duplicateAttributes className (duplicates (attributes.map (·.name))))

/-- The attributes under their names. -/
def index (e : Entity) : Index Text Attribute := Index.ofList Attribute.name e.attributes

/-- The attribute with a given name. -/
def attribute? (e : Entity) (name : Text) : Option Attribute := e.index.lookup name

/-- The attributes that form the key. -/
def keyAttributes (e : Entity) : List Attribute := e.attributes.filter (·.isKey)

/-- The names of the attributes that form the key. -/
def keyNames (e : Entity) : List Text := e.keyAttributes.map (·.name)

end Entity

/-! ## Models -/

/-- A neutral model: entities that refer to each other by class name. -/
structure Model where
  name : Text
  entities : List Entity
  name_ne : name ≠ []
  /-- No two entities share a class name. -/
  distinct : (entities.map (·.className)).Nodup

namespace Model

/-- Builds a model, or says which class names its entities share. -/
def build (name : Name) (entities : List Entity) : Except Objection Model :=
  if distinct : (entities.map (·.className)).Nodup then
    .ok { name := name.val, entities, name_ne := name.ne, distinct }
  else .error (.duplicateEntities (duplicates (entities.map (·.className))))

/-- The entities under their class names. -/
def index (m : Model) : Index Text Entity := Index.ofList Entity.className m.entities

/-- The entity with a given class name. -/
def entity? (m : Model) (className : Text) : Option Entity := m.index.lookup className

/-- Some entity has this class name. -/
def hasEntity (m : Model) (className : Text) : Bool := (m.entity? className).isSome

/-- The class names, in order. -/
def classNames (m : Model) : List Text := m.entities.map (·.className)

/-- The number of attributes of all entities. -/
def attributeCount (m : Model) : Nat := (m.entities.flatMap (·.attributes)).length

end Model

end Typewright
