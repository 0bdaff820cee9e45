/-
  Reading attributes, entities and models from their descriptions.

  A description is an object with the fields listed here, in the order in which faults are
  reported; any other field is a fault.  Two things are stated twice in a description and once in
  the model, and are checked against each other when the fields are read: the flag for foreign keys
  must agree with the flags for their two kinds, and of the two generators at most one may be
  there.
-/
import Typewright.Model.Entity
import Typewright.Schema.Reader

namespace Typewright

open Reader

/-! ## Groups of fields -/

/-- Reads the constraints. -/
def Constraints.read (fields : Fields) : Checked Constraints :=
  Constraints.mk
    <$> field "not_null" false bool fields
    <*> field "not_empty" false bool fields
    <*> field "not_blank" false bool fields
    <*> field "long_text" false bool fields
    <*> optionalField "min_length" nat fields
    <*> optionalField "max_length" nat fields
    <*> optionalField "pattern" text fields
    <*> optionalField "min_value" decimal fields
    <*> optionalField "max_value" decimal fields
    <*> optionalField "initial_value" text fields
    <*> optionalField "default_value" text fields
    <*> optionalField "label" text fields
    <*> optionalField "input_type" text fields

/-- Reads the hints for the language type. -/
def TypeHints.read (fields : Fields) : Checked TypeHints :=
  TypeHints.mk
    <$> field "primitive_type" false bool fields
    <*> field "object_type" false bool fields
    <*> field "unsigned_type" false bool fields

/-- Reads the temporal constraints. -/
def Temporal.read (fields : Fields) : Checked Temporal :=
  Temporal.mk
    <$> field "date_type" .undefined (memberOr .undefined) fields
    <*> field "date_past" false bool fields
    <*> field "date_future" false bool fields
    <*> optionalField "date_before_value" text fields
    <*> optionalField "date_after_value" text fields

/-- Reads the stored truth values. -/
def BooleanLiterals.read (fields : Fields) : Checked BooleanLiterals :=
  BooleanLiterals.mk
    <$> optionalField "boolean_true_value" text fields
    <*> optionalField "boolean_false_value" text fields

/-- Reads the column. -/
def Column.read (fields : Fields) : Checked Column :=
  Column.mk
    <$> optionalField "database_name" text fields
    <*> optionalField "database_type" text fields
    <*> optionalField "database_size" Reader.size fields
    <*> optionalField "database_comment" text fields
    <*> optionalField "database_default_value" text fields
    <*> field "database_not_null" false bool fields
    <*> field "is_auto_incremented" false bool fields
    <*> optionalField "database_type_code" int fields
    <*> optionalField "database_type_name" text fields
    <*> optionalField "sql_type" text fields

/-- Reads one part of a foreign key. -/
def ForeignKeyPart.read : Reader ForeignKeyPart :=
  object "ForeignKeyPart"
    ["fk_name", "referenced_entity_name", "referenced_attribute_name", "referenced_table_name",
      "referenced_column_name"]
    (fun fields =>
      (fun key entity target tableName columnName =>
        { key := key.val, entity := entity.val, target := target.val, tableName, columnName,
          key_ne := key.ne, entity_ne := entity.ne, target_ne := target.ne })
      <$> required "fk_name" Reader.name fields
      <*> required "referenced_entity_name" Reader.name fields
      <*> required "referenced_attribute_name" Reader.name fields
      <*> field "referenced_table_name" [] text fields
      <*> field "referenced_column_name" [] text fields)
    .ok

/-- Reads the part played in keys, beside the flag for foreign keys as it was stated. -/
def KeyRole.read (fields : Fields) : Checked (Bool × KeyRole) :=
  (fun primary foreign simple composite references parts =>
    (foreign, { primary, simple, composite, references, parts }))
    <$> field "is_key_element" false bool fields
    <*> field "is_fk" false bool fields
    <*> field "is_fk_simple" false bool fields
    <*> field "is_fk_composite" false bool fields
    <*> optionalField "referenced_entity_class_name" text fields
    <*> field "fk_parts" [] (list ForeignKeyPart.read) fields

/-- Reads the description of a sequence generator. -/
def SequenceGenerator.read : Reader SequenceGenerator :=
  object "SequenceGenerator" ["name", "sequence_name", "allocation_size"]
    (fun fields =>
      SequenceGenerator.mk
        <$> optionalField "name" text fields
        <*> optionalField "sequence_name" text fields
        <*> optionalField "allocation_size" nat fields)
    .ok

/-- Reads the description of a table generator. -/
def TableGenerator.read : Reader TableGenerator :=
  object "TableGenerator"
    ["name", "table", "pk_column_name", "value_column_name", "pk_column_value"]
    (fun fields =>
      TableGenerator.mk
        <$> optionalField "name" text fields
        <*> optionalField "table" text fields
        <*> optionalField "pk_column_name" text fields
        <*> optionalField "value_column_name" text fields
        <*> optionalField "pk_column_value" text fields)
    .ok

/-- What a description says about generation, with both generators as they were stated. -/
structure GenerationDraft where
  generated : Bool
  strategy : GenerationStrategy
  generatorName : Option Text
  sequence : Option SequenceGenerator
  table : Option TableGenerator

/-- Reads what is said about generation. -/
def GenerationDraft.read (fields : Fields) : Checked GenerationDraft :=
  GenerationDraft.mk
    <$> field "is_generated_value" false bool fields
    <*> field "generated_value_strategy" .unset (foldedMemberOr .unset) fields
    <*> optionalField "generated_value_generator" text fields
    <*> optionalField "sequence_generator" SequenceGenerator.read fields
    <*> optionalField "table_generator" TableGenerator.read fields

/-- The generation that is meant, unless there are two generators. -/
def GenerationDraft.settle (d : GenerationDraft) (name : Text) : Except Objection Generation :=
  match d.sequence, d.table with
  | some _, some _ => .error (.twoGenerators name)
  | some g, none => .ok ⟨d.generated, d.strategy, d.generatorName, some (.sequence g)⟩
  | none, some g => .ok ⟨d.generated, d.strategy, d.generatorName, some (.table g)⟩
  | none, none => .ok ⟨d.generated, d.strategy, d.generatorName, none⟩

/-- Reads the persistence flags. -/
def Persistence.read (fields : Fields) : Checked Persistence :=
  Persistence.mk
    <$> field "insertable" .undefined triState fields
    <*> field "updatable" .undefined triState fields
    <*> field "is_transient" false bool fields

/-- Reads the use in links. -/
def LinkUse.read (fields : Fields) : Checked LinkUse :=
  LinkUse.mk
    <$> field "is_used_in_links" false bool fields
    <*> field "is_used_in_selected_links" false bool fields

/-! ## Attributes -/

/-- An attribute as described, before its parts are checked against each other. -/
structure AttributeDraft where
  name : Name
  type : NeutralType
  selected : Bool
  constraints : Constraints
  hints : TypeHints
  temporal : Temporal
  literals : BooleanLiterals
  column : Column
  /-- The flag for foreign keys as stated, and the rest of the part played in keys. -/
  keys : Bool × KeyRole
  generation : GenerationDraft
  persistence : Persistence
  tags : List (Text × Text)
  links : LinkUse

namespace AttributeDraft

/-- The fields of an attribute. -/
def fieldNames : List String :=
  ["name", "neutral_type", "selected",
    "not_null", "not_empty", "not_blank", "long_text", "min_length", "max_length", "pattern",
    "min_value", "max_value", "initial_value", "default_value", "label", "input_type",
    "primitive_type", "object_type", "unsigned_type",
    "date_type", "date_past", "date_future", "date_before_value", "date_after_value",
    "boolean_true_value", "boolean_false_value",
    "database_name", "database_type", "database_size", "database_comment",
    "database_default_value", "database_not_null", "is_auto_incremented", "database_type_code",
    "database_type_name", "sql_type",
    "is_key_element", "is_fk", "is_fk_simple", "is_fk_composite",
    "referenced_entity_class_name", "fk_parts",
    "is_generated_value", "generated_value_strategy", "generated_value_generator",
    "sequence_generator", "table_generator",
    "insertable", "updatable", "is_transient",
    "tags", "is_used_in_links", "is_used_in_selected_links"]

/-- Reads the fields of an attribute. -/
def read (fields : Fields) : Checked AttributeDraft :=
  AttributeDraft.mk
    <$> required "name" Reader.name fields
    <*> required "neutral_type" member fields
    <*> field "selected" true bool fields
    <*> Constraints.read fields
    <*> TypeHints.read fields
    <*> Temporal.read fields
    <*> BooleanLiterals.read fields
    <*> Column.read fields
    <*> KeyRole.read fields
    <*> GenerationDraft.read fields
    <*> Persistence.read fields
    <*> field "tags" [] (mapping entryName text) fields
    <*> LinkUse.read fields

/-- The attribute that is meant, unless parts of its description disagree. -/
def settle (d : AttributeDraft) : Except Objection Attribute :=
  match d.generation.settle d.name with
  | .error reason => .error reason
  | .ok generation =>
    let (stated, keys) := d.keys
    if stated = keys.foreign then
      .ok
        { name := d.name.val, type := d.type, selected := d.selected,
          constraints := d.constraints, hints := d.hints, temporal := d.temporal,
          literals := d.literals, column := d.column, keys, generation,
          persistence := d.persistence, tags := d.tags, links := d.links,
          name_ne := d.name.ne }
    else .error (.foreignKeyFlags d.name stated keys.simple keys.composite)

end AttributeDraft

/-- Reads an attribute. -/
def Attribute.read : Reader Attribute :=
  object "Attribute" AttributeDraft.fieldNames AttributeDraft.read AttributeDraft.settle

/-! ## Entities and models -/

/-- Reads an entity. -/
def Entity.read : Reader Entity :=
  object "Entity" ["class_name", "database_table", "attributes"]
    (fun fields =>
      (fun className table attributes => (className, table, attributes))
        <$> required "class_name" Reader.name fields
        <*> optionalField "database_table" text fields
        <*> field "attributes" [] (list Attribute.read) fields)
    (fun (className, table, attributes) => Entity.build className table attributes)

/-- Reads a model. -/
def Model.read : Reader Model :=
  object "Model" ["name", "entities"]
    (fun fields =>
      (fun modelName entities => (modelName, entities))
        <$> field "name" ⟨"model", by decide⟩ Reader.name fields
        <*> field "entities" [] (list Entity.read) fields)
    (fun (modelName, entities) => Model.build modelName entities)

end Typewright
