/-
  Writing attributes, entities and models as data: every field by name with its final value, beside
  the views that are computed from them (the key attributes of an entity, the number of entities).
  Also the short texts that stand for them in messages.
-/
import Typewright.Data.Value
import Typewright.Model.Entity

namespace Typewright

/-! ## Data -/

/-- A decimal as the text that keeps its scale, or no value. -/
def Value.ofDecimal? : Option Decimal → Value
  | some d => .text d.scientific
  | none => .null

/-- A natural number, or no value. -/
def Value.ofNat? (n : Option Nat) : Value := .ofInt? (n.map Int.ofNat)

/-- The fields of the constraints. -/
def Constraints.fields (c : Constraints) : Fields :=
  [("not_null", .bool c.notNull), ("not_empty", .bool c.notEmpty),
    ("not_blank", .bool c.notBlank), ("long_text", .bool c.longText),
    ("min_length", .ofNat? c.minLength), ("max_length", .ofNat? c.maxLength),
    ("pattern", .ofText? c.pattern),
    ("min_value", .ofDecimal? c.minValue), ("max_value", .ofDecimal? c.maxValue),
    ("initial_value", .ofText? c.initialValue), ("default_value", .ofText? c.defaultValue),
    ("label", .ofText? c.label), ("input_type", .ofText? c.inputType)]

/-- The fields of the hints. -/
def TypeHints.fields (h : TypeHints) : Fields :=
  [("primitive_type", .bool h.primitive), ("object_type", .bool h.object),
    ("unsigned_type", .bool h.unsigned)]

/-- The fields of the temporal constraints. -/
def Temporal.fields (t : Temporal) : Fields :=
  [("date_type", .text t.part.word), ("date_past", .bool t.past),
    ("date_future", .bool t.future), ("date_before_value", .ofText? t.before),
    ("date_after_value", .ofText? t.after)]

/-- The fields of the stored truth values. -/
def BooleanLiterals.fields (l : BooleanLiterals) : Fields :=
  [("boolean_true_value", .ofText? l.whenTrue), ("boolean_false_value", .ofText? l.whenFalse)]

/-- The fields of the column. -/
def Column.fields (c : Column) : Fields :=
  [("database_name", .ofText? c.name), ("database_type", .ofText? c.type),
    ("database_size", .ofText? c.size), ("database_comment", .ofText? c.comment),
    ("database_default_value", .ofText? c.defaultValue),
    ("database_not_null", .bool c.notNull), ("is_auto_incremented", .bool c.autoIncremented),
    ("database_type_code", .ofInt? c.typeCode), ("database_type_name", .ofText? c.typeName),
    ("sql_type", .ofText? c.sqlType)]

/-- One part of a foreign key as data. -/
def ForeignKeyPart.toValue (p : ForeignKeyPart) : Value :=
  .object
    [("fk_name", .text p.key), ("referenced_entity_name", .text p.entity),
      ("referenced_attribute_name", .text p.target), ("referenced_table_name", .text p.tableName),
      ("referenced_column_name", .text p.columnName)]

/-- The fields of the part played in keys. -/
def KeyRole.fields (r : KeyRole) : Fields :=
  [("is_key_element", .bool r.primary), ("is_fk", .bool r.foreign),
    ("is_fk_simple", .bool r.simple), ("is_fk_composite", .bool r.composite),
    ("referenced_entity_class_name", .ofText? r.references),
    ("fk_parts", .list (r.parts.map ForeignKeyPart.toValue))]

/-- The description of a sequence generator as data. -/
def SequenceGenerator.toValue (g : SequenceGenerator) : Value :=
  .object
    [("name", .ofText? g.name), ("sequence_name", .ofText? g.sequence),
      ("allocation_size", .ofNat? g.allocationSize)]

/-- The description of a table generator as data. -/
def TableGenerator.toValue (g : TableGenerator) : Value :=
  .object
    [("name", .ofText? g.name), ("table", .ofText? g.table),
      ("pk_column_name", .ofText? g.keyColumn), ("value_column_name", .ofText? g.valueColumn),
      ("pk_column_value", .ofText? g.keyValue)]

/-- What is written of a thing that may be absent. -/
def Value.ofOption {α : Type} (write : α → Value) : Option α → Value
  | some a => write a
  | none => .null

/-- The fields of the generation. -/
def Generation.fields (g : Generation) : Fields :=
  [("is_generated_value", .bool g.generated),
    ("generated_value_strategy", .text g.strategy.word),
    ("generated_value_generator", .ofText? g.generatorName),
    ("sequence_generator",
      .ofOption SequenceGenerator.toValue (g.generator.bind Generator.sequence?)),
    ("table_generator", .ofOption TableGenerator.toValue (g.generator.bind Generator.table?))]

/-- The fields of the persistence flags. -/
def Persistence.fields (p : Persistence) : Fields :=
  [("insertable", .text p.insertable.word), ("updatable", .text p.updatable.word),
    ("is_transient", .bool p.transient)]

/-- The fields of the use in links. -/
def LinkUse.fields (l : LinkUse) : Fields :=
  [("is_used_in_links", .bool l.inLinks), ("is_used_in_selected_links", .bool l.inSelectedLinks)]

/-- The field for tags. -/
def tagFields (tags : List (Text × Text)) : Fields :=
  [("tags", .object (Fields.ofTexts tags))]

namespace Attribute

/-- The fields that say what an attribute is. -/
def identityFields (a : Attribute) : Fields :=
  [("name", .text a.name), ("neutral_type", .text a.type.word), ("selected", .bool a.selected)]

/-- The fields of an attribute. -/
def fields (a : Attribute) : Fields :=
  a.identityFields ++ a.constraints.fields ++ a.hints.fields ++ a.temporal.fields
    ++ a.literals.fields ++ a.column.fields ++ a.keys.fields ++ a.generation.fields
    ++ a.persistence.fields ++ tagFields a.tags ++ a.links.fields

/-- An attribute as data. -/
def toValue (a : Attribute) : Value := .object a.fields

end Attribute

/-- The fields an entity is read from. -/
def Entity.fields (e : Entity) : Fields :=
  [("class_name", .text e.className), ("database_table", .ofText? e.table),
    ("attributes", .list (e.attributes.map Attribute.toValue))]

/-- The field for what the attributes of an entity say about keys. -/
def Entity.keyFields (e : Entity) : Fields :=
  [("key_attribute_names", .list (e.keyNames.map .text))]

/-- An entity as data, with the names of its key attributes. -/
def Entity.toValue (e : Entity) : Value := .object (e.fields ++ e.keyFields)

/-- A model as data, with the number of its entities. -/
def Model.toValue (m : Model) : Value :=
  .object
    [("name", .text m.name), ("entities", .list (m.entities.map Entity.toValue)),
      ("entity_count", .int m.entities.length)]

/-! ## Short texts -/

/-- The short text of a foreign-key part. -/
def ForeignKeyPart.summary (p : ForeignKeyPart) : Text :=
  "<FKPart " ++ p.key ++ " → " ++ p.entity ++ "." ++ p.target ++ ">"

/-- The short text of an attribute. -/
def Attribute.summary (a : Attribute) : Text :=
  "<Attribute " ++ a.name ++ " " ++ a.type.word ++ (if a.isKey then " KEY" else "") ++
    (if a.isForeignKey then " FK" else "") ++ ">"

/-- The short text of an entity. -/
def Entity.summary (e : Entity) : Text :=
  "<Entity " ++ e.className ++ " (" ++ toString e.attributes.length ++ " attributes)>"

/-- The short text of a model. -/
def Model.summary (m : Model) : Text :=
  "<Model " ++ m.name ++ ": " ++ toString m.entities.length ++ " entities, " ++
    toString m.attributeCount ++ " attributes>"

end Typewright
