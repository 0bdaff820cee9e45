/-
  Snapshots: the resolved values of an attribute at one moment, for reports.

  A snapshot shows both names of the type and so does not depend on which of them the context
  shows.
-/
import Typewright.Data.Value
import Typewright.Resolution.Context

namespace Typewright

/-- The resolved values of an attribute. -/
structure Snapshot where
  entity : Text
  name : Text
  type : NeutralType
  language : LanguageType
  getter : Text
  setter : Text
  columnName : Text
  /-- The native type with its size. -/
  nativeType : Text
  sqlType : Text
  isKey : Bool
  foreignKey : ForeignKeyKind
  generated : Bool
  /-- The generation strategy in force. -/
  strategy : GenerationStrategy
  insertable : TriState
  updatable : TriState
  transient : Bool
  deriving DecidableEq

/-- The values of a snapshot by name. -/
def Snapshot.fields (s : Snapshot) : Fields :=
  [("entity", .text s.entity), ("name", .text s.name), ("neutral_type", .text s.type.word),
    ("simple_type", .text s.language.simple), ("full_type", .text s.language.full),
    ("wrapper_type", .text s.language.wrapper), ("is_primitive_type", .bool s.language.primitive),
    ("getter", .text s.getter), ("setter", .text s.setter),
    ("database_name", .text s.columnName), ("database_type_with_size", .text s.nativeType),
    ("sql_type", .text s.sqlType), ("is_key_element", .bool s.isKey),
    ("fk_kind", .text s.foreignKey.word), ("is_generated_value", .bool s.generated),
    ("generation_strategy", .text s.strategy.word), ("insertable", .text s.insertable.word),
    ("updatable", .text s.updatable.word), ("is_transient", .bool s.transient)]

/-- The snapshot of a context whose types are given. -/
def Context.snapshotWith (c : Context) (language : LanguageType) (getter : Text) : Snapshot where
  entity := c.entity.className
  name := c.name
  type := c.subject.type
  language := language
  getter := getter
  setter := c.setter
  columnName := Context.orEmpty c.subject.column.name
  nativeType := c.nativeType
  sqlType := c.sqlType
  isKey := c.subject.isKey
  foreignKey := c.subject.foreignKeyKind
  generated := c.subject.generatedValue.generated
  strategy := c.subject.generatedValue.effective
  insertable := c.subject.persistence.insertable
  updatable := c.subject.persistence.updatable
  transient := c.subject.persistence.transient

/-- The snapshot of a context. -/
def Context.snapshot (c : Context) : Traced Snapshot := do
  let language ← .ofExcept c.languageType
  let getter ← .ofExcept c.getter
  let _ ← c.tracedSqlType
  pure (c.snapshotWith language getter)

end Typewright
