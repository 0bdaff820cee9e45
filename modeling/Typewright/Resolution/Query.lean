/-
  Questions to a context, by the names that templates use, and its methods, which take arguments or
  give a text of the context itself.
-/
import Typewright.Resolution.Snapshot

namespace Typewright

/-- The answer to a question. -/
inductive Answer where
  /-- Data. -/
  | value (v : Value)
  /-- An entity of the model. -/
  | entity (e : Entity)
  /-- The parts of foreign keys. -/
  | parts (ps : List ForeignKeyPart)

namespace Context

/-- An answer that cannot fail. -/
def plainly (v : Value) : Traced Answer := .done (.value v)

/-- A text as an answer. -/
def ofText (s : Text) : Traced Answer := plainly (.text s)

/-- A text that may not be specified, as an answer. -/
def ofOptional (s : Option Text) : Traced Answer := ofText (orEmpty s)

/-- Whether a text is specified and not empty, as an answer. -/
def isGiven (s : Option Text) : Traced Answer := plainly (.bool (orEmpty s != []))

/-- A truth value as an answer. -/
def ofBool (b : Bool) : Traced Answer := plainly (.bool b)

/-- A resolved text as an answer. -/
def ofResolved (s : Except Failure Text) : Traced Answer :=
  .ofExcept (s.map fun t => .value (.text t))

/-- Whether the attribute is of a kind, as an answer. -/
def isOf (c : Context) (type : NeutralType) : Traced Answer := ofBool (c.subject.type == type)

/-- The questions about the value and its constraints. -/
def valueQuestions (c : Context) : List (String × Traced Answer) :=
  let k := c.subject.constraints
  let t := c.subject.temporal
  [("name", ofText c.name), ("entity", .done (.entity c.entity)),
    ("neutral_type", ofText c.subject.type.word), ("is_selected", ofBool c.subject.selected),
    ("is_not_null", ofBool k.notNull), ("is_not_empty", ofBool k.notEmpty),
    ("is_not_blank", ofBool k.notBlank), ("is_long_text", ofBool k.longText),
    ("min_length", ofText (numberText c.minLength)),
    ("max_length", ofText (numberText c.maxLength)), ("pattern", ofOptional k.pattern),
    ("min_value", ofText (decimalText k.minValue)), ("max_value", ofText (decimalText k.maxValue)),
    ("has_initial_value", isGiven k.initialValue), ("initial_value", ofOptional k.initialValue),
    ("has_default_value", isGiven k.defaultValue), ("default_value", ofOptional k.defaultValue),
    ("has_label", isGiven k.label), ("label", ofOptional k.label),
    ("has_input_type", isGiven k.inputType), ("input_type", ofOptional k.inputType),
    ("date_type", plainly (.int t.part.code)), ("has_date_past_validation", ofBool t.past),
    ("has_date_future_validation", ofBool t.future),
    ("has_date_before_validation", isGiven t.before), ("date_before_value", ofOptional t.before),
    ("has_date_after_validation", isGiven t.after), ("date_after_value", ofOptional t.after),
    ("boolean_true_value", ofText (Text.trimmed (orEmpty c.subject.literals.whenTrue))),
    ("boolean_false_value", ofText (Text.trimmed (orEmpty c.subject.literals.whenFalse)))]

/-- The questions about types. -/
def typeQuestions (c : Context) : List (String × Traced Answer) :=
  [("uses_full_type", ofBool c.fullNames), ("type", ofResolved c.typeName),
    ("simple_type", ofResolved c.simpleType), ("full_type", ofResolved c.fullType),
    ("wrapper_type", ofResolved c.wrapperType),
    ("is_primitive_type", .ofExcept (c.isPrimitive.map fun b => .value (.bool b))),
    ("recommended_type", ofText c.recommendedType),
    ("is_string_type", c.isOf .string), ("is_boolean_type", c.isOf .boolean),
    ("is_byte_type", c.isOf .byte), ("is_short_type", c.isOf .short),
    ("is_integer_type", c.isOf .int), ("is_long_type", c.isOf .long),
    ("is_float_type", c.isOf .float), ("is_double_type", c.isOf .double),
    ("is_decimal_type", c.isOf .decimal), ("is_date_type", c.isOf .date),
    ("is_time_type", c.isOf .time), ("is_timestamp_type", c.isOf .timestamp),
    ("is_binary_type", c.isOf .binary), ("is_number_type", ofBool c.subject.type.isNumber),
    ("is_temporal_type", ofBool c.subject.type.isTemporal),
    ("getter", ofResolved c.getter), ("getter_with_get_prefix", ofText c.plainGetter),
    ("setter", ofText c.setter)]

/-- The questions about the column. -/
def columnQuestions (c : Context) : List (String × Traced Answer) :=
  let k := c.subject.column
  [("database_name", ofOptional k.name), ("database_type", ofOptional k.type),
    ("database_size", ofOptional k.size), ("database_type_with_size", ofText c.nativeType),
    ("has_database_comment", isGiven k.comment), ("database_comment", ofOptional k.comment),
    ("has_database_default_value", ofBool c.hasColumnDefault),
    ("database_default_value", ofOptional k.defaultValue),
    ("is_database_not_null", ofBool k.notNull), ("is_auto_incremented", ofBool k.autoIncremented),
    ("database_type_code", plainly (.int (k.typeCode.getD 0))),
    ("database_type_name", ofText c.typeCodeName), ("explicit_sql_type", ofOptional k.sqlType),
    ("sql_type", do return .value (.text (← c.tracedSqlType)))]

/-- The questions about keys and links. -/
def keyQuestions (c : Context) : List (String × Traced Answer) :=
  let k := c.subject.keys
  [("is_key_element", ofBool k.primary), ("is_fk", ofBool k.foreign),
    ("is_fk_simple", ofBool k.simple), ("is_fk_composite", ofBool k.composite),
    ("fk_kind", ofText c.subject.foreignKeyKind.word), ("fk_parts", .done (.parts k.parts)),
    ("referenced_entity", do return .entity (← c.referenced)),
    ("referenced_entity_name", do return .value (.text (← c.referenced).className)),
    ("is_used_in_links", ofBool c.subject.links.inLinks),
    ("is_used_in_selected_links", ofBool c.subject.links.inSelectedLinks)]

/-- The questions about generation and persistence. -/
def generationQuestions (c : Context) : List (String × Traced Answer) :=
  let g := c.subject.generatedValue
  let s := c.subject.sequenceInfo
  let t := c.subject.tableInfo
  let p := c.subject.persistence
  [("is_generated_value", ofBool g.generated),
    ("generated_value_strategy", ofText g.strategy.word),
    ("generated_value_generator", ofText g.generator),
    ("effective_generation_strategy", ofText g.effective.word),
    ("has_sequence_generator", ofBool s.present), ("sequence_generator_name", ofText s.name),
    ("sequence_generator_sequence_name", ofText s.sequence),
    ("sequence_generator_allocation_size", plainly (.int s.allocationSize)),
    ("has_table_generator", ofBool t.present), ("table_generator_name", ofText t.name),
    ("table_generator_table", ofText t.table),
    ("table_generator_pk_column_name", ofText t.keyColumn),
    ("table_generator_value_column_name", ofText t.valueColumn),
    ("table_generator_pk_column_value", ofText t.keyValue),
    ("insertable", ofText p.insertable.word), ("insertable_flag", ofText p.insertable.word),
    ("updatable", ofText p.updatable.word), ("updatable_flag", ofText p.updatable.word),
    ("is_transient", ofBool p.transient),
    ("tags", plainly (.object (Fields.ofTexts c.subject.tags)))]

/-- All questions with their answers, group by group. -/
def groupedQuestions (c : Context) : List (String × Traced Answer) :=
  c.valueQuestions ++ c.typeQuestions ++ c.columnQuestions ++ c.keyQuestions ++
    c.generationQuestions

/-- All questions with their answers, in alphabetical order. -/
def questions (c : Context) : List (String × Traced Answer) :=
  c.groupedQuestions.mergeSort fun a b => a.1 ≤ b.1

/-- The answer to a question. -/
def ask (c : Context) (question : String) : Option (Traced Answer) :=
  c.questions.lookup question

/-! ## Methods -/

/-- What a context does beside answering its questions. -/
inductive Method where
  /-- The name, filled up to a width. -/
  | paddedName (width : Int)
  /-- The name by which the type is shown, filled up to a width. -/
  | paddedType (width : Int)
  /-- The name of the boxed type, filled up to a width. -/
  | paddedWrapperType (width : Int)
  /-- Whether the flag for insertion is decided as given. -/
  | insertableIs (b : Bool)
  /-- Whether the flag for updates is decided as given. -/
  | updatableIs (b : Bool)
  | hasTag (tag : Text)
  /-- The value of a tag, or what stands for it where the tag is not there. -/
  | tagValue (tag : Text) (fallback : Value)
  /-- The resolved values by name. -/
  | snapshot
  /-- The type and the name. -/
  | declaration
  /-- The short text of the context. -/
  | summary

/-- What a method gives. -/
def call (c : Context) : Method → Traced Answer
  | .paddedName width => ofText (Text.padEnd c.name width)
  | .paddedType width => ofResolved (c.typeName.map (Text.padEnd · width))
  | .paddedWrapperType width => ofResolved (c.wrapperType.map (Text.padEnd · width))
  | .insertableIs b => ofBool (decided c.subject.persistence.insertable b)
  | .updatableIs b => ofBool (decided c.subject.persistence.updatable b)
  | .hasTag tag => ofBool (c.hasTag tag)
  | .tagValue tag fallback => plainly (((c.tag? tag).map .text).getD fallback)
  | .snapshot => do return .value (.object (← c.snapshot).fields)
  | .declaration => ofResolved c.declaration
  | .summary => ofText c.summary

end Context

end Typewright
