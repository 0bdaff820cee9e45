/-
  Attributes of a neutral model: what a description says about one attribute, in groups that answer
  one question each.

  Where the description has redundant or exclusive parts, the type keeps only what is meant.  That
  an attribute is part of a foreign key follows from the two kinds of key it may be part of, and of
  the two sorts of generator at most one is there.  An absent text or number means that nothing was
  specified.
-/
import Typewright.Model.Kind
import Typewright.Number.Decimal

namespace Typewright

/-! ## Groups -/

/-- Constraints on the value, and what a form shows for it. -/
structure Constraints where
  notNull : Bool
  notEmpty : Bool
  notBlank : Bool
  /-- A text without a useful upper bound on its length. -/
  longText : Bool
  minLength : Option Nat
  maxLength : Option Nat
  pattern : Option Text
  minValue : Option Decimal
  maxValue : Option Decimal
  initialValue : Option Text
  defaultValue : Option Text
  label : Option Text
  inputType : Option Text
  deriving DecidableEq

/-- The form of the language type that is asked for. -/
structure TypeHints where
  primitive : Bool
  object : Bool
  unsigned : Bool
  deriving DecidableEq

/-- Constraints on a temporal value. -/
structure Temporal where
  /-- The meaningful part. -/
  part : DateType
  past : Bool
  future : Bool
  before : Option Text
  after : Option Text
  deriving DecidableEq

/-- How a column without truth values stores them. -/
structure BooleanLiterals where
  whenTrue : Option Text
  whenFalse : Option Text
  deriving DecidableEq

/-- The column that stores the attribute. -/
structure Column where
  name : Option Text
  /-- The native type, without its size. -/
  type : Option Text
  size : Option Text
  comment : Option Text
  defaultValue : Option Text
  notNull : Bool
  autoIncremented : Bool
  /-- The vendor-neutral number of the native type. -/
  typeCode : Option Int
  typeName : Option Text
  /-- An SQL type that replaces every inferred one. -/
  sqlType : Option Text
  deriving DecidableEq

/-- One column of a foreign key, seen from the attribute that stores it. -/
structure ForeignKeyPart where
  /-- The foreign key. -/
  key : Text
  /-- The class name of the referenced entity. -/
  entity : Text
  /-- The referenced attribute. -/
  target : Text
  tableName : Text
  columnName : Text
  key_ne : key ≠ []
  entity_ne : entity ≠ []
  target_ne : target ≠ []
  deriving DecidableEq

/-- The part an attribute plays in keys. -/
structure KeyRole where
  /-- Belongs to the key of its own entity. -/
  primary : Bool
  /-- Is a foreign key by itself. -/
  simple : Bool
  /-- Is one of several columns of a foreign key. -/
  composite : Bool
  /-- The class name of the referenced entity, as recorded. -/
  references : Option Text
  parts : List ForeignKeyPart
  deriving DecidableEq

/-- A generator that counts with a database sequence. -/
structure SequenceGenerator where
  name : Option Text
  sequence : Option Text
  allocationSize : Option Nat
  deriving DecidableEq

/-- A generator that counts in a row of a table. -/
structure TableGenerator where
  name : Option Text
  table : Option Text
  keyColumn : Option Text
  valueColumn : Option Text
  keyValue : Option Text
  deriving DecidableEq

/-- The description of a generator. -/
inductive Generator where
  | sequence (g : SequenceGenerator)
  | table (g : TableGenerator)
  deriving DecidableEq

/-- The sequence that a description names, if it is one of a sequence. -/
def Generator.sequence? : Generator → Option SequenceGenerator
  | sequence g => some g
  | table _ => none

/-- The table that a description names, if it is one of a table. -/
def Generator.table? : Generator → Option TableGenerator
  | sequence _ => none
  | table g => some g

/-- How the value is generated. -/
structure Generation where
  generated : Bool
  strategy : GenerationStrategy
  /-- The name of the generator to use. -/
  generatorName : Option Text
  generator : Option Generator
  deriving DecidableEq

/-- What the persistence layer does with the attribute. -/
structure Persistence where
  insertable : TriState
  updatable : TriState
  transient : Bool
  deriving DecidableEq

/-- Which links between entities use the attribute. -/
structure LinkUse where
  inLinks : Bool
  inSelectedLinks : Bool
  deriving DecidableEq

/-! ## Attributes -/

/-- One attribute of an entity. -/
structure Attribute where
  name : Text
  type : NeutralType
  selected : Bool
  constraints : Constraints
  hints : TypeHints
  temporal : Temporal
  literals : BooleanLiterals
  column : Column
  keys : KeyRole
  generation : Generation
  persistence : Persistence
  tags : List (Text × Text)
  links : LinkUse
  name_ne : name ≠ []
  deriving DecidableEq

/-- An attribute of which only the name and the kind are specified. -/
def Attribute.plain (name : Name) (type : NeutralType) : Attribute where
  name := name.val
  type := type
  selected := true
  constraints := ⟨false, false, false, false, none, none, none, none, none, none, none, none, none⟩
  hints := ⟨false, false, false⟩
  temporal := ⟨.undefined, false, false, none, none⟩
  literals := ⟨none, none⟩
  column := ⟨none, none, none, none, none, false, false, none, none, none⟩
  keys := ⟨false, false, false, none, []⟩
  generation := ⟨false, .unset, none, none⟩
  persistence := ⟨.undefined, .undefined, false⟩
  tags := []
  links := ⟨false, false⟩
  name_ne := name.ne

/-- Takes part in a foreign key of either kind. -/
def KeyRole.foreign (r : KeyRole) : Bool := r.simple || r.composite

namespace Attribute

/-- Belongs to the key of its entity. -/
def isKey (a : Attribute) : Bool := a.keys.primary

/-- Takes part in a foreign key. -/
def isForeignKey (a : Attribute) : Bool := a.keys.foreign

/-- The description of a sequence generator, if there is one. -/
def sequence? (a : Attribute) : Option SequenceGenerator :=
  a.generation.generator.bind Generator.sequence?

/-- The description of a table generator, if there is one. -/
def table? (a : Attribute) : Option TableGenerator :=
  a.generation.generator.bind Generator.table?

/-- Asks for two forms of a language type that exclude each other. -/
def hintsConflict (a : Attribute) : Bool := a.hints.primitive && a.hints.object

end Attribute

end Typewright
