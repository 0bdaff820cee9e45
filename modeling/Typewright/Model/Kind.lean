/-
  Names, and the closed vocabularies of a neutral model and of its targets: kinds of attributes,
  parts of temporal values, three-valued flags, strategies for generated values, target languages
  and database dialects.
-/
import Typewright.Vocabulary

namespace Typewright

/-! ## Names -/

/-- A text that is not empty. -/
abbrev Name := { s : Text // s ≠ [] }

theorem Name.ne (n : Name) : n.val ≠ [] := n.property

/-! ## Kinds of attributes -/

/-- The kind of an attribute, independent of any language and any database. -/
inductive NeutralType where
  | string | boolean
  | byte | short | int | long
  | float | double | decimal
  | date | time | timestamp
  | binary
  deriving DecidableEq, Repr

namespace NeutralType

/-- All kinds, in the order in which messages list them. -/
def all : List NeutralType :=
  [string, boolean, byte, short, int, long, float, double, decimal, date, time, timestamp, binary]

/-- The word for a kind. -/
def word : NeutralType → String
  | string => "string"
  | boolean => "boolean"
  | byte => "byte"
  | short => "short"
  | int => "int"
  | long => "long"
  | float => "float"
  | double => "double"
  | decimal => "decimal"
  | date => "date"
  | time => "time"
  | timestamp => "timestamp"
  | binary => "binary"

instance : Vocabulary NeutralType where
  family := "NeutralType"
  members := all
  spelling := word
  find_spelling := by intro a; cases a <;> decide

/-- Holds numbers. -/
def isNumber : NeutralType → Bool
  | byte | short | int | long | float | double | decimal => true
  | _ => false

/-- Holds dates, times or both. -/
def isTemporal : NeutralType → Bool
  | date | time | timestamp => true
  | _ => false

/-- Its values have a length that a database type can state. -/
def isSized : NeutralType → Bool
  | string | decimal => true
  | _ => false

end NeutralType

/-! ## Temporal values -/

/-- Which part of a temporal value is meaningful. -/
inductive DateType where
  | undefined | dateOnly | timeOnly | dateAndTime
  deriving DecidableEq, Repr

namespace DateType

/-- The word for a part. -/
def word : DateType → String
  | undefined => "undefined"
  | dateOnly => "date_only"
  | timeOnly => "time_only"
  | dateAndTime => "date_and_time"

/-- The number that templates know a part by. -/
def code : DateType → Nat
  | undefined => 0
  | dateOnly => 1
  | timeOnly => 2
  | dateAndTime => 3

instance : Vocabulary DateType where
  family := "DateType"
  members := [undefined, dateOnly, timeOnly, dateAndTime]
  spelling := word
  find_spelling := by intro a; cases a <;> decide

end DateType

/-! ## Three-valued flags -/

/-- A flag that may be left open; open is a state of its own and not the same as no. -/
inductive TriState where
  | yes | no | undefined
  deriving DecidableEq, Repr

namespace TriState

/-- The word for a state. -/
def word : TriState → String
  | yes => "true"
  | no => "false"
  | undefined => "undefined"

/-- A decided flag. -/
def ofBool (b : Bool) : TriState := if b then yes else no

instance : Vocabulary TriState where
  family := "BooleanValue"
  members := [yes, no, undefined]
  spelling := word
  find_spelling := by intro a; cases a <;> decide

end TriState

/-! ## Generated values -/

/-- How a key value is generated; an unset strategy leaves the choice to the target. -/
inductive GenerationStrategy where
  | unset | auto | identity | sequence | table
  deriving DecidableEq, Repr

namespace GenerationStrategy

/-- The word for a strategy; the unset one has none. -/
def word : GenerationStrategy → String
  | unset => ""
  | auto => "auto"
  | identity => "identity"
  | sequence => "sequence"
  | table => "table"

instance : Vocabulary GenerationStrategy where
  family := "GenerationStrategy"
  members := [unset, auto, identity, sequence, table]
  spelling := word
  find_spelling := by intro a; cases a <;> decide

end GenerationStrategy

/-! ## Targets -/

/-- A programming language with a type converter of its own. -/
inductive TargetLanguage where
  | java | csharp | python | typescript
  deriving DecidableEq, Repr

namespace TargetLanguage

/-- The word for a language. -/
def word : TargetLanguage → String
  | java => "java"
  | csharp => "csharp"
  | python => "python"
  | typescript => "typescript"

instance : Vocabulary TargetLanguage where
  family := "TargetLanguage"
  members := [java, csharp, python, typescript]
  spelling := word
  find_spelling := by intro a; cases a <;> decide

end TargetLanguage

/-- A database with a table of SQL types of its own. -/
inductive Dialect where
  | postgresql | mysql | oracle | sqlserver | sqlite | h2
  deriving DecidableEq, Repr

namespace Dialect

/-- The word for a dialect. -/
def word : Dialect → String
  | postgresql => "postgresql"
  | mysql => "mysql"
  | oracle => "oracle"
  | sqlserver => "sqlserver"
  | sqlite => "sqlite"
  | h2 => "h2"

instance : Vocabulary Dialect where
  family := "DatabaseDialect"
  members := [postgresql, mysql, oracle, sqlserver, sqlite, h2]
  spelling := word
  find_spelling := by intro a; cases a <;> decide

end Dialect

end Typewright
