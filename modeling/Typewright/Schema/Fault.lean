/-
  What can be wrong with a description: a fault has a place and a cause.

  The place is the path of names and positions that leads from the description to the faulty part.
  The causes are those of any description (a field is missing, a value has the wrong kind), and the
  objections that a model or an environment has against values which are well-formed one by one.
-/
import Typewright.Data.Display
import Typewright.Model.Kind

namespace Typewright

/-- The smallest whole number that fits a signed word of 64 bits. -/
def minWord : Int := -9223372036854775808

/-- Fits a signed word of 64 bits. -/
def fitsWord (n : Int) : Bool := minWord ≤ n && n < -minWord

/-- One step of a path into a description. -/
inductive PathStep where
  /-- Into the entry with this name. -/
  | field (name : Key)
  /-- Into the member at this position. -/
  | item (index : Nat)
  /-- To the name of an entry instead of its value. -/
  | key
  deriving DecidableEq, Repr

/-- Stands for a whole number with too many digits. -/
def unwritableLiteral : String := "<unprintable int object>"

/-- A name of an entry as a step: a text is shown without halves, a truth value or a whole number as
    a number if that fits a word, and anything else by its literal. -/
def Key.toStep (key : Key) : Value :=
  match key with
  | .bool b => .int (if b then 1 else 0)
  | .int n =>
    if fitsWord n then .int n
    else .text (if key.isWritable then key.literal else unwritableLiteral)
  | .text s => .text (Text.repaired s)
  | key => .text key.literal

/-- A step as data. -/
def PathStep.toValue : PathStep → Value
  | .field name => name.toStep
  | .item index => .int index
  | .key => .text "[key]"

/-- A reason to reject a description whose parts can all be read. -/
inductive Objection where
  /-- A three-valued flag is given by a word that it does not know. -/
  | unknownFlag (word : UnknownMember)
  /-- A three-valued flag is given by data of another kind; its literal is shown. -/
  | unclearFlag (literal : String)
  /-- A whole number that has to be written has too many digits. -/
  | unwritableNumber
  /-- An attribute describes two generators. -/
  | twoGenerators (name : Text)
  /-- The foreign-key flag of an attribute disagrees with the flags for its two kinds. -/
  | foreignKeyFlags (name : Text) (foreignKey simple composite : Bool)
  /-- Attributes of an entity share these names. -/
  | duplicateAttributes (entity : Text) (names : List Text)
  /-- A part of a composite foreign key has no other attribute to form it with. -/
  | loneCompositePart (entity name : Text)
  /-- Entities share these names. -/
  | duplicateEntities (names : List Text)
  /-- The SQL type given for a kind of attribute is blank. -/
  | blankTemplate (type : NeutralType)
  deriving DecidableEq, Repr

/-- The words of an objection. -/
def Objection.message : Objection → Text
  | unknownFlag word => word.message
  | unclearFlag literal => "Cannot interpret " ++ literal ++ " as a tri-state flag."
  | unwritableNumber => unwritableWords
  | twoGenerators name =>
    "Attribute '" ++ name ++ "' defines both a sequence generator and a table generator; " ++
      "at most one is allowed."
  | foreignKeyFlags name foreignKey simple composite =>
    "Attribute '" ++ name ++ "': is_fk=" ++ boolWord foreignKey ++
      " is inconsistent with is_fk_simple=" ++ boolWord simple ++
      " and is_fk_composite=" ++ boolWord composite ++ "."
  | duplicateAttributes entity names =>
    "Entity '" ++ entity ++ "' has duplicate attributes: " ++ Text.quotedList names
  | loneCompositePart entity name =>
    "Attribute '" ++ entity ++ "." ++ name ++ "' is flagged as part of a composite foreign key " ++
      "but none of its FK parts is shared with another attribute."
  | duplicateEntities names => "Duplicate entity class names: " ++ Text.quotedList names
  | blankTemplate type =>
    "Empty SQL type mapping for neutral type '" ++ type.word ++ "'."

/-- What is wrong with a part of a description. -/
inductive Cause where
  | missing
  | unknownKey
  | invalidKey
  | notObject (type : String)
  | notText
  | brokenText
  | emptyText
  | notMember (choices : List String)
  | notBool
  | unclearBool
  | notInt
  | unclearInt
  | fractionalInt
  | oversizedInt
  | negative
  | notDecimal
  | unclearDecimal
  | notFinite
  | notList
  | notMapping
  | notInstance (type : String)
  | objection (reason : Objection)
  deriving DecidableEq, Repr

namespace Cause

/-- The short name of a cause. -/
def kind : Cause → String
  | missing => "missing"
  | unknownKey => "extra_forbidden"
  | invalidKey => "invalid_key"
  | notObject _ => "model_type"
  | notText => "string_type"
  | brokenText => "string_unicode"
  | emptyText => "string_too_short"
  | notMember _ => "enum"
  | notBool => "bool_type"
  | unclearBool => "bool_parsing"
  | notInt => "int_type"
  | unclearInt => "int_parsing"
  | fractionalInt => "int_from_float"
  | oversizedInt => "int_parsing_size"
  | negative => "greater_than_equal"
  | notDecimal => "decimal_type"
  | unclearDecimal => "decimal_parsing"
  | notFinite => "finite_number"
  | notList => "list_type"
  | notMapping => "dict_type"
  | notInstance _ => "is_instance_of"
  | objection _ => "value_error"

/-- Choices in quotes, the last one behind an `or`. -/
def choiceText : List String → String
  | [] => ""
  | [last] => "'" ++ last ++ "'"
  | [one, last] => "'" ++ one ++ "' or '" ++ last ++ "'"
  | first :: rest => "'" ++ first ++ "', " ++ choiceText rest

/-- The words for a cause. -/
def message : Cause → Text
  | missing => "Field required"
  | unknownKey => "Extra inputs are not permitted"
  | invalidKey => "Keys should be strings"
  | notObject type => "Input should be a valid dictionary or instance of " ++ type
  | notText => "Input should be a valid string"
  | brokenText => "Input should be a valid string, unable to parse raw data as a unicode string"
  | emptyText => "String should have at least 1 character"
  | notMember choices => "Input should be " ++ choiceText choices
  | notBool => "Input should be a valid boolean"
  | unclearBool => "Input should be a valid boolean, unable to interpret input"
  | notInt => "Input should be a valid integer"
  | unclearInt => "Input should be a valid integer, unable to parse string as an integer"
  | fractionalInt => "Input should be a valid integer, got a number with a fractional part"
  | oversizedInt => "Unable to parse input string as an integer, exceeded maximum size"
  | negative => "Input should be greater than or equal to 0"
  | notDecimal => "Decimal input should be an integer, float, string or Decimal object"
  | unclearDecimal => "Input should be a valid decimal"
  | notFinite => "Input should be a finite number"
  | notList => "Input should be a valid list"
  | notMapping => "Input should be a valid dictionary"
  | notInstance type => "Input should be an instance of " ++ type
  | objection reason => "Value error, " ++ reason.message

end Cause

/-- Something wrong at a place of a description. -/
structure Fault where
  /-- The way from the description to the faulty part. -/
  path : List PathStep
  /-- What is wrong there. -/
  cause : Cause
  deriving DecidableEq, Repr

/-- The same fault seen from one level further out. -/
def Fault.under (step : PathStep) (f : Fault) : Fault := { f with path := step :: f.path }

end Typewright
