/-
  Findings: what the checks of a model report, and how it is worded.

  A finding says what was found and where; its level, its code and its words follow from that.
  Errors make a model unfit for a strict run, warnings do not, and remarks are shown on request.
-/
import Typewright.Failure
import Typewright.Model.Reference

namespace Typewright

/-- How serious a finding is. -/
inductive Severity where
  | error | warning | info
  deriving DecidableEq, Repr

/-- The word for a severity. -/
def Severity.word : Severity → String
  | error => "error"
  | warning => "warning"
  | info => "info"

/-- Which of the two generators a finding is about. -/
inductive GeneratorKind where
  | sequence | table
  deriving DecidableEq, Repr

/-- The words for a generator. -/
def GeneratorKind.words : GeneratorKind → String
  | sequence => "sequence generator"
  | table => "table generator"

/-- The strategy that uses a generator. -/
def GeneratorKind.strategy : GeneratorKind → GenerationStrategy
  | sequence => .sequence
  | table => .table

/-- Something found in a model.  The first argument is the entity it was found in, the second, if
    there is one, the attribute. -/
inductive Finding where
  | invalidEntityName (entity : Text)
  | entityNotPascalCase (entity : Text)
  | noAttributes (entity : Text)
  | invalidAttributeName (entity name : Text)
  | attributeNotCamelCase (entity name : Text)
  | noKey (entity : Text)
  | transientKey (entity name : Text)
  | unknownReference (entity name target : Text)
  | partUnknownEntity (entity name key target : Text)
  | partUnknownAttribute (entity name key target targetName : Text)
  | referenceMismatch (entity name text : Text)
  | noReference (entity name : Text)
  | generatorUnused (entity name : Text) (generator : GeneratorKind)
  | generatorMismatch (entity name : Text) (generator : GeneratorKind)
      (strategy : GenerationStrategy)
  | strategyIgnored (entity name : Text)
  | lengthsCross (entity name : Text) (low high : Writable)
  | valuesCross (entity name : Text) (low high : Decimal)
  | pastAndFuture (entity name : Text)
  | temporalConstraint (entity name : Text) (type : NeutralType)
  | booleanLiteral (entity name : Text) (type : NeutralType)
  | longText (entity name : Text) (type : NeutralType)
  | noLanguageType (entity name : Text) (missing : MissingType)
  deriving DecidableEq

namespace Finding

/-- The severity of a finding. -/
def severity : Finding → Severity
  | invalidEntityName _ | invalidAttributeName .. | transientKey .. | unknownReference ..
  | partUnknownEntity .. | partUnknownAttribute .. | lengthsCross .. | valuesCross ..
  | pastAndFuture .. | noLanguageType .. => .error
  | attributeNotCamelCase .. | strategyIgnored .. => .info
  | _ => .warning

/-- The code of a finding. -/
def code : Finding → String
  | invalidEntityName _ => "INVALID_ENTITY_NAME"
  | entityNotPascalCase _ => "ENTITY_NAME_NOT_PASCAL_CASE"
  | noAttributes _ => "ENTITY_WITHOUT_ATTRIBUTES"
  | invalidAttributeName .. => "INVALID_ATTRIBUTE_NAME"
  | attributeNotCamelCase .. => "ATTRIBUTE_NAME_NOT_CAMEL_CASE"
  | noKey _ => "ENTITY_WITHOUT_KEY"
  | transientKey .. => "TRANSIENT_KEY_ELEMENT"
  | unknownReference .. => "FK_UNKNOWN_REFERENCED_ENTITY"
  | partUnknownEntity .. => "FK_PART_UNKNOWN_ENTITY"
  | partUnknownAttribute .. => "FK_PART_UNKNOWN_ATTRIBUTE"
  | referenceMismatch .. => "FK_REFERENCE_MISMATCH"
  | noReference .. => "FK_WITHOUT_REFERENCE"
  | generatorUnused .. => "GENERATOR_WITHOUT_GENERATED_VALUE"
  | generatorMismatch .. => "GENERATOR_STRATEGY_MISMATCH"
  | strategyIgnored .. => "AUTO_INCREMENT_OVERRIDES_STRATEGY"
  | lengthsCross .. => "MIN_LENGTH_GT_MAX_LENGTH"
  | valuesCross .. => "MIN_VALUE_GT_MAX_VALUE"
  | pastAndFuture .. => "DATE_PAST_AND_FUTURE"
  | temporalConstraint .. => "TEMPORAL_CONSTRAINT_ON_NON_TEMPORAL"
  | booleanLiteral .. => "BOOLEAN_LITERAL_ON_NON_BOOLEAN"
  | longText .. => "LONG_TEXT_ON_NON_STRING"
  | noLanguageType .. => "NO_LANGUAGE_MAPPING"

/-- The entity that a finding is about. -/
def entity : Finding → Text
  | invalidEntityName e | entityNotPascalCase e | noAttributes e | noKey e => e
  | invalidAttributeName e _ | attributeNotCamelCase e _ | transientKey e _
  | unknownReference e _ _ | partUnknownEntity e _ _ _ | partUnknownAttribute e _ _ _ _
  | referenceMismatch e _ _ | noReference e _ | generatorUnused e _ _ | generatorMismatch e _ _ _
  | strategyIgnored e _ | lengthsCross e _ _ _ | valuesCross e _ _ _ | pastAndFuture e _
  | temporalConstraint e _ _ | booleanLiteral e _ _ | longText e _ _ | noLanguageType e _ _ => e

/-- The attribute that a finding is about, if it is about one. -/
def name? : Finding → Option Text
  | invalidEntityName _ | entityNotPascalCase _ | noAttributes _ | noKey _ => none
  | invalidAttributeName _ n | attributeNotCamelCase _ n | transientKey _ n
  | unknownReference _ n _ | partUnknownEntity _ n _ _ | partUnknownAttribute _ n _ _ _
  | referenceMismatch _ n _ | noReference _ n | generatorUnused _ n _ | generatorMismatch _ n _ _
  | strategyIgnored _ n | lengthsCross _ n _ _ | valuesCross _ n _ _ | pastAndFuture _ n
  | temporalConstraint _ n _ | booleanLiteral _ n _ | longText _ n _ | noLanguageType _ n _ =>
    some n

/-- What else a finding is about, by name. -/
def details : Finding → List (String × Text)
  | unknownReference _ _ target => [("referenced", target)]
  | partUnknownEntity _ _ key _ => [("fk", key)]
  | partUnknownAttribute _ _ key _ _ => [("fk", key)]
  | _ => []

/-- The words for a finding. -/
def message : Finding → Text
  | invalidEntityName e => "Entity name '" ++ e ++ "' is not a valid identifier."
  | entityNotPascalCase e => "Entity name '" ++ e ++ "' is not PascalCase."
  | noAttributes e => "Entity '" ++ e ++ "' has no attributes."
  | invalidAttributeName e n =>
    "Attribute name '" ++ e ++ "." ++ n ++ "' is not a valid identifier."
  | attributeNotCamelCase e n =>
    "Attribute name '" ++ e ++ "." ++ n ++ "' is not camelCase; accessor names may look odd."
  | noKey e => "Entity '" ++ e ++ "' has no key attribute."
  | transientKey e n =>
    "Key attribute '" ++ e ++ "." ++ n ++ "' is transient and cannot be persisted."
  | unknownReference e n target =>
    "Attribute '" ++ e ++ "." ++ n ++ "' references unknown entity '" ++ target ++ "'."
  | partUnknownEntity e n key target =>
    "FK '" ++ key ++ "' of '" ++ e ++ "." ++ n ++ "' references unknown entity '" ++ target ++ "'."
  | partUnknownAttribute e n key target targetName =>
    "FK '" ++ key ++ "' of '" ++ e ++ "." ++ n ++ "' references unknown attribute '" ++ target ++
      "." ++ targetName ++ "'."
  | referenceMismatch _ _ text => text
  | noReference e n =>
    "Attribute '" ++ e ++ "." ++ n ++ "' is a foreign key but records no referenced entity."
  | generatorUnused e n generator =>
    "Attribute '" ++ e ++ "." ++ n ++ "' defines a " ++ generator.words ++
      " but is not a generated value."
  | generatorMismatch e n generator strategy =>
    "Attribute '" ++ e ++ "." ++ n ++ "' defines a " ++ generator.words ++
      " but its strategy is '" ++ strategy.word ++ "'."
  | strategyIgnored e n =>
    "Attribute '" ++ e ++ "." ++ n ++ "' is auto-incremented; its explicit strategy is ignored."
  | lengthsCross e n low high =>
    "'" ++ e ++ "." ++ n ++ "': min_length " ++ low.digits ++ " > max_length " ++
      high.digits ++ "."
  | valuesCross e n low high =>
    "'" ++ e ++ "." ++ n ++ "': min_value " ++ low.scientific ++ " > max_value " ++
      high.scientific ++ "."
  | pastAndFuture e n =>
    "'" ++ e ++ "." ++ n ++ "' cannot be both in the past and in the future."
  | temporalConstraint e n type =>
    "'" ++ e ++ "." ++ n ++ "' has date constraints but its type is '" ++ type.word ++ "'."
  | booleanLiteral e n type =>
    "'" ++ e ++ "." ++ n ++ "' defines boolean literals but its type is '" ++ type.word ++ "'."
  | longText e n type =>
    "'" ++ e ++ "." ++ n ++ "' is flagged long text but its type is '" ++ type.word ++ "'."
  | noLanguageType e n missing => "'" ++ e ++ "." ++ n ++ "': " ++ missing.message

/-- Everything a finding is about, by name. -/
def context (f : Finding) : List (String × Text) :=
  ("entity", f.entity) :: ((f.name?.map fun n => ("attribute", n)).toList ++ f.details)

end Finding

end Typewright
