/-
  What can fail when types and references are resolved, and when helpers are called.

  The failures fall into kinds, by what a run can do about them.  A missing reference concerns one
  attribute and can be skipped; the others end a run: the environment has no mapping for what is
  asked, the model refers to something that it does not hold, a helper got arguments that it cannot
  work with, or a number has no text that it could be shown by.
-/
import Typewright.Model.Kind
import Typewright.Number.Limit

namespace Typewright

/-- A converter has no type for a kind of attribute. -/
structure MissingType where
  /-- The name that stands for the converter when its language has none. -/
  converter : Text
  language : Text
  type : NeutralType
  deriving DecidableEq, Repr

/-- The words for a missing type. -/
def MissingType.message (m : MissingType) : Text :=
  "No " ++ (if m.language = [] then m.converter else m.language) ++
    " type is mapped for neutral type '" ++ m.type.word ++ "'."

/-- A failure of a resolution or of a helper. -/
inductive Failure where
  /-- No converter exists for this language. -/
  | unknownLanguage (language : Text)
  /-- A converter has no type for a kind of attribute. -/
  | missingType (type : MissingType)
  /-- The same, for the type of this attribute of this entity. -/
  | unmappedAttribute (entity name : Text) (type : MissingType)
  /-- The attribute records no referenced entity. -/
  | noReference (owner name : Text)
  /-- The attribute records an entity that the model does not have. -/
  | danglingReference (owner name target model : Text)
  /-- The model has no entity with this name. -/
  | unknownEntity (entity model : Text)
  /-- A helper wants one character and got this. -/
  | notOneCharacter (given : Text)
  /-- A helper wants a list and got nothing. -/
  | noList (helper : String)
  /-- A helper wants a list and got something else. -/
  | notList (helper : String)
  /-- A whole number has too many digits to be written. -/
  | unwritableNumber
  /-- A text is too long for any memory. -/
  | oversizedText
  deriving DecidableEq, Repr

/-- The kinds of failures. -/
inductive FailureKind where
  | configuration | reference | integrity | usage | value | memory
  deriving DecidableEq, Repr

namespace Failure

/-- The kind of a failure. -/
def kind : Failure → FailureKind
  | unknownLanguage _ | missingType _ | unmappedAttribute .. => .configuration
  | noReference .. => .reference
  | danglingReference .. => .integrity
  | unknownEntity .. | notOneCharacter _ | noList _ | notList _ => .usage
  | unwritableNumber => .value
  | oversizedText => .memory

/-- An attribute with its owner, if the owner is known. -/
def whereText (owner name : Text) : Text := if owner = [] then name else owner ++ "." ++ name

/-- The languages that have a converter, in alphabetical order. -/
def knownLanguages : List String :=
  (Vocabulary.spellings TargetLanguage).mergeSort fun a b => a ≤ b

/-- The words for a failure. -/
def message : Failure → Text
  | unknownLanguage language =>
    "No type converter for target language '" ++ language ++ "'. Available: " ++
      Text.quotedList (knownLanguages.map Text.ofString)
  | missingType type => type.message
  | unmappedAttribute entity name type =>
    "Cannot resolve the type of '" ++ entity ++ "." ++ name ++ "': " ++ type.message
  | noReference owner name =>
    "Attribute '" ++ whereText owner name ++
      "' does not reference an entity (not a foreign key or no referenced entity recorded)."
  | danglingReference owner name target model =>
    "Attribute '" ++ whereText owner name ++ "' references entity '" ++ target ++
      "' which does not exist in model '" ++ model ++ "'."
  | unknownEntity entity model =>
    "Unknown entity '" ++ entity ++ "' in model '" ++ model ++ "'."
  | notOneCharacter given => "Single character expected (c='" ++ given ++ "')"
  | noList helper => helper ++ " : list or array is null"
  | notList helper => helper ++ " : list or array expected"
  | unwritableNumber => unwritableWords
  | oversizedText => []

/-- What a failure is about, by name. -/
def context : Failure → List (String × Text)
  | unknownLanguage language => [("language", language)]
  | missingType type => [("language", type.language), ("neutral_type", type.type.word)]
  | unmappedAttribute entity name type =>
    [("entity", entity), ("attribute", name), ("language", type.language),
      ("neutral_type", type.type.word)]
  | noReference owner name => [("entity", owner), ("attribute", name)]
  | danglingReference owner name target _ =>
    [("entity", owner), ("attribute", name), ("referenced", target)]
  | unknownEntity entity _ => [("entity", entity)]
  | notOneCharacter _ | noList _ | notList _ | unwritableNumber | oversizedText => []

end Failure

end Typewright
