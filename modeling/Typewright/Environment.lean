/-
  Environments: the target of a run, which is a language and a database.

  An environment can override the SQL type of a kind of attribute, never by a blank one.  It holds
  the catalog of type codes, and may hold a converter that takes the place of the language's own.
-/
import Typewright.Language.Builtin
import Typewright.Schema.Reader
import Typewright.Sql.Provider

namespace Typewright

/-- The target of a run. -/
structure Environment where
  language : TargetLanguage
  /-- The database, or nothing for the types of the standard. -/
  dialect : Option Dialect
  overrides : List (NeutralType × Text)
  typeCodes : Catalog
  /-- A converter to use instead of the language's own. -/
  injected : Option Converter
  /-- No override is blank. -/
  overrides_ok : ∀ entry ∈ overrides, Text.isBlank entry.2 = false

namespace Environment

/-- The converter in use. -/
def converter (env : Environment) : Converter :=
  env.injected.getD (env.language.converter env.typeCodes)

/-- The provider of SQL types. -/
def provider (env : Environment) : Sql.Provider := ⟨env.dialect, env.overrides⟩

/-- The word for the database, where the standard is one too. -/
def databaseWord (env : Environment) : String := (env.dialect.map Dialect.word).getD "ansi"

/-- The environment that is used when none is given. -/
def standard : Environment where
  language := .java
  dialect := none
  overrides := []
  typeCodes := .standard
  injected := none
  overrides_ok := by simp

/-! ## Reading -/

open Reader

/-- Overrides of which none is blank, or the first kind with a blank one. -/
def checkOverrides (overrides : List (NeutralType × Text)) :
    Except Objection { os : List (NeutralType × Text) // ∀ o ∈ os, Text.isBlank o.2 = false } :=
  match h : overrides.find? fun entry => Text.isBlank entry.2 with
  | some entry => .error (.blankTemplate entry.1)
  | none => .ok ⟨overrides, by simpa using List.find?_eq_none.1 h⟩

/-- A name of a target: a text without blanks around it and in lower case, or nothing if that is
    empty. -/
def targetName : Value → Value
  | .text s => if folded s = [] then .null else .text (folded s)
  | v => v

/-- A field that only a program can fill, not a document; it may be allowed to be empty. -/
def programOnly (name type : String) (allowNull : Bool) (fields : Fields) : Checked Unit :=
  match fields.get? name, allowNull with
  | none, _ => .passed ()
  | some .null, true => .passed ()
  | some _, _ => (Checked.fault (.notInstance type)).under (.field name)

/-- Reads an environment.  A catalog and a converter may be given beside the description; a
    description must not give them itself. -/
def read (typeCodes : Option Catalog) (injected : Option Converter) : Reader Environment :=
  object "GenerationEnvironment"
    ["target_language", "database", "database_types_mapping", "type_codes", "type_converter"]
    (fun fields =>
      (fun language dialect overrides _ _ =>
        { language, dialect, overrides := overrides.val,
          typeCodes := typeCodes.getD .standard, injected,
          overrides_ok := overrides.property : Environment })
      <$> field "target_language" .java (fun v => member (targetName v)) fields
      <*> field "database" none (fun v => optional member (targetName v)) fields
      <*> field "database_types_mapping" ⟨[], by simp⟩
            (fun v => (mapping member text v).andThen fun overrides =>
              Checked.ofExcept (checkOverrides overrides)) fields
      <*> (if typeCodes.isSome then .passed ()
            else programOnly "type_codes" "TypeCodeCatalog" false fields)
      <*> (if injected.isSome then .passed ()
            else programOnly "type_converter" "TypeConverter" true fields))
    .ok

/-! ## Writing -/

/-- The fields that an environment is read from, as data. -/
def toValue (env : Environment) : Value :=
  .object
    [("target_language", .text env.language.word),
      ("database", .ofText? (env.dialect.map fun d => d.word)),
      ("database_types_mapping",
        .object (env.overrides.map fun (type, template) => (type.word, .text template)))]

end Environment

end Typewright
