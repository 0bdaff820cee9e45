/-
  The SQL type of an attribute.

  The first of these that applies decides: the type that the attribute states, the override for its
  kind, the table of the dialect, the types of the standard.  The last three are templates and take
  a size.  An override that is a bare type name takes its size as a native type does.
-/
import Typewright.Number.Limit
import Typewright.Sql.Dialect
import Typewright.Sql.Size
import Typewright.Text.Alphanumeric

namespace Typewright.Sql

open Typewright.Text

/-- A length bound: a number, or the text of one. -/
inductive Length where
  | number (n : Writable)
  | text (s : Text)
  deriving DecidableEq, Repr

/-- The text of a bound; the number zero and the empty text are no bound. -/
def Length.toText : Length → Text
  | number n => if n.number = 0 then [] else n.digits
  | text s => s

/-- What the SQL type of an attribute depends on. -/
structure Subject where
  name : Text
  type : NeutralType
  /-- The type that the attribute states, or nothing but blanks. -/
  explicit : Text
  autoIncremented : Bool
  longText : Bool
  /-- The size of the column. -/
  size : Text
  /-- The bound on the length of the value. -/
  maxLength : Length
  deriving DecidableEq, Repr

/-- Where a template comes from. -/
inductive Source where
  | mapping | dialect | default
  deriving DecidableEq, Repr

/-- The word for a source. -/
def Source.word : Source → String
  | mapping => "mapping"
  | dialect => "dialect"
  | default => "default"

/-- What SQL types are inferred from. -/
structure Provider where
  /-- The dialect, or nothing for the standard. -/
  dialect : Option Dialect
  /-- Templates that replace those of the dialect. -/
  overrides : List (NeutralType × Text)
  deriving DecidableEq, Repr

/-- One name of word characters, with nothing but blanks around it. -/
def isBareName (template : Text) : Bool :=
  let rest := trimStart template
  !(rest.takeWhile (CodePoint.is isWordChar)).isEmpty &&
    (trimStart (rest.dropWhile (CodePoint.is isWordChar))).isEmpty

namespace Provider

/-- Makes a provider from a dialect and overrides given by words; the empty word means no
    dialect. -/
def read (dialect : Text) (overrides : List (Text × Text)) :
    Except UnknownMember Provider := do
  let dialect ←
    if dialect = [] then pure none
    else (Vocabulary.read dialect : Except UnknownMember Dialect).map some
  let overrides ← overrides.mapM fun (word, template) => do
    let type ← (Vocabulary.read word : Except UnknownMember NeutralType)
    pure (type, template)
  pure ⟨dialect, overrides⟩

/-- The template that replaces the one of the dialect for a kind. -/
def override? (p : Provider) (type : NeutralType) : Option Text := p.overrides.lookup type

/-- The template of a dialect. -/
def dialectTemplate (d : Dialect) (type : NeutralType) (autoIncremented longText : Bool) :
    Text :=
  match if autoIncremented then d.autoIncrement? type else none with
  | some serial => serial
  | none => if longText && type == .string then d.longText else d.template type

/-- The template for a kind, and where it comes from. -/
def templateFor (p : Provider) (type : NeutralType) (autoIncremented longText : Bool) :
    Text × Source :=
  match p.override? type, p.dialect with
  | some template, _ => (template, .mapping)
  | none, some d => (dialectTemplate d type autoIncremented longText, .dialect)
  | none, none =>
    (if longText && type == .string then standardLongText else standardTemplate type, .default)

/-- The size that fills a template: that of the column, or for a text the bound on its length.
    Only texts and decimals have one. -/
def sizeFor (s : Subject) : Option Text :=
  if !s.type.isSized then none
  else
    let size := trimmed s.size
    if size ≠ [] then some size
    else
      let bound := trimmed s.maxLength.toText
      if s.type = .string && bound ≠ [] then some bound else none

/-- A template with its size, or without one. -/
def render (template : Text) (source : Source) (size : Option Text) : Text :=
  if source = .mapping && isBareName template then withSize template size
  else apply template size

/-- The type that an attribute states. -/
def explicit? (s : Subject) : Option Text :=
  let explicit := trimmed s.explicit
  if explicit ≠ [] then some explicit else none

/-- The type that is inferred for an attribute that states none, and where it comes from. -/
def inferred (p : Provider) (s : Subject) : Text × Source :=
  let (template, source) := p.templateFor s.type s.autoIncremented s.longText
  (render template source (sizeFor s), source)

/-- The SQL type of an attribute. -/
def sqlType (p : Provider) (s : Subject) : Text := (explicit? s).getD (p.inferred s).1

/-- The SQL type of an attribute whose kind is given by a word, which is looked up only if the
    attribute states no type. -/
def sqlTypeByWord (p : Provider) (word : Text) (subject : NeutralType → Subject)
    (explicit : Text) : Except UnknownMember Text :=
  if trimmed explicit ≠ [] then .ok (trimmed explicit)
  else (Vocabulary.read word).map fun type => p.sqlType (subject type)

/-- The short text of a provider. -/
def summary (p : Provider) : String :=
  "<SqlTypeProvider " ++ ((p.dialect.map Dialect.word).getD "ansi") ++ ", " ++
    toString p.overrides.length ++ " override(s)>"

end Provider

end Typewright.Sql
