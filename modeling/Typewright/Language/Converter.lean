/-
  Language types: the spelling of a kind of attribute in a target language.

  A converter has three tables: primitive types, unsigned primitive types, and object types.  A
  request names a kind and says which form is wanted.  The primitive form is taken unless the object
  form is asked for and exists; an unsigned primitive replaces the plain one where the table has
  one.  Beside the chosen form the answer holds the boxed one, so that both can be rendered.

  In most languages the boxed form is an entry of the object table.  In a language of nullable
  value types it is derived from the primitive, where there is one.
-/
import Typewright.Failure
import Typewright.TypeCode.Standard

namespace Typewright

/-- The short and the fully qualified name of a type. -/
structure Spelling where
  simple : Text
  full : Text
  deriving DecidableEq, Repr

/-- The types of one form, by the kind of attribute. -/
abbrev SpellingTable := NeutralType → Option Spelling

/-- A resolved type of a language. -/
structure LanguageType where
  type : NeutralType
  simple : Text
  full : Text
  /-- The short name of the boxed form; that of the type itself if it is not primitive. -/
  wrapper : Text
  primitive : Bool
  deriving DecidableEq, Repr

/-- What is asked of a converter. -/
structure TypeRequest where
  type : NeutralType
  primitive : Bool
  object : Bool
  unsigned : Bool
  longText : Bool
  deriving DecidableEq, Repr

/-- The form of a type that can be absent. -/
inductive Boxing where
  /-- It is listed in the object table. -/
  | listed
  /-- It is the primitive with a question mark, where there is a primitive. -/
  | nullable
  deriving DecidableEq, Repr

/-- The types of a target language. -/
structure Converter where
  /-- What stands for the converter in its short text, and for a language without a name. -/
  label : Text
  language : Text
  primitives : SpellingTable
  unsigned : SpellingTable
  objects : SpellingTable
  boxing : Boxing
  /-- The catalog behind recommendations. -/
  typeCodes : Catalog

namespace Converter

/-- The primitive type for a request. -/
def primitive? (c : Converter) (r : TypeRequest) : Option Spelling :=
  if r.unsigned then (c.unsigned r.type).or (c.primitives r.type) else c.primitives r.type

/-- The nullable form of a primitive type. -/
def nullable (s : Spelling) : Spelling :=
  ⟨s.simple ++ "?", "System.Nullable<" ++ s.full ++ ">"⟩

/-- The boxed type of a kind whose primitive is `primitive`. -/
def boxed? (c : Converter) (type : NeutralType) (primitive : Option Spelling) : Option Spelling :=
  match c.boxing, primitive with
  | .nullable, some s => some (nullable s)
  | _, _ => c.objects type

/-- The type for a request, if the tables have one. -/
def find? (c : Converter) (r : TypeRequest) : Option LanguageType :=
  let primitive := c.primitive? r
  match primitive, c.boxed? r.type primitive with
  | some p, some b =>
    if r.object then some ⟨r.type, b.simple, b.full, b.simple, false⟩
    else some ⟨r.type, p.simple, p.full, b.simple, true⟩
  | some p, none => some ⟨r.type, p.simple, p.full, p.simple, true⟩
  | none, some b => some ⟨r.type, b.simple, b.full, b.simple, false⟩
  | none, none => none

/-- What is missing when the tables have no type for a kind. -/
def missing (c : Converter) (type : NeutralType) : MissingType := ⟨c.label, c.language, type⟩

/-- The type for a request, or what is missing. -/
def get (c : Converter) (r : TypeRequest) : Except MissingType LanguageType :=
  match c.find? r with
  | some t => .ok t
  | none => .error (c.missing r.type)

/-- The kinds with an entry in the table of primitives or in that of objects. -/
def supported (c : Converter) : List NeutralType :=
  NeutralType.all.filter fun t => (c.primitives t).isSome || (c.objects t).isSome

/-- The type recommended for a bare type code, primitive only if the column is not null. -/
def recommended? (c : Converter) (code : Option Int) (notNull : Bool) : Option LanguageType :=
  (c.typeCodes.typeFor code).bind fun type => c.find? ⟨type, false, !notNull, false, false⟩

/-- The short text of a converter. -/
def summary (c : Converter) : Text := "<" ++ c.label ++ " " ++ c.language ++ ">"

end Converter

end Typewright
