/-
  The converters that come with the library, one for each target language, and converters made from
  given tables.
-/
import Typewright.Language.Converter

namespace Typewright

namespace TargetLanguage

/-- The primitive types of a language. -/
def primitives : TargetLanguage → SpellingTable
  | java => fun
    | .boolean => some ⟨"boolean", "boolean"⟩
    | .byte => some ⟨"byte", "byte"⟩
    | .short => some ⟨"short", "short"⟩
    | .int => some ⟨"int", "int"⟩
    | .long => some ⟨"long", "long"⟩
    | .float => some ⟨"float", "float"⟩
    | .double => some ⟨"double", "double"⟩
    | _ => none
  | csharp => fun
    | .boolean => some ⟨"bool", "System.Boolean"⟩
    | .byte => some ⟨"sbyte", "System.SByte"⟩
    | .short => some ⟨"short", "System.Int16"⟩
    | .int => some ⟨"int", "System.Int32"⟩
    | .long => some ⟨"long", "System.Int64"⟩
    | .float => some ⟨"float", "System.Single"⟩
    | .double => some ⟨"double", "System.Double"⟩
    | .decimal => some ⟨"decimal", "System.Decimal"⟩
    | _ => none
  | python => fun _ => none
  | typescript => fun _ => none

/-- The unsigned primitive types of a language. -/
def unsigned : TargetLanguage → SpellingTable
  | csharp => fun
    | .byte => some ⟨"byte", "System.Byte"⟩
    | .short => some ⟨"ushort", "System.UInt16"⟩
    | .int => some ⟨"uint", "System.UInt32"⟩
    | .long => some ⟨"ulong", "System.UInt64"⟩
    | _ => none
  | _ => fun _ => none

/-- The object types of a language. -/
def objects : TargetLanguage → SpellingTable
  | java => fun
    | .string => some ⟨"String", "java.lang.String"⟩
    | .boolean => some ⟨"Boolean", "java.lang.Boolean"⟩
    | .byte => some ⟨"Byte", "java.lang.Byte"⟩
    | .short => some ⟨"Short", "java.lang.Short"⟩
    | .int => some ⟨"Integer", "java.lang.Integer"⟩
    | .long => some ⟨"Long", "java.lang.Long"⟩
    | .float => some ⟨"Float", "java.lang.Float"⟩
    | .double => some ⟨"Double", "java.lang.Double"⟩
    | .decimal => some ⟨"BigDecimal", "java.math.BigDecimal"⟩
    | .date => some ⟨"LocalDate", "java.time.LocalDate"⟩
    | .time => some ⟨"LocalTime", "java.time.LocalTime"⟩
    | .timestamp => some ⟨"LocalDateTime", "java.time.LocalDateTime"⟩
    | .binary => some ⟨"byte[]", "byte[]"⟩
  | csharp => fun
    | .string => some ⟨"string", "System.String"⟩
    | .date => some ⟨"DateOnly", "System.DateOnly"⟩
    | .time => some ⟨"TimeOnly", "System.TimeOnly"⟩
    | .timestamp => some ⟨"DateTime", "System.DateTime"⟩
    | .binary => some ⟨"byte[]", "System.Byte[]"⟩
    | _ => none
  | python => fun
    | .string => some ⟨"str", "str"⟩
    | .boolean => some ⟨"bool", "bool"⟩
    | .byte | .short | .int | .long => some ⟨"int", "int"⟩
    | .float | .double => some ⟨"float", "float"⟩
    | .decimal => some ⟨"Decimal", "decimal.Decimal"⟩
    | .date => some ⟨"date", "datetime.date"⟩
    | .time => some ⟨"time", "datetime.time"⟩
    | .timestamp => some ⟨"datetime", "datetime.datetime"⟩
    | .binary => some ⟨"bytes", "bytes"⟩
  | typescript => fun
    | .string => some ⟨"string", "string"⟩
    | .boolean => some ⟨"boolean", "boolean"⟩
    | .byte | .short | .int | .long | .float | .double | .decimal => some ⟨"number", "number"⟩
    | .date | .time | .timestamp => some ⟨"Date", "Date"⟩
    | .binary => some ⟨"Uint8Array", "Uint8Array"⟩

/-- How a language boxes its primitive types. -/
def boxing : TargetLanguage → Boxing
  | csharp => .nullable
  | _ => .listed

/-- What stands for the converter of a language in its short text. -/
def converterLabel : TargetLanguage → String
  | java => "JavaTypeConverter"
  | csharp => "CSharpTypeConverter"
  | python => "PythonTypeConverter"
  | typescript => "TypeScriptTypeConverter"

/-- The converter of a language. -/
def converter (l : TargetLanguage) (typeCodes : Catalog) : Converter where
  label := l.converterLabel
  language := l.word
  primitives := l.primitives
  unsigned := l.unsigned
  objects := l.objects
  boxing := l.boxing
  typeCodes := typeCodes

end TargetLanguage

namespace Converter

/-- The converter of the language with this name. -/
def named (language : Text) (typeCodes : Catalog) : Except Failure Converter :=
  match ((Text.string? language).bind Vocabulary.ofSpelling? : Option TargetLanguage) with
  | some l => .ok (l.converter typeCodes)
  | none => .error (.unknownLanguage language)

/-- A table from rows that name the kinds by words. -/
def readTable (rows : List (Text × Spelling)) : Except UnknownMember SpellingTable := do
  let rows ← rows.mapM fun (word, spelling) => do
    let type ← (Vocabulary.read word : Except UnknownMember NeutralType)
    pure (type, spelling)
  pure fun type => rows.lookup type

/-- A converter from tables that name the kinds by words. -/
def custom (language : Text) (primitives unsigned objects : List (Text × Spelling))
    (typeCodes : Catalog) : Except UnknownMember Converter := do
  let primitives ← readTable primitives
  let unsigned ← readTable unsigned
  let objects ← readTable objects
  pure { label := "CustomConverter", language, primitives, unsigned, objects,
         boxing := .listed, typeCodes }

end Converter

end Typewright
