/-
  The standard catalog: the type codes of the common database call interface.
-/
import Typewright.TypeCode.Catalog

namespace Typewright.Catalog

/-- The standard codes with their names and recommendations. -/
def standardEntries : List TypeCode :=
  [⟨-16, "LONGNVARCHAR", some .string⟩, ⟨-15, "NCHAR", some .string⟩,
    ⟨-9, "NVARCHAR", some .string⟩, ⟨-7, "BIT", some .boolean⟩, ⟨-6, "TINYINT", some .byte⟩,
    ⟨-5, "BIGINT", some .long⟩, ⟨-4, "LONGVARBINARY", some .binary⟩,
    ⟨-3, "VARBINARY", some .binary⟩, ⟨-2, "BINARY", some .binary⟩,
    ⟨-1, "LONGVARCHAR", some .string⟩, ⟨0, "NULL", none⟩, ⟨1, "CHAR", some .string⟩,
    ⟨2, "NUMERIC", some .decimal⟩, ⟨3, "DECIMAL", some .decimal⟩, ⟨4, "INTEGER", some .int⟩,
    ⟨5, "SMALLINT", some .short⟩, ⟨6, "FLOAT", some .double⟩, ⟨7, "REAL", some .float⟩,
    ⟨8, "DOUBLE", some .double⟩, ⟨12, "VARCHAR", some .string⟩, ⟨16, "BOOLEAN", some .boolean⟩,
    ⟨91, "DATE", some .date⟩, ⟨92, "TIME", some .time⟩, ⟨93, "TIMESTAMP", some .timestamp⟩,
    ⟨1111, "OTHER", none⟩, ⟨2004, "BLOB", some .binary⟩, ⟨2005, "CLOB", some .string⟩,
    ⟨2011, "NCLOB", some .string⟩, ⟨2013, "TIME_WITH_TIMEZONE", some .time⟩,
    ⟨2014, "TIMESTAMP_WITH_TIMEZONE", some .timestamp⟩]

/-- The standard catalog. -/
def standard : Catalog := ⟨standardEntries, by decide⟩

end Typewright.Catalog
