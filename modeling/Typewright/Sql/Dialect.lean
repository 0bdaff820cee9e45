/-
  SQL types by dialect, as templates in which `%s` stands for the size, and the types that every
  dialect falls back to.
-/
import Typewright.Model.Kind

namespace Typewright

namespace Sql

/-- The types of the standard, used where no dialect is chosen. -/
def standardTemplate : NeutralType → String
  | .string => "VARCHAR(%s)"
  | .boolean => "BOOLEAN"
  | .byte => "SMALLINT"
  | .short => "SMALLINT"
  | .int => "INTEGER"
  | .long => "BIGINT"
  | .float => "REAL"
  | .double => "DOUBLE PRECISION"
  | .decimal => "NUMERIC(%s)"
  | .date => "DATE"
  | .time => "TIME"
  | .timestamp => "TIMESTAMP"
  | .binary => "BLOB"

/-- The type of the standard for a long text. -/
def standardLongText : String := "CLOB"

end Sql

namespace Dialect

/-- The types of a dialect. -/
def template : Dialect → NeutralType → String
  | postgresql => fun
    | .string => "varchar(%s)"
    | .boolean => "boolean"
    | .byte => "smallint"
    | .short => "smallint"
    | .int => "integer"
    | .long => "bigint"
    | .float => "real"
    | .double => "double precision"
    | .decimal => "numeric(%s)"
    | .date => "date"
    | .time => "time"
    | .timestamp => "timestamp"
    | .binary => "bytea"
  | mysql => fun
    | .string => "VARCHAR(%s)"
    | .boolean => "TINYINT(1)"
    | .byte => "TINYINT"
    | .short => "SMALLINT"
    | .int => "INT"
    | .long => "BIGINT"
    | .float => "FLOAT"
    | .double => "DOUBLE"
    | .decimal => "DECIMAL(%s)"
    | .date => "DATE"
    | .time => "TIME"
    | .timestamp => "DATETIME"
    | .binary => "BLOB"
  | oracle => fun
    | .string => "VARCHAR2(%s)"
    | .boolean => "NUMBER(1)"
    | .byte => "NUMBER(3)"
    | .short => "NUMBER(5)"
    | .int => "NUMBER(10)"
    | .long => "NUMBER(19)"
    | .float => "BINARY_FLOAT"
    | .double => "BINARY_DOUBLE"
    | .decimal => "NUMBER(%s)"
    | .date => "DATE"
    | .time => "DATE"
    | .timestamp => "TIMESTAMP"
    | .binary => "BLOB"
  | sqlserver => fun
    | .string => "NVARCHAR(%s)"
    | .boolean => "BIT"
    | .byte => "TINYINT"
    | .short => "SMALLINT"
    | .int => "INT"
    | .long => "BIGINT"
    | .float => "REAL"
    | .double => "FLOAT"
    | .decimal => "DECIMAL(%s)"
    | .date => "DATE"
    | .time => "TIME"
    | .timestamp => "DATETIME2"
    | .binary => "VARBINARY(MAX)"
  | sqlite => fun
    | .string => "TEXT"
    | .boolean => "INTEGER"
    | .byte => "INTEGER"
    | .short => "INTEGER"
    | .int => "INTEGER"
    | .long => "INTEGER"
    | .float => "REAL"
    | .double => "REAL"
    | .decimal => "NUMERIC"
    | .date => "TEXT"
    | .time => "TEXT"
    | .timestamp => "TEXT"
    | .binary => "BLOB"
  | h2 => fun
    | .string => "VARCHAR(%s)"
    | .boolean => "BOOLEAN"
    | .byte => "TINYINT"
    | .short => "SMALLINT"
    | .int => "INTEGER"
    | .long => "BIGINT"
    | .float => "REAL"
    | .double => "DOUBLE PRECISION"
    | .decimal => "DECIMAL(%s)"
    | .date => "DATE"
    | .time => "TIME"
    | .timestamp => "TIMESTAMP"
    | .binary => "BINARY LARGE OBJECT"

/-- The type of a dialect for a long text. -/
def longText : Dialect → String
  | postgresql => "text"
  | mysql => "LONGTEXT"
  | oracle => "CLOB"
  | sqlserver => "NVARCHAR(MAX)"
  | sqlite => "TEXT"
  | h2 => "CHARACTER LARGE OBJECT"

/-- The type of a column that counts by itself, in a dialect that has one of its own for it. -/
def autoIncrement? : Dialect → NeutralType → Option String
  | postgresql, .short => some "smallserial"
  | postgresql, .int => some "serial"
  | postgresql, .long => some "bigserial"
  | _, _ => none

end Dialect

end Typewright
