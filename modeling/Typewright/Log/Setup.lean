/-
  Where records go: a setup has a level, and writes a line for every record of the library's
  channels at that level or above.  A message is written as it is, with the line breaks in it.
-/
import Typewright.Log.Record
import Typewright.Number.Binary64
import Typewright.Text.Line

namespace Typewright.Log

/-- The level for a verbosity: warnings only, then information from one on, then everything from
    two on. -/
def Level.ofVerbosity (verbosity : Binary64) : Level :=
  if Binary64.intLe 2 verbosity then .debug
  else if Binary64.intLe 1 verbosity then .info
  else .warning

/-- A place for lines with a level. -/
structure Setup where
  level : Level
  deriving DecidableEq, Repr

/-- The setup for a verbosity; it takes the place of any earlier one. -/
def Setup.ofVerbosity (verbosity : Binary64) : Setup := ⟨Level.ofVerbosity verbosity⟩

/-- The name belongs to the library: it is the root name, or continues it behind a point. -/
def isLibraryName (name : Text) : Bool :=
  name == rootName || (Text.ofString (rootName ++ ".")).isPrefixOf name

/-- A word filled up with spaces to the width of a column. -/
def column (width : Nat) (word : String) : String :=
  word ++ String.ofList (List.replicate (width - word.length) ' ')

/-- What is written for a record at a time of day: nothing if the level is too low or the name does
    not belong to the library. -/
def Setup.written (s : Setup) (time : Text) (level : Level) (name message : Text) : Text :=
  if isLibraryName name && s.level.number ≤ level.number then
    time ++ " │ " ++ column 8 level.word ++ " │ " ++ name ++ " │ " ++ message ++ "\n"
  else []

/-- The lines of what is written for records, each a level, a name and a message. -/
def Setup.lines (s : Setup) (time : Text) (records : List (Level × Text × Text)) :
    List Text :=
  Text.lines (records.flatMap fun (level, name, message) => s.written time level name message)

end Typewright.Log
