/-
  Reports: what a run over a model has to show for itself.

  A report holds one row for every attribute that was resolved, the counts, what the checks said,
  and the references that could not be followed.  The times are those that the caller of the run
  has measured; a report that nobody timed shows zero.  A whole number of seconds may be too large
  to be shown, and the report then has no text.
-/
import Typewright.Number.Binary64
import Typewright.Resolution.Snapshot

namespace Typewright

/-- How the reference of an attribute came out. -/
inductive ReferenceOutcome where
  /-- The attribute is no foreign key. -/
  | notAsked
  /-- The class name of the entity. -/
  | found (entity : Text)
  /-- The attribute records no entity, for the reason given. -/
  | absent (reason : Failure)
  deriving DecidableEq

namespace ReferenceOutcome

/-- The class name of the entity, empty if there is none. -/
def entityName : ReferenceOutcome → Text
  | found entity => entity
  | _ => []

/-- The words for a reference that is not recorded. -/
def complaint? : ReferenceOutcome → Option Text
  | absent reason => some reason.message
  | _ => none

/-- What an attribute refers to, by name. -/
def fields (r : ReferenceOutcome) : Fields := [("referenced_entity", .text r.entityName)]

end ReferenceOutcome

/-- What a run has found out about one attribute. -/
structure Row where
  snapshot : Snapshot
  reference : ReferenceOutcome
  deriving DecidableEq

/-- The values of a row by name. -/
def Row.fields (r : Row) : Fields := r.snapshot.fields ++ r.reference.fields

/-- How many entities and attributes there are, and how many attributes are of a sort. -/
structure Counts where
  entities : Int
  attributes : Int
  keys : Int
  foreignKeys : Int
  generated : Int
  deriving DecidableEq, Repr

/-- The counts for a number of entities and the rows of their attributes. -/
def Counts.ofRows (entities : Nat) (rows : List Row) : Counts where
  entities := entities
  attributes := rows.length
  keys := rows.countP (·.snapshot.isKey)
  foreignKeys := rows.countP (·.reference != .notAsked)
  generated := rows.countP (·.snapshot.generated)

/-- A time in seconds. -/
inductive Seconds where
  /-- Whole seconds. -/
  | whole (n : Int)
  /-- A number of seconds in the binary format. -/
  | measured (x : Binary64)
  deriving DecidableEq, Repr

namespace Seconds

/-- The nearest number of the binary format, unless that format has none so large. -/
def toBinary64? : Seconds → Option Binary64
  | whole n => Binary64.ofInt? n
  | measured x => some x

/-- The sum; that of whole seconds is exact, and any other one needs both in the binary format. -/
def add? : Seconds → Seconds → Option Seconds
  | whole m, whole n => some (whole (m + n))
  | s, t => do pure (measured ((← s.toBinary64?).add (← t.toBinary64?)))

/-- The time with so many decimal places. -/
def text? (places : Nat) (s : Seconds) : Option String :=
  s.toBinary64?.map (Binary64.fixedPlaces places)

end Seconds

/-- The outcome of a run. -/
structure Report where
  success : Bool
  modelName : Text
  /-- The word for the language. -/
  language : Text
  /-- The word for the database, empty for the standard. -/
  database : Text
  counts : Counts
  /-- How long the checks took. -/
  checkSeconds : Seconds
  /-- How long the attributes took. -/
  rowSeconds : Seconds
  errors : List Text
  warnings : List Text
  /-- The references that are not recorded. -/
  complaints : List Text
  rows : List Row

namespace Report

/-- A report about nothing. -/
def empty : Report where
  success := false
  modelName := []
  language := []
  database := []
  counts := ⟨0, 0, 0, 0, 0⟩
  checkSeconds := .whole 0
  rowSeconds := .whole 0
  errors := []
  warnings := []
  complaints := []
  rows := []

/-- How long the run took. -/
def totalSeconds? (r : Report) : Option Seconds := r.checkSeconds.add? r.rowSeconds

/-! ## Text -/

/-- A character repeated over the width of the text. -/
def rule (c : Char) : Text := List.replicate 60 (.char c)

/-- The lines for a titled list; none for an empty one. -/
def titledList (title mark : String) (items : List Text) : List Text :=
  if items.isEmpty then []
  else
    rule '─' :: ("  " ++ title ++ " (" ++ toString items.length ++ "):") ::
      items.map fun item => "    " ++ mark ++ " " ++ item

/-- The lines in front of the lists, with the text for the time. -/
def heading (r : Report) (total : String) : List Text :=
  [rule '=', "  NeutralGen — Resolution Report", rule '=',
    "  Status:           " ++ (if r.success then "SUCCESS" else "FAILED"),
    "  Model:            " ++ r.modelName,
    "  Language:         " ++ r.language,
    "  Database:         " ++ (if r.database = [] then ("ansi" : Text) else r.database),
    "  Entities:         " ++ toString r.counts.entities,
    "  Attributes:       " ++ toString r.counts.attributes,
    "    keys:           " ++ toString r.counts.keys,
    "    foreign keys:   " ++ toString r.counts.foreignKeys,
    "    generated:      " ++ toString r.counts.generated,
    "  Total time:       " ++ total ++ "s"]

/-- The text of a report, if its time can be shown. -/
def summary? (r : Report) : Option Text := do
  let total ← (← r.totalSeconds?).text? 3
  pure (Text.join "\n"
    (r.heading total ++ titledList "Validation Errors" "✗" r.errors ++
      titledList "Validation Warnings" "⚠" r.warnings ++
      titledList "Domain Errors" "⊘" r.complaints ++ [rule '=']))

end Report

/-- The text of a measured time, if it can be shown. -/
def timingText? (label : Text) (seconds : Seconds) : Option Text :=
  (seconds.text? 4).map fun time => "<Timer " ++ label ++ ": " ++ time ++ "s>"

end Typewright
