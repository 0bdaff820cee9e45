/-
  Issues: findings in their reported form, and the lists that collect them.

  A list of issues is valid if none of them is an error.  Its report shows a summary, then every
  issue with its context; remarks are left out unless they are asked for.
-/
import Typewright.Check.Finding
import Typewright.Data.Display
import Typewright.Text.Case

namespace Typewright

/-- One reported issue. -/
structure Issue where
  severity : Severity
  code : Text
  message : Text
  /-- What the issue is about, by name. -/
  context : Fields

/-- The reported form of a finding. -/
def Finding.issue (f : Finding) : Issue where
  severity := f.severity
  code := f.code
  message := f.message
  context := f.context.map fun (name, s) => (name, .text s)

/-- The short text of an issue. -/
def Issue.summary (i : Issue) : Text :=
  "[" ++ Text.toUpperCase i.severity.word ++ "] " ++ i.code ++ ": " ++ i.message

/-- Issues in the order in which they were found. -/
abbrev Issues := List Issue

namespace Issues

/-- The errors. -/
def errors (is : Issues) : Issues := is.filter (·.severity == .error)

/-- The warnings. -/
def warnings (is : Issues) : Issues := is.filter (·.severity == .warning)

/-- No issue is an error. -/
def isValid (is : Issues) : Bool := is.errors.isEmpty

/-- The codes that occur, each once, in ascending order. -/
def codes (is : Issues) : List Text :=
  (is.map (·.code)).eraseDups.mergeSort Text.le

/-- The numbers of errors, of warnings, and of all issues. -/
def summary (is : Issues) : Text :=
  "Validation: " ++ toString is.errors.length ++ " error(s), " ++
    toString is.warnings.length ++ " warning(s), " ++ toString is.length ++ " total item(s)."

/-- The short text of a list of issues. -/
def shortText (is : Issues) : Text := "<ValidationResult " ++ is.summary ++ ">"

/-- The mark in front of an issue. -/
def mark : Severity → String
  | .error => "✗"
  | .warning => "⚠"
  | .info => "ℹ"

/-- The lines for one issue. -/
def issueLines (i : Issue) : List Text :=
  ("  " ++ mark i.severity ++ " [" ++ i.code ++ "] " ++ i.message) ::
    i.context.map fun (name, v) => "       " ++ name.display ++ ": " ++ v.display

/-- The report, with or without the remarks. -/
def report (is : Issues) (withInfo : Bool) : Text :=
  let shown := is.filter fun i => withInfo || i.severity != .info
  Text.join "\n" (is.summary :: [] :: shown.flatMap issueLines)

end Issues

end Typewright
