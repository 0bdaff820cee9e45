/-
  Documents: descriptions of models and environments as they lie in files.

  The ending of its name says how a document is written.  Its top level has to be an object, for
  which an empty document will do.  What goes wrong on the way is an error of the document; what is
  wrong with a well-formed description of a model is reported as faults of the model.
-/
import Typewright.Data.Json
import Typewright.Data.Yaml
import Typewright.Environment
import Typewright.Model.Reading

namespace Typewright

/-- How a document is written. -/
inductive DocumentFormat where
  | json | yaml
  deriving DecidableEq, Repr

/-- What follows the last point of a name, if there is a point. -/
def nameEnding? (name : Text) : Option Text :=
  let ending := name.reverse.takeWhile (· != CodePoint.char '.')
  if ending.length = name.length then none else some ending.reverse

namespace DocumentFormat

/-- The format of a document with the given name. -/
def ofName (name : Text) : DocumentFormat :=
  if (nameEnding? name).map Text.toLowerCase = some ("json" : Text) then json else yaml

/-- The value that a text in this format holds. -/
def parse : DocumentFormat → String → Parsed Value
  | json => Json.parse
  | yaml => Yaml.parse

end DocumentFormat

/-- A reason why a document cannot be used. -/
inductive DocumentError where
  /-- There is no such document. -/
  | notFound (name : String)
  /-- The text is not well-formed. -/
  | unparsable (name : String)
  /-- A part of the text has no meaning. -/
  | misread (reason : Misreading)
  /-- The top level is of another kind than an object. -/
  | notMapping (name kind : String)
  /-- The document describes an environment with these faults. -/
  | invalidEnvironment (name : String) (faults : List Fault)
  /-- The document describes a model with these faults. -/
  | invalidModel (faults : List Fault)
  deriving DecidableEq, Repr

/-- The word for the kind of a value. -/
def Value.kindWord : Value → String
  | .null => "null"
  | .bool _ => "bool"
  | .int _ => "int"
  | .real _ => "float"
  | .text _ => "str"
  | .list _ => "list"
  | .object _ => "mapping"
  | .day _ => "date"
  | .moment _ => "datetime"
  | .octets _ => "bytes"
  | .set _ => "set"
  | .pair .. => "tuple"
  | .loop _ body => body.kindWord
  | .again _ isObject => if isObject then "mapping" else "list"

namespace DocumentError

/-- The reason that a flaw of the text gives. -/
def ofFlaw (name : String) : Flaw → DocumentError
  | .malformed => unparsable name
  | .misread reason => .misread reason

/-- A number of faults in a description. -/
def faultCount (faults : List Fault) (type : String) : String :=
  toString faults.length ++ " validation error" ++ (if faults.length = 1 then "" else "s") ++
    " for " ++ type

/-- The words for a reason. -/
def message : DocumentError → String
  | notFound name => "File not found: " ++ name
  | unparsable name => "Cannot parse " ++ name
  | misread reason => reason.message
  | notMapping name kind =>
    "Expected a mapping at top level of " ++ name ++ ", got " ++ kind ++ "."
  | invalidEnvironment name faults =>
    "Invalid environment in " ++ name ++ ": " ++ faultCount faults "GenerationEnvironment"
  | invalidModel faults => faultCount faults "Model"

end DocumentError

/-- A named document, and its text if there is any. -/
structure Document where
  name : String
  format : DocumentFormat
  text : Option String
  deriving DecidableEq, Repr

namespace Document

/-- The object at the top level. -/
def mapping (d : Document) : Except DocumentError Fields :=
  match d.text with
  | none => .error (.notFound d.name)
  | some text =>
    match d.format.parse text with
    | .error flaw => .error (.ofFlaw d.name flaw)
    | .ok v =>
      match v.opened with
      | .null => .ok []
      | .object fields => .ok fields
      | v => .error (.notMapping d.name v.kindWord)

/-- The environment that a document describes. -/
def environment (d : Document) : Except DocumentError Environment := do
  let fields ← d.mapping
  match Environment.read none none (.object fields) with
  | .passed env => .ok env
  | .failed faults => .error (.invalidEnvironment d.name faults)

/-- The model that a document describes. -/
def model (d : Document) : Except DocumentError Model := do
  let fields ← d.mapping
  match Model.read (.object fields) with
  | .passed m => .ok m
  | .failed faults => .error (.invalidModel faults)

end Document

end Typewright
