/-
  Generated values: whether the value of an attribute is generated, by whom, and how.

  A column that counts by itself generates the value, whatever else is said.  Otherwise the
  attribute may say that its value is generated, by a strategy and a named generator.  The two
  descriptions of generators are looked at on their own, and only for being there; where there is
  no sequence its allocation size is `-1`, which no sequence has.
-/
import Typewright.Log.Record
import Typewright.Model.Entity
import Typewright.Text.Blank

namespace Typewright

/-- Who generates a value. -/
inductive GenerationSource where
  | autoIncrement | explicit | none
  deriving DecidableEq, Repr

/-- The word for who generates a value. -/
def GenerationSource.word : GenerationSource → String
  | autoIncrement => "auto_increment"
  | explicit => "explicit"
  | none => "none"

/-- The decision about one attribute. -/
structure GeneratedValue where
  generated : Bool
  strategy : GenerationStrategy
  /-- The name of the generator, empty if none is named. -/
  generator : Text
  source : GenerationSource
  deriving DecidableEq, Repr

/-- The strategy in force: for a generated value an unset one leaves the choice to the target. -/
def GeneratedValue.effective (g : GeneratedValue) : GenerationStrategy :=
  if !g.generated then .unset
  else if g.strategy = .unset then .auto
  else g.strategy

/-- A sequence generator, all fields empty where there is none. -/
structure SequenceInfo where
  present : Bool
  name : Text
  sequence : Text
  allocationSize : Int
  deriving DecidableEq, Repr

/-- A table generator, all fields empty where there is none. -/
structure TableInfo where
  present : Bool
  name : Text
  table : Text
  keyColumn : Text
  valueColumn : Text
  keyValue : Text
  deriving DecidableEq, Repr

namespace Attribute

/-- The decision about an attribute. -/
def generatedValue (a : Attribute) : GeneratedValue :=
  if a.column.autoIncremented then ⟨true, .unset, [], .autoIncrement⟩
  else if a.generation.generated then
    ⟨true, a.generation.strategy, Text.trimmed (a.generation.generatorName.getD []), .explicit⟩
  else ⟨false, .unset, [], .none⟩

/-- The column counts by itself although a strategy or a generator is named. -/
def strategyIgnored (a : Attribute) : Bool :=
  a.column.autoIncremented &&
    (a.generation.strategy ≠ .unset || a.generation.generatorName.getD [] ≠ [])

/-- What deciding about an attribute reports. -/
def generationRecords (a : Attribute) : List Log.Record :=
  if a.strategyIgnored then
    [⟨.debug, .generation, "Attribute '" ++ a.name ++ "' is auto-incremented; ignoring strategy '"
      ++ a.generation.strategy.word ++ "' and generator '" ++
      a.generation.generatorName.getD [] ++ "'."⟩]
  else []

/-- The sequence generator. -/
def sequenceInfo (a : Attribute) : SequenceInfo :=
  match a.sequence? with
  | some g => ⟨true, g.name.getD [], g.sequence.getD [], g.allocationSize.getD 0⟩
  | none => ⟨false, [], [], -1⟩

/-- The table generator. -/
def tableInfo (a : Attribute) : TableInfo :=
  match a.table? with
  | some g =>
    ⟨true, g.name.getD [], g.table.getD [], g.keyColumn.getD [], g.valueColumn.getD [],
      g.keyValue.getD []⟩
  | none => ⟨false, [], [], [], [], []⟩

end Attribute

end Typewright
