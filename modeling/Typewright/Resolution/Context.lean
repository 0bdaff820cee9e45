/-
  Attribute contexts: one attribute of one entity, seen in a model and an environment.

  A context answers what a template asks about the attribute.  What is not specified is shown as an
  empty text.  Types and references are resolved on every question.  The only thing that changes in
  a context is whether the type is shown by its fully qualified name; once asked for, it stays.

  The bounds of the attribute are put into words when the context is opened, and a bound that has no
  text keeps it from being opened.
-/
import Typewright.Environment
import Typewright.Language.Request
import Typewright.Model.Generated
import Typewright.Model.Reference
import Typewright.Text.Basic

namespace Typewright

/-! ## Bounds that have no text -/

namespace Constraints

variable {k : Constraints}

/-- The bounds on the length can be written. -/
def lengthsWritable (k : Constraints) : Bool :=
  k.minLength.all (fun (n : Nat) => isWritable n) &&
    k.maxLength.all (fun (n : Nat) => isWritable n)

/-- The bounds on the value have plain texts. -/
def valuesShowable (k : Constraints) : Bool :=
  k.minValue.all Decimal.isShowable && k.maxValue.all Decimal.isShowable

/-- Why the bounds cannot be put into words, if they cannot. -/
def obstacle? (k : Constraints) : Option Failure :=
  if !k.lengthsWritable then some .unwritableNumber
  else if !k.valuesShowable then some .oversizedText
  else none

theorem obstacle?_eq_none_iff :
    k.obstacle? = none ↔ k.lengthsWritable = true ∧ k.valuesShowable = true := by
  unfold obstacle?
  cases k.lengthsWritable <;> cases k.valuesShowable <;> simp

theorem isWritable_of_mem_minLength (h : k.obstacle? = none) :
    ∀ n ∈ k.minLength, isWritable n = true := by
  have hwritable := (Bool.and_eq_true_iff.mp (obstacle?_eq_none_iff.mp h).1).1
  rintro n hn
  rw [Option.mem_def.mp hn] at hwritable
  exact hwritable

theorem isWritable_of_mem_maxLength (h : k.obstacle? = none) :
    ∀ n ∈ k.maxLength, isWritable n = true := by
  have hwritable := (Bool.and_eq_true_iff.mp (obstacle?_eq_none_iff.mp h).1).2
  rintro n hn
  rw [Option.mem_def.mp hn] at hwritable
  exact hwritable

end Constraints

/-! ## Contexts -/

/-- An attribute in its surroundings. -/
structure Context where
  model : Model
  environment : Environment
  entity : Entity
  subject : Attribute
  /-- The type is shown by its fully qualified name. -/
  fullNames : Bool
  /-- The bounds of the attribute can be put into words. -/
  showable : subject.constraints.obstacle? = none

namespace Context

/-- The context of an attribute before anything was asked. -/
def fresh (model : Model) (environment : Environment) (entity : Entity) (a : Attribute)
    (showable : a.constraints.obstacle? = none) : Context :=
  ⟨model, environment, entity, a, false, showable⟩

/-- Opens the context of an attribute, which reports the decisions about generated values. -/
def opened (model : Model) (environment : Environment) (entity : Entity) (a : Attribute) :
    Traced Context :=
  match h : a.constraints.obstacle? with
  | none => ⟨a.generationRecords, .ok (fresh model environment entity a h)⟩
  | some failure => ⟨a.generationRecords, .error failure⟩

/-- Opens the contexts of all attributes of an entity, up to the first that cannot be opened. -/
def openedOf (model : Model) (environment : Environment) (entity : Entity) :
    Traced (List Context) :=
  Traced.each (opened model environment entity) entity.attributes

/-- From now on the type is shown by its fully qualified name. -/
def useFullNames (c : Context) : Context := { c with fullNames := true }

/-- The name of the attribute. -/
def name (c : Context) : Text := c.subject.name

/-- A text that may not be specified. -/
def orEmpty (s : Option Text) : Text := s.getD []

/-- The lower bound on the length, if there is one. -/
def minLength (c : Context) : Option Writable :=
  c.subject.constraints.minLength.pmap (fun (n : Nat) h => ⟨n, h⟩)
    (Constraints.isWritable_of_mem_minLength c.showable)

/-- The upper bound on the length, if there is one. -/
def maxLength (c : Context) : Option Writable :=
  c.subject.constraints.maxLength.pmap (fun (n : Nat) h => ⟨n, h⟩)
    (Constraints.isWritable_of_mem_maxLength c.showable)

/-- The digits of a number that may not be specified. -/
def numberText (n : Option Writable) : Text :=
  ((n.map Writable.digits).map Text.ofString).getD []

/-- The plain text of a decimal that may not be specified. -/
def decimalText (d : Option Decimal) : Text := ((d.map Decimal.plain).map Text.ofString).getD []

/-! ## Language types -/

/-- The type in the target language. -/
def languageType (c : Context) : Except Failure LanguageType :=
  match c.environment.converter.get c.subject.typeRequest with
  | .ok t => .ok t
  | .error missing => .error (.unmappedAttribute c.entity.className c.name missing)

/-- The name by which the type is shown. -/
def typeName (c : Context) : Except Failure Text :=
  c.languageType.map fun t => if c.fullNames then t.full else t.simple

/-- The short name of the type. -/
def simpleType (c : Context) : Except Failure Text := c.languageType.map (·.simple)

/-- The fully qualified name of the type. -/
def fullType (c : Context) : Except Failure Text := c.languageType.map (·.full)

/-- The short name of the boxed type. -/
def wrapperType (c : Context) : Except Failure Text := c.languageType.map (·.wrapper)

/-- The type is a primitive one. -/
def isPrimitive (c : Context) : Except Failure Bool := c.languageType.map (·.primitive)

/-- The fully qualified name of the type recommended for the type code, empty if there is none. -/
def recommendedType (c : Context) : Text :=
  ((c.environment.converter.recommended? c.subject.column.typeCode c.subject.column.notNull).map
    (·.full)).getD []

/-! ## Accessors -/

/-- The name of the reading accessor.  Only a boolean has to know whether its type is primitive. -/
def getter (c : Context) : Except Failure Text :=
  if c.subject.type = .boolean then c.isPrimitive.map (Text.getterName c.name)
  else .ok (Text.getterName c.name false)

/-- The name of the reading accessor of a type that is not a primitive boolean. -/
def plainGetter (c : Context) : Text := Text.getterName c.name false

/-- The name of the writing accessor. -/
def setter (c : Context) : Text := Text.setterName c.name

/-! ## Columns -/

/-- The native type with its size. -/
def nativeType (c : Context) : Text :=
  Sql.withSize (orEmpty c.subject.column.type) c.subject.column.size

/-- The name of the native type: as recorded, else as the catalog has it. -/
def typeCodeName (c : Context) : Text :=
  let recorded := orEmpty c.subject.column.typeName
  if recorded ≠ [] then recorded else c.environment.typeCodes.nameFor c.subject.column.typeCode

/-- The column has a default value that is not generated by the database. -/
def hasColumnDefault (c : Context) : Bool :=
  !c.subject.column.autoIncremented && orEmpty c.subject.column.defaultValue ≠ []

/-- What the SQL type of the attribute depends on. -/
def sqlSubject (c : Context) : Sql.Subject where
  name := c.name
  type := c.subject.type
  explicit := orEmpty c.subject.column.sqlType
  autoIncremented := c.subject.column.autoIncremented
  longText := c.subject.constraints.longText
  size := orEmpty c.subject.column.size
  maxLength := .text (numberText c.maxLength)

/-- The SQL type. -/
def sqlType (c : Context) : Text := c.environment.provider.sqlType c.sqlSubject

/-- What asking for the SQL type reports: where an inferred one comes from. -/
def sqlRecords (c : Context) : List Log.Record :=
  match Sql.Provider.explicit? c.sqlSubject with
  | some _ => []
  | none =>
    let (type, source) := c.environment.provider.inferred c.sqlSubject
    [⟨.debug, .sqlTypes, "SQL type for '" ++ c.name ++ "' (" ++ c.subject.type.word ++
      ") inferred from " ++ source.word ++ ": " ++ type⟩]

/-- The SQL type, with the report about it. -/
def tracedSqlType (c : Context) : Traced Text := ⟨c.sqlRecords, .ok c.sqlType⟩

/-! ## References -/

/-- The entity that the attribute refers to. -/
def referenced (c : Context) : Traced Entity := c.model.follow c.entity.className c.subject

/-! ## Flags and tags -/

/-- A flag has been decided as `b`; an open one has not. -/
def decided (flag : TriState) (b : Bool) : Bool := flag == TriState.ofBool b

/-- The tag is there. -/
def hasTag (c : Context) (tag : Text) : Bool := c.subject.tags.any (·.1 == tag)

/-- The value of a tag, if it is there. -/
def tag? (c : Context) (tag : Text) : Option Text := c.subject.tags.lookup tag

/-! ## Texts -/

/-- The type and the name, with the initial value if there is one. -/
def declaration (c : Context) : Except Failure Text :=
  c.typeName.map fun type =>
    let initial := orEmpty c.subject.constraints.initialValue
    type ++ " " ++ c.name ++ (if initial ≠ [] then " = " ++ initial else [])

/-- The short text of a context. -/
def summary (c : Context) : Text :=
  "<AttributeContext " ++ c.entity.className ++ "." ++ c.name ++ " (" ++ c.subject.type.word ++
    ")>"

end Context

end Typewright
