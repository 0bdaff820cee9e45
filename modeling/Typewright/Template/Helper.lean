/-
  The helpers that templates call by name.

  Most of them work on one text, which may be absent; absent texts stay absent where a text is only
  changed, and are shown as an empty text where one is needed.  The others work on attributes in
  their contexts, on lists, and on numbers.  A call with arguments that a helper has no meaning for
  gives nothing.
-/
import Typewright.Template.Argument
import Typewright.Text.Escape
import Typewright.Text.Words

namespace Typewright.Template

/-! ## Texts -/

/-- An absent text is blank. -/
def isBlank (s : Option Text) : Bool := s.all Text.isBlank

/-- A value between double quotes. -/
def quote (a : Argument) : Text := "\x22" ++ a.display ++ "\x22"

/-- A text with a backslash in front of every occurrence of a character.  What is given as the
    character has to have one member, and to be a text if there is any text to change. -/
def backslash (s : Option Text) (character : Argument) :
    Option (Except Failure (Option Text)) :=
  match character.text?, s with
  | some [c], _ => some (.ok (s.map (Text.protect c)))
  | _, _ =>
    if character.isNull || (character.length?.map (· != 1)).getD false then
      some (.error (.notOneCharacter character.display))
    else if character.length? == some 1 && s.isNone then some (.ok none)
    else none

/-- A list without one pair of double quotes around its members, if both are there. -/
def unquoteList (vs : List Value) : List Value :=
  let isQuote (v : Option Value) : Bool :=
    match v with
    | some (.text s) => s == [Text.doubleQuote]
    | _ => false
  if 2 ≤ vs.length && isQuote vs.head? && isQuote vs.getLast? then vs.tail.dropLast else vs

/-- The helpers that work on one text. -/
def textHelpers : List (String × (Option Text → Value)) :=
  [("is_blank", fun s => .bool (isBlank s)),
    ("is_not_blank", fun s => .bool !(isBlank s)),
    ("unquote", fun s => .ofText? (s.map Text.unquote)),
    ("capitalize", fun s => .ofText? (s.map Text.capitalize)),
    ("uncapitalize", fun s => .ofText? (s.map Text.uncapitalize)),
    ("escape_xml", fun s => .text (Text.escapeMarkup (s.getD []))),
    ("to_upper_case", fun s => .text (Text.toUpperCase (s.getD []))),
    ("to_lower_case", fun s => .text (Text.toLowerCase (s.getD []))),
    ("first_char_to_upper_case", fun s => .text (Text.capitalize (s.getD []))),
    ("to_upper_snake_case", fun s => .text (Text.toUpperSnakeCase (s.getD [])))]

/-! ## Attributes -/

/-- Shown instead of arguments where no list is given. -/
def noListText : Text := "null"

/-- Arguments made of the attributes of a list, separated by commas. -/
def joinArguments (form : Context → Except Failure Text) :
    Option (List Context) → Except Failure Text
  | none => .ok noListText
  | some cs => (cs.mapM form).map (Text.join ", ")

/-- The names of attributes. -/
def argumentNames : Option (List Context) → Except Failure Text :=
  joinArguments fun c => .ok c.name

/-- The types and names of attributes. -/
def typedArguments : Option (List Context) → Except Failure Text :=
  joinArguments fun c => c.typeName.map fun t => t ++ " " ++ c.name

/-- The boxed types and names of attributes. -/
def boxedArguments : Option (List Context) → Except Failure Text :=
  joinArguments fun c => c.wrapperType.map fun t => t ++ " " ++ c.name

/-- Calls of the reading accessors of attributes on a named object. -/
def accessorCalls (object : Text) : Option (List Context) → Except Failure Text :=
  joinArguments fun c => c.getter.map fun g => object ++ "." ++ g ++ "()"

/-- The names that an argument excludes: its own, if it is a text, or those of its attributes. -/
def excludedNames? : Argument → Option (List Text)
  | .value (.text s) => some [s]
  | a => a.contexts?.map fun cs => cs.map Context.name

/-- The attributes whose names are not excluded. -/
def without (cs : List Context) (excluded : List Text) : List Context :=
  cs.filter fun c => !excluded.contains c.name

/-! ## Numbers -/

/-- Consecutive whole numbers. -/
def intValues (count first : Int) : List Int :=
  (List.range count.toNat).map fun n : Nat => first + n

/-! ## Calls -/

/-- A result that cannot fail. -/
def plainly (v : Value) : Option (Except Failure Result) := some (.ok (.value v))

/-- A text as a result. -/
def ofText (s : Except Failure Text) : Except Failure Result := s.map fun t => .value (.text t)

/-- The result of a helper of attributes. -/
def attributeCall (name : String) (args : List Argument) : Option (Except Failure Result) :=
  match name, args with
  | "arguments_list", [cs] => cs.optionalContexts?.map (ofText ∘ argumentNames)
  | "arguments_list_with_type", [cs] => cs.optionalContexts?.map (ofText ∘ typedArguments)
  | "arguments_list_with_wrapper_type", [cs] => cs.optionalContexts?.map (ofText ∘ boxedArguments)
  | "arguments_list_with_getter", [object, cs] =>
    cs.optionalContexts?.map (ofText ∘ accessorCalls object.display)
  | "remove_from_list", .value .null :: _ => some (.ok (.items []))
  | "remove_from_list", cs :: excluded => do
    let names ← excluded.mapM excludedNames?
    pure (.ok (.items ((without (← cs.contexts?) names.flatten).map .context)))
  | _, _ => none

/-- The result of a helper of lists and numbers. -/
def listCall (name : String) (args : List Argument) : Option (Except Failure Result) :=
  match name, args with
  | "is_void", [a] => some ((a.sequence name).map fun is => .value (.bool is.isEmpty))
  | "is_not_void", [a] => some ((a.sequence name).map fun is => .value (.bool !is.isEmpty))
  | "size", [a] => some ((a.sequence name).map fun is => .value (.int is.length))
  | "concat_lists", [a, b] => do pure (.ok (.items ((← a.items?) ++ (← b.items?))))
  | "build_int_values", [a] => do plainly (.list ((intValues (← a.count?) 1).map .int))
  | "build_int_values", [a, first] => do
    plainly (.list ((intValues (← a.count?) (← first.int?)).map .int))
  | _, _ => none

/-- The result of a helper that forms a text from several arguments, or from any. -/
def formingCall (name : String) (args : List Argument) : Option (Except Failure Result) :=
  match name, args with
  | "quote", [a] => plainly (.text (quote a))
  | "backslash", [s, c] => do
    pure ((← backslash (← s.optionalText?) c).map fun t => .value (.ofText? t))
  | "tab", [] => plainly (.text (Text.tabs 1))
  | "tab", [.value (.real x)] =>
    if x.leInt 0 && !Binary64.intLe 0 x then plainly (.text []) else none
  | "tab", [n] => do plainly (.text (Text.tabs (← n.int?)))
  | "pad", [s, width] => do
    if ← width.atMost? (← s.length?) then pure (.ok s.toResult)
    else plainly (.text (Text.padEnd (← s.text?) (← width.int?)))
  | "build_getter", [s] => do plainly (.text (Text.getterName (← s.text?) false))
  | "build_getter", [s, primitive] => do
    plainly (.text (Text.getterName (← s.text?) primitive.isSomething))
  | "build_setter", [s] => do plainly (.text (Text.setterName (← s.text?)))
  | _, _ => none

/-- The result of a helper of one text for other things: what counts as nothing is not changed, and
    neither is a collection that holds no quotes. -/
def unchangedCall (name : String) (args : List Argument) : Option (Except Failure Result) :=
  match name, args with
  | "capitalize", [a] | "uncapitalize", [a] =>
    if a.isSomething then none else some (.ok a.toResult)
  | "first_char_to_upper_case", [a] =>
    if a.isSomething || a.length?.isSome then none else some (.ok a.toResult)
  | "to_upper_snake_case", [a] =>
    if a.isSomething || a.length?.isSome then none else plainly (.text [])
  | "unquote", [.value (.list vs)] => plainly (.list (unquoteList vs))
  | "unquote", [.value (.object fields)] =>
    if fields.length < 2 then plainly (.object fields) else none
  | "unquote", [.contexts cs] => some (.ok (.items (cs.map .context)))
  | _, _ => none

/-- The result of a helper of one text. -/
def textCall (name : String) (args : List Argument) : Option (Except Failure Result) :=
  match textHelpers.lookup name, args with
  | some f, [s] => s.optionalText?.map fun s => .ok (.value (f s))
  | _, _ => none

/-- The result of calling the helper with this name, if the call means anything. -/
def call (name : String) (args : List Argument) : Option (Except Failure Result) :=
  (textCall name args).or ((unchangedCall name args).or ((formingCall name args).or
    ((attributeCall name args).or (listCall name args))))

/-- The short text of the helpers as a whole. -/
def summary : Text := "<TemplateFunctions>"

end Typewright.Template
