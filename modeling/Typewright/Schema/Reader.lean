/-
  Readers for the parts of a description.

  A reader takes a value and gives what it describes, or the faults.  The readers for scalars are
  lenient where a document may reasonably differ from the type: a truth value may be written as a
  word or as 0 and 1, a whole number as a text, a decimal as a number or a text.  A text may also be
  given by its octets.  A text that is looked into must be a string, without half a pair of
  surrogates.  A list or an object may contain itself; it is read as deep as the description goes.
-/
import Typewright.Data.Index
import Typewright.Number.IntegerText
import Typewright.Number.Shortest
import Typewright.Schema.Checked
import Typewright.Text.Case

namespace Typewright

/-- Reads one kind of thing from a value. -/
abbrev Reader (α : Type) := Value → Checked α

namespace Reader

variable {α β : Type}

/-! ## Texts -/

/-- The text that octets encode. -/
def decoded? (bytes : List UInt8) : Option String := String.fromUTF8? ⟨bytes.toArray⟩

/-- A text. -/
def text : Reader Text
  | .text s => .passed s
  | .octets bytes =>
    match decoded? bytes with
    | some s => .passed s
    | none => .fault .brokenText
  | _ => .fault .notText

/-- The string that a text is. -/
def unbroken (s : Text) : Checked String :=
  match Text.string? s with
  | some t => .passed t
  | none => .fault .brokenText

/-- A text that is not empty. -/
def name : Reader Name := fun v =>
  (text v).andThen fun s => (unbroken s).andThen fun _ =>
    if h : s ≠ [] then .passed ⟨s, h⟩ else .fault .emptyText

/-- A size: a text, or a whole number as the text of its digits. -/
def size : Reader Text
  | .int n => if isWritable n then .passed (toString n) else .object .unwritableNumber
  | v => text v

/-- A text that names an entry. -/
def entryName : Reader Text := fun v => Text.repaired <$> text v

/-! ## Members of a vocabulary -/

/-- The member of a vocabulary with an exact spelling. -/
def spelled [Vocabulary α] (s : String) : Checked α :=
  match Vocabulary.ofSpelling? s with
  | some a => .passed a
  | none => .fault (.notMember (Vocabulary.spellings α))

/-- A member of a vocabulary, by its exact spelling. -/
def member [Vocabulary α] : Reader α
  | .text s => (unbroken s).andThen spelled
  | .octets bytes =>
    match decoded? bytes with
    | some s => spelled s
    | none => .fault (.notMember (Vocabulary.spellings α))
  | _ => .fault (.notMember (Vocabulary.spellings α))

/-- A member of a vocabulary, or the reason why a value names none. -/
def named [Vocabulary α] : Value → Except UnknownMember α
  | .text s => Vocabulary.read s
  | v => .error ⟨v.literal, Vocabulary.family α⟩

/-- A member of a vocabulary, or a default where nothing is given. -/
def memberOr [Vocabulary α] (default : α) : Reader α
  | .null => .passed default
  | v => member v

/-- A text without the blanks around it and in lower case. -/
def folded (s : Text) : Text := Text.toLowerCase (Text.trimmed s)

/-- A member of a vocabulary, whatever its case and the blanks around it, or a default where
    nothing is given. -/
def foldedMemberOr [Vocabulary α] (default : α) : Reader α
  | .text s => member (.text (folded s))
  | v => memberOr default v

/-- The three-valued flag of a value: open where nothing is said. -/
def triStateOf : Value → Except Objection TriState
  | .null => .ok .undefined
  | .bool b => .ok (TriState.ofBool b)
  | .text s =>
    let word := folded s
    if word = [] then .ok .undefined
    else
      match Vocabulary.read word with
      | .ok state => .ok state
      | .error e => .error (.unknownFlag e)
  | v => .error (if v.isWritable then .unclearFlag v.literal else .unwritableNumber)

/-- A three-valued flag. -/
def triState : Reader TriState := fun v => Checked.ofExcept (triStateOf v)

/-! ## Truth values -/

/-- The words for true. -/
def trueWords : List String := ["1", "on", "t", "true", "y", "yes"]

/-- The words for false. -/
def falseWords : List String := ["0", "off", "f", "false", "n", "no"]

/-- Fits a signed word of 64 bits, with the smallest number left out. -/
def fitsWordStrictly (n : Int) : Bool := fitsWord n && n != minWord

/-- A truth value from a whole number; another one than 0 and 1 is of the wrong kind if it is too
    large. -/
def boolOfInt (fits : Int → Bool) (n : Int) : Checked Bool :=
  if n = 0 then .passed false
  else if n = 1 then .passed true
  else if fits n then .fault .unclearBool
  else .fault .notBool

/-- The truth value with a word in any case. -/
def boolOfWord (s : String) : Checked Bool :=
  let word := String.ofList (s.toList.map Char.toLower)
  if trueWords.contains word then .passed true
  else if falseWords.contains word then .passed false
  else .fault .unclearBool

/-- A truth value: itself, a word in any case, or 0 and 1. -/
def bool : Reader Bool
  | .bool b => .passed b
  | .int n => boolOfInt fitsWord n
  | .real x =>
    match x.toInt? with
    | some n => boolOfInt fitsWordStrictly n
    | none => .fault .notBool
  | .text s => (unbroken s).andThen boolOfWord
  | .octets bytes =>
    match decoded? bytes with
    | some s => boolOfWord s
    | none => .fault .unclearBool
  | _ => .fault .notBool

/-! ## Whole numbers -/

/-- The whole number that a text writes. -/
def intOfText (s : String) : Checked Int :=
  match IntegerText.read s.toList with
  | .number n => .passed n
  | .oversized => .fault .oversizedInt
  | .malformed => .fault .unclearInt

/-- A whole number: itself, a truth value as 0 or 1, a number without a fraction, or a text. -/
def int : Reader Int
  | .int n => .passed n
  | .bool b => .passed (if b then 1 else 0)
  | .real (.finite s m e) =>
    match (Binary64.finite s m e).toInt? with
    | some n => if fitsWordStrictly n then .passed n else .fault .oversizedInt
    | none => .fault .fractionalInt
  | .real _ => .fault .notFinite
  | .text s => (unbroken s).andThen intOfText
  | .octets bytes =>
    match decoded? bytes with
    | some s => intOfText s
    | none => .fault .unclearInt
  | _ => .fault .notInt

/-- A whole number that is not negative. -/
def nat : Reader Nat := fun v =>
  (int v).andThen fun n => if n < 0 then .fault .negative else .passed n.toNat

/-! ## Decimals -/

/-- The decimal that a text writes. -/
def decimalOfText (s : List Char) : Checked Decimal :=
  match Decimal.read s with
  | .number d => .passed d
  | .notFinite => .fault .notFinite
  | .malformed => .fault .unclearDecimal

/-- A decimal: a whole number, a number through its shortest text, or a text; no text with half a
    pair of surrogates writes one. -/
def decimal : Reader Decimal
  | .int n =>
    let d := Decimal.ofInt n
    if d.inRange then .passed d else .fault .unclearDecimal
  | .real x => decimalOfText x.shortest.toList
  | .text s =>
    match Text.chars? s with
    | some cs => decimalOfText cs
    | none => .fault .unclearDecimal
  | _ => .fault .notDecimal

/-! ## Composite values -/

/-- What another reader reads, or nothing. -/
def optional (read : Reader α) : Reader (Option α)
  | .null => .passed none
  | v => some <$> read v

/-- The members of a list from position `index` on. -/
def itemsFrom (read : Reader α) (index : Nat) : List Value → Checked (List α)
  | [] => .passed []
  | v :: rest => List.cons <$> (read v).under (.item index) <*> itemsFrom read (index + 1) rest

/-- A list, or what may take its place: a set or a pair. -/
def list (read : Reader α) : Reader (List α) := fun v =>
  match v.opened with
  | .list items => itemsFrom read 0 items
  | .set members => itemsFrom read 0 (members.map Key.toValue)
  | .pair first second => itemsFrom read 0 [first, second]
  | _ => .fault .notList

/-- The entries of a mapping; a faulty name is reported before its value. -/
def entries (readKey : Reader α) (readValue : Reader β) : Fields → Checked (List (α × β))
  | [] => .passed []
  | (key, v) :: rest =>
    (fun k b more => (k, b) :: more) <$> ((readKey key.toValue).under .key).under (.field key)
      <*> (readValue v).under (.field key) <*> entries readKey readValue rest

/-- A mapping.  Different names may be read as one. -/
def mapping [BEq α] (readKey : Reader α) (readValue : Reader β) : Reader (List (α × β)) := fun v =>
  match v.opened with
  | .object fields => Index.ofEntries <$> entries readKey readValue fields
  | _ => .fault .notMapping

/-! ## Objects -/

/-- A field that has to be there. -/
def required (field : String) (read : Reader α) (fields : Fields) : Checked α :=
  match fields.get? field with
  | some v => (read v).under (.field field)
  | none => (Checked.fault .missing).under (.field field)

/-- A field that has a default. -/
def field (field : String) (default : α) (read : Reader α) (fields : Fields) : Checked α :=
  match fields.get? field with
  | some v => (read v).under (.field field)
  | none => .passed default

/-- A field that may be absent or empty. -/
def optionalField (name : String) (read : Reader α) : Fields → Checked (Option α) :=
  field name none (optional read)

/-- What is wrong with a name of a field: it is no text, or not one of the known ones. -/
def keyCause? (known : List String) : Key → Option Cause
  | .text name =>
    if ((Text.string? name).map known.contains).getD false then none else some .unknownKey
  | _ => some .invalidKey

/-- Nothing, unless there are fields with other names than the known ones. -/
def onlyKnown (known : List String) (fields : Fields) : Checked Unit :=
  match fields.filterMap fun entry => (keyCause? known entry.1).map (Fault.mk [.field entry.1]) with
  | [] => .passed ()
  | faults => .failed faults

/-- A name of an entry holds half a pair of surrogates. -/
def hasBrokenKey (fields : Fields) : Bool := fields.any fun entry => entry.1.text?.any Text.hasHalf

/-- An object of a type: its fields are read, then names that belong to no field are reported, and
    if nothing is wrong the whole is checked.  Names that cannot be compared with those of the
    fields are a fault of the whole, and no other is reported. -/
def object (type : String) (known : List String) (body : Fields → Checked α)
    (finish : α → Except Objection β) : Reader β := fun v =>
  match v.opened with
  | .object fields =>
    if hasBrokenKey fields then .fault .brokenText
    else
      ((fun a _ => a) <$> body fields <*> onlyKnown known fields).andThen fun a =>
        Checked.ofExcept (finish a)
  | _ => .fault (.notObject type)

end Reader

end Typewright
