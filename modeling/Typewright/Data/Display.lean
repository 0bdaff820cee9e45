/-
  The text of a value inside a message.  A text by itself is shown as it is; inside a list or an
  object it is a quoted literal.  Where a list or an object would be shown inside itself, dots stand
  for its members.
-/
import Typewright.Data.Value
import Typewright.Number.Limit
import Typewright.Number.Shortest
import Typewright.Text.Quoted

namespace Typewright

/-- A truth value in a message. -/
def boolWord (b : Bool) : String := if b then "True" else "False"

/-- An octet of a literal in the given quotes: its character if that is of the lower half. -/
def octetChars (quote : Char) (n : UInt8) : List Char :=
  if n < 0x7F then Text.escapeChar quote (Char.ofNat n.toNat)
  else '\\' :: 'x' :: Text.hexDigits 2 n.toNat

/-- Octets as a literal. -/
def octetsLiteral (bytes : List UInt8) : String :=
  let quote := Text.quoteFor (Text.ofChars (bytes.map fun n => Char.ofNat n.toNat))
  String.ofList ('b' :: quote :: (bytes.flatMap (octetChars quote) ++ [quote]))

/-- A name of an entry as a literal. -/
def Key.literal : Key → String
  | .null => "None"
  | .bool b => boolWord b
  | .int n => toString n
  | .real x => x.shortest
  | .strayNumber _ => Binary64.undefined.shortest
  | .text s => Text.quoted s
  | .day d => d.literal
  | .moment m => m.literal
  | .octets bytes => octetsLiteral bytes

/-- A name of an entry as text: a text is shown without quotes. -/
def Key.display : Key → Text
  | .text s => s
  | .day d => d.text
  | .moment m => m.text
  | key => key.literal

/-- Literals between brackets. -/
def bracketed (literals : List String) : String := "[" ++ String.intercalate ", " literals ++ "]"

/-- Literals between braces. -/
def braced (literals : List String) : String :=
  "\x7b" ++ String.intercalate ", " literals ++ "\x7d"

/-- Stands for the members of a collection. -/
def dots : List String := ["..."]

/-- A set as a literal. -/
def setLiteral (members : List Key) : String :=
  if members.isEmpty then "set()" else braced (members.map Key.literal)

/-- A value is an object, be it one that contains itself. -/
def Value.isObject : Value → Bool
  | .object _ => true
  | .loop _ body => body.isObject
  | .again _ isObject => isObject
  | _ => false

mutual

/-- A value as a literal, inside the loops with these numbers. -/
def Value.literalIn (around : List Nat) : Value → String
  | .null => "None"
  | .bool b => boolWord b
  | .int n => toString n
  | .real x => x.shortest
  | .text s => Text.quoted s
  | .list items => bracketed (Value.literals around items)
  | .object fields => braced (Value.entryLiterals around fields)
  | .day d => d.literal
  | .moment m => m.literal
  | .octets bytes => octetsLiteral bytes
  | .set members => setLiteral members
  | .pair first second => "(" ++ first.literalIn around ++ ", " ++ second.literalIn around ++ ")"
  | .loop id body =>
    if around.contains id then if body.isObject then braced dots else bracketed dots
    else body.literalIn (id :: around)
  | .again _ isObject => if isObject then braced dots else bracketed dots

/-- The members of a list as literals. -/
def Value.literals (around : List Nat) : List Value → List String
  | [] => []
  | v :: rest => v.literalIn around :: Value.literals around rest

/-- The entries of an object as literals. -/
def Value.entryLiterals (around : List Nat) : List (Key × Value) → List String
  | [] => []
  | (key, v) :: rest =>
    (key.literal ++ ": " ++ v.literalIn around) :: Value.entryLiterals around rest

end

/-- A value as a literal. -/
def Value.literal (v : Value) : String := v.literalIn []

/-- A value as text: a text is shown without quotes. -/
def Value.display : Value → Text
  | .text s => s
  | .day d => d.text
  | .moment m => m.text
  | v => v.literal

/-! ## Numbers that are too long -/

/-- A name can be written. -/
def Key.isWritable : Key → Bool
  | .int n => Typewright.isWritable n
  | _ => true

mutual

/-- A value can be written: it holds no whole number with too many digits. -/
def Value.isWritable : Value → Bool
  | .int n => Typewright.isWritable n
  | .list items => Value.areWritable items
  | .object fields => Value.entriesWritable fields
  | .set members => members.all Key.isWritable
  | .pair first second => first.isWritable && second.isWritable
  | .loop _ body => body.isWritable
  | _ => true

/-- The members of a list can be written. -/
def Value.areWritable : List Value → Bool
  | [] => true
  | v :: rest => v.isWritable && Value.areWritable rest

/-- The entries of an object can be written. -/
def Value.entriesWritable : List (Key × Value) → Bool
  | [] => true
  | (key, v) :: rest => key.isWritable && v.isWritable && Value.entriesWritable rest

end

end Typewright
