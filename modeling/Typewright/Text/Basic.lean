/-
  Small texts on texts: padding, indentation, double quotes, accessor names.
-/
import Typewright.Text.Case

namespace Typewright.Text

/-- Fills up with spaces at the end to the given width; a text that is wide enough stays. -/
def padEnd (s : Text) (width : Int) : Text :=
  s ++ ofChars (List.replicate (width - s.length).toNat ' ')

/-- As many tabs as asked for; none for a negative count. -/
def tabs (n : Int) : Text := ofChars (List.replicate n.toNat '\t')

/-- A double quote. -/
def doubleQuote : CodePoint := .char '\x22'

/-- Takes one double quote off each end, if both ends have one. -/
def unquote (s : Text) : Text :=
  if 2 ≤ s.length ∧ s.head? = some doubleQuote ∧ s.getLast? = some doubleQuote then
    s.tail.dropLast
  else s

/-- The name of the accessor that reads an attribute: `is` in front for a primitive boolean, `get`
    otherwise. -/
def getterName (name : Text) (primitiveBoolean : Bool) : Text :=
  (if primitiveBoolean then "is" else "get") ++ capitalize name

/-- The name of the accessor that writes an attribute. -/
def setterName (name : Text) : Text := "set" ++ capitalize name

end Typewright.Text
