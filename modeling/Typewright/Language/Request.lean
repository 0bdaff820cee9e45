/-
  What an attribute asks of a converter: the kind and the hints, and nothing else of it.
-/
import Typewright.Language.Converter
import Typewright.Model.Attribute

namespace Typewright

/-- The request for the type of an attribute. -/
def Attribute.typeRequest (a : Attribute) : TypeRequest where
  type := a.type
  primitive := a.hints.primitive
  object := a.hints.object
  unsigned := a.hints.unsigned
  longText := a.constraints.longText

end Typewright
