/-
  The check of names.

  The name of a class or of an attribute has to be an identifier.  Beyond that a class is expected
  to be written with a capital in front and an attribute with a small letter.
-/
import Typewright.Check.Finding
import Typewright.Text.Identifier

namespace Typewright

/-- A finding that is made under a condition. -/
def findingIf (condition : Bool) (f : Finding) : List Finding := if condition then [f] else []

namespace Entity

/-- What there is to say about the name of an entity. -/
def ownNameFindings (e : Entity) : List Finding :=
  if !Text.isIdentifier e.className then [.invalidEntityName e.className]
  else findingIf (!Text.isPascalCase e.className) (.entityNotPascalCase e.className)

/-- What there is to say about the name of an attribute of an entity. -/
def nameFindings (e : Entity) (a : Attribute) : List Finding :=
  if !Text.isIdentifier a.name then [.invalidAttributeName e.className a.name]
  else findingIf (!Text.isCamelCase a.name) (.attributeNotCamelCase e.className a.name)

/-- What there is to say about the names of the attributes of an entity, or about the lack of
    any. -/
def attributeNameFindings (e : Entity) : List Finding :=
  findingIf e.attributes.isEmpty (.noAttributes e.className) ++ e.attributes.flatMap e.nameFindings

end Entity

namespace Model

/-- The findings about the names of entities. -/
def entityNameFindings (m : Model) : List Finding := m.entities.flatMap Entity.ownNameFindings

/-- The findings about the names of attributes. -/
def attributeNameFindings (m : Model) : List Finding :=
  m.entities.flatMap Entity.attributeNameFindings

/-- The findings of a check that looks at one attribute after another. -/
def eachAttribute (m : Model) (check : Entity → Attribute → List Finding) : List Finding :=
  m.entities.flatMap fun e => e.attributes.flatMap (check e)

end Model

end Typewright
