/-
  The checks of what ties entities together and to the database: keys, references, and generated
  values.

  References are looked at twice, as they are recorded: once the name that is followed, and then
  every part of a foreign key, whose entity and attribute both have to be there.
-/
import Typewright.Check.Naming
import Typewright.Model.Generated

namespace Typewright

/-! ## Keys -/

/-- What there is to say about the key of an entity: it has to have one, and a part of it that is
    transient cannot be stored. -/
def Entity.keyFindings (e : Entity) : List Finding :=
  findingIf e.keyAttributes.isEmpty (.noKey e.className) ++
    e.keyAttributes.flatMap fun a =>
      findingIf a.persistence.transient (.transientKey e.className a.name)

/-- The findings about keys. -/
def Model.keyFindings (m : Model) : List Finding := m.entities.flatMap Entity.keyFindings

/-! ## References -/

namespace Model

/-- What there is to say about a part of a foreign key: its entity has to be there, and then its
    attribute. -/
def partFindings (m : Model) (e : Entity) (a : Attribute) (p : ForeignKeyPart) : List Finding :=
  match m.entity? p.entity with
  | none => [.partUnknownEntity e.className a.name p.key p.entity]
  | some target =>
    findingIf (target.attribute? p.target).isNone
      (.partUnknownAttribute e.className a.name p.key p.entity p.target)

/-- What there is to say about the references of an attribute. -/
def referenceFindingsOf (m : Model) (e : Entity) (a : Attribute) : List Finding :=
  findingIf (a.reference ≠ [] && !m.hasEntity a.reference)
      (.unknownReference e.className a.name a.reference) ++
    a.keys.parts.flatMap (m.partFindings e a) ++
    findingIf a.disagrees (.referenceMismatch e.className a.name a.disagreementText) ++
    findingIf (a.isForeignKey && a.reference = []) (.noReference e.className a.name)

/-- The findings about references. -/
def referenceFindings (m : Model) : List Finding := m.eachAttribute m.referenceFindingsOf

end Model

/-! ## Generated values -/

/-- What there is to say about a generator that an attribute describes: the value has to be
    generated, and by the strategy that uses the generator if one is chosen. -/
def Entity.generatorFindings (e : Entity) (a : Attribute) (kind : GeneratorKind) : List Finding :=
  if !a.generatedValue.generated then [.generatorUnused e.className a.name kind]
  else
    let strategy := a.generation.strategy
    findingIf (strategy ≠ .unset && strategy ≠ kind.strategy)
      (.generatorMismatch e.className a.name kind strategy)

/-- What there is to say about the generation of an attribute. -/
def Entity.generationFindings (e : Entity) (a : Attribute) : List Finding :=
  (match a.generation.generator with
    | some (.sequence _) => e.generatorFindings a .sequence
    | some (.table _) => e.generatorFindings a .table
    | none => []) ++
    findingIf a.strategyIgnored (.strategyIgnored e.className a.name)

/-- The findings about generated values. -/
def Model.generationFindings (m : Model) : List Finding := m.eachAttribute Entity.generationFindings

end Typewright
