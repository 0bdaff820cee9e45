/-
  Finding entities and attributes by name.

  A model and an entity find things in an index, into which they put them one after another, a later
  one replacing an earlier one of its name.  But the names are distinct, as the types say, so no
  entity and no attribute is lost: a look-up finds the one that has the name, wherever it stands,
  and it finds nothing exactly when none has it (`names_indexed`).
-/
import Typewright.Model.Entity
import Typewright.Proofs.Index

namespace Typewright

/-! ## Entities of a model -/

namespace Model

variable {m : Model} {e : Entity} {className : Text}

/-- The index of a model holds its entities. -/
theorem indexes_entity? (m : Model) : Indexes m.entity? Entity.className m.entities :=
  Index.indexes_ofList m.distinct

/-- An entity is found under a class name exactly if it is in the model and has that name. -/
theorem entity?_eq_some_iff :
    m.entity? className = some e ↔ e ∈ m.entities ∧ e.className = className :=
  m.indexes_entity?.found_iff className e

theorem entity?_eq_none_iff :
    m.entity? className = none ↔ ∀ e ∈ m.entities, e.className ≠ className := by
  simp [Option.eq_none_iff_forall_ne_some, entity?_eq_some_iff]

/-- Every entity of a model is found under its own name. -/
theorem entity?_of_mem (he : e ∈ m.entities) : m.entity? e.className = some e :=
  m.indexes_entity?.own e he

theorem hasEntity_eq_true_iff :
    m.hasEntity className = true ↔ ∃ e ∈ m.entities, e.className = className := by
  simp [hasEntity, Option.isSome_iff_exists, entity?_eq_some_iff]

theorem hasEntity_eq_false_iff :
    m.hasEntity className = false ↔ ∀ e ∈ m.entities, e.className ≠ className := by
  rw [hasEntity, Option.isSome_eq_false_iff, Option.isNone_iff_eq_none, entity?_eq_none_iff]

/-- Two entities of a model with one class name are one entity. -/
theorem eq_of_className_eq {e' : Entity} (he : e ∈ m.entities) (he' : e' ∈ m.entities)
    (h : e.className = e'.className) : e = e' :=
  List.inj_on_of_nodup_map m.distinct he he' h

end Model

/-! ## Attributes of an entity -/

namespace Entity

/-- The index of an entity holds its attributes. -/
theorem indexes_attribute? (e : Entity) : Indexes e.attribute? Attribute.name e.attributes :=
  Index.indexes_ofList e.distinct

/-- The attributes of an entity differ, since their names do. -/
theorem attributes_nodup (e : Entity) : e.attributes.Nodup := e.distinct.of_map _

/-- The names of the key are those names under which an attribute of the key is found. -/
theorem keyNames_eq_filter (e : Entity) :
    e.keyNames = (e.attributes.map (·.name)).filter fun n => (e.attribute? n).any (·.isKey) := by
  rw [keyNames, keyAttributes, List.filter_map]
  refine congrArg (List.map _) (List.filter_congr fun a ha => ?_)
  rw [Function.comp_apply, e.indexes_attribute?.own a ha, Option.any_some]

end Entity

/-- **No entity and no attribute is lost in the indexes.**  Under a class name a model finds the one
    entity that has it, and a class name is known exactly if it is one of its entities'.  Under a
    name an entity finds the one attribute that has it, and the names of its key are those under
    which it finds an attribute of the key. -/
theorem names_indexed (m : Model) (e : Entity) :
    Indexes m.entity? Entity.className m.entities ∧
      (∀ n, m.hasEntity n = true ↔ n ∈ m.classNames) ∧
      Indexes e.attribute? Attribute.name e.attributes ∧
      e.keyNames = (e.attributes.map (·.name)).filter fun n => (e.attribute? n).any (·.isKey) :=
  ⟨m.indexes_entity?, m.indexes_entity?.isSome_iff, e.indexes_attribute?, e.keyNames_eq_filter⟩

end Typewright
