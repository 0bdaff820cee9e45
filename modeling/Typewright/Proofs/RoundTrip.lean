/-
  A model is read back from what is written of it.

  Both directions are taken group by group.  What is written of a group is read back as it was, if
  the group can be read at all: its decimals can be held, its names are strings, and the names of
  its tags are told apart (`Model.Readable`).  And whatever is read can be read.  The two halves meet
  in the middle: a model that was read from any data, however its fields were put there, is read back
  from its own data (`Model.read_withoutViews`).

  Two things are written that are not read, the number of entities and the names of key attributes.
  They are computed from the rest and have to be taken out before.
-/
import Typewright.Proofs.Readback

namespace Typewright

open Reader

/-! ## Groups of fields -/

section Groups

variable {fields : Fields}

/-- Constraints can be read: their bounds can be held. -/
structure Constraints.Readable (c : Constraints) : Prop where
  minValue : ∀ d ∈ c.minValue, d.inRange = true
  maxValue : ∀ d ∈ c.maxValue, d.inRange = true

theorem Constraints.read_fields {c : Constraints} (hc : c.Readable) (h : Shows fields c.fields) :
    Constraints.read fields = .passed c := by
  simp only [Constraints.fields, shows_cons] at h
  simp [Constraints.read, field, optionalField, h, optional_decimal_ofDecimal? hc.minValue,
    optional_decimal_ofDecimal? hc.maxValue]

/-- The bounds are read from fields of their own. -/
theorem Constraints.bounds_of_read {c : Constraints} (h : Constraints.read fields = .passed c) :
    optionalField "min_value" decimal fields = .passed c.minValue ∧
      optionalField "max_value" decimal fields = .passed c.maxValue := by
  -- all fields were read one after another, the two bounds among them
  simp only [Constraints.read, Checked.seq_eq_passed_iff, Checked.map_eq_passed_iff,
    exists_and_left, ↓existsAndEq, and_true] at h
  grind

theorem Constraints.readable_of_read {c : Constraints}
    (h : Constraints.read fields = .passed c) : c.Readable :=
  have hbounds := bounds_of_read h
  ⟨inRange_of_optionalField hbounds.1, inRange_of_optionalField hbounds.2⟩

theorem TypeHints.read_fields (t : TypeHints) (h : Shows fields t.fields) :
    TypeHints.read fields = .passed t := by
  simp only [TypeHints.fields, shows_cons] at h
  simp [TypeHints.read, field, h]

theorem Temporal.read_fields (t : Temporal) (h : Shows fields t.fields) :
    Temporal.read fields = .passed t := by
  simp only [Temporal.fields, shows_cons] at h
  simp [Temporal.read, field, optionalField, h]

theorem BooleanLiterals.read_fields (l : BooleanLiterals) (h : Shows fields l.fields) :
    BooleanLiterals.read fields = .passed l := by
  simp only [BooleanLiterals.fields, shows_cons] at h
  simp [BooleanLiterals.read, field, optionalField, h]

theorem Column.read_fields (c : Column) (h : Shows fields c.fields) :
    Column.read fields = .passed c := by
  simp only [Column.fields, shows_cons] at h
  simp [Column.read, field, optionalField, h]

theorem Persistence.read_fields (p : Persistence) (h : Shows fields p.fields) :
    Persistence.read fields = .passed p := by
  simp only [Persistence.fields, shows_cons] at h
  simp [Persistence.read, field, h]

theorem LinkUse.read_fields (l : LinkUse) (h : Shows fields l.fields) :
    LinkUse.read fields = .passed l := by
  simp only [LinkUse.fields, shows_cons] at h
  simp [LinkUse.read, field, h]

/-- A part of a foreign key can be read: its names are strings. -/
structure ForeignKeyPart.Readable (p : ForeignKeyPart) : Prop where
  key : Text.IsString p.key
  entity : Text.IsString p.entity
  target : Text.IsString p.target

theorem ForeignKeyPart.read_toValue {p : ForeignKeyPart} (hp : p.Readable) :
    ForeignKeyPart.read p.toValue = .passed p := by
  refine object_of_fields (by simp) rfl (fun shown h => ?_) rfl
  simp only [shows_cons] at h
  simp [required, field, h, name_text p.key_ne hp.key, name_text p.entity_ne hp.entity,
    name_text p.target_ne hp.target]

theorem ForeignKeyPart.readable_of_read {v : Value} {p : ForeignKeyPart}
    (h : ForeignKeyPart.read v = .passed p) : p.Readable := by
  obtain ⟨fields, q, hfields, hq⟩ := object_eq_passed h
  cases hq
  simp only [Checked.seq_eq_passed_iff, Checked.map_eq_passed_iff, exists_and_left, ↓existsAndEq,
    and_true] at hfields
  obtain ⟨key, entity, target, tableName, hnames, columnName, -, rfl⟩ := hfields
  obtain ⟨⟨⟨hkey, hentity⟩, htarget⟩, -⟩ := hnames
  exact ⟨isString_of_required hkey, isString_of_required hentity, isString_of_required htarget⟩

theorem KeyRole.read_fields {r : KeyRole} (hr : ∀ p ∈ r.parts, p.Readable)
    (h : Shows fields r.fields) : KeyRole.read fields = .passed (r.foreign, r) := by
  have hparts : list ForeignKeyPart.read (.list (r.parts.map ForeignKeyPart.toValue)) =
      .passed r.parts := list_map fun p hp => ForeignKeyPart.read_toValue (hr p hp)
  simp only [KeyRole.fields, shows_cons] at h
  simp [KeyRole.read, field, optionalField, h, hparts]

theorem KeyRole.readable_of_read {keys : Bool × KeyRole}
    (h : KeyRole.read fields = .passed keys) : ∀ p ∈ keys.2.parts, p.Readable := by
  have hparts : field "fk_parts" [] (list ForeignKeyPart.read) fields = .passed keys.2.parts := by
    simp only [KeyRole.read, Checked.seq_eq_passed_iff, Checked.map_eq_passed_iff,
      exists_and_left, ↓existsAndEq, and_true] at h
    grind
  intro p hp
  obtain ⟨v, hv⟩ := mem_of_listField hparts hp
  exact ForeignKeyPart.readable_of_read hv

theorem SequenceGenerator.read_toValue (g : SequenceGenerator) :
    SequenceGenerator.read g.toValue = .passed g := by
  refine object_of_fields (by simp) rfl (fun shown h => ?_) rfl
  simp only [shows_cons] at h
  simp [optionalField, field, h]

theorem TableGenerator.read_toValue (g : TableGenerator) :
    TableGenerator.read g.toValue = .passed g := by
  refine object_of_fields (by simp) rfl (fun shown h => ?_) rfl
  simp only [shows_cons] at h
  simp [optionalField, field, h]

/-- The generation as a description states it. -/
def Generation.draft (g : Generation) : GenerationDraft :=
  ⟨g.generated, g.strategy, g.generatorName, g.generator.bind Generator.sequence?,
    g.generator.bind Generator.table?⟩

theorem Generation.read_fields (g : Generation) (h : Shows fields g.fields) :
    GenerationDraft.read fields = .passed g.draft := by
  have hsequence : ∀ o : Option SequenceGenerator,
      optional SequenceGenerator.read (.ofOption SequenceGenerator.toValue o) = .passed o :=
    fun _ => optional_ofOption fun g _ => ⟨nofun, g.read_toValue⟩
  have htable : ∀ o : Option TableGenerator,
      optional TableGenerator.read (.ofOption TableGenerator.toValue o) = .passed o :=
    fun _ => optional_ofOption fun g _ => ⟨nofun, g.read_toValue⟩
  simp only [Generation.fields, shows_cons] at h
  simp [GenerationDraft.read, draft, field, optionalField, h, hsequence, htable]

/-- Of the two generators at most one is stated, and it is the one that is meant. -/
theorem Generation.settle_draft (g : Generation) (name : Text) :
    g.draft.settle name = .ok g := by
  obtain ⟨generated, strategy, generatorName, generator⟩ := g
  rcases generator with _ | _ | _ <;> rfl

end Groups

/-! ## Attributes -/

namespace Attribute

/-- An attribute can be read: its name is a string, and its bounds, the parts of its foreign keys
    and its tags can be read. -/
structure Readable (a : Attribute) : Prop where
  name : Text.IsString a.name
  constraints : a.constraints.Readable
  parts : ∀ p ∈ a.keys.parts, p.Readable
  tags : EntriesReadable a.tags

/-- An attribute as a description states it. -/
def draft (a : Attribute) : AttributeDraft where
  name := ⟨a.name, a.name_ne⟩
  type := a.type
  selected := a.selected
  constraints := a.constraints
  hints := a.hints
  temporal := a.temporal
  literals := a.literals
  column := a.column
  keys := (a.keys.foreign, a.keys)
  generation := a.generation.draft
  persistence := a.persistence
  tags := a.tags
  links := a.links

theorem settle_draft (a : Attribute) : a.draft.settle = .ok a := by
  simp [AttributeDraft.settle, draft, Generation.settle_draft]

theorem read_fields {a : Attribute} {fields : Fields} (ha : a.Readable)
    (h : Shows fields a.fields) : AttributeDraft.read fields = .passed a.draft := by
  simp only [Attribute.fields, shows_append] at h
  obtain ⟨⟨⟨⟨⟨⟨⟨⟨⟨⟨hidentity, hconstraints⟩, hhints⟩, htemporal⟩, hliterals⟩, hcolumn⟩, hkeys⟩,
    hgeneration⟩, hpersistence⟩, htags⟩, hlinks⟩ := h
  simp only [identityFields, tagFields, shows_cons] at hidentity htags
  simp [AttributeDraft.read, required, field, hidentity, htags, name_text a.name_ne ha.name,
    mapping_ofTexts ha.tags, Constraints.read_fields ha.constraints hconstraints,
    TypeHints.read_fields _ hhints, Temporal.read_fields _ htemporal,
    BooleanLiterals.read_fields _ hliterals, Column.read_fields _ hcolumn,
    KeyRole.read_fields ha.parts hkeys, Generation.read_fields _ hgeneration,
    Persistence.read_fields _ hpersistence, LinkUse.read_fields _ hlinks, draft]

theorem read_toValue {a : Attribute} (ha : a.Readable) : Attribute.read a.toValue = .passed a :=
  object_of_fields (by simp [AttributeDraft.fieldNames]) rfl (fun _ => read_fields ha)
    a.settle_draft

/-- What is settled on is what was described. -/
theorem of_settle {d : AttributeDraft} {a : Attribute} (h : d.settle = .ok a) :
    a.name = d.name.val ∧ a.constraints = d.constraints ∧ a.keys = d.keys.2 ∧ a.tags = d.tags := by
  unfold AttributeDraft.settle at h
  split at h
  · cases h
  · split at h
    next stated keys hkeys =>
      split at h
      · cases h
        exact ⟨rfl, rfl, by rw [hkeys], rfl⟩
      · cases h

/-- The groups that can hold what is not read back.  Of the others nothing has to be known: what is
    read of them is always read back. -/
theorem groups_of_read {fields : Fields} {d : AttributeDraft}
    (h : AttributeDraft.read fields = .passed d) :
    required "name" Reader.name fields = .passed d.name ∧
      Constraints.read fields = .passed d.constraints ∧ KeyRole.read fields = .passed d.keys ∧
      field "tags" [] (mapping entryName text) fields = .passed d.tags := by
  simp only [AttributeDraft.read, Checked.seq_eq_passed_iff, Checked.map_eq_passed_iff,
    exists_and_left, ↓existsAndEq, and_true] at h
  grind

theorem readable_of_read {v : Value} {a : Attribute} (h : Attribute.read v = .passed a) :
    a.Readable := by
  obtain ⟨fields, d, hfields, hsettle⟩ := object_eq_passed h
  obtain ⟨hname, hconstraints, hkeys, htags⟩ := of_settle hsettle
  obtain ⟨hreadName, hreadConstraints, hreadKeys, hreadTags⟩ := groups_of_read hfields
  constructor
  case name => exact hname ▸ isString_of_required hreadName
  case constraints => exact hconstraints ▸ Constraints.readable_of_read hreadConstraints
  case parts => exact hkeys ▸ KeyRole.readable_of_read hreadKeys
  case tags =>
    rw [htags]
    rcases field_eq_passed hreadTags with hnone | ⟨w, hw⟩
    · rw [hnone]
      exact ⟨List.nodup_nil, nofun⟩
    · exact readable_of_mapping hw

end Attribute

/-! ## Entities -/

namespace Entity

/-- An entity can be read: its name is a string, and its attributes can be read. -/
structure Readable (e : Entity) : Prop where
  className : Text.IsString e.className
  attributes : ∀ a ∈ e.attributes, a.Readable

/-- An entity as data without what is computed from it. -/
def description (e : Entity) : Value := .object e.fields

/-- An entity keeps the rules by which it was built. -/
theorem build_self (e : Entity) :
    Entity.build ⟨e.className, e.className_ne⟩ e.table e.attributes = .ok e := by
  have hfind : e.attributes.find? (KeyGroups.ofAttributes e.attributes).isLone = none :=
    KeyGroups.find?_isLone_eq_none_iff.mpr e.composite
  unfold Entity.build
  rw [dif_pos e.distinct]
  split
  next a hsome =>
    rw [hfind] at hsome
    cases hsome
  next => rfl

/-- What is built has the names and the attributes that were given. -/
theorem of_build {className : Name} {table : Option Text} {attributes : List Attribute}
    {e : Entity} (h : Entity.build className table attributes = .ok e) :
    e.className = className.val ∧ e.attributes = attributes := by
  unfold Entity.build at h
  split at h
  · split at h
    · cases h
    · cases h
      exact ⟨rfl, rfl⟩
  · cases h

theorem read_description {e : Entity} (he : e.Readable) :
    Entity.read e.description = .passed e := by
  have hattributes : list Attribute.read (.list (e.attributes.map Attribute.toValue)) =
      .passed e.attributes := list_map fun a ha => Attribute.read_toValue (he.attributes a ha)
  refine object_of_fields (a := (⟨e.className, e.className_ne⟩, e.table, e.attributes))
    (by simp) rfl (fun shown h => ?_) e.build_self
  simp only [Entity.fields, shows_cons] at h
  simp [required, field, optionalField, h, name_text e.className_ne he.className, hattributes]

theorem readable_of_read {v : Value} {e : Entity} (h : Entity.read v = .passed e) :
    e.Readable := by
  obtain ⟨fields, ⟨className, table, attributes⟩, hfields, hbuild⟩ := object_eq_passed h
  obtain ⟨hname, hattributes⟩ := of_build hbuild
  simp only [Checked.seq_eq_passed_iff, Checked.map_eq_passed_iff, exists_and_left, ↓existsAndEq,
    and_true] at hfields
  obtain ⟨hreadName, hreadAttributes⟩ :
      required "class_name" Reader.name fields = .passed className ∧
        field "attributes" [] (list Attribute.read) fields = .passed attributes := by grind
  constructor
  case className => exact hname ▸ isString_of_required hreadName
  case attributes =>
    intro a ha
    rw [hattributes] at ha
    obtain ⟨w, hw⟩ := mem_of_listField hreadAttributes ha
    exact Attribute.readable_of_read hw

end Entity

/-! ## Models -/

namespace Value

/-- An object without the entry under a name. -/
def without (name : String) : Value → Value
  | .object fields => .object (fields.filter (·.1 != .text name))
  | v => v

/-- An object with another value under a name. -/
def change (name : String) (f : Value → Value) : Value → Value
  | .object fields =>
    .object (fields.map fun (key, v) => (key, if key = .text name then f v else v))
  | v => v

/-- A list with every member changed. -/
def each (f : Value → Value) : Value → Value
  | .list items => .list (items.map f)
  | v => v

/-- A model as data without what is computed from it. -/
def withoutViews (v : Value) : Value :=
  (v.without "entity_count").change "entities" (each (without "key_attribute_names"))

end Value

namespace Model

/-- A model can be read: its name is a string, and its entities can be read. -/
structure Readable (m : Model) : Prop where
  name : Text.IsString m.name
  entities : ∀ e ∈ m.entities, e.Readable

/-- A model as data without what is computed from it. -/
def description (m : Model) : Value :=
  .object [("name", .text m.name), ("entities", .list (m.entities.map Entity.description))]

theorem withoutViews_toValue (m : Model) : m.toValue.withoutViews = m.description := by
  have hentity : ∀ e : Entity,
      e.toValue.without "key_attribute_names" = e.description := by
    intro e
    simp [Value.without, Entity.toValue, Entity.description, Entity.fields, Entity.keyFields,
      Text.ofString_inj]
  have hentities : (m.entities.map Entity.toValue).map (Value.without "key_attribute_names") =
      m.entities.map Entity.description := by
    rw [List.map_map]
    exact List.map_congr_left fun e _ => hentity e
  simp [toValue, description, Value.withoutViews, Value.without, Value.change, Value.each,
    Text.ofString_inj, ← hentities]

theorem build_self (m : Model) : Model.build ⟨m.name, m.name_ne⟩ m.entities = .ok m := by
  unfold Model.build
  rw [dif_pos m.distinct]

theorem of_build {name : Name} {entities : List Entity} {m : Model}
    (h : Model.build name entities = .ok m) : m.name = name.val ∧ m.entities = entities := by
  unfold Model.build at h
  split at h
  · cases h
    exact ⟨rfl, rfl⟩
  · cases h

/-- What is written of a model that can be read is read back as this model. -/
theorem read_description {m : Model} (hm : m.Readable) : Model.read m.description = .passed m := by
  have hentities : list Entity.read (.list (m.entities.map Entity.description)) =
      .passed m.entities := list_map fun e he => Entity.read_description (hm.entities e he)
  refine object_of_fields (a := (⟨m.name, m.name_ne⟩, m.entities))
    (by simp) rfl (fun shown h => ?_) m.build_self
  simp only [shows_cons] at h
  simp [field, h, name_text m.name_ne hm.name, hentities]

/-- Every model that is read can be read. -/
theorem readable_of_read {v : Value} {m : Model} (h : Model.read v = .passed m) :
    m.Readable := by
  obtain ⟨fields, ⟨modelName, entities⟩, hfields, hbuild⟩ := object_eq_passed h
  obtain ⟨hname, hentities⟩ := of_build hbuild
  simp only [Checked.seq_eq_passed_iff, Checked.map_eq_passed_iff, exists_and_left, ↓existsAndEq,
    and_true] at hfields
  obtain ⟨hreadName, hreadEntities⟩ :
      field "name" ⟨"model", by decide⟩ Reader.name fields = .passed modelName ∧
        field "entities" [] (list Entity.read) fields = .passed entities := by grind
  constructor
  case name =>
    rw [hname]
    rcases field_eq_passed hreadName with rfl | ⟨w, hw⟩
    · exact ⟨"model", Text.string?_ofString "model"⟩
    · exact isString_of_name hw
  case entities =>
    intro e he
    rw [hentities] at he
    obtain ⟨w, hw⟩ := mem_of_listField hreadEntities he
    exact Entity.readable_of_read hw

/-- A model is read back from what is written of it exactly if it can be read at all. -/
theorem read_description_iff {m : Model} : Model.read m.description = .passed m ↔ m.Readable :=
  ⟨readable_of_read, read_description⟩

/-- **A model that was read is read back from what is written of it.** -/
theorem read_withoutViews (v : Value) (m : Model) (h : Model.read v = .passed m) :
    Model.read m.toValue.withoutViews = .passed m := by
  rw [withoutViews_toValue]
  exact read_description (readable_of_read h)

/-- Data of a model, in which little is written as a model writes it. -/
def looseData : Value :=
  .object
    [("entities", .list
      [.object
        [("class_name", .text "Load"), ("attributes", .list
          [.object
            [("name", .text "weight"), ("neutral_type", .text "decimal"),
              ("min_value", .text " -1.50e+7 "), ("insertable", .text " TRUE ")]])]])]

theorem read_withoutViews_loose :
    ∃ m, Model.read looseData = .passed m ∧
      (m.entities.flatMap (·.attributes)).map (·.constraints.minValue) =
        [some (Decimal.mk true 150 5)] ∧
      Model.read m.toValue.withoutViews = .passed m := by
  have hread : ((Model.read looseData).toExcept.toOption.map fun m =>
      (m.entities.flatMap (·.attributes)).map (·.constraints.minValue)) =
        some [some (Decimal.mk true 150 5)] := by
    decide +kernel
  cases h : Model.read looseData with
  | failed faults =>
    rw [h] at hread
    cases hread
  | passed m =>
    rw [h] at hread
    exact ⟨m, rfl, Option.some.inj hread, read_withoutViews looseData m h⟩

end Model

end Typewright
