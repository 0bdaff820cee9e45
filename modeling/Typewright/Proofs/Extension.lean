/-
  Another entity beside those of a model.

  A model in which every name that is referred to is there can be extended by another entity, put in
  at any place, without a change for those that it has.  No look-up that succeeded is redirected,
  since the class name of the new entity is none of theirs; and none that fails is made to succeed,
  since none fails.  So references lead where they led (`Model.Inserts.follow_eq`), and the check of
  references, the one that looks beyond an entity, says the same about an attribute as before.

  Findings and rows name the entity that they are about.  Among those of the extended model, the ones
  that name an entity of the model are therefore those that the model has by itself, in the same
  order (`Model.Inserts.filter_flatMap`).
-/
import Typewright.Proofs.Accounting
import Typewright.Proofs.Agreement

namespace Typewright

/-! ## Findings name their entity -/

theorem Finding.entity_of_findingIf {condition : Bool} {f g : Finding}
    (h : f ∈ findingIf condition g) : f.entity = g.entity := by
  rw [(mem_findingIf.mp h).2]

theorem Finding.entity_of_singleton {f g : Finding} (h : f ∈ [g]) : f.entity = g.entity := by
  rw [List.mem_singleton.mp h]

namespace Entity

open Finding

variable {e : Entity} {f : Finding}

theorem entity_of_ownName (h : f ∈ e.ownNameFindings) : f.entity = e.className := by
  unfold ownNameFindings at h
  split at h
  · exact entity_of_singleton h
  · exact entity_of_findingIf h

theorem entity_of_attributeName (h : f ∈ e.attributeNameFindings) : f.entity = e.className := by
  rcases List.mem_append.mp h with hnone | hname
  · exact entity_of_findingIf hnone
  · obtain ⟨a, -, ha⟩ := List.mem_flatMap.mp hname
    exact (namesSubject_nameFindings e a f ha).1

theorem entity_of_key (h : f ∈ e.keyFindings) : f.entity = e.className := by
  rcases List.mem_append.mp h with hnone | htransient
  · exact entity_of_findingIf hnone
  · obtain ⟨a, -, ha⟩ := List.mem_flatMap.mp htransient
    exact entity_of_findingIf ha

end Entity

/-! ## Models with another entity -/

namespace Model

/-- A model with another entity put in between those that it has. -/
structure Inserts (m m' : Model) (before : List Entity) (e : Entity) (after : List Entity) :
    Prop where
  name : m'.name = m.name
  entities : m.entities = before ++ after
  entities' : m'.entities = before ++ e :: after

/-- Every entity and every attribute that is referred to is there: the check of references has no
    errors. -/
def ReferencesSound (m : Model) : Prop := ∀ f ∈ m.referenceFindings, f.severity ≠ .error

/-- A finding is about an entity of the model. -/
def concerns (m : Model) (f : Finding) : Bool := m.classNames.contains f.entity

variable {m m' : Model} {before after : List Entity} {e o : Entity} {a : Attribute}

theorem hasEntity_nil (m : Model) : m.hasEntity [] = false := by
  have hnone : m.entity? [] = none := entity?_eq_none_iff.mpr fun e _ => e.className_ne
  rw [hasEntity, hnone]
  rfl

namespace ReferencesSound

variable (h : m.ReferencesSound) (ho : o ∈ m.entities) (ha : a ∈ o.attributes)

include h ho ha

theorem reference : a.reference = [] ∨ m.hasEntity a.reference = true :=
  reference_of_sound h ho ha

theorem part {p : ForeignKeyPart} (hp : p ∈ a.keys.parts) : m.hasEntity p.entity = true := by
  by_contra hdangling
  have hnone : m.entity? p.entity = none := by simpa [hasEntity] using hdangling
  have hpart : Finding.partUnknownEntity o.className a.name p.key p.entity ∈
      m.partFindings o a p := by
    unfold partFindings
    rw [hnone]
    exact .head _
  have hfound := mem_referenceFindingsOf.mpr (.inr (.inl ⟨p, hp, hpart⟩))
  exact h _ (mem_eachAttribute _ ho ha hfound) rfl

end ReferencesSound

namespace Inserts

variable (h : m.Inserts m' before e after)

include h

theorem mem_of_mem (ho : o ∈ m.entities) : o ∈ m'.entities := by
  rw [h.entities, List.mem_append] at ho
  rw [h.entities', List.mem_append, List.mem_cons]
  exact ho.imp id .inr

/-- The new entity has a class name of its own. -/
theorem className_notMem : e.className ∉ m.classNames := by
  have hdistinct := m'.distinct
  rw [h.entities', List.map_append, List.map_cons, List.nodup_middle, List.nodup_cons] at hdistinct
  rw [classNames, h.entities, List.map_append]
  exact hdistinct.1

/-! ### Look-ups -/

/-- An entity that is found is found in the extended model too. -/
theorem entity?_eq {className : Text} (hfound : m.hasEntity className = true) :
    m'.entity? className = m.entity? className := by
  obtain ⟨o, ho⟩ := Option.isSome_iff_exists.mp hfound
  obtain ⟨hmem, hname⟩ := entity?_eq_some_iff.mp ho
  rw [ho]
  exact entity?_eq_some_iff.mpr ⟨h.mem_of_mem hmem, hname⟩

theorem hasEntity_eq {className : Text} (hfound : className = [] ∨ m.hasEntity className = true) :
    m'.hasEntity className = m.hasEntity className := by
  rcases hfound with rfl | hhas
  · rw [hasEntity_nil, hasEntity_nil]
  · rw [hasEntity, hasEntity, h.entity?_eq hhas]

/-- Following a reference goes the same way, and reports the same. -/
theorem follow_eq (hreference : a.reference = [] ∨ m.hasEntity a.reference = true) (owner : Text) :
    m'.follow owner a = m.follow owner a := by
  unfold follow
  rcases hreference with hnone | hhas
  · rw [if_pos hnone, if_pos hnone]
  · rw [h.entity?_eq hhas, h.name]

theorem referenceFindingsOf_eq (hsound : m.ReferencesSound) (ho : o ∈ m.entities)
    (ha : a ∈ o.attributes) : m'.referenceFindingsOf o a = m.referenceFindingsOf o a := by
  have hparts : a.keys.parts.flatMap (m'.partFindings o a) =
      a.keys.parts.flatMap (m.partFindings o a) := by
    refine List.flatMap_congr fun p hp => ?_
    unfold partFindings
    rw [h.entity?_eq (hsound.part ho ha hp)]
  unfold referenceFindingsOf
  rw [h.hasEntity_eq (hsound.reference ho ha), hparts]

/-! ### What names an entity of the model -/

/-- Of what the entities of the extended model give, that which names an entity of the model is what
    these give, in the same order. -/
theorem filter_flatMap {β : Type} {give : Entity → List β} {owner : β → Text}
    (howner : ∀ o, ∀ x ∈ give o, owner x = o.className) :
    (m'.entities.flatMap give).filter (fun x => m.classNames.contains (owner x)) =
      m.entities.flatMap give := by
  have hkept : ∀ os : List Entity, (∀ o ∈ os, o ∈ m.entities) →
      (os.flatMap give).filter (fun x => m.classNames.contains (owner x)) = os.flatMap give := by
    intro os hos
    refine List.filter_eq_self.mpr fun x hx => ?_
    obtain ⟨o, ho, hgiven⟩ := List.mem_flatMap.mp hx
    rw [howner o x hgiven, List.contains_iff_mem]
    exact List.mem_map_of_mem (hos o ho)
  have hdropped : (give e).filter (fun x => m.classNames.contains (owner x)) = [] := by
    refine List.filter_eq_nil_iff.mpr fun x hx hname => h.className_notMem ?_
    rw [howner e x hx, List.contains_iff_mem] at hname
    exact hname
  have hbefore := hkept before fun o ho => h.entities ▸ List.mem_append_left _ ho
  have hafter := hkept after fun o ho => h.entities ▸ List.mem_append_right _ ho
  rw [h.entities', h.entities, List.flatMap_append, List.flatMap_append, List.flatMap_cons,
    List.filter_append, List.filter_append, hbefore, hdropped, hafter, List.nil_append]

/-- The findings of a check of attributes that says the same about those of the model. -/
theorem filter_eachAttribute {check check' : Entity → Attribute → List Finding}
    (hcheck : NamesSubject check')
    (hsame : ∀ o ∈ m.entities, ∀ a ∈ o.attributes, check' o a = check o a) :
    (m'.eachAttribute check').filter m.concerns = m.eachAttribute check := by
  have howners : ∀ o : Entity, ∀ f ∈ o.attributes.flatMap (check' o),
      f.entity = o.className := by
    intro o f hf
    obtain ⟨a, -, ha⟩ := List.mem_flatMap.mp hf
    exact (hcheck o a f ha).1
  have hkept := h.filter_flatMap howners
  refine hkept.trans ?_
  exact List.flatMap_congr fun o ho => List.flatMap_congr (hsame o ho)

/-- The findings of the checks that cannot fail. -/
theorem filter_earlyFindings (hsound : m.ReferencesSound) :
    m'.earlyFindings.filter m.concerns = m.earlyFindings := by
  have hentityNames : m'.entityNameFindings.filter m.concerns = m.entityNameFindings :=
    h.filter_flatMap fun _ _ => Entity.entity_of_ownName
  have hattributeNames : m'.attributeNameFindings.filter m.concerns = m.attributeNameFindings :=
    h.filter_flatMap fun _ _ => Entity.entity_of_attributeName
  have hkeys : m'.keyFindings.filter m.concerns = m.keyFindings :=
    h.filter_flatMap fun _ _ => Entity.entity_of_key
  have hreferences : m'.referenceFindings.filter m.concerns = m.referenceFindings :=
    h.filter_eachAttribute m'.namesSubject_referenceFindingsOf
      fun _ ho _ ha => h.referenceFindingsOf_eq hsound ho ha
  have hgeneration : m'.generationFindings.filter m.concerns = m.generationFindings :=
    h.filter_eachAttribute Entity.namesSubject_generationFindings fun _ _ _ _ => rfl
  unfold earlyFindings
  simp only [List.filter_append, hentityNames, hattributeNames, hkeys, hreferences, hgeneration]

/-- The check of constraints fails on the extended model if it does on the model, or at the new
    entity. -/
theorem wordable_iff :
    (∀ o ∈ m'.entities, ∀ a ∈ o.attributes, ¬ a.constraints.Unwordable) ↔
      (∀ o ∈ m.entities, ∀ a ∈ o.attributes, ¬ a.constraints.Unwordable) ∧
        ∀ a ∈ e.attributes, ¬ a.constraints.Unwordable := by
  rw [h.entities', h.entities]
  simp only [List.forall_mem_append, List.forall_mem_cons]
  tauto

/-- **The findings that are about an entity of the model stay, in their order.** -/
theorem filter_findings (hsound : m.ReferencesSound) {environment : Option Environment}
    {found : List Finding} (hfound : m'.findings environment = .ok found) :
    m.findings environment = .ok (found.filter m.concerns) := by
  obtain ⟨own, hown, rfl⟩ := findings_eq_ok_iff.mp hfound
  obtain ⟨rfl, hwordable⟩ := constraintFindings_eq_ok_iff.mp hown
  have hconstraints : (m'.eachAttribute Entity.constraintFindings).filter m.concerns =
      m.eachAttribute Entity.constraintFindings :=
    h.filter_eachAttribute Entity.namesSubject_constraintFindings fun _ _ _ _ => rfl
  have hlanguage (converter : Converter) :
      (m'.languageFindings converter).filter m.concerns = m.languageFindings converter :=
    h.filter_eachAttribute (Entity.namesSubject_languageFindings converter) fun _ _ _ _ => rfl
  refine findings_eq_ok_iff.mpr
    ⟨_, constraintFindings_eq_ok_iff.mpr ⟨rfl, (h.wordable_iff.mp hwordable).1⟩, ?_⟩
  rw [List.filter_append, List.filter_append, h.filter_earlyFindings hsound, hconstraints]
  cases environment with
  | none => rfl
  | some env => exact congrArg _ (hlanguage env.converter).symm

/-- The attributes that belong to an entity of the model stay, in their order. -/
theorem filter_owned :
    m'.owned.filter (fun p => m.classNames.contains p.1.className) = m.owned := by
  have howner : ∀ o : Entity, ∀ p ∈ o.attributes.map (Prod.mk o), p.1.className = o.className := by
    intro o p hp
    obtain ⟨a, -, rfl⟩ := List.mem_map.mp hp
    rfl
  exact h.filter_flatMap howner

end Inserts

end Model

/-! ## Issues -/

/-- An issue is about an entity with one of these class names. -/
def Issue.isAbout (names : List Text) (i : Issue) : Bool :=
  match i.context.get? "entity" with
  | some (.text name) => names.contains name
  | _ => false

theorem Finding.isAbout_issue (names : List Text) (f : Finding) :
    f.issue.isAbout names = names.contains f.entity := by
  have hentity : f.issue.context.get? "entity" = some (.text f.entity) := List.lookup_cons_self
  unfold Issue.isAbout
  rw [hentity]

theorem Model.Inserts.filter_issues {m m' : Model} {before after : List Entity} {e : Entity}
    (h : m.Inserts m' before e after) (hsound : m.ReferencesSound)
    {environment : Option Environment} {found : Issues}
    (hfound : m'.issues environment = .ok found) :
    m.issues environment = .ok (found.filter (Issue.isAbout m.classNames)) := by
  have habout : Issue.isAbout m.classNames ∘ Finding.issue = m.concerns :=
    funext (Finding.isAbout_issue m.classNames)
  obtain ⟨findings, hfindings, rfl⟩ := map_eq_ok_iff.mp hfound
  rw [List.filter_map, habout]
  exact map_eq_ok_iff.mpr ⟨_, h.filter_findings hsound hfindings, rfl⟩

/-! ## Reports -/

namespace Session

variable {m m' : Model} {before after : List Entity} {e : Entity} {env : Environment}
variable {found found' : List Row}

/-- The rows that are about an attribute of the model stay, in their order. -/
theorem filter_rows (h : m.Inserts m' before e after) (hsound : m.ReferencesSound)
    (hrows : List.Forall₂ (fun p r => (rowOf m env p).outcome = .ok r) m.owned found)
    (hrows' : List.Forall₂ (fun p r => (rowOf m' env p).outcome = .ok r) m'.owned found') :
    found'.filter (fun r => m.classNames.contains r.snapshot.entity) = found := by
  have hkept : List.Forall₂ (fun p r => (rowOf m' env p).outcome = .ok r)
      m.owned (found'.filter fun r => m.classNames.contains r.snapshot.entity) := by
    rw [← h.filter_owned]
    exact filter_of_forall₂ hrows' fun p r hr =>
      congrArg m.classNames.contains (shows_of_row hr).entity.symm
  have hsame : ∀ p ∈ m.owned, (rowOf m' env p).outcome = (rowOf m env p).outcome := by
    intro p hp
    obtain ⟨o, ho, hmem⟩ := List.mem_flatMap.mp hp
    obtain ⟨a, ha, rfl⟩ := List.mem_map.mp hmem
    exact outcome_rowOf_congr rfl h.name (h.hasEntity_eq (hsound.reference ho ha))
  -- both lists are the outcomes of the same attributes
  have houtcomes : m.owned.map (fun p => (rowOf m env p).outcome) = found.map Except.ok :=
    map_eq_of_forall₂ hrows fun _ _ hr => hr
  have houtcomes' : m.owned.map (fun p => (rowOf m' env p).outcome) =
      (found'.filter fun r => m.classNames.contains r.snapshot.entity).map Except.ok :=
    map_eq_of_forall₂ hkept fun _ _ hr => hr
  rw [List.map_congr_left hsame, houtcomes] at houtcomes'
  have hinjective : Function.Injective (Except.ok : Row → Except Failure Row) :=
    fun _ _ => Except.ok.inj
  exact (List.map_injective_iff.mpr hinjective houtcomes').symm

end Session

namespace Model

/-- The complaints about the attributes of some entities, in order. -/
def complaintsAbout (m : Model) (es : List Entity) : List Text :=
  es.flatMap fun o => o.attributes.filterMap fun a => m.complaint? (o, a)

/-- What a run complains about at an attribute does not depend on the other entities. -/
theorem complaintsAbout_eq (m m' : Model) (es : List Entity) :
    m'.complaintsAbout es = m.complaintsAbout es := by
  have hcomplaint : m'.complaint? = m.complaint? := by
    funext p
    rw [complaint?_eq, complaint?_eq]
  unfold complaintsAbout
  rw [hcomplaint]

theorem filterMap_owned_complaint? (m : Model) :
    m.owned.filterMap m.complaint? = m.complaintsAbout m.entities := by
  unfold owned complaintsAbout
  rw [List.filterMap_flatMap]
  refine List.flatMap_congr fun o _ => ?_
  rw [List.filterMap_map]
  rfl

/-- What another entity in a model leaves as it was. -/
structure Stable (m m' : Model) (before : List Entity) (e : Entity) (after : List Entity) :
    Prop where
  /-- The references of the attributes lead to the same entities, or fail alike, and report the
      same. -/
  references : ∀ o ∈ m.entities, ∀ a ∈ o.attributes, ∀ owner,
    m'.follow owner a = m.follow owner a
  /-- The issues about entities of the model are its own, in the same order. -/
  issues : ∀ environment found, m'.issues environment = .ok found →
    m.issues environment = .ok (found.filter (Issue.isAbout m.classNames))
  /-- The checks report issues if they do for the model, unless the other entity keeps them from
      it by bounds on a length that cross and that there are no words for. -/
  reported : ∀ environment, (∃ found, m'.issues environment = .ok found) ↔
    (∃ found, m.issues environment = .ok found) ∧
      ∀ a ∈ e.attributes, ¬ a.constraints.Unwordable
  /-- So are the rows of successful runs, and all complaints but those about the other entity. -/
  reports : ∀ env strict strict' ops ops' report report',
    ((Session.start m env strict).after ops).resolve.1.outcome = .ok report →
    ((Session.start m' env strict').after ops').resolve.1.outcome = .ok report' →
    report.success = true → report'.success = true →
      report'.rows.filter (fun r => m.classNames.contains r.snapshot.entity) = report.rows ∧
      report.complaints = m.complaintsAbout before ++ m.complaintsAbout after ∧
      report'.complaints =
        m.complaintsAbout before ++ m'.complaintsAbout [e] ++ m.complaintsAbout after

/-- A shop that has shelves too. -/
def shopWithShelf : Model where
  name := "shop"
  entities := [plainItem, shelf, shopPart]
  name_ne := shop.name_ne
  distinct := by decide

end Model

end Typewright
