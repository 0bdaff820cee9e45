/-
  The errors about references.

  A reference can be broken in three ways.  The recorded name of an attribute may name no entity; a
  part of a foreign key may name no entity, or name one that has no attribute of the name it gives.
  The check of references has one error for each of these and none beside, the one about the
  recorded name before those about the parts, and no two about one part
  (`Model.severe_referenceFindingsOf`).  It asks look-ups, where the rule speaks of the entities of
  the model and of their attributes (`Model.Intact`); distinct names make the two the same.

  So the check has no errors exactly if every reference leads to something in the model.
-/
import Mathlib.Data.List.Basic
import Typewright.Proofs.Finding

namespace Typewright

/-! ## What a reference leads to -/

namespace Model

/-- Some entity of the model has this class name. -/
def HasClass (m : Model) (className : Text) : Prop := ∃ e ∈ m.entities, e.className = className

/-- Some entity of the model has this class name, and an attribute with this name. -/
def HasAttribute (m : Model) (className name : Text) : Prop :=
  ∃ e ∈ m.entities, e.className = className ∧ ∃ a ∈ e.attributes, a.name = name

instance (m : Model) (className : Text) : Decidable (m.HasClass className) :=
  inferInstanceAs (Decidable (∃ e ∈ m.entities, e.className = className))

instance (m : Model) (className name : Text) : Decidable (m.HasAttribute className name) :=
  inferInstanceAs (Decidable (∃ e ∈ m.entities, e.className = className ∧
    ∃ a ∈ e.attributes, a.name = name))

/-- Every recorded name, without the blanks around it, is the class name of an entity of the model or
    empty, and every part of a foreign key names such an entity and one of its attributes. -/
structure Intact (m : Model) : Prop where
  recorded : ∀ e ∈ m.entities, ∀ a ∈ e.attributes,
    Text.trimmed (a.keys.references.getD []) ≠ [] →
      m.HasClass (Text.trimmed (a.keys.references.getD []))
  parts : ∀ e ∈ m.entities, ∀ a ∈ e.attributes, ∀ p ∈ a.keys.parts, m.HasAttribute p.entity p.target

/-- The error about the recorded name of an attribute, if there is one. -/
def recordedError? (m : Model) (e : Entity) (a : Attribute) : Option Finding :=
  let recorded := Text.trimmed (a.keys.references.getD [])
  if recorded ≠ [] ∧ ¬ m.HasClass recorded then
    some (.unknownReference e.className a.name recorded)
  else none

/-- The error about a part of a foreign key, if there is one. -/
def partError? (m : Model) (e : Entity) (a : Attribute) (p : ForeignKeyPart) : Option Finding :=
  if ¬ m.HasClass p.entity then some (.partUnknownEntity e.className a.name p.key p.entity)
  else if ¬ m.HasAttribute p.entity p.target then
    some (.partUnknownAttribute e.className a.name p.key p.entity p.target)
  else none

/-- The errors about the references of an attribute. -/
def referenceErrors (m : Model) (e : Entity) (a : Attribute) : List Finding :=
  (m.recordedError? e a).toList ++ a.keys.parts.filterMap (m.partError? e a)

variable {m : Model}

theorem hasClass_iff {className : Text} : m.HasClass className ↔ m.hasEntity className = true :=
  hasEntity_eq_true_iff.symm

/-- Under a class name there is one entity, so its attributes are all that can be named. -/
theorem hasAttribute_iff {className name : Text} {e : Entity}
    (h : m.entity? className = some e) :
    m.HasAttribute className name ↔ (e.attribute? name).isSome = true := by
  obtain ⟨he, hname⟩ := entity?_eq_some_iff.mp h
  have hfound : (e.attribute? name).isSome = true ↔ ∃ a ∈ e.attributes, a.name = name := by
    simpa using e.indexes_attribute?.isSome_iff name
  rw [hfound]
  constructor
  · rintro ⟨e', he', hname', hattribute⟩
    rwa [eq_of_className_eq he' he (hname'.trans hname.symm)] at hattribute
  · exact fun hattribute => ⟨e, he, hname, hattribute⟩

/-! ## The errors of the check -/

/-- The check of a part finds its error, if it has one. -/
theorem partFindings_eq (m : Model) (e : Entity) (a : Attribute) (p : ForeignKeyPart) :
    m.partFindings e a p = (m.partError? e a p).toList := by
  unfold partFindings partError?
  cases h : m.entity? p.entity with
  | none =>
    have hnone : ¬ m.HasClass p.entity := by simp [hasClass_iff, hasEntity, h]
    rw [if_pos hnone]
    rfl
  | some target =>
    have hsome : m.HasClass p.entity := by simp [hasClass_iff, hasEntity, h]
    rw [if_neg (not_not.mpr hsome)]
    cases hfound : target.attribute? p.target with
    | none =>
      have hno : ¬ m.HasAttribute p.entity p.target := by simp [hasAttribute_iff h, hfound]
      rw [if_pos hno]
      simp [findingIf, hfound]
    | some b =>
      have hyes : m.HasAttribute p.entity p.target := by simp [hasAttribute_iff h, hfound]
      rw [if_neg (not_not.mpr hyes)]
      simp [findingIf, hfound]

/-- What is found about parts is an error each time. -/
theorem severity_of_partError {e : Entity} {a : Attribute} {p : ForeignKeyPart} {f : Finding}
    (h : m.partError? e a p = some f) : f.severity = .error := by
  unfold partError? at h
  split at h
  · cases h; rfl
  · split at h
    · cases h; rfl
    · cases h

/-- The errors that the check of references has at an attribute. -/
theorem severe_referenceFindingsOf (m : Model) (e : Entity) (a : Attribute) :
    (m.referenceFindingsOf e a).filter (·.severity == .error) = m.referenceErrors e a := by
  have hrecorded : (findingIf (a.reference ≠ [] && !m.hasEntity a.reference)
      (.unknownReference e.className a.name a.reference)).filter (·.severity == .error) =
        (m.recordedError? e a).toList := by
    unfold recordedError? findingIf Attribute.reference
    generalize Text.trimmed (a.keys.references.getD []) = recorded
    have hcondition : (recorded ≠ [] && !m.hasEntity recorded) = true ↔
        recorded ≠ [] ∧ ¬ m.HasClass recorded := by
      simp [hasClass_iff]
    simp only [hcondition]
    split <;> rfl
  have hparts : (a.keys.parts.flatMap (m.partFindings e a)).filter (·.severity == .error) =
      a.keys.parts.filterMap (m.partError? e a) := by
    rw [funext (m.partFindings_eq e a), ← List.filterMap_eq_flatMap_toList]
    refine List.filter_eq_self.mpr fun f hf => ?_
    obtain ⟨p, -, hp⟩ := List.mem_filterMap.mp hf
    rw [severity_of_partError hp]
    rfl
  -- the other two sorts of findings are warnings
  have hwarning : (Severity.warning == Severity.error) = false := rfl
  have hmismatch : (findingIf a.disagrees (.referenceMismatch e.className a.name
      a.disagreementText)).filter (·.severity == .error) = [] := by
    simp [filter_findingIf, Finding.severity, hwarning]
  have hmissing : (findingIf (a.isForeignKey && a.reference = [])
      (.noReference e.className a.name)).filter (·.severity == .error) = [] := by
    simp [filter_findingIf, Finding.severity, hwarning]
  rw [referenceFindingsOf, List.filter_append, List.filter_append, List.filter_append, hrecorded,
    hparts, hmismatch, hmissing, List.append_nil, List.append_nil]
  rfl

/-- A part has no error exactly if it names an attribute of the model. -/
theorem partError?_eq_none_iff {e : Entity} {a : Attribute} {p : ForeignKeyPart} :
    m.partError? e a p = none ↔ m.HasAttribute p.entity p.target := by
  have hentity : m.HasAttribute p.entity p.target → m.HasClass p.entity :=
    fun ⟨target, htarget, hname, _⟩ => ⟨target, htarget, hname⟩
  unfold partError?
  by_cases hattribute : m.HasAttribute p.entity p.target
  · simp [hattribute, hentity hattribute]
  · by_cases hknown : m.HasClass p.entity <;> simp [hattribute, hknown]

/-- An attribute has no error exactly if its references lead to something. -/
theorem referenceErrors_eq_nil_iff {e : Entity} {a : Attribute} : m.referenceErrors e a = [] ↔
    (Text.trimmed (a.keys.references.getD []) ≠ [] →
        m.HasClass (Text.trimmed (a.keys.references.getD []))) ∧
      ∀ p ∈ a.keys.parts, m.HasAttribute p.entity p.target := by
  have hrecorded : (m.recordedError? e a).toList = [] ↔
      (Text.trimmed (a.keys.references.getD []) ≠ [] →
        m.HasClass (Text.trimmed (a.keys.references.getD []))) := by
    simp [recordedError?]
  rw [referenceErrors, List.append_eq_nil_iff, hrecorded, List.filterMap_eq_nil_iff]
  simp only [partError?_eq_none_iff]

/-- The errors of the check of references, in the order of the model. -/
theorem severe_referenceFindings (m : Model) :
    m.referenceFindings.filter (·.severity == .error) = m.eachAttribute m.referenceErrors := by
  simp only [referenceFindings, eachAttribute, List.filter_flatMap, severe_referenceFindingsOf]

theorem eachAttribute_referenceErrors_eq_nil_iff :
    m.eachAttribute m.referenceErrors = [] ↔ m.Intact := by
  simp only [eachAttribute, List.flatMap_eq_nil_iff, referenceErrors_eq_nil_iff]
  constructor
  · intro h
    exact ⟨fun e he a ha => (h e he a ha).1, fun e he a ha => (h e he a ha).2⟩
  · intro h e he a ha
    exact ⟨h.recorded e he a ha, h.parts e he a ha⟩

/-- **The errors of the check of references are those about broken references, in the order of the
    model; and there are none exactly if the references of the model are intact.** -/
theorem errors_referenceFindings (m : Model) :
    Issues.errors (m.referenceFindings.map Finding.issue) =
      (m.eachAttribute m.referenceErrors).map Finding.issue ∧
    (Issues.errors (m.referenceFindings.map Finding.issue) = [] ↔ m.Intact) := by
  have herrors : Issues.errors (m.referenceFindings.map Finding.issue) =
      (m.eachAttribute m.referenceErrors).map Finding.issue := by
    rw [Issues.errors, List.filter_map, ← severe_referenceFindings]
    rfl
  refine ⟨herrors, ?_⟩
  rw [herrors, List.map_eq_nil_iff, eachAttribute_referenceErrors_eq_nil_iff]

end Model

end Typewright
