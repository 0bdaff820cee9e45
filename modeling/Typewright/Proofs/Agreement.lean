/-
  The check of references and the following of references agree.

  Both look at the recorded name of an attribute, each on a way of its own.  The check never follows
  a name: it asks whether an entity has it, and it has findings instead of failures.  What they come
  to is the same.  A recorded entity is found missing exactly where following the reference fails
  for the lack of it; a foreign key is found to record nothing exactly where there is nothing to
  follow; and the check warns of parts that name another entity exactly where following the
  reference does.

  A run complains about a reference that is not recorded and goes on.  So the complaints of a
  successful run and the warnings about foreign keys without a reference are about the same
  attributes, in the same order (`Model.unrecorded`).
-/
import Typewright.Proofs.Row

namespace Typewright

/-! ## The check of references at one attribute -/

/-- The reports of work in two parts, where the first part has a result. -/
theorem Traced.records_bind {α β : Type} {t : Traced α} {next : α → Traced β} {x : α}
    (h : t.outcome = .ok x) : (t >>= next).records = t.records ++ (next x).records := by
  show (t.andThen next).records = _
  unfold andThen
  rw [h]

namespace Model

variable {m : Model} {env : Environment} {e : Entity} {a : Attribute} {f : Finding}

/-- The check of references reports a finding of this code for an attribute. -/
def Reports (m : Model) (code : String) (e : Entity) (a : Attribute) : Prop :=
  ∃ f ∈ m.referenceFindings, f.code = code ∧ f.entity = e.className ∧ f.name? = some a.name

/-- What is said about a part of a foreign key. -/
theorem mem_partFindings {p : ForeignKeyPart} (h : f ∈ m.partFindings e a p) :
    f = .partUnknownEntity e.className a.name p.key p.entity ∨
      f = .partUnknownAttribute e.className a.name p.key p.entity p.target := by
  unfold partFindings at h
  split at h
  · exact .inl (List.mem_singleton.mp h)
  · exact .inr (mem_findingIf.mp h).2

/-- Every finding about the references of an attribute is one of four sorts. -/
theorem mem_referenceFindingsOf : f ∈ m.referenceFindingsOf e a ↔
    ((a.reference ≠ [] ∧ m.hasEntity a.reference = false) ∧
      f = .unknownReference e.className a.name a.reference) ∨
    (∃ p ∈ a.keys.parts, f ∈ m.partFindings e a p) ∨
    (a.disagrees = true ∧ f = .referenceMismatch e.className a.name a.disagreementText) ∨
    ((a.isForeignKey = true ∧ a.reference = []) ∧ f = .noReference e.className a.name) := by
  simp [referenceFindingsOf]

theorem namesSubject_referenceFindingsOf (m : Model) : NamesSubject m.referenceFindingsOf := by
  intro e a f hf
  obtain ⟨-, rfl⟩ | ⟨p, -, hp⟩ | ⟨-, rfl⟩ | ⟨-, rfl⟩ := mem_referenceFindingsOf.mp hf
  · exact ⟨rfl, rfl⟩
  · obtain rfl | rfl := mem_partFindings hp <;> exact ⟨rfl, rfl⟩
  · exact ⟨rfl, rfl⟩
  · exact ⟨rfl, rfl⟩

/-- What the codes of the findings at an attribute tell. -/
theorem exists_code_iff {code : String} : (∃ f ∈ m.referenceFindingsOf e a, f.code = code) ↔
    ((a.reference ≠ [] ∧ m.hasEntity a.reference = false) ∧
      "FK_UNKNOWN_REFERENCED_ENTITY" = code) ∨
    (∃ p ∈ a.keys.parts, ∃ f ∈ m.partFindings e a p, f.code = code) ∨
    (a.disagrees = true ∧ "FK_REFERENCE_MISMATCH" = code) ∨
    ((a.isForeignKey = true ∧ a.reference = []) ∧ "FK_WITHOUT_REFERENCE" = code) := by
  simp only [mem_referenceFindingsOf]
  constructor
  · rintro ⟨f, ⟨h, rfl⟩ | ⟨p, hp, hf⟩ | ⟨h, rfl⟩ | ⟨h, rfl⟩, hcode⟩
    · exact .inl ⟨h, hcode⟩
    · exact .inr (.inl ⟨p, hp, f, hf, hcode⟩)
    · exact .inr (.inr (.inl ⟨h, hcode⟩))
    · exact .inr (.inr (.inr ⟨h, hcode⟩))
  · rintro (⟨h, hcode⟩ | ⟨p, hp, f, hf, hcode⟩ | ⟨h, hcode⟩ | ⟨h, hcode⟩)
    · exact ⟨_, .inl ⟨h, rfl⟩, hcode⟩
    · exact ⟨f, .inr (.inl ⟨p, hp, hf⟩), hcode⟩
    · exact ⟨_, .inr (.inr (.inl ⟨h, rfl⟩)), hcode⟩
    · exact ⟨_, .inr (.inr (.inr ⟨h, rfl⟩)), hcode⟩

/-- What is reported for an attribute was found at this attribute. -/
theorem reports_iff {code : String} (he : e ∈ m.entities) (ha : a ∈ e.attributes) :
    m.Reports code e a ↔ ∃ f ∈ m.referenceFindingsOf e a, f.code = code :=
  reported_iff m.namesSubject_referenceFindingsOf he ha

/-- What is reported for an attribute under a code that is not one of those about parts. -/
theorem reports_iff_of_ne {code : String} (he : e ∈ m.entities) (ha : a ∈ e.attributes)
    (hentity : code ≠ "FK_PART_UNKNOWN_ENTITY") (hattribute : code ≠ "FK_PART_UNKNOWN_ATTRIBUTE") :
    m.Reports code e a ↔
      ((a.reference ≠ [] ∧ m.hasEntity a.reference = false) ∧
        "FK_UNKNOWN_REFERENCED_ENTITY" = code) ∨
      (a.disagrees = true ∧ "FK_REFERENCE_MISMATCH" = code) ∨
      ((a.isForeignKey = true ∧ a.reference = []) ∧ "FK_WITHOUT_REFERENCE" = code) := by
  have hparts : ¬ ∃ p ∈ a.keys.parts, ∃ f ∈ m.partFindings e a p, f.code = code := by
    rintro ⟨p, -, f, hf, rfl⟩
    obtain rfl | rfl := mem_partFindings hf
    · exact hentity rfl
    · exact hattribute rfl
  rw [reports_iff he ha, exists_code_iff, iff_false_intro hparts, false_or]

theorem reports_unknownReference_iff (he : e ∈ m.entities) (ha : a ∈ e.attributes) :
    m.Reports "FK_UNKNOWN_REFERENCED_ENTITY" e a ↔
      a.reference ≠ [] ∧ m.hasEntity a.reference = false := by
  rw [reports_iff_of_ne he ha (by decide) (by decide)]
  simp

theorem reports_referenceMismatch_iff (he : e ∈ m.entities) (ha : a ∈ e.attributes) :
    m.Reports "FK_REFERENCE_MISMATCH" e a ↔ a.disagrees = true := by
  rw [reports_iff_of_ne he ha (by decide) (by decide)]
  simp

theorem reports_noReference_iff (he : e ∈ m.entities) (ha : a ∈ e.attributes) :
    m.Reports "FK_WITHOUT_REFERENCE" e a ↔ a.isForeignKey = true ∧ a.reference = [] := by
  rw [reports_iff_of_ne he ha (by decide) (by decide)]
  simp

/-! ## Following the reference of one attribute -/

theorem follow_fails_integrity_iff (m : Model) (owner : Text) (a : Attribute) :
    (∃ failure, (m.follow owner a).outcome = .error failure ∧ failure.kind = .integrity) ↔
      a.reference ≠ [] ∧ m.hasEntity a.reference = false := by
  obtain ⟨hnone, hf⟩ | ⟨target, htarget, hname, hf⟩ | ⟨hne, hno, hf⟩ := m.follow_cases owner a
  · simp [hf, hnone, Failure.kind]
  · have hhas : m.hasEntity a.reference = true := by
      simp [hasEntity, ← hname, entity?_of_mem htarget]
    simp [hf, hhas]
  · simp [hf, hne, hno, Failure.kind]

theorem follow_fails_reference_iff (m : Model) (owner : Text) (a : Attribute) :
    (∃ failure, (m.follow owner a).outcome = .error failure ∧ failure.kind = .reference) ↔
      a.reference = [] := by
  obtain ⟨hnone, hf⟩ | ⟨target, -, hname, hf⟩ | ⟨hne, -, hf⟩ := m.follow_cases owner a
  · simp [hf, hnone, Failure.kind]
  · simp [hf, ← hname, target.className_ne]
  · simp [hf, hne, Failure.kind]

/-- The name of an owner as a warning shows it. -/
def shownOwner (owner : Text) : Text := if owner = [] then "?" else owner

/-- The warning that following a reference gives where the parts name another entity. -/
def mismatchWarning (owner : Text) (a : Attribute) : Log.Record :=
  ⟨.warning, .references, a.disagreementText ++ " (owner: " ++ shownOwner owner ++ ")"⟩

theorem records_noteDisagreement (owner : Text) (a : Attribute) :
    (noteDisagreement owner a).records =
      if a.disagrees then [mismatchWarning owner a] else [] := by
  unfold noteDisagreement Attribute.disagreement?
  cases a.disagrees <;> rfl

/-- Following a reference warns of parts that name another entity, and of nothing else. -/
theorem warnings_follow (m : Model) (owner : Text) (a : Attribute) :
    (m.follow owner a).records.filter (·.level == .warning) =
      if a.disagrees then [mismatchWarning owner a] else [] := by
  unfold follow
  split
  next hnone =>
    -- where nothing is recorded there is nothing that parts could disagree with
    have hagrees : a.disagrees = false := by simp [Attribute.disagrees, hnone]
    rw [hagrees]
    rfl
  next hne =>
    rw [Traced.records_bind (outcome_noteDisagreement owner a), records_noteDisagreement,
      List.filter_append]
    have hwarnings : (if a.disagrees then [mismatchWarning owner a] else []).filter
        (·.level == .warning) = if a.disagrees then [mismatchWarning owner a] else [] := by
      cases a.disagrees <;> rfl
    rw [hwarnings]
    -- what is reported of the look-up itself is no warning
    cases m.entity? a.reference <;> exact List.append_nil _

theorem mismatchWarning_mem_iff (m : Model) (owner : Text) (a : Attribute) :
    mismatchWarning owner a ∈ (m.follow owner a).records ↔ a.disagrees = true := by
  have hfilter : mismatchWarning owner a ∈ (m.follow owner a).records ↔
      mismatchWarning owner a ∈ (m.follow owner a).records.filter (·.level == .warning) := by
    have hlevel : ((mismatchWarning owner a).level == .warning) = true := rfl
    rw [List.mem_filter, hlevel, and_iff_left rfl]
  rw [hfilter, warnings_follow]
  cases a.disagrees <;> simp

/-! ## References that are not recorded -/

/-- The foreign keys that record no entity, in the order of the model. -/
def unrecorded (m : Model) : List (Entity × Attribute) :=
  m.owned.filter fun p => p.2.isForeignKey && p.2.reference = []

/-- The complaints of a successful run are about the foreign keys that record no entity. -/
theorem filterMap_complaint? (m : Model) : m.owned.filterMap m.complaint? =
    m.unrecorded.map fun p => (Failure.noReference p.1.className p.2.name).message := by
  rw [unrecorded, ← List.filterMap_eq_map, List.filterMap_filter]
  refine List.filterMap_congr fun p _ => ?_
  rw [complaint?_eq]
  simp

end Model

/-- The finding of a foreign key that records no entity. -/
def Finding.isNoReference : Finding → Bool
  | noReference .. => true
  | _ => false

/-- These findings are told from all others by their code. -/
theorem Finding.code_issue (f : Finding) :
    (f.issue.code == ("FK_WITHOUT_REFERENCE" : Text) && f.issue.severity == .warning) =
      f.isNoReference := by
  have hcode : (f.issue.code == ("FK_WITHOUT_REFERENCE" : Text)) =
      (f.code == "FK_WITHOUT_REFERENCE") := by
    rw [Bool.eq_iff_iff, beq_iff_eq, beq_iff_eq]
    exact Text.ofString_inj
  rw [hcode]
  cases f <;> rfl

/-- A check that never has this finding anywhere does not have it in a model. -/
theorem filter_flatMap_eq_nil {α : Type} {xs : List α} {check : α → List Finding}
    (h : ∀ x ∈ xs, ∀ e n, Finding.noReference e n ∉ check x) :
    (xs.flatMap check).filter Finding.isNoReference = [] := by
  rw [List.filter_eq_nil_iff]
  intro f hf hno
  obtain ⟨x, hx, hcheck⟩ := List.mem_flatMap.mp hf
  cases f
  case noReference e n => exact h x hx e n hcheck
  all_goals cases hno

theorem flatMap_findingIf {α : Type} (xs : List α) (condition : α → Bool) (finding : α → Finding) :
    (xs.flatMap fun x => findingIf (condition x) (finding x)) =
      (xs.filter condition).map finding := by
  induction xs with
  | nil => rfl
  | cons x rest ih =>
    rw [List.flatMap_cons, ih]
    cases h : condition x <;> simp [findingIf, h]

/-! ## The other checks have findings of their own -/

section Others

variable {e n : Text}

theorem Entity.noReference_notMem_ownNames (owner : Entity) :
    .noReference e n ∉ owner.ownNameFindings := by
  unfold ownNameFindings
  split <;> simp

theorem Entity.noReference_notMem_names (owner : Entity) (a : Attribute) :
    .noReference e n ∉ owner.nameFindings a := by
  unfold nameFindings
  split <;> simp

theorem Entity.noReference_notMem_keys (owner : Entity) : .noReference e n ∉ owner.keyFindings := by
  simp [keyFindings]

theorem Entity.noReference_notMem_generator (owner : Entity) (a : Attribute)
    (kind : GeneratorKind) : .noReference e n ∉ owner.generatorFindings a kind := by
  unfold generatorFindings
  split <;> simp

theorem Entity.noReference_notMem_generation (owner : Entity) (a : Attribute) :
    .noReference e n ∉ owner.generationFindings a := by
  unfold generationFindings
  split <;> simp [noReference_notMem_generator]

theorem Entity.noReference_notMem_constraints (owner : Entity) (a : Attribute) :
    .noReference e n ∉ owner.constraintFindings a := by
  simp [constraintFindings]

theorem Entity.noReference_notMem_language (converter : Converter) (owner : Entity)
    (a : Attribute) : .noReference e n ∉ owner.languageFindings converter a := by
  unfold languageFindings
  split <;> simp

end Others

namespace Model

theorem filter_eachAttribute {m : Model} {check : Entity → Attribute → List Finding}
    (h : ∀ owner a e n, Finding.noReference e n ∉ check owner a) :
    (m.eachAttribute check).filter Finding.isNoReference = [] := by
  rw [eachAttribute_eq_flatMap]
  exact filter_flatMap_eq_nil fun p _ => h p.1 p.2

/-- The check of references has its findings of this sort at the foreign keys that record no
    entity. -/
theorem filter_referenceFindings (m : Model) :
    m.referenceFindings.filter Finding.isNoReference =
      m.unrecorded.map fun p => .noReference p.1.className p.2.name := by
  have hone : ∀ p : Entity × Attribute,
      (m.referenceFindingsOf p.1 p.2).filter Finding.isNoReference =
        findingIf (p.2.isForeignKey && p.2.reference = [])
          (.noReference p.1.className p.2.name) := by
    intro p
    have hparts : (p.2.keys.parts.flatMap (m.partFindings p.1 p.2)).filter
        Finding.isNoReference = [] := by
      refine filter_flatMap_eq_nil fun part _ e n hmem => ?_
      cases mem_partFindings hmem <;> contradiction
    simp only [referenceFindingsOf, List.filter_append, filter_findingIf, hparts,
      Finding.isNoReference, Bool.and_false, Bool.and_true, findingIf_false, List.nil_append]
  rw [referenceFindings, eachAttribute_eq_flatMap, List.filter_flatMap]
  simp only [hone]
  exact flatMap_findingIf _ _ _

/-- No check but that of references has findings about a foreign key that records no entity, and
    that one has them in the order of the model. -/
theorem filter_findings {m : Model} {env : Environment} {findings : List Finding}
    (h : m.findings (some env) = .ok findings) :
    findings.filter Finding.isNoReference =
      m.unrecorded.map fun p => .noReference p.1.className p.2.name := by
  obtain ⟨own, hown, rfl⟩ := findings_eq_ok_iff.mp h
  have hattributes : ∀ owner ∈ m.entities, ∀ e n,
      Finding.noReference e n ∉ owner.attributeNameFindings := by
    intro owner _ e n
    simp [Entity.attributeNameFindings, Entity.noReference_notMem_names]
  have hentityNames : m.entityNameFindings.filter Finding.isNoReference = [] :=
    filter_flatMap_eq_nil fun owner _ _ _ => owner.noReference_notMem_ownNames
  have hattributeNames : m.attributeNameFindings.filter Finding.isNoReference = [] :=
    filter_flatMap_eq_nil hattributes
  have hkeys : m.keyFindings.filter Finding.isNoReference = [] :=
    filter_flatMap_eq_nil fun owner _ _ _ => owner.noReference_notMem_keys
  have hgeneration : m.generationFindings.filter Finding.isNoReference = [] :=
    filter_eachAttribute fun owner a _ _ => owner.noReference_notMem_generation a
  have hconstraints : own.filter Finding.isNoReference = [] := by
    rw [(constraintFindings_eq_ok_iff.mp hown).1]
    exact filter_eachAttribute fun owner a _ _ => owner.noReference_notMem_constraints a
  have hlanguage : (m.languageFindings env.converter).filter Finding.isNoReference = [] :=
    filter_eachAttribute fun owner a _ _ => owner.noReference_notMem_language env.converter a
  simp [earlyFindings, hentityNames, hattributeNames, hkeys, hgeneration, hconstraints, hlanguage,
    filter_referenceFindings]

/-- The warnings about foreign keys that record no entity, as the checks report them. -/
theorem filter_warnings {m : Model} {env : Environment} {reported : Issues}
    (h : m.issues (some env) = .ok reported) :
    (reported.warnings.filter fun i => i.code == ("FK_WITHOUT_REFERENCE" : Text)) =
      m.unrecorded.map fun p => (Finding.noReference p.1.className p.2.name).issue := by
  obtain ⟨findings, hfindings, rfl⟩ := map_eq_ok_iff.mp h
  have hcode : ((fun i : Issue => i.code == ("FK_WITHOUT_REFERENCE" : Text) &&
      i.severity == .warning) ∘ Finding.issue) = Finding.isNoReference :=
    funext Finding.code_issue
  rw [Issues.warnings, List.filter_filter, List.filter_map, hcode, filter_findings hfindings,
    List.map_map]
  rfl

/-- How the check of references and the following of references agree in a model. -/
structure Agrees (m : Model) : Prop where
  /-- A recorded entity is reported as unknown exactly if following the reference fails for the lack
      of it. -/
  unknown : ∀ e ∈ m.entities, ∀ a ∈ e.attributes, ∀ owner,
    m.Reports "FK_UNKNOWN_REFERENCED_ENTITY" e a ↔
      ∃ failure, (m.follow owner a).outcome = .error failure ∧ failure.kind = .integrity
  /-- A reference is reported as missing exactly at a foreign key that has none to follow. -/
  missing : ∀ e ∈ m.entities, ∀ a ∈ e.attributes, ∀ owner,
    m.Reports "FK_WITHOUT_REFERENCE" e a ↔ a.isForeignKey = true ∧
      ∃ failure, (m.follow owner a).outcome = .error failure ∧ failure.kind = .reference
  /-- Parts that name another entity are reported exactly if following the reference warns of
      them. -/
  mismatch : ∀ e ∈ m.entities, ∀ a ∈ e.attributes, ∀ owner,
    m.Reports "FK_REFERENCE_MISMATCH" e a ↔
      mismatchWarning owner a ∈ (m.follow owner a).records
  /-- The complaints of a successful run and the warnings about missing references are about the
      same attributes, in the same order. -/
  complaints : ∀ env strict ops report,
    ((Session.start m env strict).after ops).resolve.1.outcome = .ok report →
      report.success = true →
      (report.complaints =
        m.unrecorded.map fun p => (Failure.noReference p.1.className p.2.name).message) ∧
      ∃ issues, m.issues (some env) = .ok issues ∧
        (issues.warnings.filter fun i => i.code == ("FK_WITHOUT_REFERENCE" : Text)) =
          m.unrecorded.map fun p => (Finding.noReference p.1.className p.2.name).issue

/-- **Checking references and following them come to the same.** -/
theorem references_agree (m : Model) : m.Agrees where
  unknown := by
    intro e he a ha owner
    rw [reports_unknownReference_iff he ha, follow_fails_integrity_iff]
  missing := by
    intro e he a ha owner
    rw [reports_noReference_iff he ha, follow_fails_reference_iff]
  mismatch := by
    intro e he a ha owner
    rw [reports_referenceMismatch_iff he ha, mismatchWarning_mem_iff]
  complaints := by
    intro env strict ops report h hsuccess
    obtain ⟨issues, -, hissues, -⟩ := Session.rows_of_success h hsuccess
    rw [Session.complaints_of_success h hsuccess, filterMap_complaint?]
    exact ⟨rfl, issues, hissues, filter_warnings hissues⟩

end Model

end Typewright
