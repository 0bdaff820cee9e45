/-
  A valid model can be rendered.

  The checks and the questions of a context look at a model on ways of their own.  What ties them
  together are two facts about a model without errors: the converter has a type for every attribute,
  and every recorded name is that of an entity (`type_of_valid`, `reference_of_valid`).  All that can
  go wrong with a question goes back to one of these, so that in a valid model every question is
  answered, except that an attribute without a reference has none to give.

  The bounds of an attribute are not what the checks look at here.  If they have no texts there is no
  context to ask, and no strict run over a valid model comes to a report; nor does any run where the
  bounds on a length would have to be named and cannot be.  These are the only exceptions
  (`Session.Reports`): otherwise there is a report, of the checks alone if there are errors, and of
  all attributes if there are none.
-/
import Typewright.Proofs.Bounds
import Typewright.Proofs.History
import Typewright.Proofs.Question
import Typewright.Proofs.Reference

namespace Typewright

/-! ## What the checks rule out -/

namespace Model

variable {m : Model} {env : Environment} {e : Entity} {a : Attribute} {findings : List Finding}

/-- The checks have issues to report, and none of them is an error. -/
def IsValid (m : Model) (env : Environment) : Prop :=
  ∃ issues, m.issues (some env) = .ok issues ∧ issues.isValid = true

theorem isValid_map_issue {findings : List Finding} :
    Issues.isValid (findings.map Finding.issue) = true ↔ ∀ f ∈ findings, f.severity ≠ .error := by
  simp [Issues.isValid, Issues.errors, Finding.issue]

theorem isValid_iff : m.IsValid env ↔
    ∃ findings, m.findings (some env) = .ok findings ∧ ∀ f ∈ findings, f.severity ≠ .error := by
  simp only [IsValid, issues, map_eq_ok_iff]
  constructor
  · rintro ⟨_, ⟨findings, hfindings, rfl⟩, hvalid⟩
    exact ⟨findings, hfindings, isValid_map_issue.mp hvalid⟩
  · rintro ⟨findings, hfindings, hvalid⟩
    exact ⟨_, ⟨findings, hfindings, rfl⟩, isValid_map_issue.mpr hvalid⟩

theorem isValid_iff_of_issues {issues : Issues} (h : m.issues (some env) = .ok issues) :
    m.IsValid env ↔ issues.isValid = true := by
  simp [IsValid, h]

/-- In a valid model no check of attributes that cannot fail has found an error. -/
theorem IsValid.sound (h : m.IsValid env) {f : Finding}
    (hf : f ∈ m.earlyFindings ∨ f ∈ m.languageFindings env.converter) : f.severity ≠ .error := by
  obtain ⟨findings, hfindings, hvalid⟩ := isValid_iff.mp h
  obtain ⟨own, -, rfl⟩ := findings_eq_ok_iff.mp hfindings
  refine hvalid f ?_
  rcases hf with hearly | hlanguage
  · exact List.mem_append_left _ (List.mem_append_left _ hearly)
  · exact List.mem_append_right _ hlanguage

/-- In a valid model the converter has a type for every attribute. -/
theorem type_of_valid (h : m.IsValid env) (he : e ∈ m.entities)
    (ha : a ∈ e.attributes) : ∃ t, env.converter.get a.typeRequest = .ok t := by
  cases hget : env.converter.get a.typeRequest with
  | ok t => exact ⟨t, rfl⟩
  | error missing =>
    have hfound : Finding.noLanguageType e.className a.name missing ∈
        m.languageFindings env.converter := by
      refine mem_eachAttribute _ he ha ?_
      simp [Entity.languageFindings, hget]
    exact absurd rfl (h.sound (.inr hfound))

/-- If the check of references has no errors, every recorded name is that of an entity. -/
theorem reference_of_sound (h : ∀ f ∈ m.referenceFindings, f.severity ≠ .error)
    (he : e ∈ m.entities) (ha : a ∈ e.attributes) :
    a.reference = [] ∨ m.hasEntity a.reference = true := by
  by_contra hdangling
  rw [not_or] at hdangling
  have hcheck : Finding.unknownReference e.className a.name a.reference ∈
      m.referenceFindingsOf e a := by
    simp [referenceFindingsOf, findingIf, hdangling]
  exact h _ (mem_eachAttribute _ he ha hcheck) rfl

/-- In a valid model every recorded name is that of an entity. -/
theorem reference_of_valid (h : m.IsValid env) (he : e ∈ m.entities)
    (ha : a ∈ e.attributes) : a.reference = [] ∨ m.hasEntity a.reference = true := by
  refine reference_of_sound (fun f hf => h.sound (.inl ?_)) he ha
  simp only [earlyFindings, List.mem_append]
  exact .inl (.inr hf)

/-- In a valid model following a reference ends at an entity, or there is none to follow. -/
theorem follow_of_valid (h : m.IsValid env) (he : e ∈ m.entities)
    (ha : a ∈ e.attributes) (owner : Text) :
    (∃ target ∈ m.entities, (m.follow owner a).outcome = .ok target) ∨
      (m.follow owner a).outcome = .error (.noReference owner a.name) := by
  obtain ⟨-, hnone⟩ | ⟨target, htarget, -, hfound⟩ | ⟨hne, hno, -⟩ := follow_cases m owner a
  · exact .inr hnone
  · exact .inl ⟨target, htarget, hfound⟩
  · rcases reference_of_valid h he ha with hempty | hhas
    · exact absurd hempty hne
    · rw [hno] at hhas
      cases hhas

end Model

/-! ## Contexts -/

namespace Context

/-- The questions that a template asks to write an attribute down. -/
def renderedQuestions : List String :=
  ["type", "simple_type", "full_type", "wrapper_type", "is_primitive_type", "getter", "setter",
    "sql_type", "recommended_type"]

/-- The questions that follow the reference. -/
def referenceQuestions : List String := ["referenced_entity", "referenced_entity_name"]

/-- What a template can rely on when it writes an attribute down. -/
structure Renders (c : Context) : Prop where
  /-- The questions about the type, the accessors and the SQL type are there and answered. -/
  rendered : ∀ question ∈ renderedQuestions,
    ∃ answer, c.ask question = some answer ∧ answer.Succeeds
  /-- Every question that does not follow the reference is answered. -/
  answered : ∀ question answer, c.ask question = some answer → question ∉ referenceQuestions →
    answer.Succeeds
  declaration : (c.call .declaration).Succeeds
  snapshot : (c.call .snapshot).Succeeds
  /-- The reference leads to an entity of the model, or none is recorded. -/
  referenced : ∃ answer, c.ask "referenced_entity" = some answer ∧
    ((∃ e ∈ c.model.entities, answer.outcome = .ok (.entity e)) ∨
      ∃ failure, answer.outcome = .error failure ∧ failure.kind = .reference)

variable {c : Context} {t : LanguageType}

@[simp] theorem succeeds_plainly (v : Value) : (plainly v).Succeeds := ⟨_, rfl⟩

@[simp] theorem succeeds_ofText (s : Text) : (ofText s).Succeeds := ⟨_, rfl⟩

@[simp] theorem succeeds_ofOptional (s : Option Text) : (ofOptional s).Succeeds := ⟨_, rfl⟩

@[simp] theorem succeeds_isGiven (s : Option Text) : (isGiven s).Succeeds := ⟨_, rfl⟩

@[simp] theorem succeeds_ofBool (b : Bool) : (ofBool b).Succeeds := ⟨_, rfl⟩

@[simp] theorem succeeds_isOf (c : Context) (type : NeutralType) :
    (c.isOf type).Succeeds := ⟨_, rfl⟩

/-- What is read off the language type is answered if there is one. -/
theorem succeeds_ofResolved_map (h : c.languageType = .ok t) (f : LanguageType → Text) :
    (ofResolved (c.languageType.map f)).Succeeds := by
  rw [h]
  exact ⟨_, rfl⟩

theorem getter_of_type (h : c.languageType = .ok t) : ∃ name, c.getter = .ok name := by
  unfold getter isPrimitive
  rw [h]
  split
  · exact ⟨_, rfl⟩
  · exact ⟨_, rfl⟩

theorem valueQuestions_succeed (c : Context) : ∀ q ∈ c.valueQuestions, q.2.Succeeds := by
  simp [valueQuestions]

theorem typeQuestions_succeed (h : c.languageType = .ok t) :
    ∀ q ∈ c.typeQuestions, q.2.Succeeds := by
  have hprimitive : (Traced.ofExcept (c.isPrimitive.map fun b =>
      Answer.value (.bool b))).Succeeds := by
    rw [isPrimitive, h]
    exact ⟨_, rfl⟩
  have hgetter : (ofResolved c.getter).Succeeds := by
    obtain ⟨name, hname⟩ := getter_of_type h
    rw [hname]
    exact ⟨_, rfl⟩
  simp [typeQuestions, typeName, simpleType, fullType, wrapperType, succeeds_ofResolved_map h,
    hprimitive, hgetter]

theorem columnQuestions_succeed (c : Context) : ∀ q ∈ c.columnQuestions, q.2.Succeeds := by
  have hsql : (do return Answer.value (.text (← c.tracedSqlType)) : Traced Answer).Succeeds :=
    ⟨_, rfl⟩
  simp [columnQuestions, hsql]

theorem keyQuestions_succeed (c : Context) :
    ∀ q ∈ c.keyQuestions, q.1 ∉ referenceQuestions → q.2.Succeeds := by
  simp [keyQuestions, referenceQuestions]

theorem generationQuestions_succeed (c : Context) :
    ∀ q ∈ c.generationQuestions, q.2.Succeeds := by
  simp [generationQuestions]

/-- With a type for the attribute, every question that does not follow the reference is
    answered. -/
theorem ask_succeeds (h : c.languageType = .ok t) {question : String} {answer : Traced Answer}
    (hask : c.ask question = some answer) (hreference : question ∉ referenceQuestions) :
    answer.Succeeds := by
  rw [ask_eq_some_iff] at hask
  simp only [groupedQuestions, List.mem_append] at hask
  rcases hask with (((hvalue | htype) | hcolumn) | hkey) | hgeneration
  · exact c.valueQuestions_succeed _ hvalue
  · exact typeQuestions_succeed h _ htype
  · exact c.columnQuestions_succeed _ hcolumn
  · exact c.keyQuestions_succeed _ hkey hreference
  · exact c.generationQuestions_succeed _ hgeneration

theorem exists_ask {question : String} (h : question ∈ renderedQuestions) :
    ∃ answer, c.ask question = some answer := by
  have hnames : renderedQuestions ⊆ c.typeQuestions.map (·.1) ++ c.columnQuestions.map (·.1) := by
    simp [renderedQuestions, typeQuestions, columnQuestions]
  have hname : question ∈ (c.typeQuestions ++ c.columnQuestions).map (·.1) := by
    rw [List.map_append]
    exact hnames h
  obtain ⟨⟨name, answer⟩, hmem, rfl⟩ := List.mem_map.mp hname
  refine ⟨answer, c.ask_eq_some_iff.mpr ?_⟩
  simp only [groupedQuestions, List.mem_append] at hmem ⊢
  rcases hmem with htype | hcolumn
  · exact .inl (.inl (.inl (.inr htype)))
  · exact .inl (.inl (.inr hcolumn))

theorem snapshot_succeeds (h : c.languageType = .ok t) : c.snapshot.Succeeds := by
  obtain ⟨name, hname⟩ := getter_of_type h
  exact (Traced.succeeds_ofExcept h).bind fun _ _ =>
    (Traced.succeeds_ofExcept hname).bind fun _ _ => ⟨_, rfl⟩

/-- In a valid model the attribute of a context has a type. -/
theorem languageType_of_valid (h : c.model.IsValid c.environment)
    (he : c.entity ∈ c.model.entities) (ha : c.subject ∈ c.entity.attributes) :
    ∃ t, c.languageType = .ok t := by
  obtain ⟨t, ht⟩ := Model.type_of_valid h he ha
  exact ⟨t, by rw [languageType, ht]⟩

/-- A context in a valid model can be rendered, whichever names it shows. -/
theorem renders_of_valid (h : c.model.IsValid c.environment)
    (he : c.entity ∈ c.model.entities) (ha : c.subject ∈ c.entity.attributes) : c.Renders := by
  obtain ⟨t, ht⟩ := languageType_of_valid h he ha
  constructor
  case rendered =>
    intro question hquestion
    obtain ⟨answer, hask⟩ := c.exists_ask hquestion
    have hother : ∀ q ∈ renderedQuestions, q ∉ referenceQuestions := by decide
    exact ⟨answer, hask, ask_succeeds ht hask (hother question hquestion)⟩
  case answered => exact fun _ _ => ask_succeeds ht
  case declaration =>
    show (ofResolved c.declaration).Succeeds
    rw [declaration, typeName, ht]
    exact ⟨_, rfl⟩
  case snapshot => exact (snapshot_succeeds ht).bind fun _ _ => ⟨_, rfl⟩
  case referenced =>
    refine ⟨do return .entity (← c.referenced), c.ask_eq_some_iff.mpr ?_, ?_⟩
    · simp [groupedQuestions, keyQuestions]
    · rw [Traced.outcome_bind]
      rcases Model.follow_of_valid h he ha c.entity.className with ⟨e, hmem, hfound⟩ | hnone
      · exact .inl ⟨e, hmem, by rw [referenced, hfound]; rfl⟩
      · exact .inr ⟨.noReference c.entity.className c.subject.name,
          by rw [referenced, hnone]; rfl, rfl⟩

end Context

/-! ## Strict runs -/

namespace Session

/-- In a valid model a run finds out everything about a context. -/
theorem row_succeeds {c : Context} (h : c.model.IsValid c.environment)
    (he : c.entity ∈ c.model.entities) (ha : c.subject ∈ c.entity.attributes) :
    (row c).Succeeds := by
  obtain ⟨t, ht⟩ := Context.languageType_of_valid h he ha
  refine (Context.snapshot_succeeds ht).bind fun _ _ => Traced.Succeeds.bind ?_ fun _ _ => ⟨_, rfl⟩
  unfold referenceOutcome
  split
  · exact ⟨_, rfl⟩
  · rcases Model.follow_of_valid h he ha c.entity.className with ⟨e, -, hfound⟩ | hnone
    · simp only [Context.referenced, hfound]
      exact ⟨_, rfl⟩
    · simp only [Context.referenced, hnone]
      exact ⟨_, rfl⟩

/-- In a valid model all of whose bounds have texts a run has the rows of all attributes. -/
theorem runRows_succeeds {m : Model} {env : Environment} (h : m.IsValid env)
    (htexts : m.HaveTexts) : (runRows m env).Succeeds := by
  refine (Model.openedContexts_succeeds_iff.mpr htexts).bind fun cs hcs => ?_
  refine Traced.each_succeeds fun c hc => ?_
  obtain ⟨p, hp, rfl, rfl, hentity, hsubject, -⟩ :=
    exists_of_forall₂ (Model.openedContexts_eq_ok_iff.mp hcs) hc
  obtain ⟨he, ha⟩ := Model.mem_owned.mp hp
  rw [← hentity] at he ha
  rw [← hsubject] at ha
  exact row_succeeds h he ha

/-- There are no rows without contexts. -/
theorem haveTexts_of_runRows {m : Model} {env : Environment} (h : (runRows m env).Succeeds) :
    m.HaveTexts := by
  obtain ⟨found, hfound⟩ := h
  rw [runRows, Traced.outcome_bind] at hfound
  obtain ⟨cs, hcs, -⟩ := bind_eq_ok_iff.mp hfound
  exact Model.openedContexts_succeeds_iff.mp ⟨cs, hcs⟩

/-- When a strict run over a model in an environment comes to a report, and to which one. -/
structure Reports (m : Model) (env : Environment) (outcome : Except Failure Report) : Prop where
  /-- There is a report unless the bounds on a length would have to be named and cannot be, or the
      model is valid and some bound has no text. -/
  returns_iff : (∃ report, outcome = .ok report) ↔
    (∀ e ∈ m.entities, ∀ a ∈ e.attributes, ¬ a.constraints.Unwordable) ∧
      (m.IsValid env → m.HaveTexts)
  succeeds_iff : ∀ report, outcome = .ok report → (report.success = true ↔ m.IsValid env)
  /-- A run that does not succeed ends with the checks. -/
  skipped : ∀ report, outcome = .ok report → report.success = false →
    report.rows = [] ∧ report.complaints = [] ∧ report.counts = ⟨m.entities.length, 0, 0, 0, 0⟩

theorem reports_error {m : Model} {env : Environment} {failure : Failure}
    (h : ¬ ((∀ e ∈ m.entities, ∀ a ∈ e.attributes, ¬ a.constraints.Unwordable) ∧
      (m.IsValid env → m.HaveTexts))) : Reports m env (.error failure) where
  returns_iff := iff_of_false (by simp) h
  succeeds_iff _ hreport := by cases hreport
  skipped _ hreport := by cases hreport

theorem reports_of_strict (m : Model) (env : Environment) (ops : List Operation) :
    Reports m env ((start m env true).after ops).resolve.1.outcome := by
  rw [outcome_resolve_after]
  cases hissues : m.issues (some env) with
  | error failure =>
    have hunwordable : ¬ ∀ e ∈ m.entities, ∀ a ∈ e.attributes, ¬ a.constraints.Unwordable := by
      rw [← Model.exists_issues_iff, hissues]
      simp
    exact reports_error fun h => hunwordable h.1
  | ok issues =>
    have hwordable := Model.exists_issues_iff.mp ⟨issues, hissues⟩
    have hvalid := Model.isValid_iff_of_issues hissues
    simp only [Except.bind, Bool.true_and, Bool.not_eq_true']
    by_cases hchecked : issues.isValid = true
    · -- the rows of all attributes are there if the bounds have texts, and only then
      rw [if_neg (by simp [hchecked])]
      have hm := hvalid.mpr hchecked
      cases hrows : (runRows m env).outcome with
      | error failure =>
        have hnone : ¬ (runRows m env).Succeeds :=
          Traced.not_succeeds_iff.mpr ⟨failure, hrows⟩
        exact reports_error fun h => hnone (runRows_succeeds hm (h.2 hm))
      | ok found =>
        have htexts := haveTexts_of_runRows ⟨found, hrows⟩
        refine ⟨iff_of_true ⟨_, rfl⟩ ⟨hwordable, fun _ => htexts⟩, ?_, ?_⟩
        · rintro _ ⟨⟩
          exact iff_of_true rfl hm
        · rintro _ ⟨⟩ hfailed
          cases hfailed
    · rw [if_pos (Bool.eq_false_iff.mpr hchecked)]
      have hm := mt hvalid.mp hchecked
      refine ⟨iff_of_true ⟨_, rfl⟩ ⟨hwordable, fun h => absurd h hm⟩, ?_, ?_⟩
      · rintro _ ⟨⟩
        exact iff_of_false Bool.false_ne_true hm
      · rintro _ ⟨⟩ -
        exact ⟨rfl, rfl, rfl⟩

end Session

namespace Model

/-- An attribute that refers to items. -/
def partOwner : Attribute := recording ⟨"owner", by decide⟩ "Item"

/-- The parts of items. -/
def shopPart : Entity where
  className := "Part"
  table := none
  attributes := [partOwner, .plain ⟨"label", by decide⟩ .string]
  className_ne := by decide
  distinct := by decide
  composite := by decide

/-- A model without errors, in which a reference is followed. -/
def shop : Model where
  name := "shop"
  entities := [plainItem, shopPart]
  name_ne := by decide
  distinct := by decide

end Model

end Typewright
