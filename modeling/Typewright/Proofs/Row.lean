/-
  A run, attribute by attribute.

  A run opens the contexts of all attributes of a model in order (`Model.owned`), and if it gets so
  far it makes a row of each (`rowOf`).  Two things can end it at an attribute then: the language has
  no type for it, or it is a foreign key whose recorded entity is not there.  The first of them that
  applies is the offence of the attribute (`Context.offence?`), and an attribute without one has a
  row.

  So a run over attributes whose contexts can be opened ends at the first one with an offence, and
  with that offence; if there is none, it has the rows of all attributes, in their order.
-/
import Mathlib.Algebra.GroupWithZero.Nat
import Typewright.Proofs.Pairing
import Typewright.Proofs.Rendering

namespace Typewright

/-! ## The attributes of a model -/

namespace Model

variable {m : Model}

/-- A check that looks at every attribute looks at them in the order of the model. -/
theorem eachAttribute_eq_flatMap (check : Entity → Attribute → List Finding) :
    m.eachAttribute check = m.owned.flatMap fun p => check p.1 p.2 := by
  simp [eachAttribute, owned, List.flatMap_assoc, List.flatMap_map]

/-- Counting attributes is counting them entity by entity. -/
theorem countP_owned (m : Model) (p : Attribute → Bool) :
    m.owned.countP (fun q => p q.2) = (m.entities.map fun e => e.attributes.countP p).sum := by
  simp [owned, List.countP_flatMap, List.countP_map, Function.comp_def]

end Model

/-! ## Offences -/

/-- What ends a run at the attribute of a context, if anything does: the language has no type for
    it, or else it is a foreign key whose recorded entity is not there. -/
def Context.offence? (c : Context) : Option Failure :=
  match c.languageType with
  | .error failure => some failure
  | .ok _ =>
    if c.subject.isForeignKey && c.subject.reference ≠ [] &&
        !c.model.hasEntity c.subject.reference then
      some (.danglingReference c.entity.className c.name c.subject.reference c.model.name)
    else none

/-- The language type depends on the converter, on the attribute and, in its failures, on the name of
    the entity. -/
theorem Context.languageType_congr {c c' : Context}
    (hconverter : c'.environment.converter = c.environment.converter)
    (hentity : c'.entity.className = c.entity.className) (hsubject : c'.subject = c.subject) :
    c'.languageType = c.languageType := by
  unfold languageType name
  rw [hconverter, hentity, hsubject]

/-- The SQL type depends on the environment and the attribute. -/
theorem Context.sqlSubject_congr {c c' : Context} (h : c'.subject = c.subject) :
    c'.sqlSubject = c.sqlSubject := by
  obtain ⟨_, _, _, a, _, _⟩ := c
  obtain ⟨_, _, _, _, _, _⟩ := c'
  obtain rfl : _ = a := h
  rfl

/-- The reading accessor depends on the language type and the attribute. -/
theorem Context.getter_congr {c c' : Context} (htype : c'.languageType = c.languageType)
    (hsubject : c'.subject = c.subject) : c'.getter = c.getter := by
  unfold getter isPrimitive name
  rw [htype, hsubject]

/-- What a run says about a reference that is not recorded: at a foreign key, the words of the
    failure to follow it. -/
def Model.complaint? (m : Model) (p : Entity × Attribute) : Option Text :=
  if p.2.isForeignKey then
    match (m.follow p.1.className p.2).outcome with
    | .ok _ => none
    | .error failure => if failure.kind = .reference then some failure.message else none
  else none

theorem Model.complaint?_eq (m : Model) (p : Entity × Attribute) : m.complaint? p =
    if p.2.isForeignKey = true ∧ p.2.reference = [] then
      some (Failure.noReference p.1.className p.2.name).message
    else none := by
  unfold complaint?
  cases p.2.isForeignKey with
  | false => simp
  | true =>
    obtain ⟨hnone, hf⟩ | ⟨e, -, hname, hf⟩ | ⟨hne, -, hf⟩ := m.follow_cases p.1.className p.2
    · simp [hf, hnone, Failure.kind]
    · simp [hf, ← hname, e.className_ne]
    · simp [hf, hne, Failure.kind]

namespace Session

variable {c c' : Context} {failure : Failure} {r : Row} {found : List Row}
variable {m : Model} {env : Environment} {p : Entity × Attribute}

/-! ## One row -/

/-- How the reference of an attribute comes out.  Only a foreign key is asked for one, and an entity
    that is found has the recorded name. -/
theorem outcome_referenceOutcome (c : Context) :
    (referenceOutcome c).outcome =
      if c.subject.isForeignKey = false then .ok .notAsked
      else if c.subject.reference = [] then
        .ok (.absent (.noReference c.entity.className c.name))
      else if c.model.hasEntity c.subject.reference then .ok (.found c.subject.reference)
      else .error
        (.danglingReference c.entity.className c.name c.subject.reference c.model.name) := by
  unfold referenceOutcome
  cases c.subject.isForeignKey with
  | false => rfl
  | true =>
    obtain ⟨hnone, hf⟩ | ⟨e, he, hname, hf⟩ | ⟨hne, hno, hf⟩ :=
      c.model.follow_cases c.entity.className c.subject
    · simp [Context.referenced, hf, hnone, Context.name]
    · have hhas : c.model.hasEntity c.subject.reference = true := by
        simp [Model.hasEntity, ← hname, Model.entity?_of_mem he]
      have hne : c.subject.reference ≠ [] := hname ▸ e.className_ne
      simp [Context.referenced, hf, hne, hhas, hname]
    · simp [Context.referenced, hf, hne, hno, Context.name]

theorem row_eq_ok_iff : (row c).outcome = .ok r ↔
    c.snapshot.outcome = .ok r.snapshot ∧ (referenceOutcome c).outcome = .ok r.reference := by
  obtain ⟨snapshot, reference⟩ := r
  simp only [row, Traced.outcome_bind, Traced.outcome_pure]
  cases c.snapshot.outcome <;> cases (referenceOutcome c).outcome <;> simp [Except.bind]

/-- A context has a snapshot if it has a type and an accessor, and the snapshot shows these. -/
theorem snapshot_eq_ok_iff {s : Snapshot} : c.snapshot.outcome = .ok s ↔
    ∃ type getter, c.languageType = .ok type ∧ c.getter = .ok getter ∧
      s = c.snapshotWith type getter := by
  simp only [Context.snapshot, Traced.outcome_bind, Traced.outcome_ofExcept]
  cases c.languageType with
  | error failure => simp [Except.bind]
  | ok type =>
    cases c.getter with
    | error failure => simp [Except.bind]
    | ok getter => simp [Except.bind, Context.tracedSqlType, eq_comm]

/-- Of the model and the entity an attribute is in, a row depends on their names and on whether the
    entity that is referred to is there. -/
theorem outcome_row_congr (henv : c'.environment = c.environment)
    (hentity : c'.entity.className = c.entity.className) (hsubject : c'.subject = c.subject)
    (hmodel : c'.model.name = c.model.name)
    (hreference : c'.model.hasEntity c.subject.reference = c.model.hasEntity c.subject.reference) :
    (row c').outcome = (row c).outcome := by
  have htype : c'.languageType = c.languageType :=
    Context.languageType_congr (congrArg _ henv) hentity hsubject
  have hgetter : c'.getter = c.getter := Context.getter_congr htype hsubject
  have hsql : c'.sqlType = c.sqlType := by
    rw [Context.sqlType, Context.sqlType, henv, Context.sqlSubject_congr hsubject]
  have hshown : c'.snapshotWith = c.snapshotWith := by
    funext type getter
    simp only [Context.snapshotWith, Context.name, Context.setter, Context.nativeType, hentity,
      hsubject, hsql]
  have hsnapshot : c'.snapshot.outcome = c.snapshot.outcome := by
    simp only [Context.snapshot, Traced.outcome_bind, Traced.outcome_ofExcept, htype, hgetter,
      hshown]
    rfl
  have houtcome : (referenceOutcome c').outcome = (referenceOutcome c).outcome := by
    rw [outcome_referenceOutcome, outcome_referenceOutcome]
    simp only [Context.name, hentity, hsubject, hmodel, hreference]
  unfold row
  rw [Traced.outcome_bind, Traced.outcome_bind, hsnapshot]
  refine congrArg _ (funext fun snapshot => ?_)
  rw [Traced.outcome_bind, Traced.outcome_bind, houtcome]

/-- A snapshot shows the attribute of its context, with some type and some accessor. -/
theorem snapshot_eq_ok {s : Snapshot} (h : c.snapshot.outcome = .ok s) :
    ∃ type getter, s = c.snapshotWith type getter := by
  obtain ⟨type, getter, -, -, hs⟩ := snapshot_eq_ok_iff.mp h
  exact ⟨type, getter, hs⟩

/-- A run ends at an attribute with an offence. -/
theorem row_of_offence (h : c.offence? = some failure) : (row c).outcome = .error failure := by
  unfold Context.offence? at h
  split at h
  next heq =>
    cases h
    simp [row, Context.snapshot, heq, Except.bind]
  next t heq =>
    -- with a type there is a snapshot, and it is the reference that fails
    split at h
    next hdangling =>
      cases h
      obtain ⟨s, hs⟩ := Context.snapshot_succeeds heq
      simp only [Bool.and_eq_true, decide_eq_true_eq, Bool.not_eq_true'] at hdangling
      obtain ⟨⟨hfk, hne⟩, hno⟩ := hdangling
      have hreference := outcome_referenceOutcome c
      simp only [hfk, hne, hno, Bool.true_eq_false, if_false, Bool.false_eq_true] at hreference
      simp [row, hs, hreference, Except.bind]
    next => cases h

/-- An attribute without an offence has a row. -/
theorem row_of_no_offence (h : c.offence? = none) : (row c).Succeeds := by
  unfold Context.offence? at h
  split at h
  next => cases h
  next t heq =>
    have hreference : ∃ reference, (referenceOutcome c).outcome = .ok reference := by
      rw [outcome_referenceOutcome]
      split
      · exact ⟨_, rfl⟩
      split
      · exact ⟨_, rfl⟩
      split
      · exact ⟨_, rfl⟩
      next hfk hne hno => simp [hfk, hne, hno] at h
    exact (Context.snapshot_succeeds heq).bind fun _ _ =>
      Traced.Succeeds.bind hreference fun _ _ => ⟨_, rfl⟩

/-! ## The rows of a model -/

/-- What a run finds out about an attribute of a model. -/
def rowOf (m : Model) (env : Environment) (p : Entity × Attribute) : Traced Row := do
  row (← Context.opened m env p.1 p.2)

/-- The row of an attribute is that of its context. -/
theorem rowOf_eq_ok_iff : (rowOf m env p).outcome = .ok r ↔
    ∃ c, c.IsFresh m env p.1 p.2 ∧ (row c).outcome = .ok r := by
  simp only [rowOf, Traced.outcome_bind, bind_eq_ok_iff, Context.opened_eq_ok_iff]

/-- Wherever the attribute stands, under the same names its row is the same. -/
theorem outcome_rowOf_congr {m' : Model} {e e' : Entity} {a : Attribute}
    (hentity : e'.className = e.className) (hmodel : m'.name = m.name)
    (hreference : m'.hasEntity a.reference = m.hasEntity a.reference) :
    (rowOf m' env (e', a)).outcome = (rowOf m env (e, a)).outcome := by
  rw [rowOf, rowOf, Traced.outcome_bind, Traced.outcome_bind]
  cases hobstacle : a.constraints.obstacle? with
  | some failure =>
    rw [Context.opened_of_obstacle hobstacle, Context.opened_of_obstacle hobstacle]
  | none =>
    rw [Context.opened_eq_ok_iff.mpr (Context.isFresh_fresh hobstacle),
      Context.opened_eq_ok_iff.mpr (Context.isFresh_fresh hobstacle)]
    exact outcome_row_congr rfl hentity rfl hmodel hreference

/-- A run has rows if every attribute has one, and then they are those, in order. -/
theorem runRows_eq_ok_iff : (runRows m env).outcome = .ok found ↔
    List.Forall₂ (fun p r => (rowOf m env p).outcome = .ok r) m.owned found := by
  simp only [runRows, Traced.outcome_bind, bind_eq_ok_iff, Model.openedContexts_eq_ok_iff, rows,
    Traced.each_eq_ok_iff, exists_forall₂_iff, rowOf_eq_ok_iff]

/-- Where all bounds have texts, a run might as well open one context after the other only when it
    makes the row. -/
theorem runRows_of_haveTexts (h : m.HaveTexts) :
    (runRows m env).outcome = (Traced.each (rowOf m env) m.owned).outcome := by
  have hopens : ∀ p ∈ m.owned, (Context.opened m env p.1 p.2).Succeeds := fun p hp =>
    Context.opened_succeeds_iff.mpr (Model.haveTexts_iff.mp h p hp)
  rw [runRows, Traced.outcome_bind, Model.openedContexts]
  exact Traced.outcome_each_each hopens

/-- What a run finds out about the attributes of a model, one by one, whether or not it gets so
    far. -/
def outcomes (m : Model) (env : Environment) : List (Except Failure Row) :=
  m.owned.map fun p => (rowOf m env p).outcome

theorem runRows_eq_ok_iff_outcomes : (runRows m env).outcome = .ok found ↔
    List.Forall₂ (fun outcome r => outcome = .ok r) (outcomes m env) found := by
  rw [runRows_eq_ok_iff, outcomes, List.forall₂_map_left_iff]

/-- How the reference in a row came out: it was not asked for, it was not recorded, or it is the
    class name of an entity. -/
theorem account_of_row (h : (rowOf m env p).outcome = .ok r) :
    (p.2.isForeignKey = false ∧ r.reference = .notAsked) ∨
    (p.2.isForeignKey = true ∧ p.2.reference = [] ∧
      r.reference = .absent (.noReference p.1.className p.2.name)) ∨
    (p.2.isForeignKey = true ∧ p.2.reference ≠ [] ∧ m.hasEntity p.2.reference = true ∧
      r.reference = .found p.2.reference) := by
  obtain ⟨c, hfresh, hrow⟩ := rowOf_eq_ok_iff.mp h
  have href := (row_eq_ok_iff.mp hrow).2
  rw [outcome_referenceOutcome, Context.name, hfresh.model, hfresh.entity, hfresh.subject] at href
  split at href
  next hfk => exact .inl ⟨hfk, (Except.ok.inj href).symm⟩
  next hfk =>
    replace hfk : p.2.isForeignKey = true := by simpa using hfk
    split at href
    next hnone => exact .inr (.inl ⟨hfk, hnone, (Except.ok.inj href).symm⟩)
    next hne =>
      split at href
      next hhas => exact .inr (.inr ⟨hfk, hne, hhas, (Except.ok.inj href).symm⟩)
      next => cases href

/-! ## Reports -/

/-- A report that tells of success is the full one, with a row for every attribute in order. -/
theorem rows_of_success {strict : Bool} {ops : List Operation} {report : Report}
    (h : ((start m env strict).after ops).resolve.1.outcome = .ok report)
    (hsuccess : report.success = true) :
    ∃ issues found, m.issues (some env) = .ok issues ∧
      List.Forall₂ (fun p r => (rowOf m env p).outcome = .ok r) m.owned found ∧
        report = (start m env strict).fullReport issues found := by
  rw [outcome_resolve_after] at h
  obtain ⟨issues, hissues, hreport⟩ := bind_eq_ok_iff.mp h
  split at hreport
  -- the report of the checks alone does not tell of success
  · cases hreport
    cases hsuccess
  · obtain ⟨found, hfound, rfl⟩ := map_eq_ok_iff.mp hreport
    exact ⟨issues, found, hissues, runRows_eq_ok_iff.mp hfound, rfl⟩

/-- The complaints of a successful run are those about the attributes, in order. -/
theorem complaints_of_success {strict : Bool} {ops : List Operation} {report : Report}
    (h : ((start m env strict).after ops).resolve.1.outcome = .ok report)
    (hsuccess : report.success = true) : report.complaints = m.owned.filterMap m.complaint? := by
  obtain ⟨issues, found, -, hrows, rfl⟩ := rows_of_success h hsuccess
  refine (filterMap_eq_of_forall₂ hrows fun p r hp => ?_).symm
  rw [Model.complaint?_eq]
  obtain ⟨hfk, href⟩ | ⟨hfk, hnone, href⟩ | ⟨-, hne, -, href⟩ := account_of_row hp
  · simp [hfk, href, ReferenceOutcome.complaint?]
  · simp [hfk, hnone, href, ReferenceOutcome.complaint?]
  · simp [hne, href, ReferenceOutcome.complaint?]

end Session

end Typewright
