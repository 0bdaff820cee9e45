/-
  What ends a lenient run, and what does not.

  A lenient run goes through the attributes whatever the checks said.  Two things at an attribute
  end it: there is no language type for it, or it is a foreign key and the entity that it records is
  not in the model (`Model.Offends`).  An attribute of either sort ends the run if it is the first
  one in the order of the model, with a failure that is about this attribute and of a kind that
  tells the two apart.  The type is asked for first, so that without one the reference plays no
  part.

  All of this is so if the contexts can be opened, which comes first.  A bound without a text ends
  the run whatever there is to say about the attributes, with a failure that is about none of them.

  Nothing else ends a run, neither an error of the checks nor a recorded entity that is missing at
  an attribute that is no foreign key.  A foreign key that records no entity is complained about,
  and the run goes on.
-/
import Typewright.Proofs.Row

namespace Typewright

/-! ## Offending attributes -/

/-- The language of an environment has a type for an attribute. -/
def Attribute.HasType (env : Environment) (a : Attribute) : Prop :=
  ∃ t, env.converter.get a.typeRequest = .ok t

namespace Model

/-- An attribute is a foreign key that records an entity, and the model has none of this name.  The
    blanks around the name do not count. -/
def Dangles (m : Model) (a : Attribute) : Prop :=
  a.isForeignKey = true ∧ Text.trimmed (a.keys.references.getD []) ≠ [] ∧
    ∀ e ∈ m.entities, e.className ≠ Text.trimmed (a.keys.references.getD [])

/-- An attribute cannot be resolved. -/
def Offends (m : Model) (env : Environment) (a : Attribute) : Prop :=
  ¬ a.HasType env ∨ m.Dangles a

end Model

namespace Context

variable {m : Model} {env : Environment} {e : Entity} {a : Attribute} {c : Context}

/-- Without a language type it does not matter what the attribute refers to. -/
theorem IsFresh.offence_of_no_type (hc : c.IsFresh m env e a) (h : ¬ a.HasType env) :
    ∃ missing, c.offence? = some (.unmappedAttribute e.className a.name missing) := by
  obtain ⟨rfl, rfl, rfl, rfl, -⟩ := hc
  cases hget : c.environment.converter.get c.subject.typeRequest with
  | ok t => exact absurd ⟨t, hget⟩ h
  | error missing => exact ⟨missing, by simp [offence?, languageType, hget, name]⟩

theorem IsFresh.offence_of_dangling (hc : c.IsFresh m env e a) (htype : a.HasType env)
    (h : m.Dangles a) :
    c.offence? = some (.danglingReference e.className a.name a.reference m.name) := by
  obtain ⟨rfl, rfl, rfl, rfl, -⟩ := hc
  obtain ⟨t, hget⟩ := htype
  obtain ⟨hfk, hne, hno⟩ := h
  have hreference : c.subject.reference ≠ [] := hne
  have hnone : c.model.hasEntity c.subject.reference = false := Model.hasEntity_eq_false_iff.mpr hno
  simp [offence?, languageType, hget, name, hfk, hreference, hnone]

theorem IsFresh.no_offence (hc : c.IsFresh m env e a) (h : ¬ m.Offends env a) :
    c.offence? = none := by
  obtain ⟨rfl, rfl, rfl, rfl, -⟩ := hc
  obtain ⟨htype, hdangles⟩ := not_or.mp h
  obtain ⟨t, hget⟩ := not_not.mp htype
  simp only [offence?, languageType, hget, Bool.and_eq_true, Bool.not_eq_true']
  exact if_neg fun hfound => hdangles
    ⟨hfound.1.1, of_decide_eq_true hfound.1.2, Model.hasEntity_eq_false_iff.mp hfound.2⟩

end Context

/-! ## Bounds without a text -/

/-- Bounds on a length that there are no words for have no texts either. -/
theorem Constraints.HaveTexts.wordable {k : Constraints} (h : k.HaveTexts) : ¬ k.Unwordable := by
  rintro ⟨-, n, hn, hlong⟩
  have hshort : isWritable n = true :=
    isWritable_iff.mpr (hn.elim (h.minLength n) (h.maxLength n))
  rw [hlong] at hshort
  cases hshort

theorem Model.HaveTexts.exists_issues {m : Model} (h : m.HaveTexts)
    (environment : Option Environment) : ∃ issues, m.issues environment = .ok issues :=
  Model.exists_issues_iff.mpr fun e he a ha => (h e he a ha).wordable

/-! ## Lenient runs -/

namespace Session

variable {m : Model} {env : Environment} {p : Entity × Attribute}

/-- A failure is about this attribute, and its kind tells whether the type is missing or the entity
    that is referred to. -/
structure Blames (env : Environment) (p : Entity × Attribute) (failure : Failure) : Prop where
  configuration : ¬ p.2.HasType env → failure.kind = .configuration
  integrity : p.2.HasType env → failure.kind = .integrity
  entityNamed : failure.context.lookup "entity" = some p.1.className
  attributeNamed : failure.context.lookup "attribute" = some p.2.name

/-- How a lenient run of a model in an environment comes out. -/
structure LenientOutcome (m : Model) (env : Environment) (outcome : Except Failure Report) :
    Prop where
  /-- The run fails exactly if some attribute offends, or has a bound without a text. -/
  fails_iff : (∃ failure, outcome = .error failure) ↔
    ∃ p ∈ m.owned, ¬ p.2.constraints.HaveTexts ∨ m.Offends env p.2
  /-- A bound without a text comes before everything that the attributes are blamed for. -/
  oversized : ¬ m.HaveTexts → ∃ failure, outcome = .error failure ∧ failure.IsOversize
  /-- If all bounds have texts, the first attribute that offends decides about the failure. -/
  first : m.HaveTexts → ∀ before p after, m.owned = before ++ p :: after →
    (∀ q ∈ before, ¬ m.Offends env q.2) → m.Offends env p.2 →
      ∃ failure, outcome = .error failure ∧ Blames env p failure
  /-- Without one the run succeeds.  What the checks said is reported, and every reference that is
      not recorded is complained about. -/
  succeeds : m.HaveTexts → (∀ p ∈ m.owned, ¬ m.Offends env p.2) →
    ∃ issues report, m.issues (some env) = .ok issues ∧ outcome = .ok report ∧
      report.success = true ∧ report.errors = issues.errors.map (·.message) ∧
      report.warnings = issues.warnings.map (·.message) ∧
      report.complaints = m.owned.filterMap m.complaint?

/-- Nothing else keeps an attribute from a row. -/
theorem rowOf_of_no_offence (htexts : p.2.constraints.HaveTexts) (h : ¬ m.Offends env p.2) :
    (rowOf m env p).Succeeds :=
  (Context.opened_succeeds_iff.mpr htexts).bind fun _ hc =>
    row_of_no_offence ((Context.opened_eq_ok_iff.mp hc).no_offence h)

/-- An attribute that offends has no row, for a failure that is about it and tells what is
    missing. -/
theorem rowOf_of_offence (htexts : p.2.constraints.HaveTexts) (h : m.Offends env p.2) :
    ∃ failure, (rowOf m env p).outcome = .error failure ∧ Blames env p failure := by
  obtain ⟨c, hc⟩ := Context.opened_succeeds_iff.mpr htexts
  have hfresh : c.IsFresh m env p.1 p.2 := Context.opened_eq_ok_iff.mp hc
  have hrow : (rowOf m env p).outcome = (row c).outcome := by
    rw [rowOf, Traced.outcome_bind, hc]
    rfl
  by_cases htype : p.2.HasType env
  · have hdangles : m.Dangles p.2 := h.resolve_left (not_not.mpr htype)
    refine ⟨_, hrow.trans (row_of_offence (hfresh.offence_of_dangling htype hdangles)), ?_⟩
    exact ⟨fun hno => absurd htype hno, fun _ => rfl, rfl, rfl⟩
  · obtain ⟨missing, hmissing⟩ := hfresh.offence_of_no_type htype
    refine ⟨_, hrow.trans (row_of_offence hmissing), ?_⟩
    exact ⟨fun _ => rfl, fun hyes => absurd hyes htype, rfl, rfl⟩

/-- Where some attribute offends, there is a first one. -/
theorem exists_first_offence (h : ∃ p ∈ m.owned, m.Offends env p.2) :
    ∃ before p after, m.owned = before ++ p :: after ∧
      (∀ q ∈ before, ¬ m.Offends env q.2) ∧ m.Offends env p.2 := by
  -- that there is a language type is not decided, so the search is not meant to be run
  classical
  obtain ⟨p, hp, hoffends⟩ := h
  have hsome : (m.owned.find? fun q => decide (m.Offends env q.2)).isSome := by
    rw [List.find?_isSome]
    exact ⟨p, hp, by simpa using hoffends⟩
  obtain ⟨q, hq⟩ := Option.isSome_iff_exists.mp hsome
  obtain ⟨hoff, before, after, howned, hbefore⟩ := List.find?_eq_some_iff_append.mp hq
  exact ⟨before, q, after, howned, by simpa using hbefore, by simpa using hoff⟩

section Outcome

variable (ops : List Operation)

/-- Where all bounds have texts, the rows decide about a lenient run. -/
theorem lenient_of_haveTexts (h : m.HaveTexts) : ∃ issues, m.issues (some env) = .ok issues ∧
    ((start m env false).after ops).resolve.1.outcome =
      (Traced.each (rowOf m env) m.owned).outcome.map
        ((start m env false).fullReport issues) := by
  obtain ⟨issues, hissues⟩ := h.exists_issues (some env)
  refine ⟨issues, hissues, ?_⟩
  rw [outcome_resolve_after, hissues, ← runRows_of_haveTexts h]
  rfl

/-- Where some bound has none, a lenient run fails: the checks do, or the contexts cannot be
    opened. -/
theorem lenient_of_not_haveTexts (h : ¬ m.HaveTexts) :
    ∃ failure, ((start m env false).after ops).resolve.1.outcome = .error failure ∧
      failure.IsOversize := by
  rw [outcome_resolve_after]
  cases hissues : m.issues (some env) with
  | error failure =>
    have hchecks := Model.issues_eq_error_iff.mp hissues
    obtain ⟨rfl, -⟩ := Model.constraintFindings_eq_error_iff.mp hchecks
    exact ⟨_, rfl, .inl rfl⟩
  | ok issues =>
    obtain ⟨failure, hfails, hoversize⟩ := Model.openedContexts_fails_iff.mpr h
    refine ⟨failure, ?_, hoversize⟩
    have hrows : (runRows m env).outcome = .error failure := by
      rw [runRows, Traced.outcome_bind, hfails]
      rfl
    simp only [Except.bind, Bool.false_and, Bool.false_eq_true, if_false, hrows]
    rfl

/-- The first attribute that offends ends the run, for those before it have rows. -/
theorem lenient_first (htexts : m.HaveTexts) {before after : List (Entity × Attribute)}
    (howned : m.owned = before ++ p :: after) (hbefore : ∀ q ∈ before, ¬ m.Offends env q.2)
    (hp : m.Offends env p.2) :
    ∃ failure, ((start m env false).after ops).resolve.1.outcome = .error failure ∧
      Blames env p failure := by
  obtain ⟨issues, -, houtcome⟩ := lenient_of_haveTexts ops htexts
  have hbounds : ∀ q ∈ before ++ p :: after, q.2.constraints.HaveTexts := by
    rw [← howned]
    exact Model.haveTexts_iff.mp htexts
  obtain ⟨failure, hfailure, hblames⟩ := rowOf_of_offence (hbounds p (by simp)) hp
  have hrows : ∀ q ∈ before, (rowOf m env q).Succeeds := fun q hq =>
    rowOf_of_no_offence (hbounds q (List.mem_append_left _ hq)) (hbefore q hq)
  have hends := Traced.each_eq_error_iff.mpr ⟨before, p, after, howned, hrows, hfailure⟩
  refine ⟨failure, ?_, hblames⟩
  rw [houtcome, hends]
  rfl

/-- Without such an attribute there is a full report. -/
theorem lenient_succeeds (htexts : m.HaveTexts) (hnone : ∀ p ∈ m.owned, ¬ m.Offends env p.2) :
    ∃ issues found, m.issues (some env) = .ok issues ∧
      ((start m env false).after ops).resolve.1.outcome =
        .ok ((start m env false).fullReport issues found) := by
  obtain ⟨issues, hissues, houtcome⟩ := lenient_of_haveTexts ops htexts
  obtain ⟨found, hfound⟩ := Traced.each_succeeds fun p hp =>
    rowOf_of_no_offence (Model.haveTexts_iff.mp htexts p hp) (hnone p hp)
  refine ⟨issues, found, hissues, ?_⟩
  rw [houtcome, hfound]
  rfl

end Outcome

end Session

end Typewright
