/-
  Resolving a model does not depend on what was done with its session before.

  What a run finds out about a context does not depend on the names that the context shows, and
  apart from these the contexts that a run looks at are always the fresh ones of the model.  Where
  they cannot all be opened, the run fails as it would have failed at once.  So the outcome of a run
  is a function of the model, the environment and the strictness (`outcome_resolve`), whatever calls
  have gone before.
-/
import Typewright.Proofs.Store

namespace Typewright

namespace Session

variable {s t : Session}

/-! ## Rows -/

/-- What a run finds out about contexts does not depend on the names that they show. -/
theorem rows_map_asOpened (cs : List Context) : rows (cs.map Context.asOpened) = rows cs :=
  Traced.each_map _ _ _

/-- The contexts at some places are, as they were opened, those that the store has there. -/
theorem map_asOpened_contextsAt {places : List ContextPlace} {cs : List Context}
    (h : places.map (s.baseline[·]?) = cs.map some) :
    (s.contextsAt places).map Context.asOpened = cs := by
  have hbaseline : (fun place => (s.contextAt? place).map Context.asOpened) =
      (s.baseline[·]?) := funext fun place => (s.baseline_getElem? place).symm
  rw [contextsAt, List.map_filterMap, hbaseline]
  calc places.filterMap (s.baseline[·]?)
      = (places.map (s.baseline[·]?)).filterMap id := by rw [List.filterMap_map]; rfl
    _ = (cs.map some).filterMap id := by rw [h]
    _ = cs := by rw [List.filterMap_map]; exact List.filterMap_some

/-- The rows of all attributes of a model, from their fresh contexts. -/
def runRows (m : Model) (env : Environment) : Traced (List Row) := do
  rows (← m.openedContexts env)

/-- The places listed for all entities of a model are those of its contexts, in order. -/
theorem Coherent.map_flatMap_placesOf (h : Coherent s) (ho : ∀ e ∈ s.model.entities, s.IsOpen e) :
    ∃ cs, (s.model.openedContexts s.environment).outcome = .ok cs ∧
      (s.model.entities.flatMap s.placesOf).map (s.baseline[·]?) = cs.map some := by
  have hopens : (Traced.each (Context.openedOf s.model s.environment)
      s.model.entities).Succeeds := by
    refine Traced.each_succeeds fun e he => ?_
    obtain ⟨cs, hcs, -⟩ := h.map_placesOf he (ho e he)
    exact ⟨cs, hcs⟩
  obtain ⟨portions, hportions⟩ := hopens
  refine ⟨portions.flatten, by rw [Model.outcome_openedContexts, hportions]; rfl, ?_⟩
  have hpairs := (List.forall₂_and_left _ _).mpr
    ⟨fun e he => (⟨he, ho e he⟩ : e ∈ s.model.entities ∧ s.IsOpen e),
      Traced.each_eq_ok_iff.mp hportions⟩
  have hplaces : s.model.entities.map (fun e => (s.placesOf e).map (s.baseline[·]?)) =
      portions.map (List.map some) := by
    refine map_eq_of_forall₂ hpairs ?_
    rintro e portion ⟨⟨he, hopen⟩, hportion⟩
    obtain ⟨cs, hcs, hmap⟩ := h.map_placesOf he hopen
    rw [hportion] at hcs
    cases hcs
    exact hmap
  rw [List.map_flatMap, List.flatMap_def, hplaces, List.map_flatten]

/-- A run looks at the fresh contexts of the model, whatever names they show by now. -/
theorem Coherent.rows_allContexts (h : Coherent s) :
    (s.allContexts.1.outcome.bind fun places =>
      (rows (s.allContexts.2.contextsAt places)).outcome) =
      (runRows s.model s.environment).outcome := by
  rw [runRows, Traced.outcome_bind]
  cases hopened : (s.model.openedContexts s.environment).outcome with
  | error failure =>
    rw [h.allContexts_of_error hopened]
    rfl
  | ok cs =>
    have htexts : s.model.HaveTexts := Model.openedContexts_succeeds_iff.mp ⟨cs, hopened⟩
    obtain ⟨houtcome, hopen⟩ := allContexts_eq htexts
    have hnext := s.allContexts_opensTo
    obtain ⟨hmodel, henv, -, -, -⟩ := hnext.extends
    obtain ⟨cs', hcs', hplaces⟩ := (h.opensTo hnext).map_flatMap_placesOf (by rwa [hmodel])
    rw [hmodel, henv, hopened] at hcs'
    cases hcs'
    rw [hmodel] at hplaces
    rw [houtcome]
    show (rows (s.allContexts.2.contextsAt _)).outcome = (rows cs).outcome
    rw [← rows_map_asOpened, map_asOpened_contextsAt hplaces]

/-! ## Runs -/

/-- A run fails if the checks do.  A strict session gives a report of the checks alone if there are
    errors; otherwise the fresh contexts of the model decide about the outcome. -/
theorem Coherent.outcome_resolve (h : Coherent s) :
    s.resolve.1.outcome = (s.model.issues (some s.environment)).bind fun issues =>
      if s.strict && !issues.isValid then .ok (s.checkedReport issues)
      else (runRows s.model s.environment).outcome.map (s.fullReport issues) := by
  have hvalidate : s.validate.outcome = s.model.issues (some s.environment) :=
    s.model.outcome_validate _
  cases hissues : s.model.issues (some s.environment) with
  | error failure =>
    have hskips : s.skips = true := by rw [skips, hvalidate, hissues]
    rw [resolve, if_pos hskips, Traced.outcome_bind, hvalidate, hissues]
    rfl
  | ok issues =>
    have hskips : s.skips = (s.strict && !issues.isValid) := by rw [skips, hvalidate, hissues]
    rw [resolve, hskips]
    cases hstrict : s.strict && !issues.isValid with
    | true =>
      simp only [if_true, Traced.outcome_bind, hvalidate, hissues, Except.bind, noteSkipped,
        Traced.outcome_note, Traced.outcome_pure, hstrict]
    | false =>
      simp only [Bool.false_eq_true, if_false, Traced.outcome_bind, hvalidate, hissues,
        Except.bind, hstrict, ← h.rows_allContexts]
      cases s.allContexts.1.outcome with
      | error failure => rfl
      | ok places => cases (rows (s.allContexts.2.contextsAt places)).outcome <;> rfl

/-- Sessions over the same inputs come to the same outcome. -/
theorem Coherent.outcome_resolve_eq (hs : Coherent s) (ht : Coherent t)
    (hmodel : t.model = s.model) (henv : t.environment = s.environment)
    (hstrict : t.strict = s.strict) : t.resolve.1.outcome = s.resolve.1.outcome := by
  have hchecked : t.checkedReport = s.checkedReport := by
    funext issues
    rw [checkedReport, checkedReport, hmodel, henv]
  have hfull : t.fullReport = s.fullReport := by
    funext issues rows
    rw [fullReport, fullReport, hchecked, hmodel]
  rw [hs.outcome_resolve, ht.outcome_resolve, hchecked, hfull, hmodel, henv, hstrict]

/-- What one session extends to comes to the same outcome. -/
theorem Extends.outcome_resolve_eq (h : Extends s t) (hs : Coherent s) (ht : Coherent t) :
    t.resolve.1.outcome = s.resolve.1.outcome :=
  hs.outcome_resolve_eq ht h.model h.environment h.strict

/-- Whatever was done with a session before, the checks, the strictness and the rows of the
    attributes decide about a run. -/
theorem outcome_resolve_after (m : Model) (env : Environment) (strict : Bool)
    (ops : List Operation) :
    ((start m env strict).after ops).resolve.1.outcome =
      (m.issues (some env)).bind fun issues =>
        if strict && !issues.isValid then .ok ((start m env strict).checkedReport issues)
        else (runRows m env).outcome.map ((start m env strict).fullReport issues) := by
  have hstart := coherent_start m env strict
  rw [(extends_after _ ops).outcome_resolve_eq hstart (coherent_after m env strict ops),
    hstart.outcome_resolve]
  rfl

/-- **Resolving does not depend on the history of the session.**  After any operations a run fails
    as it would have failed at once, or gives the same report; so it does when it is repeated, or
    after a context was told to show full names, which changes no snapshot. -/
theorem resolve_history_independent (m : Model) (env : Environment) (strict : Bool)
    (ops : List Operation) :
    ((start m env strict).after ops).resolve.1.outcome =
        (start m env strict).resolve.1.outcome ∧
      ((start m env strict).after ops).resolve.2.resolve.1.outcome =
        ((start m env strict).after ops).resolve.1.outcome ∧
      (∀ place, (((start m env strict).after ops).useFullNames place).resolve.1.outcome =
        ((start m env strict).after ops).resolve.1.outcome) ∧
      ∀ place other,
        ((((start m env strict).after ops).useFullNames place).contextAt? other).map
            Context.snapshot =
          (((start m env strict).after ops).contextAt? other).map Context.snapshot := by
  have hnow := coherent_after m env strict ops
  refine ⟨?_, ?_, fun place => ?_, fun place other => ?_⟩
  · exact (extends_after _ ops).outcome_resolve_eq (coherent_start m env strict) hnow
  · have hagain := ((start m env strict).after ops).resolve_opensTo
    exact hagain.extends.outcome_resolve_eq hnow (hnow.opensTo hagain)
  · exact (extends_useFullNames _ place).outcome_resolve_eq hnow (hnow.useFullNames place)
  · by_cases h : other = place
    · subst h
      rw [contextAt?_useFullNames, Option.map_map]
      rfl
    · rw [contextAt?_useFullNames_of_ne h]

end Session

end Typewright
