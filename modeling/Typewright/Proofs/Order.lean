/-
  The order of entities and attributes does not matter.

  A rearranged model has entities of the same class names, with the same attributes under the same
  names, so that every look-up finds the same in it, up to the order of what it finds.  A check of
  an attribute looks at the attribute, at the class name of its entity and at look-ups; a row does
  too.  So both say the same about an attribute wherever it stands (`findings_perm`,
  `outcomes_perm`).

  A run over a model fails exactly if some attribute has no row, which again does not depend on where
  the attribute stands.  Which failure it is does depend on it, for the first one ends the run.
-/
import Typewright.Proofs.Rearrangement
import Typewright.Proofs.Row

namespace Typewright

/-! ## Checks of one entity -/

namespace Entity

variable {e e' : Entity}

/-! What a check says about an attribute depends on the entity by its class name alone. -/

theorem nameFindings_congr (h : e'.className = e.className) (a : Attribute) :
    e'.nameFindings a = e.nameFindings a := by
  unfold nameFindings
  rw [h]

theorem generationFindings_congr (h : e'.className = e.className) (a : Attribute) :
    e'.generationFindings a = e.generationFindings a := by
  unfold generationFindings generatorFindings
  rw [h]

theorem constraintFindings_congr (h : e'.className = e.className) (a : Attribute) :
    e'.constraintFindings a = e.constraintFindings a := by
  unfold constraintFindings
  rw [h]

theorem languageFindings_congr (h : e'.className = e.className) (converter : Converter)
    (a : Attribute) : e'.languageFindings converter a = e.languageFindings converter a := by
  unfold languageFindings
  rw [h]

namespace Rearranges

variable (h : e.Rearranges e')

include h

/-- An attribute is found under its name wherever it stands. -/
theorem attribute?_eq (name : Text) : e'.attribute? name = e.attribute? name := by
  apply Option.ext
  intro a
  rw [e'.indexes_attribute?.found_iff, e.indexes_attribute?.found_iff, h.attributes.mem_iff]

theorem ownNameFindings_eq : e'.ownNameFindings = e.ownNameFindings := by
  unfold ownNameFindings
  rw [h.className]

theorem attributeNameFindings_perm : e.attributeNameFindings.Perm e'.attributeNameFindings := by
  unfold attributeNameFindings
  rw [h.className, funext (nameFindings_congr h.className), h.attributes.isEmpty_eq]
  exact (h.attributes.flatMap_right _).append_left _

theorem keyFindings_perm : e.keyFindings.Perm e'.keyFindings := by
  have hkeys : e.keyAttributes.Perm e'.keyAttributes := h.attributes.filter _
  unfold keyFindings
  rw [h.className, hkeys.isEmpty_eq]
  exact (hkeys.flatMap_right _).append_left _

end Rearranges

end Entity

/-! ## Checks of a model -/

namespace Model

variable {m m' : Model}

namespace Rearranges

variable (h : m.Rearranges m')

include h

/-- An entity is found under its class name wherever it stands. -/
theorem entity?_cases (className : Text) :
    (m.entity? className = none ∧ m'.entity? className = none) ∨
    ∃ e e', m.entity? className = some e ∧ m'.entity? className = some e' ∧ e.Rearranges e' := by
  cases he : m.entity? className with
  | none =>
    refine .inl ⟨rfl, entity?_eq_none_iff.mpr fun e' he' => ?_⟩
    obtain ⟨e, hmem, hrearranged⟩ := h.entities.exists_left he'
    rw [hrearranged.className]
    exact entity?_eq_none_iff.mp he e hmem
  | some e =>
    obtain ⟨hmem, rfl⟩ := entity?_eq_some_iff.mp he
    obtain ⟨e', hmem', hrearranged⟩ := h.entities.exists_right hmem
    exact .inr ⟨e, e', rfl, entity?_eq_some_iff.mpr ⟨hmem', hrearranged.className⟩, hrearranged⟩

theorem hasEntity_eq (className : Text) : m'.hasEntity className = m.hasEntity className := by
  unfold hasEntity
  obtain ⟨hnone, hnone'⟩ | ⟨e, e', he, he', -⟩ := h.entity?_cases className
  · rw [hnone, hnone']
  · rw [he, he']
    rfl

theorem partFindings_eq {e e' : Entity} (he : e.Rearranges e') (a : Attribute)
    (p : ForeignKeyPart) : m'.partFindings e' a p = m.partFindings e a p := by
  unfold partFindings
  rw [he.className]
  obtain ⟨hnone, hnone'⟩ | ⟨target, target', hsome, hsome', htarget⟩ := h.entity?_cases p.entity
  · rw [hnone, hnone']
  · rw [hsome, hsome']
    dsimp only
    rw [htarget.attribute?_eq]

theorem referenceFindingsOf_eq {e e' : Entity} (he : e.Rearranges e') (a : Attribute) :
    m'.referenceFindingsOf e' a = m.referenceFindingsOf e a := by
  unfold referenceFindingsOf
  rw [he.className, h.hasEntity_eq, funext (h.partFindings_eq he a)]

/-- A check that says the same about an attribute in an entity and in the rearranged one says the
    same about the models, in another order. -/
theorem eachAttribute_perm {check check' : Entity → Attribute → List Finding}
    (hcheck : ∀ e e', e.Rearranges e' → ∀ a, check' e' a = check e a) :
    (m.eachAttribute check).Perm (m'.eachAttribute check') := by
  refine h.entities.flatMap_perm fun e e' he => ?_
  rw [funext (hcheck e e' he)]
  exact he.attributes.flatMap_right _

theorem earlyFindings_perm : m.earlyFindings.Perm m'.earlyFindings := by
  have hentityNames : m.entityNameFindings.Perm m'.entityNameFindings :=
    h.entities.flatMap_perm fun _ _ he => he.ownNameFindings_eq ▸ .refl _
  have hattributeNames : m.attributeNameFindings.Perm m'.attributeNameFindings :=
    h.entities.flatMap_perm fun _ _ he => he.attributeNameFindings_perm
  have hkeys : m.keyFindings.Perm m'.keyFindings :=
    h.entities.flatMap_perm fun _ _ he => he.keyFindings_perm
  have hreferences : m.referenceFindings.Perm m'.referenceFindings :=
    h.eachAttribute_perm fun _ _ he => h.referenceFindingsOf_eq he
  have hgeneration : m.generationFindings.Perm m'.generationFindings :=
    h.eachAttribute_perm fun _ _ he => Entity.generationFindings_congr he.className
  exact (((hentityNames.append hattributeNames).append hkeys).append hreferences).append
    hgeneration

/-- Bounds that there are no words for are those of some attribute, wherever it stands. -/
theorem crossesUnwritably_eq : m'.crossesUnwritably = m.crossesUnwritably := by
  have hentities := h.entities.map_perm fun e e' he =>
    he.attributes.any_eq (f := fun a => a.constraints.crossUnwritably)
  unfold crossesUnwritably
  have hany := hentities.any_eq (f := id)
  rw [List.any_map, List.any_map] at hany
  exact hany.symm

/-- **The checks find the same in a rearranged model, in another order**, or they fail in both. -/
theorem issues_cases (environment : Option Environment) :
    (∃ failure, m.issues environment = .error failure ∧ m'.issues environment = .error failure) ∨
    ∃ is is', m.issues environment = .ok is ∧ m'.issues environment = .ok is' ∧ is.Perm is' ∧
      is'.isValid = is.isValid := by
  unfold issues findings ownFindings constraintFindings
  rw [h.crossesUnwritably_eq]
  cases m.crossesUnwritably with
  | true => exact .inl ⟨_, rfl, rfl⟩
  | false =>
    have hconstraints : (m.eachAttribute Entity.constraintFindings).Perm
        (m'.eachAttribute Entity.constraintFindings) :=
      h.eachAttribute_perm fun _ _ he => Entity.constraintFindings_congr he.className
    have hlanguage : ((environment.map fun env => m.languageFindings env.converter).getD []).Perm
        ((environment.map fun env => m'.languageFindings env.converter).getD []) := by
      cases environment with
      | none => exact .nil
      | some env =>
        exact h.eachAttribute_perm fun _ _ he =>
          Entity.languageFindings_congr he.className env.converter
    have hperm := ((h.earlyFindings_perm.append hconstraints).append hlanguage).map Finding.issue
    exact .inr ⟨_, _, rfl, rfl, hperm, (hperm.filter _).isEmpty_eq.symm⟩

end Rearranges

end Model

/-! ## Runs -/

/-- A report says the same as another one, in another order. -/
structure Report.Rearranges (report report' : Report) : Prop where
  success : report'.success = report.success
  modelName : report'.modelName = report.modelName
  language : report'.language = report.language
  database : report'.database = report.database
  counts : report'.counts = report.counts
  errors : report.errors.Perm report'.errors
  warnings : report.warnings.Perm report'.warnings
  complaints : report.complaints.Perm report'.complaints
  rows : report.rows.Perm report'.rows

namespace Session

variable {m m' : Model} {env : Environment} {found : List Row}

/-- An attribute has the same row, or has none for the same reason, wherever it stands. -/
theorem outcomes_perm (h : m.Rearranges m') (env : Environment) :
    (outcomes m env).Perm (outcomes m' env) := by
  unfold outcomes Model.owned
  rw [List.map_flatMap, List.map_flatMap]
  refine h.entities.flatMap_perm fun e e' he => ?_
  have hrow (a : Attribute) : (rowOf m' env (e', a)).outcome = (rowOf m env (e, a)).outcome :=
    outcome_rowOf_congr he.className h.name (h.hasEntity_eq a.reference)
  rw [List.map_map, List.map_map]
  show (e.attributes.map fun a => (rowOf m env (e, a)).outcome).Perm
    (e'.attributes.map fun a => (rowOf m' env (e', a)).outcome)
  rw [funext hrow]
  exact he.attributes.map _

/-- Attributes that all have rows have them in any order. -/
theorem rows_of_perm (h : (outcomes m env).Perm (outcomes m' env))
    (hrows : (runRows m env).outcome = .ok found) :
    ∃ found', (runRows m' env).outcome = .ok found' ∧ found.Perm found' := by
  obtain ⟨found', hfound', hperm⟩ :=
    List.perm_comp_forall₂ h.symm (runRows_eq_ok_iff_outcomes.mp hrows)
  exact ⟨found', runRows_eq_ok_iff_outcomes.mpr hfound', hperm.symm⟩

section Reports

variable {is is' : Issues} (h : m.Rearranges m') (hissues : is.Perm is')

include h hissues

theorem checkedReport_rearranges (env : Environment) (strict : Bool) :
    ((start m env strict).checkedReport is).Rearranges
      ((start m' env strict).checkedReport is') := by
  have hentities : m'.entities.length = m.entities.length := by
    have hnames := h.entities.map_perm fun _ _ he => he.className.symm
    simpa using hnames.length_eq.symm
  constructor
  case success => rfl
  case modelName => exact h.name
  case language => rfl
  case database => rfl
  case counts => simp only [checkedReport, start, hentities]
  case errors => exact (hissues.filter _).map _
  case warnings => exact (hissues.filter _).map _
  case complaints => exact .nil
  case rows => exact .nil

theorem fullReport_rearranges (env : Environment) (strict : Bool) {found' : List Row}
    (hfound : found.Perm found') :
    ((start m env strict).fullReport is found).Rearranges
      ((start m' env strict).fullReport is' found') := by
  have hchecked := checkedReport_rearranges h hissues env strict
  have hentities : (m'.entities.length : Int) = m.entities.length :=
    congrArg Counts.entities hchecked.counts
  constructor
  case success => rfl
  case counts =>
    simp only [fullReport, Counts.ofRows, start, hentities, hfound.length_eq, hfound.countP_eq]
  case complaints => exact hfound.filterMap _
  case rows => exact hfound
  case modelName => exact hchecked.modelName
  case language => rfl
  case database => rfl
  case errors => exact hchecked.errors
  case warnings => exact hchecked.warnings

end Reports

/-- **Runs over a model and over a rearranged one both fail, or report the same in another
    order.** -/
theorem resolve_rearranges (h : m.Rearranges m') (env : Environment) (strict : Bool)
    (ops ops' : List Operation) :
    (∃ failure failure',
      ((start m env strict).after ops).resolve.1.outcome = .error failure ∧
      ((start m' env strict).after ops').resolve.1.outcome = .error failure') ∨
    (∃ report report',
      ((start m env strict).after ops).resolve.1.outcome = .ok report ∧
      ((start m' env strict).after ops').resolve.1.outcome = .ok report' ∧
      report.Rearranges report') := by
  rw [outcome_resolve_after, outcome_resolve_after]
  obtain ⟨failure, hfails, hfails'⟩ | ⟨is, is', his, his', hperm, hvalid⟩ :=
    h.issues_cases (some env)
  · rw [hfails, hfails']
    exact .inl ⟨failure, failure, rfl, rfl⟩
  · rw [his, his']
    simp only [Except.bind, hvalid]
    cases strict && !is.isValid with
    | true => exact .inr ⟨_, _, rfl, rfl, checkedReport_rearranges h hperm env strict⟩
    | false =>
      have houtcomes := outcomes_perm h env
      cases hrows : (runRows m env).outcome with
      | ok found =>
        obtain ⟨found', hrows', hfound⟩ := rows_of_perm houtcomes hrows
        rw [hrows']
        exact .inr ⟨_, _, rfl, rfl, fullReport_rearranges h hperm env strict hfound⟩
      | error failure =>
        cases hrows' : (runRows m' env).outcome with
        | error failure' => exact .inl ⟨failure, failure', rfl, rfl⟩
        | ok found' =>
          -- with the rows of one model there would be those of the other
          obtain ⟨found, hfound, -⟩ := rows_of_perm houtcomes.symm hrows'
          rw [hrows] at hfound
          cases hfound

end Session

namespace Model

/-- The order of the entities of a model, and of their attributes, does not matter. -/
structure OrderIndependent (m : Model) : Prop where
  /-- If its data is accepted, so is the data in another order, for a model in another order. -/
  accepted : ∀ v v', Model.read v = .passed m → v.ModelRearranged v' →
    ∃ m', Model.read v' = .passed m' ∧ m.Rearranges m'
  /-- The checks fail alike, or report the same issues, in another order. -/
  issues : ∀ m', m.Rearranges m' → ∀ environment,
    (∃ failure, m.issues environment = .error failure ∧ m'.issues environment = .error failure) ∨
    ∃ is is', m.issues environment = .ok is ∧ m'.issues environment = .ok is' ∧ is.Perm is' ∧
      is'.isValid = is.isValid
  /-- Runs both fail, or they report the same in another order. -/
  runs : ∀ m', m.Rearranges m' → ∀ env strict ops ops',
    (∃ failure failure',
      ((Session.start m env strict).after ops).resolve.1.outcome = .error failure ∧
      ((Session.start m' env strict).after ops').resolve.1.outcome = .error failure') ∨
    (∃ report report',
      ((Session.start m env strict).after ops).resolve.1.outcome = .ok report ∧
      ((Session.start m' env strict).after ops').resolve.1.outcome = .ok report' ∧
      report.Rearranges report')

/-- **The order of entities and attributes does not matter.** -/
theorem order_independent (m : Model) : m.OrderIndependent where
  accepted _ _ hread hdata := read_of_rearranged hdata hread
  issues _ h environment := h.issues_cases environment
  runs _ h env strict ops ops' := Session.resolve_rearranges h env strict ops ops'

/-- The data of an entity without a table. -/
def entityData (className : String) (attributes : List Value) : Value :=
  .object [("class_name", .text className), ("attributes", .list attributes)]

def labelData : Value := .object [("name", .text "label"), ("neutral_type", .text "string")]

/-- The data of a foreign key that records no entity. -/
def batchData : Value :=
  .object [("name", .text "batch"), ("neutral_type", .text "int"), ("is_fk", .bool true),
    ("is_fk_simple", .bool true)]

def itemFirst : Value :=
  .object [("entities", .list [entityData "Item" [], entityData "Part" [labelData, batchData]])]

def partFirst : Value :=
  .object [("entities", .list [entityData "Part" [batchData, labelData], entityData "Item" []])]

theorem partFirst_rearranged : itemFirst.ModelRearranged partFirst := by
  have hitem : (entityData "Item" []).EntityRearranged (entityData "Item" []) :=
    ⟨_, _, rfl, rfl, .cons ⟨rfl, rfl⟩ (.cons ⟨rfl, ⟨[], [], rfl, rfl, [], .nil, .nil⟩⟩ .nil)⟩
  have hpart : (entityData "Part" [labelData, batchData]).EntityRearranged
      (entityData "Part" [batchData, labelData]) :=
    ⟨_, _, rfl, rfl, .cons ⟨rfl, rfl⟩ (.cons ⟨rfl, ⟨_, _, rfl, rfl,
      Reordered.eq_iff_perm.mpr (.swap _ _ _)⟩⟩ .nil)⟩
  exact ⟨_, _, rfl, rfl, .cons ⟨rfl, ⟨_, _, rfl, rfl, _, .swap _ _ _,
    .cons hpart (.cons hitem .nil)⟩⟩ .nil⟩

theorem order_independent_itemFirst : ∃ m m', Model.read itemFirst = .passed m ∧
    Model.read partFirst = .passed m' ∧ m.Rearranges m' ∧ m.classNames = ["Item", "Part"] ∧
    ∃ is is', m.issues (some .standard) = .ok is ∧ m'.issues (some .standard) = .ok is' ∧
      is.Perm is' := by
  have hread : ((Model.read itemFirst).toExcept.toOption.map fun m =>
      (m.classNames, m.crossesUnwritably)) = some ([("Item" : Text), "Part"], false) := by
    decide +kernel
  cases h : Model.read itemFirst with
  | failed faults =>
    rw [h] at hread
    cases hread
  | passed m =>
    rw [h] at hread
    obtain ⟨hnames, hwritable⟩ := Prod.mk.inj (Option.some.inj hread)
    obtain ⟨m', hm', hrearranges⟩ :=
      (order_independent m).accepted itemFirst partFirst h partFirst_rearranged
    refine ⟨m, m', rfl, hm', hrearranges, hnames, ?_⟩
    obtain ⟨failure, hfails, -⟩ | ⟨is, is', his, his', hperm, -⟩ :=
      (order_independent m).issues m' hrearranges (some .standard)
    · rw [issues_eq_error_iff, constraintFindings, hwritable] at hfails
      cases hfails
    · exact ⟨is, is', his, his', hperm⟩

end Model

end Typewright
