/-
  What a change of the environment changes in a report.

  A run reads its environment through two doors.  The converter gives the language type, which a
  snapshot shows in four fields, and which also decides how the reading accessor of a boolean
  begins.  The provider of SQL types gives one field, and looks at the dialect and at the override
  for one kind only, and at neither if the attribute states its type.  Nothing else of a row, and
  nothing that the checks find, depends on the environment.

  So two environments with the same converter have rows that differ in the SQL type at most
  (`row_of_converter`), and two that give the same SQL types have rows that differ in the language
  type and the accessor at most (`row_of_sqlType`).
-/
import Typewright.Proofs.Row
import Typewright.Proofs.SqlType

namespace Typewright

/-! ## Environments that agree -/

namespace Environment

/-- Two environments differ in the database and in the overrides at most. -/
structure SameLanguage (env env' : Environment) : Prop where
  language : env'.language = env.language
  typeCodes : env'.typeCodes = env.typeCodes
  injected : env'.injected = env.injected

/-- Two environments have the same database, and the same overrides of all kinds but these. -/
structure SameDatabaseOff (kinds : List NeutralType) (env env' : Environment) : Prop where
  dialect : env'.dialect = env.dialect
  overrides : ∀ type ∉ kinds, env'.overrides.lookup type = env.overrides.lookup type

variable {env env' : Environment}

theorem SameLanguage.converter_eq (h : env.SameLanguage env') : env'.converter = env.converter := by
  unfold converter
  rw [h.language, h.typeCodes, h.injected]

end Environment

/-- Two contexts are of the same attribute of the same model, and differ in the environment at
    most. -/
structure Context.SameAttribute (c c' : Context) : Prop where
  model : c'.model = c.model
  entity : c'.entity = c.entity
  subject : c'.subject = c.subject

/-- The snapshots show the same, but for the language type, the accessor and the SQL type. -/
theorem Context.SameAttribute.snapshotWith_eq {c c' : Context} (h : c.SameAttribute c')
    (language language' : LanguageType) (getter getter' : Text) :
    c'.snapshotWith language' getter' =
      { c.snapshotWith language getter with
        language := language', getter := getter', sqlType := c'.sqlType } := by
  simp only [Context.snapshotWith, Context.name, Context.setter, Context.nativeType, h.entity,
    h.subject]

theorem Environment.SameDatabaseOff.sqlType_eq {kinds : List NeutralType} {c c' : Context}
    (h : c.environment.SameDatabaseOff kinds c'.environment) (hsame : c.SameAttribute c')
    (hkind : c.subject.type ∉ kinds) : c'.sqlType = c.sqlType := by
  rw [Context.sqlType, Context.sqlType, Context.sqlSubject_congr hsame.subject]
  exact Sql.Provider.sqlType_congr h.dialect (h.overrides c.subject.type hkind)

/-! ## Rows that agree -/

/-- Two rows show the same under all names but these. -/
def Row.AgreeOff (names : List Key) (r r' : Row) : Prop :=
  List.Forall₂ (fun shown shown' => shown'.1 = shown.1 ∧ (shown.1 ∉ names → shown'.2 = shown.2))
    r.fields r'.fields

namespace Row

/-- A row with another SQL type. -/
def withSqlType (r : Row) (sqlType : Text) : Row :=
  { r with snapshot := { r.snapshot with sqlType } }

/-- A row with another language type and another reading accessor. -/
def withLanguage (r : Row) (language : LanguageType) (getter : Text) : Row :=
  { r with snapshot := { r.snapshot with language, getter } }

/-- The names under which a row shows the language type. -/
def typeNames : List Key := ["simple_type", "full_type", "wrapper_type", "is_primitive_type"]

theorem agreeOff_withSqlType (r : Row) (sqlType : Text) :
    r.AgreeOff ["sql_type"] (r.withSqlType sqlType) := by
  simp [AgreeOff, withSqlType, fields, Snapshot.fields, ReferenceOutcome.fields]

theorem agreeOff_withLanguage (r : Row) (language : LanguageType) (getter : Text) :
    r.AgreeOff ("getter" :: typeNames) (r.withLanguage language getter) := by
  simp [AgreeOff, withLanguage, typeNames, fields, Snapshot.fields, ReferenceOutcome.fields]

/-- If the accessor stays, only what is shown of the type changes. -/
theorem agreeOff_withLanguage_self (r : Row) (language : LanguageType) :
    r.AgreeOff typeNames (r.withLanguage language r.snapshot.getter) := by
  simp [AgreeOff, withLanguage, typeNames, fields, Snapshot.fields, ReferenceOutcome.fields]

end Row

namespace Session

variable {m : Model} {env env' : Environment} {p : Entity × Attribute} {c c' : Context}
variable {r r' : Row}

/-- Two rows of an attribute are those of two contexts of it. -/
theorem contexts_of_rows (h : (rowOf m env p).outcome = .ok r)
    (h' : (rowOf m env' p).outcome = .ok r') :
    ∃ c c', c.environment = env ∧ c'.environment = env' ∧ c.subject = p.2 ∧ c.SameAttribute c' ∧
      (row c).outcome = .ok r ∧ (row c').outcome = .ok r' := by
  obtain ⟨c, hfresh, hrow⟩ := rowOf_eq_ok_iff.mp h
  obtain ⟨c', hfresh', hrow'⟩ := rowOf_eq_ok_iff.mp h'
  exact ⟨c, c', hfresh.environment, hfresh'.environment, hfresh.subject,
    ⟨hfresh'.model.trans hfresh.model.symm, hfresh'.entity.trans hfresh.entity.symm,
      hfresh'.subject.trans hfresh.subject.symm⟩, hrow, hrow'⟩

/-- What a row says about a reference does not depend on the environment. -/
theorem reference_of_rows (hsame : c.SameAttribute c') (h : (row c).outcome = .ok r)
    (h' : (row c').outcome = .ok r') : r'.reference = r.reference := by
  have href := (row_eq_ok_iff.mp h).2
  have href' := (row_eq_ok_iff.mp h').2
  rw [outcome_referenceOutcome, Context.name, hsame.model, hsame.entity, hsame.subject] at href'
  rw [outcome_referenceOutcome, Context.name] at href
  exact Except.ok.inj (href'.symm.trans href)

theorem sqlType_of_row (h : (row c).outcome = .ok r) : r.snapshot.sqlType = c.sqlType := by
  obtain ⟨type, getter, hs⟩ := snapshot_eq_ok (row_eq_ok_iff.mp h).1
  rw [hs]
  rfl

/-- With the same converter a row changes in its SQL type at most. -/
theorem row_of_converter (hsame : c.SameAttribute c')
    (hconverter : c'.environment.converter = c.environment.converter)
    (h : (row c).outcome = .ok r) (h' : (row c').outcome = .ok r') :
    r' = r.withSqlType r'.snapshot.sqlType := by
  have hlanguage : c'.languageType = c.languageType :=
    Context.languageType_congr hconverter (congrArg _ hsame.entity) hsame.subject
  have hgetter : c'.getter = c.getter := Context.getter_congr hlanguage hsame.subject
  obtain ⟨type, getter, htype, hget, hs⟩ := snapshot_eq_ok_iff.mp (row_eq_ok_iff.mp h).1
  obtain ⟨type', getter', htype', hget', hs'⟩ := snapshot_eq_ok_iff.mp (row_eq_ok_iff.mp h').1
  obtain rfl : type' = type := Except.ok.inj (htype'.symm.trans (hlanguage.trans htype))
  obtain rfl : getter' = getter := Except.ok.inj (hget'.symm.trans (hgetter.trans hget))
  have href := reference_of_rows hsame h h'
  rw [hsame.snapshotWith_eq type' type' getter' getter', ← hs] at hs'
  obtain ⟨snapshot, reference⟩ := r
  obtain ⟨snapshot', reference'⟩ := r'
  cases hs
  cases hs'
  cases href
  rfl

/-- With the same SQL type a row changes in its language type and its accessor at most, and in the
    accessor only if it is that of a boolean. -/
theorem row_of_sqlType (hsame : c.SameAttribute c') (hsql : c'.sqlType = c.sqlType)
    (h : (row c).outcome = .ok r) (h' : (row c').outcome = .ok r') :
    r' = r.withLanguage r'.snapshot.language r'.snapshot.getter ∧
      (c.subject.type ≠ .boolean → r'.snapshot.getter = r.snapshot.getter) := by
  obtain ⟨type, getter, -, hget, hs⟩ := snapshot_eq_ok_iff.mp (row_eq_ok_iff.mp h).1
  obtain ⟨type', getter', -, hget', hs'⟩ := snapshot_eq_ok_iff.mp (row_eq_ok_iff.mp h').1
  have href := reference_of_rows hsame h h'
  rw [hsame.snapshotWith_eq type type' getter getter', hsql] at hs'
  obtain ⟨snapshot, reference⟩ := r
  obtain ⟨snapshot', reference'⟩ := r'
  cases hs
  cases hs'
  cases href
  refine ⟨rfl, fun hboolean => ?_⟩
  rw [Context.getter, if_neg hboolean] at hget
  rw [Context.getter, hsame.subject, if_neg hboolean, Context.name, hsame.subject] at hget'
  exact Except.ok.inj (hget'.symm.trans hget)

end Session

/-! ## Reports -/

/-- Two lists of rows are both about the attributes of a model, in order, and the rows of every
    attribute stand in a relation. -/
structure Paired (m : Model) (R : Attribute → Row → Row → Prop) (rows rows' : List Row) : Prop where
  length : rows.length = m.owned.length
  length' : rows'.length = m.owned.length
  each : ∀ (i : Nat) p r r', m.owned[i]? = some p → rows[i]? = some r → rows'[i]? = some r' →
    R p.2 r r'

/-- What the environments of two successful runs of a model change in the reports. -/
structure EnvironmentEffects (m : Model) (env env' : Environment) (report report' : Report) :
    Prop where
  /-- Another database and other overrides change SQL types and nothing else. -/
  database : env.SameLanguage env' →
    Paired m (fun _ r r' => r.AgreeOff ["sql_type"] r') report.rows report'.rows ∧
      report'.errors = report.errors ∧ report'.warnings = report.warnings ∧
      report'.complaints = report.complaints ∧ report'.counts = report.counts
  /-- Another override of one kind changes the SQL types of the attributes of this kind that state
      none, and no others. -/
  override : ∀ kind, env.SameDatabaseOff [kind] env' →
    Paired m (fun a r r' => r'.snapshot.sqlType ≠ r.snapshot.sqlType →
        a.type = kind ∧ Text.isBlank (Context.orEmpty a.column.sqlType) = true)
      report.rows report'.rows
  /-- Another language or converter changes what is shown of the language type, and the reading
      accessors of booleans. -/
  language : env.SameDatabaseOff [] env' →
    Paired m (fun a r r' => r.AgreeOff ("getter" :: Row.typeNames) r' ∧
        (a.type ≠ .boolean → r.AgreeOff Row.typeNames r'))
      report.rows report'.rows

namespace Session

variable {m : Model} {env env' : Environment} {found found' : List Row}

section Rows

variable (hrows : List.Forall₂ (fun p r => (rowOf m env p).outcome = .ok r)
  m.owned found)
variable (hrows' : List.Forall₂ (fun p r => (rowOf m env' p).outcome = .ok r)
  m.owned found')

include hrows hrows'

theorem paired_of_rows {R : Attribute → Row → Row → Prop}
    (hR : ∀ c c' r r', c.environment = env → c'.environment = env' → c.SameAttribute c' →
      (row c).outcome = .ok r → (row c').outcome = .ok r' → R c.subject r r') :
    Paired m R found found' where
  length := hrows.length_eq.symm
  length' := hrows'.length_eq.symm
  each _ p r r' hp hr hr' := by
    obtain ⟨c, c', henv, henv', hsubject, hsame, hrow, hrow'⟩ :=
      contexts_of_rows (rel_of_getElem? hrows hp hr) (rel_of_getElem? hrows' hp hr')
    exact hsubject ▸ hR c c' r r' henv henv' hsame hrow hrow'

/-- With the same converter the rows are counted alike, and give the same complaints. -/
theorem counts_of_converter (hconverter : env'.converter = env.converter) (entities : Nat) :
    found'.filterMap (·.reference.complaint?) = found.filterMap (·.reference.complaint?) ∧
      Counts.ofRows entities found' = Counts.ofRows entities found := by
  have hpairs : List.Forall₂ (fun r r' : Row => ∃ sqlType, r' = r.withSqlType sqlType)
      found found' := by
    refine (forall₂_of_common hrows hrows').imp ?_
    rintro r r' ⟨p, h, h'⟩
    obtain ⟨c, c', rfl, rfl, -, hsame, hrow, hrow'⟩ := contexts_of_rows h h'
    exact ⟨_, row_of_converter hsame hconverter hrow hrow'⟩
  have hcount (q : Row → Bool) (hq : ∀ r sqlType, q (r.withSqlType sqlType) = q r) :
      found'.countP q = found.countP q := by
    refine (countP_eq_of_forall₂ hpairs ?_).symm
    rintro r _ ⟨sqlType, rfl⟩
    exact (hq r sqlType).symm
  constructor
  · refine (filterMap_eq_of_forall₂ hpairs ?_).symm
    rintro r _ ⟨sqlType, rfl⟩
    rfl
  · unfold Counts.ofRows
    rw [hpairs.length_eq, hcount (·.snapshot.isKey) fun _ _ => rfl,
      hcount (·.reference != .notAsked) fun _ _ => rfl,
      hcount (·.snapshot.generated) fun _ _ => rfl]

end Rows

/-- **The environment changes in a report only what it is there for.** -/
theorem environment_effects (m : Model) (env env' : Environment) (strict strict' : Bool)
    (ops ops' : List Operation) (report report' : Report)
    (h : ((start m env strict).after ops).resolve.1.outcome = .ok report)
    (h' : ((start m env' strict').after ops').resolve.1.outcome = .ok report')
    (hsuccess : report.success = true) (hsuccess' : report'.success = true) :
    EnvironmentEffects m env env' report report' := by
  obtain ⟨issues, found, hissues, hrows, rfl⟩ := rows_of_success h hsuccess
  obtain ⟨issues', found', hissues', hrows', rfl⟩ := rows_of_success h' hsuccess'
  constructor
  case database =>
    intro hsame
    have hconverter : env'.converter = env.converter := hsame.converter_eq
    have hsameIssues : issues' = issues := by
      have hsame : m.issues (some env') = m.issues (some env) := by
        simp only [Model.issues, Model.findings, Option.map_some, hconverter]
      exact Except.ok.inj (hissues'.symm.trans (hsame.trans hissues))
    obtain ⟨hcomplaints, hcounts⟩ :=
      counts_of_converter hrows hrows' hconverter m.entities.length
    refine ⟨paired_of_rows hrows hrows' fun c c' r r' henv henv' hsame hr hr' => ?_, ?_, ?_,
      hcomplaints, hcounts⟩
    · rw [row_of_converter hsame (by rw [henv, henv', hconverter]) hr hr']
      exact r.agreeOff_withSqlType _
    · exact congrArg (fun is : Issues => is.errors.map (·.message)) hsameIssues
    · exact congrArg (fun is : Issues => is.warnings.map (·.message)) hsameIssues
  case override =>
    intro kind hsame
    refine paired_of_rows hrows hrows' fun c c' r r' henv henv' hattribute hr hr' hdiffers => ?_
    rw [← henv, ← henv'] at hsame
    rw [sqlType_of_row hr, sqlType_of_row hr'] at hdiffers
    constructor
    · by_contra hkind
      exact hdiffers (hsame.sqlType_eq hattribute (by simpa using hkind))
    · by_contra hstated
      rw [Context.sqlType, Context.sqlType, Context.sqlSubject_congr hattribute.subject] at hdiffers
      exact hdiffers (Sql.Provider.sqlType_of_stated (Bool.eq_false_iff.mpr hstated))
  case language =>
    intro hsame
    refine paired_of_rows hrows hrows' fun c c' r r' henv henv' hattribute hr hr' => ?_
    rw [← henv, ← henv'] at hsame
    obtain ⟨heq, hgetter⟩ :=
      row_of_sqlType hattribute (hsame.sqlType_eq hattribute (by simp)) hr hr'
    constructor
    · rw [heq]
      exact r.agreeOff_withLanguage _ _
    · intro hkind
      rw [heq, hgetter hkind]
      exact r.agreeOff_withLanguage_self _

end Session

/-- An environment that differs from the standard one in the database and in the type of texts. -/
def Environment.mysqlText : Environment :=
  { Environment.standard with
    dialect := some .mysql
    overrides := [(.string, "TEXT")]
    overrides_ok := by decide }

namespace Session

theorem environment_effects_shop : ∃ report report',
    ((start Model.shop .standard true).after [.allContexts]).resolve.1.outcome = .ok report ∧
    ((start Model.shop .mysqlText false).after []).resolve.1.outcome = .ok report' ∧
    report.success = true ∧ report'.success = true ∧
    report.rows.map (·.snapshot.sqlType) = ["INTEGER", "VARCHAR"] ∧
    report'.rows.map (·.snapshot.sqlType) = ["INT", "TEXT"] ∧
    Environment.standard.SameLanguage .mysqlText ∧
    EnvironmentEffects Model.shop .standard .mysqlText report report' :=
  ⟨_, _, rfl, rfl, rfl, rfl, by decide +kernel, by decide +kernel, ⟨rfl, rfl, rfl⟩,
    environment_effects Model.shop .standard .mysqlText true false [.allContexts] [] _ _ rfl rfl
      rfl rfl⟩

end Session

end Typewright
