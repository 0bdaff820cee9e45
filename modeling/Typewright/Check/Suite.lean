/-
  All checks of a model, in their order.

  Six checks look at the model alone.  The seventh asks a converter for the type of every attribute
  and so belongs to an environment; without one it is left out.  The sixth, that of the constraints,
  can fail, and then there are no issues at all.
-/
import Typewright.Check.Constraint
import Typewright.Check.Issue
import Typewright.Check.Linkage
import Typewright.Environment
import Typewright.Language.Request
import Typewright.Log.Record
import Typewright.Model.Writing

namespace Typewright

/-- What there is to say about the type of an attribute in a target language. -/
def Entity.languageFindings (converter : Converter) (e : Entity) (a : Attribute) : List Finding :=
  match converter.get a.typeRequest with
  | .ok _ => []
  | .error missing => [.noLanguageType e.className a.name missing]

namespace Model

/-- The findings about types in a target language. -/
def languageFindings (m : Model) (converter : Converter) : List Finding :=
  m.eachAttribute (Entity.languageFindings converter)

/-- The findings of all checks before that of the constraints, none of which fails. -/
def earlyFindings (m : Model) : List Finding :=
  m.entityNameFindings ++ m.attributeNameFindings ++ m.keyFindings ++ m.referenceFindings ++
    m.generationFindings

/-- The findings of the checks that look at the model alone. -/
def ownFindings (m : Model) : Except Failure (List Finding) :=
  m.constraintFindings.map (m.earlyFindings ++ ·)

/-- The findings of all checks. -/
def findings (m : Model) (environment : Option Environment) : Except Failure (List Finding) :=
  m.ownFindings.map
    (· ++ (environment.map fun env => m.languageFindings env.converter).getD [])

/-- The issues that all checks report. -/
def issues (m : Model) (environment : Option Environment) : Except Failure Issues :=
  (m.findings environment).map (List.map Finding.issue)

/-- The last report of the checks. -/
def noteVerdict (issues : Issues) : Traced Unit :=
  if issues.isValid then .note .info .checks ("Validation PASSED. " ++ issues.summary)
  else .note .error .checks ("Validation FAILED. " ++ issues.summary)

/-- The issues that all checks report, with the report of how the checks went. -/
def validate (m : Model) (environment : Option Environment) : Traced Issues := do
  .note .info .checks ("Starting full validation of " ++ m.summary)
  let issues ← .ofExcept (m.issues environment)
  noteVerdict issues
  pure issues

@[simp] theorem outcome_validate (m : Model) (environment : Option Environment) :
    (m.validate environment).outcome = m.issues environment := by
  have hverdict : ∀ issues : Issues, (noteVerdict issues).outcome = .ok () := by
    intro issues
    unfold noteVerdict
    split <;> rfl
  simp only [validate, Traced.outcome_bind, Traced.outcome_note, Traced.outcome_ofExcept, hverdict,
    Traced.outcome_pure, Except.bind]
  cases m.issues environment <;> rfl

end Model

end Typewright
