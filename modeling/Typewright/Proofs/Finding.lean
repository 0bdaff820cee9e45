/-
  What is found at an attribute, and what is reported of it.

  A check that looks at one attribute after another names the entity and the attribute in what it
  finds (`NamesSubject`).  Both names stand for one thing each, so that what is reported under the
  names of an attribute was found at this attribute (`Model.reported_iff`).

  Of all checks one can fail, that of the constraints, and then there are no issues
  (`Model.findings_eq_ok_iff`, `issues_eq_error_iff`).
-/
import Typewright.Check.Suite
import Typewright.Proofs.Lookup

namespace Typewright

/-! ## Findings under a condition -/

@[simp] theorem mem_findingIf {condition : Bool} {f g : Finding} :
    g ∈ findingIf condition f ↔ condition = true ∧ g = f := by
  cases condition <;> simp [findingIf]

@[simp] theorem findingIf_false (f : Finding) : findingIf false f = [] := rfl

theorem filter_findingIf (condition : Bool) (f : Finding) (p : Finding → Bool) :
    (findingIf condition f).filter p = findingIf (condition && p f) f := by
  cases condition <;> cases h : p f <;> simp [findingIf, h]

/-! ## Findings about an attribute -/

/-- One of these findings has this code and is about this attribute. -/
def Finding.Reported (findings : List Finding) (code : String) (e : Entity) (a : Attribute) :
    Prop :=
  ∃ f ∈ findings, f.code = code ∧ f.entity = e.className ∧ f.name? = some a.name

/-- A check names the attribute that it looks at. -/
def NamesSubject (check : Entity → Attribute → List Finding) : Prop :=
  ∀ e a, ∀ f ∈ check e a, f.entity = e.className ∧ f.name? = some a.name

namespace Entity

theorem namesSubject_nameFindings : NamesSubject nameFindings := by
  intro e a f hf
  unfold nameFindings at hf
  split at hf
  · obtain rfl := List.mem_singleton.mp hf
    exact ⟨rfl, rfl⟩
  · obtain ⟨-, rfl⟩ := mem_findingIf.mp hf
    exact ⟨rfl, rfl⟩

theorem namesSubject_generatorFindings (kind : GeneratorKind) :
    NamesSubject fun e a => e.generatorFindings a kind := by
  intro e a f hf
  simp only [generatorFindings] at hf
  split at hf
  · obtain rfl := List.mem_singleton.mp hf
    exact ⟨rfl, rfl⟩
  · obtain ⟨-, rfl⟩ := mem_findingIf.mp hf
    exact ⟨rfl, rfl⟩

theorem namesSubject_generationFindings : NamesSubject generationFindings := by
  intro e a f hf
  rcases List.mem_append.mp hf with hgenerator | hignored
  · split at hgenerator
    · exact namesSubject_generatorFindings .sequence e a f hgenerator
    · exact namesSubject_generatorFindings .table e a f hgenerator
    · cases hgenerator
  · obtain ⟨-, rfl⟩ := mem_findingIf.mp hignored
    exact ⟨rfl, rfl⟩

theorem namesSubject_constraintFindings : NamesSubject constraintFindings := by
  intro e a f hf
  simp only [constraintFindings, List.mem_append, Option.mem_toList, Option.map_eq_some_iff,
    mem_findingIf] at hf
  rcases hf with ((((⟨_, _, rfl⟩ | ⟨_, _, rfl⟩) | ⟨_, rfl⟩) | ⟨_, rfl⟩) | ⟨_, rfl⟩) | ⟨_, rfl⟩ <;>
    exact ⟨rfl, rfl⟩

theorem namesSubject_languageFindings (converter : Converter) :
    NamesSubject (languageFindings converter) := by
  intro e a f hf
  unfold languageFindings at hf
  split at hf
  · cases hf
  · obtain rfl := List.mem_singleton.mp hf
    exact ⟨rfl, rfl⟩

end Entity

namespace Model

variable {m : Model} {e : Entity} {a : Attribute}

/-- A check that looks at every attribute reports what it finds at one of them. -/
theorem mem_eachAttribute (check : Entity → Attribute → List Finding) {f : Finding}
    (he : e ∈ m.entities) (ha : a ∈ e.attributes) (hf : f ∈ check e a) :
    f ∈ m.eachAttribute check :=
  List.mem_flatMap.mpr ⟨e, he, List.mem_flatMap.mpr ⟨a, ha, hf⟩⟩

/-- Since names are distinct, what is reported for an attribute was found at this attribute. -/
theorem reported_iff {check : Entity → Attribute → List Finding} (hcheck : NamesSubject check)
    {code : String} (he : e ∈ m.entities) (ha : a ∈ e.attributes) :
    Finding.Reported (m.eachAttribute check) code e a ↔ ∃ f ∈ check e a, f.code = code := by
  constructor
  · rintro ⟨f, hf, hcode, hentity, hname⟩
    obtain ⟨e', he', hrest⟩ := List.mem_flatMap.mp hf
    obtain ⟨a', ha', hfound⟩ := List.mem_flatMap.mp hrest
    obtain ⟨hentity', hname'⟩ := hcheck e' a' f hfound
    -- a finding holds names only, and each of the two names stands for one thing
    obtain rfl := eq_of_className_eq he' he (hentity'.symm.trans hentity)
    obtain rfl := List.inj_on_of_nodup_map e'.distinct ha' ha
      (Option.some.inj (hname'.symm.trans hname))
    exact ⟨f, hfound, hcode⟩
  · rintro ⟨f, hf, hcode⟩
    exact ⟨f, mem_eachAttribute _ he ha hf, hcode, hcheck e a f hf⟩

/-! ## All findings -/

variable {environment : Option Environment} {findings : List Finding} {failure : Failure}

/-- The findings are those of all checks, if that of the constraints has any. -/
theorem findings_eq_ok_iff : m.findings environment = .ok findings ↔
    ∃ own, m.constraintFindings = .ok own ∧
      m.earlyFindings ++ own ++
        (environment.map fun env => m.languageFindings env.converter).getD [] = findings := by
  simp only [Model.findings, ownFindings, map_eq_ok_iff]
  constructor
  · rintro ⟨_, ⟨own, hown, rfl⟩, rfl⟩
    exact ⟨own, hown, rfl⟩
  · rintro ⟨own, hown, rfl⟩
    exact ⟨_, ⟨own, hown, rfl⟩, rfl⟩

/-- Nothing else keeps the issues from being reported. -/
theorem issues_eq_error_iff :
    m.issues environment = .error failure ↔ m.constraintFindings = .error failure := by
  rw [issues, map_eq_error_iff, Model.findings, map_eq_error_iff, ownFindings, map_eq_error_iff]

end Model

end Typewright
